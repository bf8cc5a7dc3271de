import RustPressAuth.DeadTokens
import RustPressAuth.SessionLaw

/-!
# Logging out of a chain of refresh tokens

A logout revokes the one row its token names. The tokens the given one was rotated from
are revoked already, but a token obtained from it by a refresh is not: where somebody has
rotated the token before, the session goes on. In a sequential run in which every token
obtained from the given one is revoked or expired at each logout, none of the chain is
accepted after it.
-/

namespace RustPressAuth

open Atomic Program Machine Relational

variable {svc : AuthService} {faults : Bool} {w w' first : World} {tr : Trace} {x y : String}
  {past older : List CallRecord} {c : CallRecord}

/-- The call was given the first refresh token and returned the second. -/
def Rotates (c : CallRecord) (x y : String) : Prop :=
  (∃ ipAddress userAgent, c.request = .refreshTokens x ipAddress userAgent) ∧ issuedRefresh? c = some y

/-- The second refresh token was obtained from the first by successive refreshes. -/
def Descends (past : List CallRecord) : String → String → Prop :=
  Relation.ReflTransGen fun x y => ∃ c ∈ past, Rotates c x y

/-- The row of the token is revoked or expired at `now`. -/
def Ended (svc : AuthService) (db : Db) (now : Instant) (x : String) : Prop :=
  ∃ row ∈ db.refreshTokens, svc.tokenId? x = some row.id ∧ row.isValid now = false

/-- When a successful logout ends, the tokens obtained before from the given one are revoked or expired. -/
def LogsOutNewest (svc : AuthService) (older : List CallRecord) (c : CallRecord) : Prop :=
  ∀ x response, c.request = .logout x → c.result = .ok response →
    ∀ y, y ≠ x → Descends older x y → Ended svc c.before.db c.after.now y

/-- After a successful logout with an issued token no refresh token of its chain is accepted. -/
def LogoutsEndChains (past : List CallRecord) : Prop :=
  ∀ newer c older x response, past = newer ++ c :: older → c.request = .logout x → c.result = .ok response →
    x ∈ issuedRefreshTokens older → ∀ y, Descends past x y ∨ Descends past y x →
      ∀ d ∈ newer, ∀ ipAddress userAgent, d.request = .refreshTokens y ipAddress userAgent →
      ∃ e, d.result = .error e

/-- A token that has ended has ended later on. -/
theorem Ended.later {db db' : Db} {now now' : Instant} (h : Ended svc db now x) (hevolves : db.Evolves db')
    (hle : now ≤ now') : Ended svc db' now' x := by
  obtain ⟨row, hrow, htid, hinvalid⟩ := h
  obtain ⟨row', hrow', hlater⟩ := hevolves.refreshTokens row hrow
  exact ⟨row', hrow', htid.trans (congrArg some hlater.id.symm), hlater.invalid hle hinvalid⟩

/-- The table has a row for the token. -/
def Stored (svc : AuthService) (db : Db) (x : String) : Prop :=
  ∃ row ∈ db.refreshTokens, svc.tokenId? x = some row.id

/-- A token that has a row has one later on. -/
theorem Stored.later {db db' : Db} (h : Stored svc db x) (hevolves : db.Evolves db') : Stored svc db' x := by
  obtain ⟨row, hrow, htid⟩ := h
  obtain ⟨row', hrow', hlater⟩ := hevolves.refreshTokens row hrow
  exact ⟨row', hrow', htid.trans (congrArg some hlater.id.symm)⟩

/-- A token whose row is being revoked has ended. -/
theorem ended_of_endSession {db : Db} {row : RefreshToken} {now now' : Instant} (hrow : row ∈ db.refreshTokens)
    (htid : svc.tokenId? x = some row.id) : Ended svc (db.endSession row.id now) now' x := by
  obtain ⟨row', hrow', hid, hrevoked⟩ := (revokes_endSession db row.id now).revoked hrow (decide_eq_true rfl)
  refine ⟨row', hrow', htid.trans (congrArg some hid.symm), ?_⟩
  rw [← Bool.not_eq_true, RefreshToken.isValid_iff, hrevoked]
  simp

/-- A refresh with a token that has ended is refused. -/
theorem refresh_refused {res : Except Failure TokenResponse} {ipAddress userAgent : Option String}
    (h : (svc.alone faults).Exec (svc.refreshTokens x ipAddress userAgent) w tr res w')
    (hended : Ended svc w.db w.now x) : ∃ e, res = .error e := by
  rcases refreshTokens_ending h with houtcome | ⟨-, hfailure⟩
  · cases houtcome with
    | done hdecodes hfound ht₁ hvalid =>
      obtain ⟨row, hrow, htid, hinvalid⟩ := hended
      obtain ⟨hmem, hid, -⟩ := Db.refreshRow?_some hfound
      rw [hdecodes.tokenId?_eq] at htid
      obtain rfl := Table.eq_of_pk hmem hrow (hid.trans (Option.some.inj htid))
      have hle : w.now ≤ _ := Int.ofNat_le.mpr ht₁.1
      rw [(RefreshToken.Later.refl _).invalid hle hinvalid] at hvalid
      cases hvalid
    | _ => exact ⟨_, rfl⟩
  · cases hfailure with
    | _ => exact ⟨_, rfl⟩

/-- A token that is stored has a row, under an id that was not in the table. -/
theorem AuthService.Stores.row {userId : Uuid} {db db' : Db} (hjwt : svc.prims.JwtRoundTrip)
    (h : svc.Stores userId db x db') : ∃ row ∈ db'.refreshTokens, svc.tokenId? x = some row.id ∧
      ∀ old ∈ db.refreshTokens, old.id ≠ row.id := by
  obtain ⟨claims, hclaims, -, hadds⟩ := h.adds hjwt
  obtain ⟨row, hrow, -, hid⟩ := (hadds.holds_iff userId claims.tid).mpr (Or.inr ⟨rfl, rfl⟩)
  refine ⟨row, hrow, ?_, ?_⟩
  · rw [AuthService.tokenId?, hclaims, hid]
    rfl
  · intro old hold hsame
    exact hadds.fresh old.userId ⟨old, hold, rfl, hsame.trans hid⟩

/-- A token that is returned has a row, under an id that was not in the table. -/
theorem stored_of_issued {request : Request} {res : Except Failure Response} (hjwt : svc.prims.JwtRoundTrip)
    (hexec : (svc.alone faults).Exec (svc.serve request) w tr res w')
    (hissued : issuedRefresh? ⟨request, w, tr, res, w'⟩ = some x) :
    ∃ row ∈ w'.db.refreshTokens, svc.tokenId? x = some row.id ∧ ∀ old ∈ w.db.refreshTokens, old.id ≠ row.id := by
  cases request with
  | login r ipAddress userAgent =>
    obtain ⟨result, hlogin, rfl⟩ := alone_answer hexec
    cases login_outcome hlogin with
    | done _ _ _ _ _ _ _ hstores =>
      obtain rfl := Option.some.inj hissued
      exact (hstores.row hjwt :)
    | _ => cases hissued
  | refreshTokens y ipAddress userAgent =>
    obtain ⟨result, hrefresh, rfl⟩ := alone_answer hexec
    rcases refreshTokens_ending hrefresh with houtcome | ⟨-, hfailure⟩
    · cases houtcome with
      | done _ _ _ _ _ _ _ hstores hdb =>
        obtain rfl := Option.some.inj hissued
        obtain ⟨row, hrow, htid, hfresh⟩ := hstores.row hjwt
        obtain ⟨row', hrow', hlater, -⟩ := (revokes_endSession _ _ _).kept hrow
        rw [hdb]
        exact ⟨row', hrow', htid.trans (congrArg some hlater.id.symm), fun old hold => hlater.id ▸ hfresh old hold⟩
      | _ => cases hissued
    · cases hfailure with
      | _ => cases hissued
  | _ =>
    obtain ⟨result, -, rfl⟩ := alone_answer hexec
    cases result <;> cases hissued

/-- Only a call that succeeds returns a token. -/
theorem ok_of_issued (h : issuedRefresh? c = some x) : ∃ response, c.result = .ok response := by
  unfold issuedRefresh? at h
  split at h
  · exact ⟨_, by assumption⟩
  · exact ⟨_, by assumption⟩
  · cases h

/-- A token that is rotated was in the table, and has ended. -/
theorem ended_of_rotates (hexec : (svc.alone faults).Exec (svc.serve c.request) c.before c.trace c.result c.after)
    (h : Rotates c x y) :
    Stored svc c.before.db x ∧ Ended svc c.after.db c.after.now x := by
  obtain ⟨⟨ipAddress, userAgent, hrequest⟩, hissued⟩ := h
  obtain ⟨response, hresult⟩ := ok_of_issued hissued
  rw [hrequest, hresult] at hexec
  obtain ⟨result, hrefresh, hok⟩ := alone_answer hexec
  rcases refreshTokens_ending hrefresh with houtcome | ⟨-, hfailure⟩
  · cases houtcome with
    | done hdecodes hfound _ _ _ _ _ hstores hdb =>
      obtain ⟨hmem, hid, -⟩ := Db.refreshRow?_some hfound
      have htid := hdecodes.tokenId?_eq
      rw [← hid] at htid hdb
      obtain ⟨tokenId, issuedAt, now, bytes, ip, ua, -, hinsert⟩ := hstores
      have hkept := (Table.mem_insert? (Db.insertRefreshToken?_spec hinsert).2.1).mpr (Or.inl hmem)
      rw [hdb]
      exact ⟨⟨_, hmem, htid⟩, ended_of_endSession hkept htid⟩
    | _ => cases hok
  · cases hfailure with
    | _ => cases hok

/-- A token that was given to a successful logout has ended. -/
theorem ended_of_logout {response : Response}
    (hexec : (svc.alone faults).Exec (svc.serve (.logout x)) w tr (.ok response) w')
    (hstored : Stored svc w.db x) : Ended svc w'.db w'.now x := by
  obtain ⟨row, hrow, htid⟩ := hstored
  obtain ⟨result, hlogout, hok⟩ := alone_answer hexec
  cases logout_outcome hlogout with
  | refused _ => cases hok
  | done hdecodes hdb =>
    rw [hdecodes.tokenId?_eq] at htid
    rw [hdb, Option.some.inj htid]
    exact ended_of_endSession hrow (hdecodes.tokenId?_eq.trans htid)

/-- The tokens that were issued have rows. -/
theorem stored_of_serial (hjwt : svc.prims.JwtRoundTrip) (hrun : (svc.alone faults).Serial svc.serve first past w)
    (hx : x ∈ issuedRefreshTokens past) : Stored svc w.db x := by
  obtain ⟨c, hc, hissued⟩ := List.mem_filterMap.mp hx
  have hafter := (hrun.monotone (svc.alone_monotone faults) hc).db
  have hexec := hrun.exec hc
  obtain ⟨request, before, tr, result, after⟩ := c
  obtain ⟨row, hrow, htid, -⟩ := stored_of_issued hjwt hexec hissued
  exact Stored.later ⟨row, hrow, htid⟩ hafter

section Chain

variable {newer : List CallRecord} {response : Response} (hjwt : svc.prims.JwtRoundTrip)
  (hrun : (svc.alone faults).Serial svc.serve first (newer ++ c :: older) w) (hrequest : c.request = .logout x)
include hrun hrequest

/-- A token that has ended with the logout is not rotated after it. -/
theorem older_of_rotates {d : CallRecord} (hd : d ∈ newer ++ c :: older) {y z : String} (hrotates : Rotates d y z)
    (hended : Ended svc c.after.db c.after.now y) : d ∈ older := by
  rcases List.mem_append.mp hd with hnewer | hrest
  · have hprecedes := hrun.after_le (svc.alone_monotone faults) hnewer
    obtain ⟨⟨ipAddress, userAgent, hrefresh⟩, hissued⟩ := hrotates
    obtain ⟨response, hresult⟩ := ok_of_issued hissued
    have hexec := hrun.exec hd
    rw [hrefresh, hresult] at hexec
    obtain ⟨result, hcall, hok⟩ := alone_answer hexec
    obtain ⟨e, rfl⟩ := refresh_refused hcall (hended.later hprecedes.db hprecedes.now_le)
    cases hok
  · rcases List.mem_cons.mp hrest with rfl | hold
    · obtain ⟨⟨ipAddress, userAgent, hrefresh⟩, -⟩ := hrotates
      cases hrequest.symm.trans hrefresh
    · exact hold

/-- The tokens obtained from the given one were obtained before the logout, and have ended with it. -/
theorem descendant_ended (hrule : LogsOutNewest svc older c) (hresult : c.result = .ok response)
    (hended : Ended svc c.after.db c.after.now x) (h : Descends (newer ++ c :: older) x y) :
    Descends older x y ∧ Ended svc c.after.db c.after.now y := by
  induction h with
  | refl => exact ⟨.refl, hended⟩
  | @tail y z _ hstep ih =>
    obtain ⟨d, hd, hrotates⟩ := hstep
    obtain ⟨hdescends, hendedBefore⟩ := ih
    have hold : Descends older x z :=
      hdescends.tail ⟨d, older_of_rotates hrun hrequest hd hrotates hendedBefore, hrotates⟩
    refine ⟨hold, ?_⟩
    by_cases hself : z = x
    · rw [hself]
      exact hended
    · have hmem : c ∈ newer ++ c :: older := List.mem_append_right _ List.mem_cons_self
      exact (hrule x response hrequest hresult z hself hold).later (alone_precedes (hrun.exec hmem)).db
        (Int.le_refl _)

include hjwt

/-- The tokens the given one was rotated from have ended with the logout. -/
theorem ancestor_ended (hstored : Stored svc c.before.db x) (hended : Ended svc c.after.db c.after.now x)
    (h : Descends (newer ++ c :: older) y x) : Stored svc c.before.db y ∧ Ended svc c.after.db c.after.now y := by
  have hmem : c ∈ newer ++ c :: older := List.mem_append_right _ List.mem_cons_self
  have hcall := alone_precedes (hrun.exec hmem)
  have hpast := (hrun.call_of_suffix (List.suffix_append newer (c :: older))).1
  induction h using Relation.ReflTransGen.head_induction_on with
  | refl => exact ⟨hstored, hended⟩
  | @head y z hstep _ ih =>
    obtain ⟨d, hd, hrotates⟩ := hstep
    have hexec := hrun.exec hd
    rcases List.mem_append.mp hd with hnewer | hrest
    · exfalso
      obtain ⟨request, before, tr, result, after⟩ := d
      obtain ⟨row, -, htid, hfresh⟩ := stored_of_issued hjwt hexec hrotates.2
      have hprecedes := hrun.after_le (svc.alone_monotone faults) hnewer
      obtain ⟨old, hold, hold'⟩ := (ih.1.later hcall.db).later hprecedes.db
      exact hfresh old hold (Option.some.inj (hold'.symm.trans htid))
    · rcases List.mem_cons.mp hrest with rfl | hold
      · obtain ⟨⟨ipAddress, userAgent, hrefresh⟩, -⟩ := hrotates
        cases hrequest.symm.trans hrefresh
      · obtain ⟨hbefore, hrotated⟩ := ended_of_rotates hexec hrotates
        have hprecedes := hpast.monotone (svc.alone_monotone faults) hold
        refine ⟨(hbefore.later (alone_precedes hexec).db).later hprecedes.db, ?_⟩
        exact (hrotated.later hprecedes.db hprecedes.now_le).later hcall.db hcall.now_le

end Chain

/-- In every sequential run in which at each logout the tokens obtained from the given one are revoked or
expired, no refresh token of the chain is accepted after it. -/
theorem logout_ends_chain (svc : AuthService) (hjwt : svc.prims.JwtRoundTrip) (faults : Bool) (first : World)
    (past : List CallRecord) (w : World) (hrun : (svc.alone faults).Serial svc.serve first past w)
    (hrule : ∀ newer c older, past = newer ++ c :: older → LogsOutNewest svc older c) : LogoutsEndChains past := by
  intro newer c older x response heq hrequest hresult hissued y hchain d hd ipAddress userAgent hrefresh
  subst heq
  obtain ⟨hpast, hexec⟩ := hrun.call_of_suffix (List.suffix_append newer (c :: older))
  have hstored := stored_of_serial hjwt hpast hissued
  rw [hrequest, hresult] at hexec
  have hended := ended_of_logout hexec hstored
  have hendedChain : Ended svc c.after.db c.after.now y := by
    rcases hchain with hdescendant | hancestor
    · exact (descendant_ended hrun hrequest (hrule newer c older rfl) hresult hended hdescendant).2
    · exact (ancestor_ended hjwt hrun hrequest hstored hended hancestor).2
  have hprecedes := hrun.after_le (svc.alone_monotone faults) hd
  have hcall := hrun.exec (List.mem_append_left _ hd)
  rw [hrefresh] at hcall
  obtain ⟨result, hlater, hres⟩ := alone_answer hcall
  obtain ⟨e, rfl⟩ := refresh_refused hlater (hendedChain.later hprecedes.db hprecedes.now_le)
  exact ⟨e, hres⟩

section Runs

open Reference

/-- The token a refresh of the token of the login is given. -/
def refreshedToken : String := refreshToken 1 3 0

/-- A user logs in. The token of the login and the one it is rotated to are given to logouts and refreshes. -/
def logoutRequests : ℕ → Request
  | 0 => .register ⟨"a@b.c", "Abcdefg1", "Abcdefg1", "A"⟩
  | 1 => .login ⟨"a@b.c", "Abcdefg1"⟩ none none
  | 2 => .logout loginToken
  | 3 => .refreshTokens loginToken none none
  | 4 => .logout refreshedToken
  | _ => .refreshTokens refreshedToken none none

/-- The same calls, with the tokens already cut and decoded. -/
def logoutCalls : ℕ → AuthM Response
  | 0 => service.serve (.register ⟨"a@b.c", "Abcdefg1", "Abcdefg1", "A"⟩)
  | 1 => service.serve (.login ⟨"a@b.c", "Abcdefg1"⟩ none none)
  | 2 => answer (fun _ => .unit) (logoutIssued 1 2 0)
  | 3 => answer .tokens (refreshIssued 1 2 0 none none)
  | 4 => answer (fun _ => .unit) (logoutIssued 1 3 0)
  | _ => answer .tokens (refreshIssued 1 3 0 none none)

/-- The requests are served by these calls. -/
theorem serve_logoutRequests : (fun i => service.serve (logoutRequests i)) = logoutCalls := by
  funext i
  match i with
  | 0 => rfl
  | 1 => rfl
  | 2 => simp only [logoutRequests, loginToken, AuthService.serve, logout_refreshToken, logoutCalls]
  | 3 => simp only [logoutRequests, loginToken, AuthService.serve, refreshTokens_refreshToken, logoutCalls]
  | 4 => simp only [logoutRequests, refreshedToken, AuthService.serve, logout_refreshToken, logoutCalls]
  | i + 5 => simp only [logoutRequests, refreshedToken, AuthService.serve, refreshTokens_refreshToken, logoutCalls]

/-- A record of one of these calls, by its number. -/
abbrev Numbered := Machine.Record ℕ Action Action.Reply Failure Response World

/-- A test that calls with these numbers pass is passed by a sequential run. -/
theorem exists_numbered (test : List Numbered → World → Bool) {calls : List (ℕ × List Choice)}
    (h : ((service.executor.serial (AuthService.admits false) logoutCalls calls world).any
      fun run => test run.1 run.2) = true) :
    ∃ past w, service.smooth.Serial service.serve world (past.map (Record.relabel logoutRequests)) w ∧
      test past w = true := by
  obtain ⟨past, w, hrun, htest⟩ := Executor.exists_serial service.alone_perform test h
  rw [← serve_logoutRequests] at hrun
  exact ⟨past, w, hrun.relabel, htest⟩

/-- From a token that no refresh was given, only itself descends. -/
theorem eq_of_descends
    (hnone : ∀ c ∈ older, ∀ ipAddress userAgent, c.request ≠ .refreshTokens x ipAddress userAgent)
    (h : Descends older x y) : y = x := by
  rcases Relation.ReflTransGen.cases_head h with hsame | ⟨z, hstep, -⟩
  · exact hsame.symm
  · obtain ⟨c, hc, ⟨ipAddress, userAgent, hrequest⟩, -⟩ := hstep
    exact absurd hrequest (hnone c hc ipAddress userAgent)

/-- A logout whose token no refresh was given before is one with the newest token. -/
theorem logsOutNewest_of_unused (hrequest : c.request = .logout x)
    (hnone : ∀ b ∈ older, ∀ ipAddress userAgent, b.request ≠ .refreshTokens x ipAddress userAgent) :
    LogsOutNewest svc older c := by
  intro x' response hrequest' hresult y hne hdescends
  obtain rfl : x = x' := Request.logout.inj (hrequest.symm.trans hrequest')
  exact absurd (eq_of_descends hnone hdescends) hne

/-- The token of a login is rotated, and the new token is given to a logout that succeeds. Then the token of
the login is presented. -/
def logsOut (calls : List Numbered) (_ : World) : Bool :=
  match calls with
  | [e, d, c, b, a] => (e.request, d.request, c.request, b.request, a.request) = (3, 4, 3, 1, 0) ∧
      d.result.isOk = true ∧
      issuedRefresh? (c.relabel logoutRequests) = some refreshedToken
  | _ => false

/-- The token of a login is rotated, the user logs out with the new one, and no token of the chain is accepted
any more. -/
theorem logout_ends_chain_login : ∃ past w, service.smooth.Serial service.serve world past w ∧
    Descends past loginToken refreshedToken ∧
    (∃ c ∈ past, c.request = .logout refreshedToken ∧ c.result.isOk = true) ∧
    LogoutsEndChains past := by
  have hpasses : ((service.executor.serial (AuthService.admits false) logoutCalls
      [(3, List.replicate 14 (choice 5)), (4, List.replicate 2 (choice 4)), (3, List.replicate 14 (choice 3)),
        (1, List.replicate 12 (choice 2)), (0, List.replicate 3 (choice 1))] world).any
      fun run => logsOut run.1 run.2) = true := by decide +kernel
  obtain ⟨calls, w, hrun, htest⟩ := exists_numbered logsOut hpasses
  unfold logsOut at htest
  split at htest
  · rename_i e d c b a
    obtain ⟨hnumbers, hok, hreturned⟩ := of_decide_eq_true htest
    simp only [Prod.mk.injEq] at hnumbers
    obtain ⟨he, hd, hc, hb, ha⟩ := hnumbers
    have hlogsOut : (d.relabel logoutRequests).request = .logout refreshedToken := by
      simp [Record.relabel, hd, logoutRequests]
    have hrotates : Rotates (c.relabel logoutRequests) loginToken refreshedToken :=
      ⟨⟨none, none, by simp [Record.relabel, hc, logoutRequests]⟩, hreturned⟩
    have hother : loginToken ≠ refreshedToken := by decide +kernel
    have hnumber (f : CallRecord) (hf : f ∈ [c, b, a].map (Record.relabel logoutRequests)) :
        f.request = logoutRequests 3 ∨ f.request = logoutRequests 1 ∨ f.request = logoutRequests 0 := by
      simp only [List.map_cons, List.map_nil, List.mem_cons, List.not_mem_nil, or_false] at hf
      rcases hf with rfl | rfl | rfl
      · exact Or.inl (congrArg logoutRequests hc)
      · exact Or.inr (Or.inl (congrArg logoutRequests hb))
      · exact Or.inr (Or.inr (congrArg logoutRequests ha))
    refine ⟨_, w, hrun, .single ⟨_, by simp, hrotates⟩, ⟨d.relabel logoutRequests, by simp, hlogsOut, hok⟩, ?_⟩
    apply logout_ends_chain service jwtRoundTrip false world _ w hrun
    intro newer f older hpast
    match newer, hpast with
    | [], hpast =>
      obtain ⟨rfl, -⟩ := List.cons.inj hpast
      intro x response hrequest
      simp [Record.relabel, he, logoutRequests] at hrequest
    | [_], hpast =>
      obtain ⟨-, hpast⟩ := List.cons.inj hpast
      obtain ⟨rfl, rfl⟩ := List.cons.inj hpast
      apply logsOutNewest_of_unused hlogsOut
      intro g hg ipAddress userAgent hrequest
      rcases hnumber g hg with hgiven | hgiven | hgiven
      · exact hother (Request.refreshTokens.inj (hgiven.symm.trans hrequest)).1
      · cases hgiven.symm.trans hrequest
      · cases hgiven.symm.trans hrequest
    | _ :: _ :: newer, hpast =>
      obtain ⟨-, hpast⟩ := List.cons.inj hpast
      obtain ⟨-, hpast⟩ := List.cons.inj hpast
      intro x response hrequest
      rcases hnumber f (hpast ▸ List.mem_append_right _ List.mem_cons_self) with hgiven | hgiven | hgiven
      · cases hgiven.symm.trans hrequest
      · cases hgiven.symm.trans hrequest
      · cases hgiven.symm.trans hrequest
  · cases htest

/-- The token of a login is rotated, given to a logout that succeeds, and its successor is accepted. -/
def goesOn (calls : List Numbered) (_ : World) : Bool :=
  match calls with
  | [e, d, c, b, _] => (e.request, d.request, c.request) = (5, 2, 3) ∧ d.result.isOk = true ∧ e.result.isOk = true ∧
      issuedRefresh? (b.relabel logoutRequests) = some loginToken ∧
      issuedRefresh? (c.relabel logoutRequests) = some refreshedToken
  | _ => false

/-- A token that was obtained from the given one is accepted after the logout. -/
theorem session_survives_logout : ∃ past w, service.smooth.Serial service.serve world past w ∧
    ¬ LogoutsEndChains past := by
  have hpasses : ((service.executor.serial (AuthService.admits false) logoutCalls
      [(5, List.replicate 14 (choice 5)), (2, List.replicate 2 (choice 4)), (3, List.replicate 14 (choice 3)),
        (1, List.replicate 12 (choice 2)), (0, List.replicate 3 (choice 1))] world).any
      fun run => goesOn run.1 run.2) = true := by decide +kernel
  obtain ⟨calls, w, hrun, htest⟩ := exists_numbered goesOn hpasses
  refine ⟨_, w, hrun, fun hends => ?_⟩
  unfold goesOn at htest
  split at htest
  · rename_i e d c b a
    obtain ⟨hnumbers, hlogout, haccepted, hissued, hreturned⟩ := of_decide_eq_true htest
    simp only [Prod.mk.injEq] at hnumbers
    obtain ⟨he, hd, hc⟩ := hnumbers
    have hgiven : (d.relabel logoutRequests).request = .logout loginToken := by
      simp [Record.relabel, hd, logoutRequests]
    have hrefresh : (e.relabel logoutRequests).request = .refreshTokens refreshedToken none none := by
      simp [Record.relabel, he, logoutRequests]
    have hrotates : Rotates (c.relabel logoutRequests) loginToken refreshedToken :=
      ⟨⟨none, none, by simp [Record.relabel, hc, logoutRequests]⟩, hreturned⟩
    have hdescends : Descends ([e, d, c, b, a].map (Record.relabel logoutRequests)) loginToken refreshedToken :=
      .single ⟨_, by simp, hrotates⟩
    obtain ⟨response, hok⟩ : ∃ response, d.result = .ok response := by
      cases hresult : d.result with
      | error failure => rw [hresult] at hlogout; cases hlogout
      | ok response => exact ⟨response, rfl⟩
    have hknown : loginToken ∈ issuedRefreshTokens ([c, b, a].map (Record.relabel logoutRequests)) :=
      List.mem_filterMap.mpr ⟨b.relabel logoutRequests, by simp, hissued⟩
    obtain ⟨failure, herror⟩ := hends [e.relabel logoutRequests] (d.relabel logoutRequests)
      ([c, b, a].map (Record.relabel logoutRequests)) loginToken response rfl hgiven hok hknown refreshedToken
      (Or.inl hdescends) (e.relabel logoutRequests) List.mem_cons_self none none hrefresh
    have hresult : e.result = .error failure := herror
    rw [hresult] at haccepted
    cases haccepted
  · cases htest

end Runs

end RustPressAuth
