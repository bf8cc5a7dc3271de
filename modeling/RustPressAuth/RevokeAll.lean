import RustPressAuth.Rotation

/-!
# Revoking all sessions under concurrency

A password change, a password reset and the detection of a reused refresh token revoke
every refresh token of the user by one statement. A login or a rotation that has passed
its check before that statement and inserts its row after it leaves a session behind.
No such session survives in every run in which no call is between its check and its
insert when the statement is executed.
-/

namespace RustPressAuth

open Atomic Program Relational

/-- A password was found to match, or the row of a presented refresh token was found. -/
def isCheck : Entry → Bool
  | ⟨.verifyPassword _ _, some true⟩ => true
  | ⟨.sql (.selectRefreshToken _ _), .ok (some _)⟩ => true
  | _ => false

/-- The user and the id of the refresh-token row that was inserted, if one was. -/
def issuedRow? : Entry → Option (Uuid × Uuid)
  | ⟨.sql (.insertRefreshToken id userId ..), .ok _⟩ => some (userId, id)
  | _ => none

/-- All refresh tokens of `u` were revoked. -/
def revokesAll (u : Uuid) : Entry → Bool
  | ⟨.sql (.revokeAllTokens v), .ok _⟩ => v == u
  | _ => false

/-- The event ends all sessions of `u`: a refresh revoked them, or a reset or a change that
returned `Ok` did. -/
def EndsSessions (req : ℕ → Request) (u : Uuid) (d : System) (e : LogEvent) : Prop :=
  revokesAll u e.entry = true ∧
    ((∃ x ipAddress userAgent, req e.caller = .refreshTokens x ipAddress userAgent) ∨
      (d.calls e.caller).succeeded = true)

/-- The call is a change of the password of `u`, or a reset that found a token of `u`. -/
def ChangesPasswordOf (svc : AuthService) (u : Uuid) (req : Request) (h : Trace) : Prop :=
  (∃ r, req = .changePassword u r) ∨
    ∃ r tokenId, req = .resetPassword r ∧
      executed (.selectValidToken .passwordReset (svc.hashToken r.token)) (some (tokenId, u)) ∈ h

/-- Every event that ends all sessions of `u` really ends those that rest on an earlier check,
and every successful change or reset of the password of `u` is such an event. -/
structure SessionsEnded (svc : AuthService) (req : ℕ → Request) (u : Uuid) (d : System) : Prop where
  ends : ∀ i, (d.calls i).succeeded = true → ChangesPasswordOf svc u (req i) (ownHistory i d.log) →
    ∃ e ∈ d.log, e.caller = i ∧ EndsSessions req u d e
  revoked : ∀ e older, (e :: older) <:+ d.log → EndsSessions req u d e →
    (∀ f ∈ older, (d.calls f.caller).Ended) → ∀ f ∈ d.log, ∀ id, issuedRow? f.entry = some (u, id) →
    (∃ g ∈ older, g.caller = f.caller ∧ isCheck g.entry = true) →
    ∀ row ∈ d.shared.db.refreshTokens, row.id = id → row.isRevoked = true

/-- The call has passed the check on which a new session for `u` rests. -/
def passedCheck (svc : AuthService) (u : Uuid) (req : Request) (h : Trace) : Bool :=
  match req, h.reverse with
  | .login .., ⟨.sql (.selectUserByEmail _), .ok (some user)⟩ :: _ :: ⟨.verifyPassword _ _, some true⟩ :: _ =>
    user.id == u
  | .refreshTokens x _ _, _ :: ⟨.sql (.selectRefreshToken _ _), .ok (some row)⟩ :: _ =>
    (svc.claims? x).map RefreshTokenClaims.sub == some u && !row.isRevoked
  | _, _ => false

/-- When all sessions of `u` are revoked, no call is between its check for `u` and the insert of
its row. -/
def sessionsApart (svc : AuthService) (req : ℕ → Request) (u : Uuid) :
    Rule ℕ Action Action.Reply Failure Response World :=
  .ofEvent fun c e => revokesAll u e.entry = true → ∀ g ∈ c.log,
    passedCheck svc u (req g.caller) (ownHistory g.caller c.log) = true →
    (ownHistory g.caller c.log).any (fun x => (issuedRow? x).isSome) = false → (c.calls g.caller).Ended

variable {svc : AuthService} {req : Request} {user : User} {h : Trace}

/-- What a call did before it drew a refresh token begins with its authorization. -/
theorem RefreshDrawn.authorized {accessToken : String} {id : Uuid} {now : Instant} {bytes : Vector UInt8 32}
    (hdrawn : RefreshDrawn svc req user accessToken id now bytes h) :
    ∃ h₀, Authorized svc req user h₀ ∧ h₀ <:+ h := by
  obtain ⟨h', ⟨now', jti, h₀, hauth, rfl⟩, rfl⟩ := hdrawn
  exact ⟨h₀, hauth, ⟨[_, _, _, _, _, _], rfl⟩⟩

/-- An authorized call has inserted nothing yet. -/
theorem Authorized.inserts_nothing (hauth : Authorized svc req user h) :
    h.any (fun x => (issuedRow? x).isSome) = false := by
  cases hauth with
  | login hverified =>
    rw [hverified.trace]
    rfl
  | refresh hchecked =>
    obtain ⟨checkedAt, h', hfound, -, rfl⟩ := hchecked.steps
    obtain ⟨tokenString, jwt, t, -, -, rfl⟩ := hfound.decoded
    rfl

/-- A call inserts at most one row: before the insert it has inserted none. -/
theorem RefreshDrawn.inserts_nothing {accessToken : String} {id : Uuid} {now : Instant}
    {bytes : Vector UInt8 32} (hdrawn : RefreshDrawn svc req user accessToken id now bytes h) :
    h.any (fun x => (issuedRow? x).isSome) = false := by
  obtain ⟨h', ⟨now', jti, h₀, hauth, rfl⟩, rfl⟩ := hdrawn
  simpa [issuedRow?] using hauth.inserts_nothing

/-- An earlier trace of an authorized call that contains a check has passed it for the user. -/
theorem Authorized.passed {older L : Trace} (hauth : Authorized svc req user h)
    (huser : ∀ id, executed (.selectUserById id) (some user) ∈ h → user.id = id) (hL : h <:+ L)
    (hold : older <:+ L) {x : Entry} (hx : x ∈ older) (hcheck : isCheck x = true) :
    passedCheck svc user.id req older = true := by
  cases hauth with
  | @login r ipAddress userAgent _ now n h hverified =>
    have htrace := hverified.trace
    subst htrace
    have hbottom := (List.suffix_cons _ _).trans hL
    obtain ⟨newer, rfl⟩ := suffix_of_first (p := fun y => isCheck y = true) hold hbottom hx hcheck
      (by simp [isCheck])
    simp [passedCheck]
  | @refresh refreshToken ipAddress userAgent claims row _ now h hchecked =>
    obtain ⟨checkedAt, h', hfound, hvalid, rfl⟩ := hchecked.steps
    have hclaims := hfound.claims?_eq
    obtain ⟨tokenString, jwt, t, -, -, rfl⟩ := hfound.decoded
    have hid : user.id = claims.sub := huser claims.sub (by simp)
    have hlive : row.isRevoked = false := (RefreshToken.isValid_iff.mp hvalid).2
    have hbottom : (executed (.selectRefreshToken claims.tid (svc.hashToken tokenString)) (some row) ::
        [did .now t]) <:+ L := List.IsSuffix.trans ⟨[_, _, _], rfl⟩ hL
    obtain ⟨newer, rfl⟩ := suffix_of_first (p := fun y => isCheck y = true) hold hbottom hx hcheck
      (by simp [isCheck])
    simp [passedCheck, hclaims, hid, hlive]

section Run

variable {calls : ℕ → Request} {w : World} {ok : System → System → Prop} {d : System} {u id : Uuid}

/-- An entry revokes all tokens of a user exactly if it is the statement that does. -/
theorem revokesAll_iff {x : Entry} : revokesAll u x = true ↔ ∃ n : ℕ, x = executed (.revokeAllTokens u) n := by
  constructor
  · intro h
    unfold revokesAll at h
    split at h
    · rename_i v n
      obtain rfl : v = u := by simpa using h
      exact ⟨n, rfl⟩
    · cases h
  · rintro ⟨n, rfl⟩
    simp [revokesAll]

/-- An entry stores a refresh token exactly if it is the statement that does. -/
theorem issuedRow?_eq_some {x : Entry} : issuedRow? x = some (u, id) ↔
    ∃ tokenHash expiresAt ipAddress userAgent, ∃ n : ℕ,
      x = executed (.insertRefreshToken id u tokenHash expiresAt ipAddress userAgent) n := by
  constructor
  · intro h
    unfold issuedRow? at h
    split at h
    · rename_i id' userId tokenHash expiresAt ipAddress userAgent n
      obtain ⟨rfl, rfl⟩ := Prod.mk.inj (Option.some.inj h)
      exact ⟨tokenHash, expiresAt, ipAddress, userAgent, n, rfl⟩
    · cases h
  · rintro ⟨tokenHash, expiresAt, ipAddress, userAgent, n, rfl⟩
    rfl

/-- A call that inserts a row for `u` follows an authorization for `u`. -/
theorem drawn_of_issuedRow (hrun : svc.machine.Reaches ok (svc.start w calls) d) {f : LogEvent}
    {older : List LogEvent} (hf : (f :: older) <:+ d.log) (hissues : issuedRow? f.entry = some (u, id)) :
    ∃ user accessToken now bytes, user.id = u ∧
      RefreshDrawn svc (calls f.caller) user accessToken id now bytes (ownHistory f.caller older) := by
  obtain ⟨tokenHash, expiresAt, ipAddress, userAgent, n, hentry⟩ := issuedRow?_eq_some.mp hissues
  have hguard := guard_of_run hrun hf
  obtain ⟨i, s, a, r⟩ := f
  cases hentry
  obtain ⟨user, accessToken, now, bytes, hdrawn, hstatement⟩ := hguard
  injection hstatement with _ huser
  exact ⟨user, accessToken, now, bytes, huser.symm, hdrawn⟩

/-- A row of `u` that is in the table when all tokens of `u` are revoked stays revoked. -/
theorem revoked_of_revokesAll (hrun : svc.machine.Reaches ok (svc.start w calls) d) {e : LogEvent}
    (he : e ∈ d.log) (hrevokes : revokesAll u e.entry = true) {row : RefreshToken}
    (hrow : row ∈ e.before.db.refreshTokens) (huser : row.userId = u) {row' : RefreshToken}
    (hrow' : row' ∈ d.shared.db.refreshTokens) (hid : row'.id = row.id) : row'.isRevoked = true := by
  obtain ⟨n, hentry⟩ := revokesAll_iff.mp hrevokes
  obtain ⟨s, hperform, hle⟩ := hrun.event_monotone svc.machine_monotone rfl he
  obtain ⟨mark, hmark, hmarkId, hrevoked⟩ :=
    revokeAllTokens_row (Machine.perform_of_entry hentry hperform) hrow huser
  exact hle.revoked hmark hrow' (hid.trans hmarkId.symm) hrevoked

/-- A row inserted before all tokens of its user were revoked stays revoked. -/
theorem revoked_of_issued_before (hrun : svc.machine.Reaches ok (svc.start w calls) d) {e f : LogEvent}
    {older : List LogEvent} (he : (e :: older) <:+ d.log) (hrevokes : revokesAll u e.entry = true)
    (hf : f ∈ older) (hissues : issuedRow? f.entry = some (u, id)) {row : RefreshToken}
    (hrow : row ∈ d.shared.db.refreshTokens) (hid : row.id = id) : row.isRevoked = true := by
  obtain ⟨tokenHash, expiresAt, ipAddress, userAgent, n, hentry⟩ := issuedRow?_eq_some.mp hissues
  obtain ⟨s, hperform, hle⟩ := hrun.effect_le svc.machine_monotone rfl he hf
  obtain ⟨new, hnew, hnewId, hnewUser⟩ := insertRefreshToken_row (Machine.perform_of_entry hentry hperform)
  obtain ⟨old, hold, hlater⟩ := hle.db.refreshTokens new hnew
  exact revoked_of_revokesAll hrun (he.subset List.mem_cons_self) hrevokes hold (hlater.userId.trans hnewUser)
    hrow (hid.trans (hnewId.symm.trans hlater.id.symm))

/-- Under the rule, no row inserted after all tokens of its user were revoked rests on a check
made before. -/
theorem no_late_insert (hrun : svc.machine.Reaches (sessionsApart svc calls u).Keeps (svc.start w calls) d)
    {e f : LogEvent} {older older' : List LogEvent} (hf : (f :: older') <:+ d.log)
    (he : (e :: older) <:+ older') (hrevokes : revokesAll u e.entry = true)
    (hissues : issuedRow? f.entry = some (u, id)) {g : LogEvent} (hg : g ∈ older) (hcaller : g.caller = f.caller)
    (hcheck : isCheck g.entry = true) : False := by
  obtain ⟨user, accessToken, now, bytes, rfl, hdrawn⟩ := drawn_of_issuedRow hrun hf hissues
  obtain ⟨atInsert, nextInsert, sInsert, hinsert, rfl⟩ := hrun.performedAt rfl hf
  obtain ⟨atRevoke, nextRevoke, sRevoke, hrevoke, rfl⟩ := hinsert.run.performedAt rfl he
  have hearlier : ownHistory f.caller atRevoke.log <:+ ownHistory f.caller atInsert.log :=
    ownHistory_suffix _ ((List.suffix_cons _ _).trans he)
  obtain ⟨h₀, hauth, hsuffix⟩ := hdrawn.authorized
  have huser (id : Uuid) (hread : executed (.selectUserById id) (some user) ∈ h₀) : user.id = id := by
    obtain ⟨s, s', hperform⟩ := hinsert.run.performed_of_mem rfl (hsuffix.subset hread)
    exact (selectUserById_row hperform).2
  have hmem : g.entry ∈ ownHistory f.caller atRevoke.log := mem_ownHistory.mpr ⟨g, hg, hcaller, rfl⟩
  have hpassed := hauth.passed huser hsuffix hearlier hmem hcheck
  have hnothing : (ownHistory f.caller atRevoke.log).any (fun x => (issuedRow? x).isSome) = false := by
    have hall := List.any_eq_false.mp hdrawn.inserts_nothing
    exact List.any_eq_false.mpr fun y hy => hall y (hearlier.subset hy)
  have hended : (atRevoke.calls f.caller).Ended :=
    hcaller ▸ hrevoke.event_ok hrevokes g hg (hcaller ▸ hpassed) (hcaller ▸ hnothing)
  have hcalls := hrevoke.toLast.calls_of_ended hended
  rw [hinsert.call] at hcalls
  obtain ⟨r, hr⟩ := hended
  rw [hr] at hcalls
  cases hcalls

/-- A successful change or reset of the password of `u` has revoked all tokens of `u`. -/
theorem ends_of_succeeded (hrun : svc.machine.Reaches ok (svc.start w calls) d) {i : ℕ}
    (hsuccess : (d.calls i).succeeded = true)
    (hchanges : ChangesPasswordOf svc u (calls i) (ownHistory i d.log)) :
    ∃ e ∈ d.log, e.caller = i ∧ EndsSessions calls u d e := by
  obtain ⟨v, hv⟩ := succeeded_iff.mp hsuccess
  have hdone := succeeded_of_run hrun hv
  have hlast : ∃ n : ℕ, executed (.revokeAllTokens u) n ∈ ownHistory i d.log := by
    rcases hchanges with ⟨r, hreq⟩ | ⟨r, tokenId, hreq, hfound⟩
    · rw [hreq] at hdone
      obtain ⟨-, h', n, -, htrace⟩ := hdone
      exact ⟨n, htrace ▸ List.mem_cons_self⟩
    · rw [hreq] at hdone
      obtain ⟨-, userId, h₁, n₁, ⟨tokenId', h₂, n₂, ⟨hash, h₃, n₃, ⟨h₄, hfound', hhashed⟩, rfl⟩, rfl⟩,
        htrace⟩ := hdone
      obtain ⟨salt, -, -, rfl⟩ := hhashed
      rw [hfound'] at htrace
      rw [htrace] at hfound ⊢
      obtain rfl : u = userId := by
        simp only [List.mem_cons, Sigma.mk.injEq, Action.sql.injEq, reduceCtorEq, false_and, false_or,
          true_and, List.not_mem_nil, or_false] at hfound
        cases hfound
        rfl
      exact ⟨n₁, List.mem_cons_self⟩
  obtain ⟨n, hn⟩ := hlast
  obtain ⟨e, he, hcaller, hentry⟩ := mem_ownHistory.mp hn
  exact ⟨e, he, hcaller, revokesAll_iff.mpr ⟨n, hentry⟩, Or.inr (hcaller ▸ hsuccess)⟩

end Run

/-- In every run in which no call is between its check for `u` and its insert when all tokens of
`u` are revoked, a revocation of all tokens ends all earlier sessions. -/
theorem revokeAll_ends_sessions (svc : AuthService) (w : World) (req : ℕ → Request) (u : Uuid) (d : System)
    (hrun : svc.machine.Reaches (sessionsApart svc req u).Keeps (svc.start w req) d) :
    SessionsEnded svc req u d := by
  refine ⟨fun i hsuccess hchanges => ends_of_succeeded hrun hsuccess hchanges, ?_⟩
  intro e older he hends _ f hf id hissues hcheck row hrow hid
  obtain ⟨g, hg, hcaller, hcheck⟩ := hcheck
  obtain ⟨older', hf'⟩ := exists_suffix_of_mem hf
  rcases suffix_trichotomy he hf' with hlate | hearly | ⟨hsame, -⟩
  · exact (no_late_insert hrun hf' hlate hends.1 hissues hg hcaller hcheck).elim
  · exact revoked_of_issued_before hrun he hends.1 (hearly.subset List.mem_cons_self) hissues hrow hid
  · obtain ⟨n, hrevokes⟩ := revokesAll_iff.mp hends.1
    obtain ⟨tokenHash, expiresAt, ipAddress, userAgent, m, hinserts⟩ := issuedRow?_eq_some.mp hissues
    rw [hsame, hinserts] at hrevokes
    cases hrevokes

section Runs

open Reference

/-- A user registers and logs in, and changes the password. -/
def sessionRequests : ℕ → Request
  | 0 => .register ⟨"a@b.c", "Abcdefg1", "Abcdefg1", "A"⟩
  | 1 => .login ⟨"a@b.c", "Abcdefg1"⟩ none none
  | 2 => .changePassword 1 ⟨"Abcdefg1", "Hijklmn2", "Hijklmn2"⟩
  | _ => .verifyEmail ""

/-- The login is complete when the password is changed. -/
def sessionsInOrder : List (Machine.Move ℕ Choice EnvMove) := moves 0 3 1 ++ moves 1 12 2 ++ moves 2 5 3

/-- The password is changed when the login has compared the old one. -/
def sessionsRacing : List (Machine.Move ℕ Choice EnvMove) :=
  moves 0 3 1 ++ moves 1 3 2 ++ moves 2 5 3 ++ moves 1 9 2

instance (svc : AuthService) (req : ℕ → Request) (u : Uuid) (c : System) (e : LogEvent) :
    Decidable ((sessionsApart svc req u).event c e) :=
  inferInstanceAs (Decidable (_ → ∀ g ∈ c.log, _ → _ → (c.calls g.caller).Ended))

/-- A login is complete when the password is changed, and no session of the user is left. -/
theorem revokeAll_ends_sessions_in_order : SessionsEnded service sessionRequests 1
    (service.executor.play sessionsInOrder (service.start world sessionRequests)) := by
  have hallows : service.executor.Allows (sessionsApart service sessionRequests 1) (fun _ => True)
      sessionsInOrder (service.start world sessionRequests) := by decide +kernel
  exact revokeAll_ends_sessions service world sessionRequests 1 _ (hallows.reaches fun _ _ _ => trivial)

/-- The event at position `k` of the log ended all sessions of `u`, but a row that rests on an
earlier check is unrevoked. -/
def sessionLeft (u : Uuid) (d : System) (k : ℕ) : Bool :=
  match d.log.drop k with
  | [] => false
  | e :: older =>
    revokesAll u e.entry && (d.calls e.caller).succeeded && older.all (fun f => (d.calls f.caller).Ended) &&
      d.log.any fun f => d.shared.db.refreshTokens.rows.any fun row =>
        issuedRow? f.entry == some (u, row.id) && older.any (fun g => g.caller == f.caller && isCheck g.entry) &&
          !row.isRevoked

/-- Where a session is left the sessions have not ended. -/
theorem not_sessionsEnded_of_sessionLeft {svc : AuthService} {req : ℕ → Request} {u : Uuid} {d : System} {k : ℕ}
    (h : sessionLeft u d k = true) : ¬ SessionsEnded svc req u d := by
  intro hended
  unfold sessionLeft at h
  split at h
  · cases h
  · rename_i e older hdrop
    simp only [Bool.and_eq_true, List.all_eq_true, List.any_eq_true, decide_eq_true_eq, beq_iff_eq,
      Bool.not_eq_true'] at h
    obtain ⟨⟨⟨hrevokes, hsuccess⟩, hall⟩, f, hf, row, hrow, ⟨hissued, g, hg, hcaller, hcheck⟩, hlive⟩ := h
    have hsuffix : (e :: older) <:+ d.log := hdrop ▸ List.drop_suffix k d.log
    have hrevoked := hended.revoked e older hsuffix ⟨hrevokes, Or.inr hsuccess⟩ hall f hf row.id hissued
      ⟨g, hg, hcaller, hcheck⟩ row hrow rfl
    rw [hlive] at hrevoked
    cases hrevoked

/-- A login that races with a change of the password leaves a session behind. -/
theorem revokeAll_leaves_session : ∃ d, service.machine.Reaches (fun _ _ => True)
    (service.start world sessionRequests) d ∧ ¬ SessionsEnded service sessionRequests 1 d := by
  refine ⟨_, service.executor.play_reaches sessionsRacing _, ?_⟩
  have hleft :
      sessionLeft 1 (service.executor.play sessionsRacing (service.start world sessionRequests)) 9 = true := by
    decide +kernel
  exact not_sessionsEnded_of_sessionLeft hleft

end Runs

end RustPressAuth
