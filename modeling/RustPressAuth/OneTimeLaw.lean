import RustPressAuth.AccountOutcomes
import RustPressAuth.Tickets.Ledger

/-!
# One-time tokens over sequential runs

Each table of one-time tokens is the ledger of an office: a user holds at most one open
token of a purpose, the one issued last, until it is consumed. Along every sequential
run the unused rows of a table are exactly the open tokens, so a token is accepted if
and only if it is open and has not expired, and what an accepted call changes is the
user the token was issued to.
-/

namespace RustPressAuth

open Atomic Program Machine Relational

/-- What a call means for the tokens of a purpose. -/
def ticketEvent (purpose : Purpose) (c : CallRecord) : Tickets.Event Uuid String :=
  match purpose, c.request, c.result with
  | .passwordReset, .forgotPassword email, .ok (.token token) =>
    match c.before.db.userByEmail? email with
    | some user => .issue user.id token
    | none => .pass
  | .passwordReset, .resetPassword r, .ok _ => .redeem r.token
  | .emailVerification, .createEmailVerification userId, .ok (.token token) => .issue userId token
  | .emailVerification, .resendVerification userId, .ok (.verification (some token)) => .issue userId token
  | .emailVerification, .verifyEmail token, .ok _ => .redeem token
  | _, _, _ => .pass

/-- The tokens of a purpose that were issued and consumed, most recent first. -/
def ticketHistory (purpose : Purpose) (past : List CallRecord) : List (Tickets.Event Uuid String) :=
  past.map (ticketEvent purpose)

/-- The tokens of a purpose that were issued. -/
def issuedFor (purpose : Purpose) (past : List CallRecord) : List String :=
  (Tickets.issues (ticketHistory purpose past)).map Prod.snd

/-- The tokens that were issued. -/
def issuedTokens (past : List CallRecord) : List String :=
  issuedFor .passwordReset past ++ issuedFor .emailVerification past

/-- The token a request presents, and what for. -/
def Request.oneTimeToken? : Request → Option (Purpose × String)
  | .resetPassword r => some (.passwordReset, r.token)
  | .verifyEmail token => some (.emailVerification, token)
  | _ => none

/-- The tokens that were presented. -/
def presentedTokens (past : List CallRecord) : List String :=
  past.filterMap fun c => c.request.oneTimeToken?.map Prod.snd

/-- The tokens issued in a run are distinct, and their hashes collide with no token of the run. -/
structure FreshTokens (svc : AuthService) (past : List CallRecord) : Prop where
  distinct : (issuedTokens past).Nodup
  noCollision : ∀ s ∈ issuedTokens past, ∀ t ∈ issuedTokens past ++ presentedTokens past,
    svc.hashToken s = svc.hashToken t → s = t

/-- The token is the one issued last to the user, was not consumed, and has not expired. -/
structure Redeemable (svc : AuthService) (purpose : Purpose) (past : List CallRecord) (db : Db) (now : Instant)
    (token : String) (userId : Uuid) : Prop where
  latest : Tickets.latest? userId (ticketHistory purpose past) = some token
  unconsumed : token ∉ Tickets.redeemed (ticketHistory purpose past)
  unexpired : ∃ row ∈ db.oneTimeTokens purpose, row.tokenHash = svc.hashToken token ∧ now < row.expiresAt

/-- The request would not be refused before its token is looked up. -/
def AuthService.admissible (svc : AuthService) : Request → Bool
  | .resetPassword r => svc.passwordAccepted r.password
  | _ => true

/-- The row of a presented token. -/
def Presents (svc : AuthService) (purpose : Purpose) (token : String) (userId : Uuid) (db : Db)
    (row : OneTimeToken) :
    Prop :=
  row ∈ db.oneTimeTokens purpose ∧ row.tokenHash = svc.hashToken token ∧ row.userId = userId

/-- An accepted reset replaces the password of the user, consumes the token and ends the sessions of
the user; an accepted verification verifies the email of the user and consumes the token. -/
def Redeems (svc : AuthService) (userId : Uuid) (db db' : Db) : Request → Prop
  | .resetPassword r => ∃ row stored, ∃ t₁ t₂ t₃ : ℕ, Presents svc .passwordReset r.token userId db row ∧
      svc.hashesTo r.password stored ∧
      db' = ((db.replacePassword userId t₁ stored).consume .passwordReset row.id t₂).endSessions userId t₃
  | .verifyEmail token => ∃ row, ∃ t₁ t₂ : ℕ, Presents svc .emailVerification token userId db row ∧
      db' = (db.verifyUser userId t₁).consume .emailVerification row.id t₂
  | _ => False

/-- The law for a call that presents a token: at some instant of the call, it is accepted if and only
if the token is redeemable and the request admissible; then it changes what it says for exactly the user
the token was issued to; a token of the other purpose is not accepted; a rejected call changes nothing. -/
structure OneTimeLaw (svc : AuthService) (past : List CallRecord) (c : CallRecord) (purpose : Purpose)
    (token : String) :
    Prop where
  accepted : ∃ now : ℕ, c.before.During c.after now ∧ ((∃ response, c.result = .ok response) ↔
    svc.admissible c.request = true ∧ ∃ userId, Redeemable svc purpose past c.before.db now token userId)
  redeems : ∀ response, c.result = .ok response → ∃ userId,
    Tickets.latest? userId (ticketHistory purpose past) = some token ∧
    Redeems svc userId c.before.db c.after.db c.request
  separate : ∀ response, c.result = .ok response → ∀ other, other ≠ purpose → token ∉ issuedFor other past
  rejected : ∀ e, c.result = .error e → c.after.db = c.before.db

/-- The table is the ledger of this history: its rows are the issued tokens, and the unused ones are open. -/
structure Represents (svc : AuthService) (history : List (Tickets.Event Uuid String))
    (table : OneTimeTokens) : Prop where
  orderly : Tickets.Orderly history
  stored : ∀ userId token, (userId, token) ∈ Tickets.issues history →
    ∃ row ∈ table, row.userId = userId ∧ row.tokenHash = svc.hashToken token
  issued : ∀ row ∈ table, ∃ token, (row.userId, token) ∈ Tickets.issues history ∧
    row.tokenHash = svc.hashToken token ∧ (row.usedAt = none ↔ Tickets.open? row.userId history = some token)

variable {svc : AuthService} {history : List (Tickets.Event Uuid String)} {table table' : OneTimeTokens}
  {userId : Uuid} {token : String} {now : Instant}

/-- The empty table represents the tickets of the empty run. -/
theorem Represents.empty (svc : AuthService) : Represents svc [] Table.empty where
  orderly := trivial
  stored _ _ h := nomatch h
  issued row h := absurd h (Table.not_mem_empty row)

/-- A token that is issued supersedes the open one of its user. -/
theorem Represents.issue {new : OneTimeToken} (h : Represents svc history table)
    (hfresh : token ∉ (Tickets.issues history).map Prod.snd)
    (hnew : new.userId = userId ∧ new.tokenHash = svc.hashToken token ∧ new.usedAt = none)
    (hrows : ∀ row', row' ∈ table' ↔ (∃ row ∈ table,
      (if row.userId = userId ∧ row.usedAt = none then Db.usedRow now row else row) = row') ∨ row' = new) :
    Represents svc (.issue userId token :: history) table' where
  orderly := ⟨hfresh, h.orderly⟩
  stored u t hissued := by
    rcases List.mem_cons.mp hissued with heq | hold
    · obtain ⟨rfl, rfl⟩ := Prod.mk.inj heq
      exact ⟨new, (hrows new).mpr (Or.inr rfl), hnew.1, hnew.2.1⟩
    · obtain ⟨row, hrow, hu, ht⟩ := h.stored u t hold
      refine ⟨_, (hrows _).mpr (Or.inl ⟨row, hrow, rfl⟩), ?_, ?_⟩
      · split <;> exact hu
      · split <;> exact ht
  issued row' hrow' := by
    rcases (hrows row').mp hrow' with ⟨row, hrow, rfl⟩ | rfl
    · obtain ⟨t, hissued, hhash, hopen⟩ := h.issued row hrow
      have hne : t ≠ token := by
        intro heq
        subst heq
        exact hfresh (List.mem_map_of_mem hissued)
      refine ⟨t, ?_, ?_, ?_⟩
      · split <;> exact List.mem_cons_of_mem _ hissued
      · split <;> exact hhash
      · by_cases hown : row.userId = userId
        · have hafter : Tickets.open? row.userId (.issue userId token :: history) = some token := by
            rw [Tickets.open?, if_pos hown.symm]
          split
          · show some now = none ↔ Tickets.open? row.userId (.issue userId token :: history) = some t
            rw [hafter]
            simp [Ne.symm hne]
          · rename_i hused
            rw [hafter]
            simp only [Option.some.injEq, Ne.symm hne, iff_false]
            exact fun hnone => hused ⟨hown, hnone⟩
        · rw [if_neg (fun hboth => hown hboth.1), Tickets.open?, if_neg (Ne.symm hown)]
          exact hopen
    · refine ⟨token, ?_, hnew.2.1, ?_⟩
      · rw [hnew.1]
        exact List.mem_cons_self
      · rw [hnew.1, hnew.2.2, Tickets.open?, if_pos rfl]
        exact iff_of_true rfl rfl

/-- The open token of a user is the token of an unused row of that user. -/
theorem Represents.open_iff (h : Represents svc history table)
    (hcollide : ∀ t ∈ (Tickets.issues history).map Prod.snd, svc.hashToken t = svc.hashToken token → t = token) :
    Tickets.open? userId history = some token ↔
      ∃ row ∈ table, row.userId = userId ∧ row.tokenHash = svc.hashToken token ∧ row.usedAt = none := by
  constructor
  · intro hopen
    obtain ⟨row, hrow, hu, hhash⟩ :=
      h.stored userId token (Tickets.mem_issues_of_latest (Tickets.latest_of_open hopen))
    obtain ⟨t, hissued, hhash', hunused⟩ := h.issued row hrow
    have ht : t = token := hcollide t (List.mem_map_of_mem hissued) (hhash'.symm.trans hhash)
    rw [hu, ht] at hunused
    exact ⟨row, hrow, hu, hhash, hunused.mpr hopen⟩
  · rintro ⟨row, hrow, rfl, hhash, hnone⟩
    obtain ⟨t, hissued, hhash', hunused⟩ := h.issued row hrow
    have ht : t = token := hcollide t (List.mem_map_of_mem hissued) (hhash'.symm.trans hhash)
    rw [← ht]
    exact hunused.mp hnone

/-- A token that is consumed is open no more. -/
theorem Represents.redeem {row : OneTimeToken} (h : Represents svc history table)
    (hcollide : ∀ t ∈ (Tickets.issues history).map Prod.snd, svc.hashToken t = svc.hashToken token → t = token)
    (hrow : row ∈ table) (hhash : row.tokenHash = svc.hashToken token) (hunused : row.usedAt = none)
    (hrows : ∀ row', row' ∈ table' ↔ ∃ q ∈ table, (if q.id = row.id then Db.usedRow now q else q) = row') :
    Represents svc (.redeem token :: history) table' where
  orderly := ⟨⟨row.userId, (h.open_iff hcollide).mpr ⟨row, hrow, rfl, hhash, hunused⟩⟩, h.orderly⟩
  stored u t hissued := by
    obtain ⟨q, hq, hu, ht⟩ := h.stored u t hissued
    refine ⟨_, (hrows _).mpr ⟨q, hq, rfl⟩, ?_, ?_⟩
    · split <;> exact hu
    · split <;> exact ht
  issued row' hrow' := by
    obtain ⟨q, hq, rfl⟩ := (hrows row').mp hrow'
    obtain ⟨t, hissued, hhash', hopen⟩ := h.issued q hq
    refine ⟨t, ?_, ?_, ?_⟩
    · split <;> exact hissued
    · split <;> exact hhash'
    · by_cases hid : q.id = row.id
      · obtain rfl : q = row := Table.eq_of_pk hq hrow hid
        have htoken : t = token := hcollide t (List.mem_map_of_mem hissued) (hhash'.symm.trans hhash)
        rw [if_pos rfl]
        show some now = none ↔ Tickets.open? q.userId (.redeem token :: history) = some t
        rw [Tickets.open?, if_pos (htoken ▸ hopen.mp hunused)]
        simp
      · rw [if_neg hid, Tickets.open?]
        split
        · rename_i hother
          have hne : t ≠ token := by
            intro heq
            subst heq
            exact hid (congrArg OneTimeToken.id (Table.eq_of_unique hq hrow (hhash'.trans hhash.symm)))
          rw [hopen, hother]
          simp [Ne.symm hne]
        · exact hopen

/-- What a call did to the table of a purpose: it issued a token, it consumed one, or it left it as it was. -/
inductive TableStep (svc : AuthService) (purpose : Purpose) (c : CallRecord) : Prop
  | issued {userId : Uuid} {token : String} {issuedAt : ℕ} (hevent : ticketEvent purpose c = .issue userId token)
      (hstores : svc.StoresOneTime purpose userId issuedAt c.before.db token c.after.db)
  | redeemed {token : String} {tokenId userId : Uuid} {t t' : ℕ} (hevent : ticketEvent purpose c = .redeem token)
      (hfound : c.before.db.validToken? purpose (svc.hashToken token) t = some (tokenId, userId))
      (htable : c.after.db.oneTimeTokens purpose = (c.before.db.consume purpose tokenId t').oneTimeTokens purpose)
  | untouched (hevent : ticketEvent purpose c = .pass)
      (htable : c.after.db.oneTimeTokens purpose = c.before.db.oneTimeTokens purpose)

/-- Storing a token of one purpose leaves the other table alone. -/
theorem storesOneTime_other {purpose other : Purpose} {db db' : Db}
    (h : svc.StoresOneTime purpose userId now db token db') (hother : other ≠ purpose) :
    db'.oneTimeTokens other = db.oneTimeTokens other := by
  obtain ⟨bytes, fresh, t, now', -, hinsert⟩ := h
  rw [(Db.insertOneTimeToken?_spec hinsert).2.2.2 other hother]
  exact Function.update_of_ne hother _ _

/-- The tokens of the other purpose stay when one is consumed. -/
theorem consume_other {purpose other : Purpose} {db : Db} {id : Uuid} (hother : other ≠ purpose) :
    (db.consume purpose id now).oneTimeTokens other = db.oneTimeTokens other := Function.update_of_ne hother _ _

section Calls

variable {purpose : Purpose} {w w' : World} {tr : Trace} {c : CallRecord}

/-- A request that does not write to the tokens of a purpose means nothing for them. -/
theorem ticketEvent_pass (h : c.request.writesTokens purpose = false) : ticketEvent purpose c = .pass := by
  obtain ⟨request, w, tr, res, w'⟩ := c
  cases purpose <;> cases request <;> first | rfl | cases h

/-- A call that leaves the database as it was, and was no success, does nothing to a table. -/
theorem TableStep.of_error {request : Request} {e : Failure} (hdb : w'.db = w.db) :
    TableStep svc purpose ⟨request, w, tr, .error e, w'⟩ := by
  refine .untouched ?_ (congrArg (fun db => db.oneTimeTokens purpose) hdb)
  cases purpose <;> cases request <;> rfl

/-- A call that issues a token for one purpose, and means nothing for the other. -/
theorem TableStep.of_issue {p : Purpose} {token : String} {issuedAt : ℕ}
    (hevent : ticketEvent p c = .issue userId token)
    (hother : ∀ other, other ≠ p → c.request.writesTokens other = false)
    (hstores : svc.StoresOneTime p userId issuedAt c.before.db token c.after.db) : TableStep svc purpose c := by
  by_cases hp : purpose = p
  · subst hp
    exact .issued hevent hstores
  · exact .untouched (ticketEvent_pass (hother purpose hp)) (storesOneTime_other hstores hp)

/-- A call that consumes a token of one purpose, and means nothing for the other. -/
theorem TableStep.of_redeem {p : Purpose} {token : String} {tokenId : Uuid} {t t' : ℕ}
    (hevent : ticketEvent p c = .redeem token) (hother : ∀ other, other ≠ p → c.request.writesTokens other = false)
    (hfound : c.before.db.validToken? p (svc.hashToken token) t = some (tokenId, userId))
    (htables : c.after.db.oneTimeTokens = (c.before.db.consume p tokenId t').oneTimeTokens) :
    TableStep svc purpose c := by
  by_cases hp : purpose = p
  · subst hp
    exact .redeemed hevent hfound (congrFun htables _)
  · exact .untouched (ticketEvent_pass (hother purpose hp)) ((congrFun htables _).trans (consume_other hp))

/-- Every call does one of the three. -/
theorem tableStep_of_exec {request : Request} {res : Except Failure Response} (purpose : Purpose)
    (h : svc.smooth.Exec (svc.serve request) w tr res w') : TableStep svc purpose ⟨request, w, tr, res, w'⟩ := by
  have huntouched (hrequest : request.writesOneTimeTokens = false) :
      w'.db.oneTimeTokens purpose = w.db.oneTimeTokens purpose :=
      congrFun (oneTimeTokens_of_exec hrequest h) purpose
  cases request with
  | forgotPassword email =>
    obtain ⟨res, hforgot, rfl⟩ := alone_answer h
    rcases forgotPassword_outcome hforgot with ⟨hnone, rfl, hdb⟩ |
      ⟨user, huser, ⟨⟨fault, rfl⟩, -, hdb, -⟩ | ⟨token, issuedAt, rfl, -, hstores⟩⟩
    · refine .untouched ?_ (congrArg (fun db => db.oneTimeTokens purpose) hdb)
      cases purpose with
      | passwordReset => simp [ticketEvent, Except.map, hnone]
      | emailVerification => rfl
    · exact .of_error hdb
    · exact .of_issue (by simp [ticketEvent, Except.map, huser]) (fun p hp => by
        simpa [Request.writesTokens] using hp)
        hstores
  | resetPassword r =>
    obtain ⟨res, hreset, rfl⟩ := alone_answer h
    cases resetPassword_outcome hreset with
    | weak _ hdb => exact .of_error hdb
    | unfound _ _ hdb => exact .of_error hdb
    | unhashed _ _ hdb => exact .of_error hdb
    | failedEarly hfaults => cases hfaults
    | unmarked _ _ _ hfaults => cases hfaults
    | unrevoked _ _ _ hfaults => cases hfaults
    | @done _ t t₁ t₂ t₃ tokenId userId stored _ _ hfound _ hdb =>
      have hconsumed : w'.db.oneTimeTokens = (w.db.consume .passwordReset tokenId t₂).oneTimeTokens := by
        rw [hdb]
        rfl
      exact .of_redeem rfl (fun p hp => by simpa [Request.writesTokens] using hp) hfound hconsumed
  | createEmailVerification userId =>
    obtain ⟨res, hcreate, rfl⟩ := alone_answer h
    rcases issueOneTimeToken_outcome .emailVerification hcreate with ⟨⟨fault, rfl⟩, -, hdb, -⟩ |
      ⟨token, issuedAt, rfl, -, hstores⟩
    · exact .of_error hdb
    · exact .of_issue rfl (fun p hp => by simpa [Request.writesTokens] using hp) hstores
  | resendVerification userId =>
    obtain ⟨res, hresend, rfl⟩ := alone_answer h
    rcases resendVerification_outcome hresend with ⟨hres, hdb⟩ | ⟨token, issuedAt, rfl, -, hstores⟩
    · refine .untouched ?_ (congrArg (fun db => db.oneTimeTokens purpose) hdb)
      cases purpose with
      | passwordReset => rfl
      | emailVerification =>
        cases res with
        | error e => rfl
        | ok token? =>
          cases token? with
          | none => rfl
          | some token => exact absurd rfl (hres token)
    · exact .of_issue rfl (fun p hp => by simpa [Request.writesTokens] using hp) hstores
  | verifyEmail token =>
    obtain ⟨res, hverify, rfl⟩ := alone_answer h
    cases verifyEmail_outcome hverify with
    | unfound _ _ hdb => exact .of_error hdb
    | @done _ t t₁ t₂ tokenId userId user _ hfound _ hdb =>
      have hconsumed : w'.db.oneTimeTokens = (w.db.consume .emailVerification tokenId t₂).oneTimeTokens := by
        rw [hdb]
        rfl
      exact .of_redeem rfl (fun p hp => by simpa [Request.writesTokens] using hp) hfound hconsumed
  | _ => exact .untouched (by cases purpose <;> rfl) (huntouched rfl)

/-- A token that was issued for a purpose was issued. -/
theorem mem_issuedTokens {past : List CallRecord} {token : String} (h : token ∈ issuedFor purpose past) :
    token ∈ issuedTokens past := by
  cases purpose with
  | passwordReset => exact List.mem_append_left _ h
  | emailVerification => exact List.mem_append_right _ h

/-- The tokens issued for a purpose stay issued when a call is added. -/
theorem issuedFor_sublist (past : List CallRecord) (c : CallRecord) :
    (issuedFor purpose past).Sublist (issuedFor purpose (c :: past)) := by
  simp only [issuedFor, ticketHistory, List.map_cons]
  cases ticketEvent purpose c with
  | issue userId token => exact List.sublist_cons_self _ _
  | redeem token => exact List.Sublist.refl _
  | pass => exact List.Sublist.refl _

/-- The tokens that were issued stay issued when a call is added. -/
theorem issuedTokens_sublist (past : List CallRecord) (c : CallRecord) :
    (issuedTokens past).Sublist (issuedTokens (c :: past)) :=
  (issuedFor_sublist past c).append (issuedFor_sublist past c)

/-- A prefix of a run has fresh tokens when the run has. -/
theorem FreshTokens.earlier {past : List CallRecord} (h : FreshTokens svc (c :: past)) : FreshTokens svc past where
  distinct := h.distinct.sublist (issuedTokens_sublist past c)
  noCollision s hs t ht := by
    have hpresented : (presentedTokens past).Sublist (presentedTokens (c :: past)) :=
      (List.sublist_cons_self c past).filterMap _
    have htokens := (issuedTokens_sublist past c).append hpresented
    exact h.noCollision s ((issuedTokens_sublist past c).subset hs) t (htokens.subset ht)

/-- No token is issued twice for a purpose. -/
theorem FreshTokens.nodup {past : List CallRecord} (h : FreshTokens svc past) (purpose : Purpose) :
    (issuedFor purpose past).Nodup := by
  cases purpose with
  | passwordReset => exact h.distinct.sublist (List.sublist_append_left _ _)
  | emailVerification => exact h.distinct.sublist (List.sublist_append_right _ _)

/-- No token is issued for both purposes. -/
theorem FreshTokens.separate {past : List CallRecord} (h : FreshTokens svc past) {other : Purpose} {token : String}
    (hother : other ≠ purpose) (htoken : token ∈ issuedFor purpose past) : token ∉ issuedFor other past := by
  have hdisjoint := List.disjoint_of_nodup_append h.distinct
  cases purpose <;> cases other
  · exact absurd rfl hother
  · exact fun h' => hdisjoint htoken h'
  · exact fun h' => hdisjoint h' htoken
  · exact absurd rfl hother

/-- A call that consumes a token presented it. -/
theorem presents_of_redeem {token : String} (h : ticketEvent purpose c = .redeem token) :
    c.request.oneTimeToken? = some (purpose, token) := by
  obtain ⟨request, before, trace, result, after⟩ := c
  unfold ticketEvent at h
  split at h
  · split at h <;> cases h
  · rename_i hrequest _
    cases h
    rw [hrequest]
    rfl
  · cases h
  · cases h
  · rename_i hrequest _
    cases h
    rw [hrequest]
    rfl
  · cases h

/-- A presented token collides with no issued one. -/
theorem FreshTokens.presented {past : List CallRecord} {token : String} (h : FreshTokens svc (c :: past))
    (hpresents : c.request.oneTimeToken? = some (purpose, token)) (t : String) (ht : t ∈ issuedFor purpose past)
    (hhash : svc.hashToken t = svc.hashToken token) : t = token := by
  have hissued : t ∈ issuedTokens (c :: past) := (issuedTokens_sublist past c).subset (mem_issuedTokens ht)
  have hpresented : token ∈ presentedTokens (c :: past) := by
    simp only [presentedTokens, List.mem_filterMap]
    exact ⟨c, List.mem_cons_self, by rw [hpresents]; rfl⟩
  exact h.noCollision t hissued token (List.mem_append_right _ hpresented) hhash

/-- One call keeps the table the ledger of the history. -/
theorem TableStep.represents {past : List CallRecord} (hstep : TableStep svc purpose c)
    (hfresh : FreshTokens svc (c :: past))
    (h : Represents svc (ticketHistory purpose past) (c.before.db.oneTimeTokens purpose)) :
    Represents svc (ticketHistory purpose (c :: past)) (c.after.db.oneTimeTokens purpose) := by
  rw [ticketHistory, List.map_cons]
  cases hstep with
  | @issued userId token issuedAt hevent hstores =>
    have hnodup := hfresh.nodup purpose
    rw [issuedFor, ticketHistory, List.map_cons, hevent] at hnodup
    rw [hevent]
    obtain ⟨bytes, fresh, t, now, -, hinsert⟩ := hstores
    have hrows (row' : OneTimeToken) : row' ∈ c.after.db.oneTimeTokens purpose ↔
        (∃ row ∈ c.before.db.oneTimeTokens purpose,
          (if row.userId = userId ∧ row.usedAt = none then Db.usedRow t row else row) = row') ∨
        row' = newOneTimeToken fresh now userId (svc.hashToken token)
          (issuedAt + seconds (svc.config.lifetime purpose)) := by
      rw [Table.mem_insert? (Db.insertOneTimeToken?_spec hinsert).2.2.1, Db.supersede, Db.mem_markUsed]
      simp only [decide_eq_true_eq]
    exact h.issue (List.nodup_cons.mp hnodup).1 ⟨rfl, rfl, rfl⟩ hrows
  | @redeemed token tokenId userId t t' hevent hfound htable =>
    rw [hevent, htable]
    obtain ⟨row, hmem, rfl, -, hhash, -, hunused⟩ := Db.validToken?_row hfound
    have hrows (row' : OneTimeToken) : row' ∈ (c.before.db.consume purpose row.id t').oneTimeTokens purpose ↔
        ∃ q ∈ c.before.db.oneTimeTokens purpose, (if q.id = row.id then Db.usedRow t' q else q) = row' := by
      rw [Db.consume, Db.mem_markUsed]
      simp only [decide_eq_true_eq]
    exact h.redeem (hfresh.presented (presents_of_redeem hevent)) hmem hhash hunused hrows
  | untouched hevent htable =>
    rw [hevent, htable]
    exact ⟨h.orderly, h.stored, h.issued⟩

/-- Along every sequential run both tables are the ledgers of their histories. -/
theorem represents_of_serial {first : World} {past : List CallRecord} (purpose : Purpose)
    (hempty : first.db.oneTimeTokens purpose = Table.empty) (hrun : svc.smooth.Serial svc.serve first past w)
    (hfresh : FreshTokens svc past) : Represents svc (ticketHistory purpose past) (w.db.oneTimeTokens purpose) := by
  induction hrun with
  | start =>
    rw [hempty]
    exact Represents.empty svc
  | call _ hexec ih => exact (tableStep_of_exec purpose hexec).represents hfresh (ih hfresh.earlier)

/-- Argon2 accepts the configured costs. -/
def AuthService.acceptsCosts (svc : AuthService) : Bool :=
  svc.prims.argon2Params svc.config.argon2MemoryCost svc.config.argon2TimeCost svc.config.argon2Parallelism

/-- Argon2 hashes every password under parameters it accepts. -/
def Primitives.HashesPasswords (prims : Primitives) : Prop :=
  ∀ memoryCost timeCost parallelism salt password, prims.argon2Params memoryCost timeCost parallelism = true →
    prims.argon2Hash memoryCost timeCost parallelism salt password ≠ none

/-- Where there are users, Argon2 accepts the configured costs. -/
def AuthService.Provisioned (svc : AuthService) (db : Db) : Prop :=
  (∃ user, user ∈ db.users) → svc.acceptsCosts = true

/-- Argon2 accepts the costs of a hash it has made. -/
theorem acceptsCosts_of_hashesTo {password stored : String} (h : svc.hashesTo password stored) :
    svc.acceptsCosts = true := by
  obtain ⟨salt, passwordHash, hargon, -⟩ := h
  by_contra hrefuses
  rw [AuthService.acceptsCosts] at hrefuses
  rw [AuthService.argon2, if_neg hrefuses] at hargon
  cases hargon

/-- Only a registration creates the first user, and it hashes a password. -/
theorem provisioned_of_serial {first : World} {past : List CallRecord} (hfirst : svc.Provisioned first.db)
    (hrun : svc.smooth.Serial svc.serve first past w) : svc.Provisioned w.db := by
  induction hrun with
  | start => exact hfirst
  | @call past v w' request tr res _ hexec ih =>
    have hother (hregister : ∀ r, request ≠ .register r) :
        (∃ user, user ∈ w'.db.users) = ∃ user, user ∈ v.db.users := by
      apply alone_keeps (fun db => ∃ user, user ∈ db.users) _ hexec
      intro past s hguard fresh now db rows db' hrun
      have hnone : s.newUser? fresh now = none := by
        cases s with
        | insertUser email passwordHash name =>
          obtain ⟨r, _, rfl, -⟩ := hguard
          exact absurd rfl (hregister r)
        | _ => rfl
      have husers (row' : User) : row' ∈ db'.users ↔ ∃ row ∈ db.users, s.onUser now row = row' := by
        rw [Statement.run_users hrun, hnone]
        simp
      apply propext
      constructor
      · rintro ⟨user, huser⟩
        obtain ⟨row, hrow, -⟩ := (husers user).mp huser
        exact ⟨row, hrow⟩
      · rintro ⟨user, huser⟩
        exact ⟨_, (husers _).mpr ⟨user, huser, rfl⟩⟩
    intro huser
    cases request with
    | register r =>
      obtain ⟨res, hregister, rfl⟩ := alone_answer hexec
      cases register_outcome hregister with
      | refused hdb =>
        rw [hdb] at huser
        exact ih huser
      | created _ hhashed _ => exact acceptsCosts_of_hashesTo hhashed
    | _ => exact ih (hother (by simp) ▸ huser)

variable {past : List CallRecord} {db : Db} {token : String}

/-- A token that is found is redeemable, and its row is found. -/
theorem redeemable_of_found {now : Instant} {tokenId userId : Uuid}
    (h : Represents svc (ticketHistory purpose past) (db.oneTimeTokens purpose))
    (hcollide : ∀ t ∈ issuedFor purpose past, svc.hashToken t = svc.hashToken token → t = token)
    (hfound : db.validToken? purpose (svc.hashToken token) now = some (tokenId, userId)) :
    Redeemable svc purpose past db now token userId ∧
      ∃ row, Presents svc purpose token userId db row ∧ row.id = tokenId := by
  obtain ⟨row, hmem, rfl, rfl, hhash, hexpires, hunused⟩ := Db.validToken?_row hfound
  have hopen := (h.open_iff hcollide).mpr ⟨row, hmem, rfl, hhash, hunused⟩
  obtain ⟨hlatest, hunconsumed⟩ := (Tickets.open_iff h.orderly).mp hopen
  exact ⟨⟨hlatest, hunconsumed, row, hmem, hhash, hexpires⟩, row, ⟨hmem, hhash, rfl⟩, rfl⟩

/-- A redeemable token is found. -/
theorem found_of_redeemable {now : Instant} {userId : Uuid}
    (h : Represents svc (ticketHistory purpose past) (db.oneTimeTokens purpose))
    (hcollide : ∀ t ∈ issuedFor purpose past, svc.hashToken t = svc.hashToken token → t = token)
    (hredeemable : Redeemable svc purpose past db now token userId) :
    db.validToken? purpose (svc.hashToken token) now ≠ none := by
  have hopen := (Tickets.open_iff h.orderly).mpr ⟨hredeemable.latest, hredeemable.unconsumed⟩
  obtain ⟨row, hrow, -, hhash, hunused⟩ := (h.open_iff hcollide).mp hopen
  obtain ⟨row', hrow', hhash', hexpires⟩ := hredeemable.unexpired
  obtain rfl : row' = row := Table.eq_of_unique hrow' hrow (hhash'.trans hhash.symm)
  intro hnone
  have hmissed := Table.find?_none (Option.map_eq_none_iff.mp hnone) hrow
  simp [hhash, hunused, hexpires] at hmissed

/-- A call that is refused obeys the law when it was inadmissible or its token not redeemable. -/
theorem OneTimeLaw.refused {now : ℕ} {e : Failure} (hnow : c.before.During c.after now)
    (hresult : c.result = .error e) (hdb : c.after.db = c.before.db) (hnot : svc.admissible c.request = true →
      ∀ userId, ¬ Redeemable svc purpose past c.before.db now token userId) :
      OneTimeLaw svc past c purpose token where
  accepted := by
    refine ⟨now, hnow, iff_of_false ?_ ?_⟩
    · rintro ⟨response, hok⟩
      rw [hresult] at hok
      cases hok
    · rintro ⟨hadmissible, userId, hredeemable⟩
      exact hnot hadmissible userId hredeemable
  redeems response hok := by
    rw [hresult] at hok
    cases hok
  separate response hok := by
    rw [hresult] at hok
    cases hok
  rejected _ _ := hdb

/-- A call that is accepted obeys the law when it was admissible and its token redeemable. -/
theorem OneTimeLaw.redeemed {now : ℕ} {userId : Uuid} {response : Response} (hnow : c.before.During c.after now)
    (hresult : c.result = .ok response) (hadmissible : svc.admissible c.request = true)
    (hredeemable : Redeemable svc purpose past c.before.db now token userId)
    (hredeems : Redeems svc userId c.before.db c.after.db c.request)
    (hseparate : ∀ other, other ≠ purpose → token ∉ issuedFor other past) :
    OneTimeLaw svc past c purpose token where
  accepted := ⟨now, hnow, iff_of_true ⟨response, hresult⟩ ⟨hadmissible, userId, hredeemable⟩⟩
  redeems _ _ := ⟨userId, hredeemable.latest, hredeems⟩
  separate _ _ := hseparate
  rejected e herror := by
    rw [hresult] at herror
    cases herror

/-- Every call of a sequential run from empty tables of one-time tokens that presents a token obeys
the law, when no statement fails, the tokens are fresh, and Argon2 hashes every password. -/
theorem oneTimeToken_law (svc : AuthService) (first : World) (past : List CallRecord) (c : CallRecord) (w : World)
    (purpose : Purpose) (token : String) (hempty : ∀ purpose, first.db.oneTimeTokens purpose = Table.empty)
    (hprovisioned : svc.Provisioned first.db) (hhashes : svc.prims.HashesPasswords)
    (hrun : svc.smooth.Serial svc.serve first (c :: past) w) (hfresh : FreshTokens svc (c :: past))
    (hpresents : c.request.oneTimeToken? = some (purpose, token)) : OneTimeLaw svc past c purpose token := by
  cases hrun with
  | @call _ v _ request tr res hpast hexec =>
    have hrep := represents_of_serial purpose (hempty purpose) hpast hfresh.earlier
    have hcollide := hfresh.presented hpresents
    have hseparate {userId : Uuid} (hlatest : Tickets.latest? userId (ticketHistory purpose past) = some token)
        (other : Purpose) (hother : other ≠ purpose) : token ∉ issuedFor other past :=
      hfresh.earlier.separate hother (List.mem_map_of_mem (Tickets.mem_issues_of_latest hlatest))
    cases request with
    | resetPassword r =>
      obtain ⟨rfl, rfl⟩ := Prod.mk.inj (Option.some.inj hpresents)
      obtain ⟨res, hreset, rfl⟩ := alone_answer hexec
      have hbegin : v.During w v.clock := ⟨Nat.le_refl _, (alone_precedes hexec).clock⟩
      cases resetPassword_outcome hreset with
      | weak hweak hdb =>
        apply OneTimeLaw.refused hbegin rfl hdb
        intro hadmissible
        rw [AuthService.admissible, hweak] at hadmissible
        cases hadmissible
      | unfound ht hnone hdb =>
        apply OneTimeLaw.refused ht rfl hdb
        intro _ userId hredeemable
        exact found_of_redeemable hrep hcollide hredeemable hnone
      | @unhashed _ t salt found hfound hnone hdb =>
        obtain ⟨tokenId, userId⟩ := found
        obtain ⟨user, huser, -⟩ := Db.validToken?_user hfound
        have haccepts := provisioned_of_serial hprovisioned hpast ⟨user, huser⟩
        rw [AuthService.acceptsCosts] at haccepts
        rw [AuthService.argon2, if_pos haccepts] at hnone
        exact absurd hnone (hhashes _ _ _ _ _ haccepts)
      | failedEarly hfaults => cases hfaults
      | unmarked _ _ _ hfaults => cases hfaults
      | unrevoked _ _ _ hfaults => cases hfaults
      | done ht haccepted hfound hstored hdb =>
        obtain ⟨hredeemable, row, hrow, rfl⟩ := redeemable_of_found hrep hcollide hfound
        exact .redeemed ht rfl haccepted hredeemable ⟨row, _, _, _, _, hrow, hstored, hdb⟩
          (hseparate hredeemable.latest)
    | verifyEmail token =>
      obtain ⟨rfl, rfl⟩ := Prod.mk.inj (Option.some.inj hpresents)
      obtain ⟨res, hverify, rfl⟩ := alone_answer hexec
      cases verifyEmail_outcome hverify with
      | unfound ht hnone hdb =>
        apply OneTimeLaw.refused ht rfl hdb
        intro _ userId hredeemable
        exact found_of_redeemable hrep hcollide hredeemable hnone
      | done ht hfound huser hdb =>
        obtain ⟨hredeemable, row, hrow, rfl⟩ := redeemable_of_found hrep hcollide hfound
        exact .redeemed ht rfl rfl hredeemable ⟨row, _, _, hrow, hdb⟩ (hseparate hredeemable.latest)
    | _ => cases hpresents

end Calls

section Runs

open Reference

instance (svc : AuthService) (past : List CallRecord) : Decidable (FreshTokens svc past) :=
  decidable_of_iff ((issuedTokens past).Nodup ∧
    ∀ s ∈ issuedTokens past, ∀ t ∈ issuedTokens past ++ presentedTokens past,
    svc.hashToken s = svc.hashToken t → s = t) ⟨fun h => ⟨h.1, h.2⟩, fun h => ⟨h.1, h.2⟩⟩

/-- A user registers, asks for a password reset twice and resets the password with the second token,
most recent call first. -/
def resetCalls : List (Request × List Choice) :=
  [(.resetPassword ⟨base64UrlEncode (choice 3).bytes.toList, "Hijklmn2", "Hijklmn2"⟩, List.replicate 5 (choice 4)),
    (.forgotPassword "a@b.c", List.replicate 5 (choice 3)),
    (.forgotPassword "a@b.c", List.replicate 5 (choice 2)),
    (.register ⟨"a@b.c", "Abcdefg1", "Abcdefg1", "A"⟩, List.replicate 3 (choice 1))]

/-- The last call presented the second token and was accepted, and all tokens are fresh. -/
def acceptsSecond (calls : List CallRecord) (_ : World) : Bool :=
  match calls with
  | [] => false
  | c :: past => FreshTokens service (c :: past) ∧
      c.request.oneTimeToken? = some (.passwordReset, base64UrlEncode (choice 3).bytes.toList) ∧
        c.result = .ok .unit

/-- A reset with the token of a forgotten password succeeds as the law says. -/
theorem oneTimeToken_law_reset : ∃ past c w, service.smooth.Serial service.serve world (c :: past) w ∧
    c.result = .ok .unit ∧ OneTimeLaw service past c .passwordReset (base64UrlEncode (choice 3).bytes.toList) := by
  have hpasses : ((service.executor.serial (AuthService.admits false) service.serve resetCalls world).any
      fun run => acceptsSecond run.1 run.2) = true := by decide +kernel
  obtain ⟨calls, w, hrun, htest⟩ := Executor.exists_serial service.alone_perform acceptsSecond hpasses
  cases calls with
  | nil => cases htest
  | cons c past =>
    obtain ⟨hfresh, hpresents, hresult⟩ := of_decide_eq_true htest
    refine ⟨past, c, w, hrun, hresult, ?_⟩
    apply oneTimeToken_law service world past c w _ _ (fun _ => rfl) _ _ hrun hfresh hpresents
    · rintro ⟨user, huser⟩
      exact absurd huser (Table.not_mem_empty user)
    · intro memoryCost timeCost parallelism salt password _
      simp [service, primitives]

end Runs

end RustPressAuth
