import RustPressAuth.DeadTokens
import RustPressAuth.LiveTokens
import RustPressAuth.OneTimeLaw

/-!
# Reset tokens after a change of the password

A reset ends with no usable reset token of its user: a user has at most one unused token
once a token was issued, and the reset consumes it. A change of the password touches no
reset token, so one that was issued before stays usable. In a sequential run in which
no user has a usable reset token when a change of the password ends, the tokens issued
before a reset or a change are refused from then on.
-/

namespace RustPressAuth

open Atomic Program Machine Relational

variable {svc : AuthService} {faults : Bool} {w w' first : World} {tr : Trace} {purpose : Purpose} {userId : Uuid}
  {token : String} {past : List CallRecord} {c d : CallRecord}

/-- The password of the user was replaced by a call that ended with success. -/
def PasswordReplaced (svc : AuthService) (c : CallRecord) (userId : Uuid) : Prop :=
  match c.request, c.result with
  | .changePassword id _, .ok _ => id = userId
  | .resetPassword r, .ok _ =>
    ∃ row ∈ c.before.db.oneTimeTokens .passwordReset, row.tokenHash = svc.hashToken r.token ∧ row.userId = userId
  | _, _ => False

/-- The user whose password a successful change replaced. -/
def changedUser? (c : CallRecord) : Option Uuid :=
  match c.request, c.result with
  | .changePassword userId _, .ok _ => some userId
  | _, _ => none

/-- When a successful change of the password ends, every reset token of the user is used or expired. -/
def ChangedWithoutTokens (c : CallRecord) : Prop :=
  ∀ row ∈ c.before.db.oneTimeTokens .passwordReset, changedUser? c = some row.userId → row.Dead c.after.now

/-- The reset tokens issued for a user before the password was replaced are refused after it, and the
calls that present them change nothing. -/
def TokensVoided (svc : AuthService) (past : List CallRecord) : Prop :=
  ∀ newer c older userId, past = newer ++ c :: older → PasswordReplaced svc c userId →
    ∀ token, (userId, token) ∈ Tickets.issues (ticketHistory .passwordReset older) →
      ∀ d ∈ newer, d.request.oneTimeToken? = some (.passwordReset, token) →
        (∃ e, d.result = .error e) ∧ d.after.db = d.before.db

/-- No other token of the user is unused. -/
def Newest (table : OneTimeTokens) (t : OneTimeToken) : Prop :=
  ∀ t' ∈ table, t'.userId = t.userId → t'.usedAt = none → t' = t

/-- The user has at most one unused token. -/
def OneLiveOf (userId : Uuid) (table : OneTimeTokens) : Prop :=
  ∀ t ∈ table, ∀ t' ∈ table, t.userId = userId → t'.userId = userId → t.usedAt = none → t'.usedAt = none → t = t'

/-- Every row of the later table was there before, or is the only unused one of its user. -/
def Renews (table table' : OneTimeTokens) : Prop :=
  ∀ t ∈ table', (∃ q ∈ table, q.Later t) ∨ Newest table' t

/-- A table that has not changed is renewed. -/
theorem Renews.of_eq {table table' : OneTimeTokens} (h : table' = table) : Renews table table' := by
  intro t ht
  rw [h] at ht
  exact Or.inl ⟨t, ht, OneTimeToken.Later.refl t⟩

/-- After the unused tokens of the user were superseded, a stored one is the only one. -/
theorem AuthService.StoresOneTime.renews {issuedAt : Instant} {db db' : Db}
    (h : svc.StoresOneTime purpose userId issuedAt db token db') :
    Renews (db.oneTimeTokens purpose) (db'.oneTimeTokens purpose) ∧
      ∃ row ∈ db'.oneTimeTokens purpose, row.userId = userId ∧ row.tokenHash = svc.hashToken token ∧
        Newest (db'.oneTimeTokens purpose) row := by
  obtain ⟨bytes, fresh, t, now, rfl, hinsert⟩ := h
  have hrows (row : OneTimeToken) := Table.mem_insert? (Db.insertOneTimeToken?_spec hinsert).2.2.1 (r := row)
  have hclears : (Statement.invalidateTokens purpose userId).run fresh t db =
    .ok (_, db.supersede purpose userId t) := rfl
  have hcleared := noneLive_invalidateTokens hclears
  have hnewest : Newest (db'.oneTimeTokens purpose) (newOneTimeToken fresh now userId
      (svc.hashToken (base64UrlEncode bytes.toList)) (issuedAt + seconds (svc.config.lifetime purpose))) := by
    intro t' ht' huser hunused
    rcases (hrows t').mp ht' with hold | rfl
    · have hused := hcleared t' hold huser
      rw [hunused] at hused
      cases hused
    · rfl
  constructor
  · intro row hrow
    rcases (hrows row).mp hrow with hold | rfl
    · exact Or.inl (later_of_mem_markUsed hold)
    · exact Or.inr hnewest
  · exact ⟨_, (hrows _).mpr (Or.inr rfl), rfl, rfl, hnewest⟩

/-- A user with at most one unused token keeps at most one. -/
theorem OneLiveOf.renews {table table' : OneTimeTokens} (h : OneLiveOf userId table)
    (hrenews : Renews table table') :
    OneLiveOf userId table' := by
  intro t ht t' ht' huser huser' hunused hunused'
  rcases hrenews t ht with ⟨q, hq, hlater⟩ | hnewest
  · rcases hrenews t' ht' with ⟨q', hq', hlater'⟩ | hnewest'
    · have hsame : q = q' := h q hq q' hq' (hlater.userId.symm.trans huser) (hlater'.userId.symm.trans huser')
        (hlater.unused hunused) (hlater'.unused hunused')
      exact Table.eq_of_pk ht ht' (hlater.id.trans ((congrArg OneTimeToken.id hsame).trans hlater'.id.symm))
    · exact hnewest' t ht (huser.trans huser'.symm) hunused
  · exact (hnewest t' ht' (huser'.trans huser.symm) hunused').symm

/-- The user of a newest token has at most one unused token. -/
theorem Newest.oneLiveOf {table : OneTimeTokens} {t : OneTimeToken} (h : Newest table t) :
    OneLiveOf t.userId table := by
  intro t₁ ht₁ t₂ ht₂ huser₁ huser₂ hunused₁ hunused₂
  exact (h t₁ ht₁ huser₁ hunused₁).trans (h t₂ ht₂ huser₂ hunused₂).symm

section Calls

variable {request : Request} {res : Except Failure Response}

/-- No call adds a reset token beside an unused one of the same user. -/
theorem renews_of_exec (h : (svc.alone faults).Exec (svc.serve request) w tr res w') :
    Renews (w.db.oneTimeTokens .passwordReset) (w'.db.oneTimeTokens .passwordReset) := by
  have hsame {db : Db} (hdb : w'.db = db) (htokens : db.oneTimeTokens = w.db.oneTimeTokens) :
      Renews (w.db.oneTimeTokens .passwordReset) (w'.db.oneTimeTokens .passwordReset) := by
    apply Renews.of_eq
    rw [hdb, htokens]
  have hmarked {p : OneTimeToken → Bool} {now : Instant} (htable : w'.db.oneTimeTokens .passwordReset =
      (w.db.markUsed .passwordReset p now).oneTimeTokens .passwordReset) :
      Renews (w.db.oneTimeTokens .passwordReset) (w'.db.oneTimeTokens .passwordReset) := by
    intro t ht
    rw [htable] at ht
    exact Or.inl (later_of_mem_markUsed ht)
  cases request with
  | forgotPassword email =>
    obtain ⟨res, hforgot, rfl⟩ := alone_answer h
    rcases forgotPassword_ending hforgot with ⟨-, -, hdb | ⟨user, t, -, hdb⟩⟩ | ⟨-, -, hdb⟩ |
      ⟨user, -, ⟨-, -, hdb, -⟩ | ⟨token, issuedAt, -, -, hstores⟩⟩
    · exact hsame hdb rfl
    · exact hmarked (by rw [hdb]; rfl)
    · exact hsame hdb rfl
    · exact hsame hdb rfl
    · exact hstores.renews.1
  | resetPassword r =>
    obtain ⟨res, hreset, rfl⟩ := alone_answer h
    cases resetPassword_outcome hreset with
    | weak _ hdb => exact hsame hdb rfl
    | unfound _ _ hdb => exact hsame hdb rfl
    | unhashed _ _ hdb => exact hsame hdb rfl
    | failedEarly _ _ _ hdb => exact hsame hdb rfl
    | unmarked _ _ _ _ _ hdb => exact hsame hdb rfl
    | unrevoked _ _ _ _ _ hdb => exact hmarked (by rw [hdb]; rfl)
    | done _ _ _ _ hdb => exact hmarked (by rw [hdb]; rfl)
  | _ => exact .of_eq (tokens_of_exec rfl h)

/-- A token that is issued is stored, as the only unused one of its user. -/
theorem newest_of_issue (h : (svc.alone faults).Exec (svc.serve request) w tr res w')
    (hevent : ticketEvent .passwordReset ⟨request, w, tr, res, w'⟩ = .issue userId token) :
    ∃ row ∈ w'.db.oneTimeTokens .passwordReset, row.userId = userId ∧ row.tokenHash = svc.hashToken token ∧
      Newest (w'.db.oneTimeTokens .passwordReset) row := by
  cases request with
  | forgotPassword email =>
    obtain ⟨res, hforgot, rfl⟩ := alone_answer h
    rcases forgotPassword_ending hforgot with ⟨-, ⟨e, rfl⟩, -⟩ | ⟨hnone, rfl, -⟩ |
      ⟨user, huser, ⟨⟨fault, rfl⟩, -⟩ | ⟨issued, issuedAt, rfl, -, hstores⟩⟩
    · cases hevent
    · simp [ticketEvent, Except.map, hnone] at hevent
    · cases hevent
    · simp only [ticketEvent, Except.map, huser, Tickets.Event.issue.injEq] at hevent
      obtain ⟨rfl, rfl⟩ := hevent
      exact hstores.renews.2
  | resetPassword r => cases res <;> cases hevent
  | _ => cases hevent

/-- A reset with a used or expired token is refused and changes nothing. -/
theorem reset_refused {r : ResetPasswordRequest} {res : Except Failure Unit} {row : OneTimeToken}
    (h : (svc.alone faults).Exec (svc.resetPassword r) w tr res w') (hrow : row ∈ w.db.oneTimeTokens .passwordReset)
    (hhash : row.tokenHash = svc.hashToken r.token) (hdead : row.Dead w.now) :
    (∃ e, res = .error e) ∧ w'.db = w.db := by
  have hunfound {t : ℕ} {tokenId userId : Uuid} (ht : w.During w' t)
      (hfound : w.db.validToken? .passwordReset (svc.hashToken r.token) t = some (tokenId, userId)) : False := by
    obtain ⟨found, hmem, -, -, hfoundHash, hexpires, hunused⟩ := Db.validToken?_row hfound
    obtain rfl : found = row := Table.eq_of_unique hmem hrow (hfoundHash.trans hhash.symm)
    rcases hdead with hused | hexpired
    · rw [hunused] at hused
      cases hused
    · have hle : w.now ≤ (t : ℤ) := Int.ofNat_le.mpr ht.1
      exact absurd (Int.le_trans hexpired hle) (Int.not_le.mpr hexpires)
  cases resetPassword_outcome h with
  | weak _ hdb => exact ⟨⟨_, rfl⟩, hdb⟩
  | unfound _ _ hdb => exact ⟨⟨_, rfl⟩, hdb⟩
  | unhashed _ _ hdb => exact ⟨⟨_, rfl⟩, hdb⟩
  | failedEarly _ hfails _ hdb =>
    obtain ⟨e, -, hres, -⟩ := hfails
    exact ⟨⟨_, hres⟩, hdb⟩
  | unmarked ht hfound => exact (hunfound ht hfound).elim
  | unrevoked ht hfound => exact (hunfound ht hfound).elim
  | done ht _ hfound => exact (hunfound ht hfound).elim

end Calls

/-- After a reset no reset token of its user is unused. -/
theorem noneLive_of_reset {r : ResetPasswordRequest} {row : OneTimeToken}
    (h : (svc.alone faults).Exec (svc.resetPassword r) w tr (.ok ()) w')
    (hrow : row ∈ w.db.oneTimeTokens .passwordReset) (hhash : row.tokenHash = svc.hashToken r.token)
    (hone : OneLiveOf row.userId (w.db.oneTimeTokens .passwordReset)) :
    NoneLive row.userId (w'.db.oneTimeTokens .passwordReset) := by
  generalize hres : (Except.ok () : Except Failure Unit) = res at h
  cases resetPassword_outcome h with
  | @done _ t t₁ t₂ t₃ tokenId userId stored _ _ hfound _ hdb =>
    obtain ⟨found, hmem, rfl, rfl, hfoundHash, -, hunused⟩ := Db.validToken?_row hfound
    obtain rfl : found = row := Table.eq_of_unique hmem hrow (hfoundHash.trans hhash.symm)
    have htable : w'.db.oneTimeTokens .passwordReset =
      (w.db.consume .passwordReset found.id t₂).oneTimeTokens .passwordReset := by
      rw [hdb]
      rfl
    intro t' ht' huser
    rw [htable] at ht'
    obtain ⟨q, hq, rfl⟩ := Db.mem_markUsed.mp ht'
    split
    · rfl
    · rename_i hother
      rw [if_neg hother] at huser
      by_contra hlive
      have hsame : q = found := hone q hq found hmem huser rfl (Option.not_isSome_iff_eq_none.mp hlive) hunused
      exact hother (decide_eq_true (congrArg OneTimeToken.id hsame))
  | failedEarly _ hfails =>
    obtain ⟨e, -, herror, -⟩ := hfails
    cases hres.trans herror
  | unmarked _ _ _ _ hfails =>
    obtain ⟨e, -, herror, -⟩ := hfails
    cases hres.trans herror
  | unrevoked _ _ _ _ hfails =>
    obtain ⟨e, -, herror, -⟩ := hfails
    cases hres.trans herror
  | _ => cases hres

/-- Once the password was replaced, every reset token of the user is used or expired. -/
theorem PasswordReplaced.dead (h : PasswordReplaced svc c userId)
    (hexec : (svc.alone faults).Exec (svc.serve c.request) c.before c.trace c.result c.after)
    (hone : OneLiveOf userId (c.before.db.oneTimeTokens .passwordReset)) (hrule : ChangedWithoutTokens c) :
    ∀ row ∈ c.after.db.oneTimeTokens .passwordReset, row.userId = userId → row.Dead c.after.now := by
  obtain ⟨request, before, tr, result, after⟩ := c
  unfold PasswordReplaced at h
  split at h
  · rename_i id r response hrequest hresult
    simp only at hrequest hresult hexec
    subst hrequest hresult h
    intro row hrow huser
    rw [tokens_of_exec rfl hexec] at hrow
    exact hrule row hrow (congrArg some huser.symm)
  · rename_i r response hrequest hresult
    simp only at hrequest hresult hexec
    subst hrequest hresult
    obtain ⟨presented, hpresented, hhash, rfl⟩ := h
    obtain ⟨res, hreset, hok⟩ := alone_answer hexec
    cases res with
    | error e => cases hok
    | ok done =>
      intro row hrow huser
      exact Or.inl (noneLive_of_reset hreset hpresented hhash hone row hrow huser)
  · exact h.elim

/-- What a sequential run keeps: the reset tokens that were issued are in the table, and their users have
at most one unused. -/
structure ResetLedger (svc : AuthService) (past : List CallRecord) (table : OneTimeTokens) : Prop where
  stored : ∀ userId token, (userId, token) ∈ Tickets.issues (ticketHistory .passwordReset past) →
    ∃ row ∈ table, row.userId = userId ∧ row.tokenHash = svc.hashToken token
  single : ∀ userId token, (userId, token) ∈ Tickets.issues (ticketHistory .passwordReset past) →
    OneLiveOf userId table

/-- One call keeps it. -/
theorem ResetLedger.call (h : ResetLedger svc past (c.before.db.oneTimeTokens .passwordReset))
    (hexec : (svc.alone faults).Exec (svc.serve c.request) c.before c.trace c.result c.after) :
    ResetLedger svc (c :: past) (c.after.db.oneTimeTokens .passwordReset) := by
  have hkept (userId : Uuid) (token : String)
      (hrow : ∃ row ∈ c.before.db.oneTimeTokens .passwordReset, row.userId = userId ∧
        row.tokenHash = svc.hashToken token) :
      ∃ row ∈ c.after.db.oneTimeTokens .passwordReset, row.userId = userId ∧
        row.tokenHash = svc.hashToken token := by
    obtain ⟨row, hrow, huser, hhash⟩ := hrow
    obtain ⟨row', hrow', hlater⟩ := (alone_precedes hexec).db.oneTimeTokens .passwordReset row hrow
    exact ⟨row', hrow', hlater.userId.trans huser, hlater.tokenHash.trans hhash⟩
  have hissues (userId : Uuid) (token : String)
      (hissued : (userId, token) ∈ Tickets.issues (ticketHistory .passwordReset (c :: past))) :
      ticketEvent .passwordReset c = .issue userId token ∨
        (userId, token) ∈ Tickets.issues (ticketHistory .passwordReset past) := by
    rw [ticketHistory, List.map_cons] at hissued
    cases hevent : ticketEvent .passwordReset c with
    | issue user issued =>
      rw [hevent] at hissued
      rcases List.mem_cons.mp hissued with heq | hold
      · obtain ⟨rfl, rfl⟩ := Prod.mk.inj heq
        exact Or.inl rfl
      · exact Or.inr hold
    | redeem redeemed => exact Or.inr (by rw [hevent] at hissued; exact hissued)
    | pass => exact Or.inr (by rw [hevent] at hissued; exact hissued)
  constructor
  · intro userId token hissued
    rcases hissues userId token hissued with hevent | hold
    · obtain ⟨row, hrow, huser, hhash, -⟩ := newest_of_issue hexec hevent
      exact ⟨row, hrow, huser, hhash⟩
    · exact hkept userId token (h.stored userId token hold)
  · intro userId token hissued
    rcases hissues userId token hissued with hevent | hold
    · obtain ⟨row, hrow, rfl, -, hnewest⟩ := newest_of_issue hexec hevent
      exact hnewest.oneLiveOf
    · exact (h.single userId token hold).renews (renews_of_exec hexec)

/-- Every run keeps it. -/
theorem resetLedger_of_serial (h : (svc.alone faults).Serial svc.serve first past w) :
    ResetLedger svc past (w.db.oneTimeTokens .passwordReset) := by
  induction h with
  | start => exact ⟨fun _ _ hissued => absurd hissued List.not_mem_nil, fun _ _ hissued =>
      absurd hissued List.not_mem_nil⟩
  | call _ hexec ih => exact ih.call (c := ⟨_, _, _, _, _⟩) hexec

/-- In every sequential run in which no user has a usable reset token when a change of the password ends,
the reset tokens issued before a reset or change are refused for ever after it. -/
theorem password_change_voids_tokens (svc : AuthService) (faults : Bool) (first : World) (past : List CallRecord)
    (w : World) (hrun : (svc.alone faults).Serial svc.serve first past w)
    (hrule : ∀ c ∈ past, ChangedWithoutTokens c) :
    TokensVoided svc past := by
  intro newer c older userId heq hreplaced token hissued d hd hpresents
  subst heq
  obtain ⟨hbefore, hexec⟩ := hrun.call_of_suffix (List.suffix_append newer (c :: older))
  have hledger := resetLedger_of_serial hbefore
  have hdead := hreplaced.dead hexec (hledger.single userId token hissued)
    (hrule c (List.mem_append_right _ List.mem_cons_self))
  obtain ⟨row, hrow, huser, hhash⟩ := hledger.stored userId token hissued
  obtain ⟨row₁, hrow₁, hlater₁⟩ := (alone_precedes hexec).db.oneTimeTokens .passwordReset row hrow
  have hdead₁ := hdead row₁ hrow₁ (hlater₁.userId.trans huser)
  have hprecedes := hrun.after_le (svc.alone_monotone faults) hd
  have hcall := hrun.exec (List.mem_append_left _ hd)
  obtain ⟨row₂, hrow₂, hlater₂⟩ := hprecedes.db.oneTimeTokens .passwordReset row₁ hrow₁
  have hdead₂ := hdead₁.later hlater₂ hprecedes.now_le
  have hhash₂ : row₂.tokenHash = svc.hashToken token := hlater₂.tokenHash.trans (hlater₁.tokenHash.trans hhash)
  obtain ⟨request, before, tr, result, after⟩ := d
  cases request with
  | resetPassword r =>
    obtain ⟨-, rfl⟩ := Prod.mk.inj (Option.some.inj hpresents)
    obtain ⟨res, hreset, rfl⟩ := alone_answer hcall
    obtain ⟨⟨e, rfl⟩, hdb⟩ := reset_refused hreset hrow₂ hhash₂ hdead₂
    exact ⟨⟨e, rfl⟩, hdb⟩
  | verifyEmail _ => cases hpresents
  | _ => cases hpresents

section Runs

open Reference

instance (t : OneTimeToken) (now : Instant) : Decidable (t.Dead now) := inferInstanceAs (Decidable (_ ∨ _))

instance (c : CallRecord) : Decidable (ChangedWithoutTokens c) :=
  inferInstanceAs (Decidable (∀ row ∈ (c.before.db.oneTimeTokens .passwordReset).rows, _ → _))

/-- A change of the password replaces it. -/
theorem replaced_of_changedUser (h : changedUser? c = some userId) : PasswordReplaced svc c userId := by
  unfold changedUser? at h
  split at h
  · rename_i id r response hrequest hresult
    obtain rfl := Option.some.inj h
    simp only [PasswordReplaced, hrequest, hresult]
  · cases h

/-- The one-time token a call draws with the choice `k`. -/
def drawnToken (k : ℕ) : String := base64UrlEncode (choice k).bytes.toList

/-- A user registers, resets the password with the second of two tokens, changes it and presents the first
token, most recent call first. -/
def resetThenChange : List (Request × List Choice) :=
  [(.resetPassword ⟨drawnToken 2, "Ijklmno3", "Ijklmno3"⟩, List.replicate 1 (choice 6)),
    (.changePassword 1 ⟨"Hijklmn2", "Cdefghi4", "Cdefghi4"⟩, List.replicate 5 (choice 5)),
    (.resetPassword ⟨drawnToken 3, "Hijklmn2", "Hijklmn2"⟩, List.replicate 5 (choice 4)),
    (.forgotPassword "a@b.c", List.replicate 5 (choice 3)),
    (.forgotPassword "a@b.c", List.replicate 5 (choice 2)),
    (.register ⟨"a@b.c", "Abcdefg1", "Abcdefg1", "A"⟩, List.replicate 3 (choice 1))]

/-- The password was changed while no reset token was usable. -/
def changesWithout (calls : List CallRecord) (_ : World) : Bool :=
  (∀ c ∈ calls, ChangedWithoutTokens c) ∧ (∃ c ∈ calls, changedUser? c = some 1) ∧
    ∃ c ∈ calls, c.request.oneTimeToken? = some (.passwordReset, drawnToken 3) ∧ c.result = .ok .unit

/-- A user resets a password, and the tokens from before are void. -/
theorem password_change_voids_tokens_after_reset : ∃ past w, service.smooth.Serial service.serve world past w ∧
    (∃ c ∈ past, changedUser? c = some 1) ∧ TokensVoided service past := by
  have hpasses : ((service.executor.serial (AuthService.admits false) service.serve resetThenChange world).any
      fun run => changesWithout run.1 run.2) = true := by decide +kernel
  obtain ⟨past, w, hrun, htest⟩ := Executor.exists_serial service.alone_perform changesWithout hpasses
  obtain ⟨hrule, hchanged, -⟩ := of_decide_eq_true htest
  exact ⟨past, w, hrun, hchanged, password_change_voids_tokens service false world past w hrun hrule⟩

/-- A user registers, asks for a reset token, changes the password and then presents the token, most
recent call first. -/
def changeBeforeReset : List (Request × List Choice) :=
  [(.resetPassword ⟨drawnToken 2, "Hijklmn2", "Hijklmn2"⟩, List.replicate 5 (choice 4)),
    (.changePassword 1 ⟨"Abcdefg1", "Cdefghi4", "Cdefghi4"⟩, List.replicate 5 (choice 3)),
    (.forgotPassword "a@b.c", List.replicate 5 (choice 2)),
    (.register ⟨"a@b.c", "Abcdefg1", "Abcdefg1", "A"⟩, List.replicate 3 (choice 1))]

/-- The token was issued before the change, and accepted after it. -/
def acceptsAfterChange (calls : List CallRecord) (_ : World) : Bool :=
  match calls with
  | d :: c :: older => d.request.oneTimeToken? = some (.passwordReset, drawnToken 2) ∧ d.result = .ok .unit ∧
      changedUser? c = some 1 ∧ (1, drawnToken 2) ∈ Tickets.issues (ticketHistory .passwordReset older)
  | _ => false

/-- A reset token that was issued before a change of the password is accepted after it. -/
theorem reset_after_change : ∃ past w, service.smooth.Serial service.serve world past w ∧
    ¬ TokensVoided service past := by
  have hpasses : ((service.executor.serial (AuthService.admits false) service.serve changeBeforeReset world).any
      fun run => acceptsAfterChange run.1 run.2) = true := by decide +kernel
  obtain ⟨past, w, hrun, htest⟩ := Executor.exists_serial service.alone_perform acceptsAfterChange hpasses
  refine ⟨past, w, hrun, fun hvoided => ?_⟩
  unfold acceptsAfterChange at htest
  split at htest
  · rename_i d c older
    obtain ⟨hpresents, hresult, hchanged, hissued⟩ := of_decide_eq_true htest
    obtain ⟨⟨e, herror⟩, -⟩ := hvoided [d] c older 1 rfl (replaced_of_changedUser hchanged) (drawnToken 2) hissued d
      List.mem_cons_self hpresents
    rw [hresult] at herror
    cases herror
  · cases htest

end Runs

end RustPressAuth
