import RustPressAuth.SessionOutcomes
import RustPressAuth.UserRows

/-!
# How registrations and one-time tokens end

The outcomes of the operations that create users and that issue or redeem one-time
tokens, when the call runs alone: the result together with the database it leaves.
-/

namespace RustPressAuth

open Atomic Program Machine Relational

/-- How a registration ends: with which result, and in which database. -/
inductive RegisterOutcome (svc : AuthService) (r : RegisterRequest) (w : World) : Except Failure User → World → Prop
  | refused {e : Failure} {w' : World} (hdb : w'.db = w.db) : RegisterOutcome svc r w (.error e) w'
  | created {user : User} {w' : World} {fresh : Uuid} {t : ℕ} {email passwordHash name : String}
      (hnew : user = newUser fresh t email passwordHash name) (hhashed : svc.hashesTo r.password passwordHash)
      (hinsert : w.db.insertUser? user = some w'.db) : RegisterOutcome svc r w (.ok user) w'

variable {svc : AuthService} {faults : Bool} {β : Type} {w w' : World} {tr : Trace}

/-- Every run of `register` alone, with any statement failing, ends as listed. -/
theorem register_outcome {res : Except Failure User} {r : RegisterRequest}
    (h : (svc.alone faults).Exec (svc.register r) w tr res w') : RegisterOutcome svc r w res w' := by
  simp only [AuthService.register, AuthService.validatePassword, selectUserIdByEmail, insertUser] at h
  rcases alone_check h with ⟨-, rfl, hdb, -⟩ | ⟨-, hfind⟩
  · exact .refused hdb
  rcases alone_query hfind with ⟨-, e, -, rfl, hdb⟩ | ⟨t, fresh, found, db, tr₁, -, hrun, -, hfree⟩
  · exact .refused hdb
  obtain ⟨-, rfl⟩ := Prod.mk.inj (Except.ok.inj hrun)
  rcases alone_check hfree with ⟨-, rfl, hdb, -⟩ | ⟨-, hhash⟩
  · exact .refused hdb
  rcases alone_hashPassword hhash with ⟨salt, -, rfl, hdb⟩ | ⟨t₁, salt, passwordHash, tr₂, -, hargon, -, hinsert⟩
  · exact .refused hdb
  rcases alone_lastQuery hinsert with ⟨e, rfl, hdb⟩ | ⟨t₂, fresh₂, user, -, hrun₂, rfl⟩
  · exact .refused hdb
  simp only [Statement.run, except_bind_eq_ok, orError_eq_ok] at hrun₂
  obtain ⟨email', -, hash', hstored, name', -, db₃, hnew, heq⟩ := hrun₂
  obtain ⟨rfl, hdb⟩ := Prod.mk.inj (Except.ok.inj heq)
  rw [hdb] at hnew
  exact .created rfl ⟨salt, passwordHash, hargon, hstored⟩ hnew

/-- The database with the unused tokens of one user marked used. -/
def Db.supersede (db : Db) (purpose : Purpose) (userId : Uuid) (now : Instant) : Db :=
  db.markUsed purpose (fun t => t.userId = userId ∧ t.usedAt = none) now

/-- The database with the email of one user verified. -/
def Db.verifyUser (db : Db) (id : Uuid) (now : Instant) : Db :=
  db.updateUser id (User.verified now) (User.verified_id now) (User.verified_email now)

/-- A new one-time token of the user is stored, and replaces the unused ones. -/
def AuthService.StoresOneTime (svc : AuthService) (purpose : Purpose) (userId : Uuid) (issuedAt : Instant) (db : Db)
    (token : String) (db' : Db) : Prop :=
  ∃ (bytes : Vector UInt8 32) (fresh : Uuid) (t now : ℕ), token = base64UrlEncode bytes.toList ∧
    (db.supersede purpose userId t).insertOneTimeToken? purpose (newOneTimeToken fresh now userId
      (svc.hashToken token) (issuedAt + seconds (svc.config.lifetime purpose))) = some db'

/-- How the issuing of a one-time token ends when a statement fails: nothing is changed, or only the unused
tokens of the user are gone. -/
def IssueFailure (purpose : Purpose) (userId : Uuid) (w : World) (res : Except Failure String)
    (w' : World) : Prop :=
  (∃ e, res = .error (.err (.database e))) ∧ (w'.db = w.db ∨ ∃ t : ℕ, w'.db = w.db.supersede purpose userId t)

/-- A one-time token is stored and returned, unless its expiry cannot be computed or a statement fails. -/
theorem issueOneTimeToken_ending {res : Except Failure String} (purpose : Purpose) {userId : Uuid}
    (h : (svc.alone faults).Exec (svc.issueOneTimeToken purpose (svc.config.lifetime purpose) userId) w tr res w') :
    Panicked (svc.config.lifetime purpose) w tr res w' ∨ (faults = true ∧ IssueFailure purpose userId w res w') ∨
      ∃ (token : String) (issuedAt : ℕ), res = .ok token ∧ w.During w' issuedAt ∧
        svc.StoresOneTime purpose userId issuedAt w.db token w'.db := by
  simp only [AuthService.issueOneTimeToken] at h
  obtain ⟨t₁, bytes, tr₁, ht₁, rfl, hnow⟩ := alone_bytes h
  rcases alone_expiry hnow with hpanicked | ⟨issuedAt, tr₂, ht₂, -, -, hsupersede⟩
  · exact Or.inl (hpanicked.after [_] ht₁ rfl)
  have hend : issuedAt ≤ w'.clock := (alone_precedes hsupersede).clock
  rcases alone_query hsupersede with ⟨hfaults, e, -, hres, hdb⟩ | ⟨t₃, fresh₃, n₃, db₃, tr₃, -, hrun₃, -, hinsert⟩
  · exact Or.inr (Or.inl ⟨hfaults, ⟨e, hres⟩, Or.inl hdb⟩)
  obtain rfl : w.db.supersede purpose userId t₃ = db₃ := (Prod.mk.inj (Except.ok.inj hrun₃)).2
  rcases alone_query hinsert with ⟨hfaults, e, -, hres, hdb⟩ | ⟨now, fresh, n, db, tr₄, -, hrun, -, hreturn⟩
  · exact Or.inr (Or.inl ⟨hfaults, ⟨e, hres⟩, Or.inr ⟨t₃, hdb⟩⟩)
  obtain ⟨hres, hdb, -⟩ := alone_ok hreturn
  simp only [Statement.run, except_bind_eq_ok, orError_eq_ok, varchar_hashToken] at hrun
  obtain ⟨_, hhash, db', hnew, heq⟩ := hrun
  obtain rfl := Option.some.inj hhash
  obtain rfl : db' = db := (Prod.mk.inj (Except.ok.inj heq)).2
  have hbegin : w.clock ≤ issuedAt := by
    simp only at ht₁ ht₂
    omega
  have hafter : db' = w'.db := hdb.symm
  rw [hafter] at hnew
  exact Or.inr (Or.inr ⟨_, issuedAt, hres, ⟨hbegin, hend⟩, bytes, fresh, t₃, now, rfl, hnew⟩)

/-- Where no statement fails, a one-time token is stored and returned, unless its expiry cannot be computed. -/
theorem issueOneTimeToken_outcome {res : Except Failure String} (purpose : Purpose) {userId : Uuid}
    (h : svc.smooth.Exec (svc.issueOneTimeToken purpose (svc.config.lifetime purpose) userId) w tr res w') :
    Panicked (svc.config.lifetime purpose) w tr res w' ∨ ∃ (token : String) (issuedAt : ℕ), res = .ok token ∧
      w.During w' issuedAt ∧ svc.StoresOneTime purpose userId issuedAt w.db token w'.db := by
  rcases issueOneTimeToken_ending purpose h with hpanicked | ⟨hfaults, -⟩ | hissued
  · exact Or.inl hpanicked
  · cases hfaults
  · exact Or.inr hissued

/-- How `forgotPassword` ends when a statement fails: nothing is changed, or only the unused reset tokens
of the user with the email are gone. -/
def ForgotFailure (email : String) (w : World) (res : Except Failure String) (w' : World) : Prop :=
  (∃ e, res = .error (.err (.database e))) ∧ (w'.db = w.db ∨ ∃ user, ∃ t : ℕ, w.db.userByEmail? email = some user ∧
    w'.db = w.db.supersede .passwordReset user.id t)

/-- `forgotPassword` issues a token to the user with the email, if there is one, unless its expiry cannot be
computed or a statement fails. -/
theorem forgotPassword_ending {res : Except Failure String} {email : String}
    (h : (svc.alone faults).Exec (svc.forgotPassword email) w tr res w') :
    (faults = true ∧ ForgotFailure email w res w') ∨
      (w.db.userByEmail? email = none ∧ res = .ok "" ∧ w'.db = w.db) ∨
      ∃ user, w.db.userByEmail? email = some user ∧ (Panicked svc.config.passwordResetExpiration w tr res w' ∨
        ∃ token, ∃ issuedAt : ℕ, res = .ok token ∧ w.During w' issuedAt ∧
          svc.StoresOneTime .passwordReset user.id issuedAt w.db token w'.db) := by
  simp only [AuthService.forgotPassword, selectUserByEmail] at h
  rcases alone_query h with ⟨hfaults, e, -, hres, hdb⟩ | ⟨t, fresh, found, db, tr₁, ht, hrun, rfl, hfound⟩
  · exact Or.inl ⟨hfaults, ⟨e, hres⟩, Or.inl hdb⟩
  obtain ⟨rfl, rfl⟩ := Prod.mk.inj (Except.ok.inj hrun)
  cases huser : w.db.userByEmail? email with
  | none =>
    rw [huser] at hfound
    obtain ⟨hres, hdb, -⟩ := alone_ok hfound
    exact Or.inr (Or.inl ⟨rfl, hres, hdb⟩)
  | some user =>
    rw [huser] at hfound
    rcases issueOneTimeToken_ending .passwordReset hfound with hpanicked | ⟨hfaults, hres, hdb | ⟨t', hdb⟩⟩ |
      ⟨token, issuedAt, hres, hduring, hstores⟩
    · exact Or.inr (Or.inr ⟨user, rfl, Or.inl (hpanicked.after [_] ht rfl)⟩)
    · exact Or.inl ⟨hfaults, hres, Or.inl hdb⟩
    · exact Or.inl ⟨hfaults, hres, Or.inr ⟨user, t', huser, hdb⟩⟩
    · have hlater : w.During w' issuedAt := ⟨Nat.le_trans ht hduring.1, hduring.2⟩
      exact Or.inr (Or.inr ⟨user, rfl, Or.inr ⟨token, issuedAt, hres, hlater, hstores⟩⟩)

/-- Where no statement fails, `forgotPassword` issues a token to the user with the email, unless its expiry
cannot be computed. -/
theorem forgotPassword_outcome {res : Except Failure String} {email : String}
    (h : svc.smooth.Exec (svc.forgotPassword email) w tr res w') :
    (w.db.userByEmail? email = none ∧ res = .ok "" ∧ w'.db = w.db) ∨
      ∃ user, w.db.userByEmail? email = some user ∧ (Panicked svc.config.passwordResetExpiration w tr res w' ∨
        ∃ token, ∃ issuedAt : ℕ, res = .ok token ∧ w.During w' issuedAt ∧
          svc.StoresOneTime .passwordReset user.id issuedAt w.db token w'.db) := by
  rcases forgotPassword_ending h with ⟨hfaults, -⟩ | houtcome
  · cases hfaults
  · exact houtcome

/-- Where no statement fails, `resendVerification` is refused, has nothing to do, panics, or issues a token. -/
theorem resendVerification_outcome {res : Except Failure (Option String)} {userId : Uuid}
    (h : svc.smooth.Exec (svc.resendVerification userId) w tr res w') :
    ((∀ token, res ≠ .ok (some token)) ∧ w'.db = w.db) ∨
      ∃ token, ∃ issuedAt : ℕ, res = .ok (some token) ∧ w.During w' issuedAt ∧
        svc.StoresOneTime .emailVerification userId issuedAt w.db token w'.db := by
  simp only [AuthService.resendVerification, selectUserById] at h
  obtain ⟨t, fresh, found, db, tr₁, ht, hrun, -, hfound⟩ := smooth_query h
  obtain ⟨rfl, rfl⟩ := Prod.mk.inj (Except.ok.inj hrun)
  rcases alone_okOr hfound with ⟨-, rfl, hdb, -⟩ | ⟨user, -, hissue⟩
  · exact Or.inl ⟨by simp, hdb⟩
  split at hissue
  · obtain ⟨rfl, hdb, -⟩ := alone_ok hissue
    exact Or.inl ⟨by simp, hdb⟩
  · rcases exec_bind.mp hissue with ⟨e, herror, rfl⟩ | ⟨token, w₁, tr₂, tr₃, hcreate, hreturn, -⟩
    · rcases issueOneTimeToken_outcome .emailVerification herror with hpanicked | ⟨token, issuedAt, hres, -⟩
      · exact Or.inl ⟨by simp, hpanicked.db⟩
      · cases hres
    · obtain ⟨hres, hdb, -⟩ := alone_ok hreturn
      rcases issueOneTimeToken_outcome .emailVerification hcreate with ⟨⟨fault, hpanic⟩, -⟩ |
        ⟨token', issuedAt, htoken, hduring, hstores⟩
      · cases hpanic
      obtain rfl := Except.ok.inj htoken
      rw [← hdb] at hstores
      exact Or.inr ⟨token, issuedAt, hres, ⟨Nat.le_trans ht hduring.1,
        Nat.le_trans hduring.2 (alone_precedes hreturn).clock⟩, hstores⟩

/-- How an email verification ends where no statement fails: with which result, and in which database. -/
inductive VerifyOutcome (svc : AuthService) (token : String) (w : World) : Except Failure User → World → Prop
  | unfound {w' : World} {t : ℕ} (ht : w.During w' t)
      (hnone : w.db.validToken? .emailVerification (svc.hashToken token) t = none) (hdb : w'.db = w.db) :
      VerifyOutcome svc token w (.error (.err .invalidToken)) w'
  | done {w' : World} {t t₁ t₂ : ℕ} {tokenId userId : Uuid} {user : User} (ht : w.During w' t)
      (hfound : w.db.validToken? .emailVerification (svc.hashToken token) t = some (tokenId, userId))
      (huser : w.db.user? userId = some user)
      (hdb : w'.db = (w.db.verifyUser userId t₁).consume .emailVerification tokenId t₂) :
      VerifyOutcome svc token w (.ok (user.verified t₁)) w'

/-- Every run of `verifyEmail` alone in which no statement fails ends as listed. -/
theorem verifyEmail_outcome {res : Except Failure User} {token : String}
    (h : svc.smooth.Exec (svc.verifyEmail token) w tr res w') : VerifyOutcome svc token w res w' := by
  simp only [AuthService.verifyEmail, selectValidToken, verifyUserEmail] at h
  obtain ⟨t, fresh, found, db, tr₁, ht, hrun, -, hfound⟩ := smooth_query h
  obtain ⟨rfl, rfl⟩ := Prod.mk.inj (Except.ok.inj hrun)
  have hduring : w.During w' t := ⟨ht, (alone_precedes hfound).clock⟩
  rcases alone_okOr hfound with ⟨hnone, rfl, hdb, -⟩ | ⟨⟨tokenId, userId⟩, hsome, hverify⟩
  · exact .unfound hduring hnone hdb
  obtain ⟨t₁, fresh₁, verified, db₁, tr₂, -, hrun₁, -, hmark⟩ := smooth_query hverify
  obtain ⟨t₂, fresh₂, n₂, db₂, tr₃, -, hrun₂, -, hreturn⟩ := smooth_query hmark
  obtain ⟨rfl, hdb, -⟩ := alone_ok hreturn
  simp only [Statement.run, except_bind_eq_ok, orError_eq_ok] at hrun₁
  obtain ⟨user, huser, heq⟩ := hrun₁
  obtain ⟨rfl, rfl⟩ := Prod.mk.inj (Except.ok.inj heq)
  obtain rfl : (w.db.verifyUser userId t₁).consume .emailVerification tokenId t₂ = db₂ :=
    (Prod.mk.inj (Except.ok.inj hrun₂)).2
  exact .done hduring hsome huser hdb

end RustPressAuth
