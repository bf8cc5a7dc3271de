import RustPressAuth.Effects
import RustPressAuth.Reference
import RustPressAuth.Solo

/-!
# Password changes that fail half-way

A reset and a change are sequences of statements without a transaction: a statement that
fails ends the call, and what was executed before it stays. The outcomes of both
operations are listed with the database they leave. A failure before the password is
replaced leaves everything as it was; a failure after it leaves the new password with
the token unused or the old sessions alive.
-/

namespace RustPressAuth

open Atomic Program Machine Relational

/-- The unused and unexpired token with this hash, as the pair of its id and its user. -/
def Db.validToken? (db : Db) (purpose : Purpose) (tokenHash : String) (now : Instant) : Option (Uuid × Uuid) :=
  ((db.oneTimeTokens purpose).find? fun t =>
    t.tokenHash = tokenHash ∧ t.expiresAt > now ∧ t.usedAt = none).map fun t => (t.id, t.userId)

/-- The database with the password of one user replaced. -/
def Db.replacePassword (db : Db) (id : Uuid) (now : Instant) (stored : String) : Db :=
  db.updateUser id (User.withPassword now stored) (User.withPassword_id now stored)
    (User.withPassword_email now stored)

/-- The database with one token marked used. -/
def Db.consume (db : Db) (purpose : Purpose) (id : Uuid) (now : Instant) : Db :=
  db.markUsed purpose (fun t => t.id = id) now

/-- The database with all refresh tokens of one user revoked. -/
def Db.endSessions (db : Db) (userId : Uuid) (now : Instant) : Db :=
  db.revoke (fun t => t.userId = userId ∧ t.revokedAt = none) now

/-- Argon2 accepts the configured costs and hashes the password with this salt. -/
def AuthService.argon2 (svc : AuthService) (salt password : String) : Option String :=
  if svc.prims.argon2Params svc.config.argon2MemoryCost svc.config.argon2TimeCost svc.config.argon2Parallelism then
    svc.prims.argon2Hash svc.config.argon2MemoryCost svc.config.argon2TimeCost svc.config.argon2Parallelism
      salt password
  else none

/-- The password is stored as this hash, for some salt. -/
def AuthService.hashesTo (svc : AuthService) (password stored : String) : Prop :=
  ∃ salt passwordHash, svc.argon2 salt password = some passwordHash ∧ varchar 255 passwordHash = some stored

/-- The call ended with the error of this statement, its last action. -/
def FailsAt (s : Statement) (tr : Trace) (res : Except Failure Unit) : Prop :=
  ∃ (e : DbError) (front : Trace), res = .error (.err (.database e)) ∧ tr = front ++ [⟨.sql s, .error e⟩]

/-- How a reset ends: with which result, and in which database. -/
inductive ResetOutcome (svc : AuthService) (faults : Bool) (r : ResetPasswordRequest) (w : World) :
    Trace → Except Failure Unit → World → Prop
  | weak {tr : Trace} {w' : World} (hweak : svc.passwordAccepted r.password = false) (hdb : w'.db = w.db) :
      ResetOutcome svc faults r w tr (.error (.err .weakPassword)) w'
  | unfound {tr : Trace} {w' : World} {t : ℕ} (ht : w.During w' t)
      (hnone : w.db.validToken? .passwordReset (svc.hashToken r.token) t = none) (hdb : w'.db = w.db) :
      ResetOutcome svc faults r w tr (.error (.err .invalidToken)) w'
  | unhashed {tr : Trace} {w' : World} {t : ℕ} {salt : String} {found : Uuid × Uuid}
      (hfound : w.db.validToken? .passwordReset (svc.hashToken r.token) t = some found)
      (hnone : svc.argon2 salt r.password = none) (hdb : w'.db = w.db) :
      ResetOutcome svc faults r w tr (.error (.err .internal)) w'
  | failedEarly {tr : Trace} {res : Except Failure Unit} {w' : World} {s : Statement} (hfaults : faults = true)
      (hfails : FailsAt s tr res) (hearly : s = .selectValidToken .passwordReset (svc.hashToken r.token) ∨
        ∃ passwordHash userId, s = .updatePassword passwordHash userId) (hdb : w'.db = w.db) :
      ResetOutcome svc faults r w tr res w'
  | unmarked {tr : Trace} {res : Except Failure Unit} {w' : World} {t t₁ : ℕ} {tokenId userId : Uuid}
      {stored : String} (ht : w.During w' t)
      (hfound : w.db.validToken? .passwordReset (svc.hashToken r.token) t = some (tokenId, userId))
      (hstored : svc.hashesTo r.password stored) (hfaults : faults = true)
      (hfails : FailsAt (.markTokenUsed .passwordReset tokenId) tr res)
      (hdb : w'.db = w.db.replacePassword userId t₁ stored) : ResetOutcome svc faults r w tr res w'
  | unrevoked {tr : Trace} {res : Except Failure Unit} {w' : World} {t t₁ t₂ : ℕ} {tokenId userId : Uuid}
      {stored : String} (ht : w.During w' t)
      (hfound : w.db.validToken? .passwordReset (svc.hashToken r.token) t = some (tokenId, userId))
      (hstored : svc.hashesTo r.password stored) (hfaults : faults = true)
      (hfails : FailsAt (.revokeAllTokens userId) tr res)
      (hdb : w'.db = (w.db.replacePassword userId t₁ stored).consume .passwordReset tokenId t₂) :
      ResetOutcome svc faults r w tr res w'
  | done {tr : Trace} {w' : World} {t t₁ t₂ t₃ : ℕ} {tokenId userId : Uuid} {stored : String} (ht : w.During w' t)
      (haccepted : svc.passwordAccepted r.password = true)
      (hfound : w.db.validToken? .passwordReset (svc.hashToken r.token) t = some (tokenId, userId))
      (hstored : svc.hashesTo r.password stored)
      (hdb : w'.db =
        ((w.db.replacePassword userId t₁ stored).consume .passwordReset tokenId t₂).endSessions userId t₃) :
      ResetOutcome svc faults r w tr (.ok ()) w'

/-- How a change ends: with which result, and in which database. -/
inductive ChangeOutcome (svc : AuthService) (faults : Bool) (userId : Uuid) (r : ChangePasswordRequest)
    (w : World) :
    Trace → Except Failure Unit → World → Prop
  | refused {tr : Trace} {e : Failure} {w' : World} (he : ∀ message, e ≠ .err (.database message))
      (hdb : w'.db = w.db) :
      ChangeOutcome svc faults userId r w tr (.error e) w'
  | failedEarly {tr : Trace} {res : Except Failure Unit} {w' : World} {s : Statement} (hfaults : faults = true)
      (hfails : FailsAt s tr res) (hearly : s = .selectUserById userId ∨
        ∃ passwordHash, s = .updatePassword passwordHash userId)
      (hdb : w'.db = w.db) : ChangeOutcome svc faults userId r w tr res w'
  | unrevoked {tr : Trace} {res : Except Failure Unit} {w' : World} {t₁ : ℕ} {stored : String}
      (hstored : svc.hashesTo r.newPassword stored) (hfaults : faults = true)
      (hfails : FailsAt (.revokeAllTokens userId) tr res)
      (hdb : w'.db = w.db.replacePassword userId t₁ stored) : ChangeOutcome svc faults userId r w tr res w'
  | done {tr : Trace} {w' : World} {t₁ t₂ : ℕ} {stored : String} {user : User}
      (huser : w.db.user? userId = some user)
      (hcurrent : svc.comparePassword r.currentPassword user.passwordHash = some true)
      (haccepted : svc.passwordAccepted r.newPassword = true) (hstored : svc.hashesTo r.newPassword stored)
      (hdb : w'.db = (w.db.replacePassword userId t₁ stored).endSessions userId t₂) :
      ChangeOutcome svc faults userId r w tr (.ok ()) w'

variable {svc : AuthService} {faults : Bool} {β : Type} {w w' : World} {tr : Trace}

/-- Where a call fails does not depend on what it did before. -/
theorem FailsAt.cons {s : Statement} {res : Except Failure Unit} (x : Entry) (h : FailsAt s tr res) :
    FailsAt s (x :: tr) res := by
  obtain ⟨e, front, hres, rfl⟩ := h
  exact ⟨e, x :: front, hres, rfl⟩

/-- A password is hashed, or Argon2 has no hash for it and the call ends with an internal error. -/
theorem alone_hashPassword {res : Except Failure β} {password : String} {f : String → AuthM β}
    (h : (svc.alone faults).Exec (svc.hashPassword password >>= f) w tr res w') :
    (∃ salt, svc.argon2 salt password = none ∧ res = .error (.err .internal) ∧ w'.db = w.db) ∨
      ∃ (t : ℕ) (salt passwordHash : String) (tr' : Trace), w.clock ≤ t ∧
        svc.argon2 salt password = some passwordHash ∧ tr = did .salt salt :: tr' ∧
        (svc.alone faults).Exec (f passwordHash) ⟨w.db, t⟩ tr' res w' := by
  simp only [AuthService.hashPassword, bind_assoc] at h
  obtain ⟨t, salt, tr', hclock, htr, hparams⟩ := alone_salt h
  rcases alone_check hparams with ⟨hparams, hres, hdb, -⟩ | ⟨hparams, hhash⟩
  · have hnone : svc.argon2 salt password = none := by
      rw [Bool.not_eq_true'] at hparams
      simp [AuthService.argon2, hparams]
    exact Or.inl ⟨salt, hnone, hres, hdb⟩
  · rw [Bool.not_eq_false'] at hparams
    have hargon (o : Option String) (ho : svc.prims.argon2Hash svc.config.argon2MemoryCost svc.config.argon2TimeCost
        svc.config.argon2Parallelism salt password = o) : svc.argon2 salt password = o := by
      simp [AuthService.argon2, hparams, ho]
    rcases alone_okOr hhash with ⟨hnone, hres, hdb, -⟩ | ⟨passwordHash, hsome, hrest⟩
    · exact Or.inl ⟨salt, hargon none hnone, hres, hdb⟩
    · exact Or.inr ⟨t, salt, passwordHash, tr', hclock, hargon _ hsome, htr, hrest⟩

/-- Replacing the password of an existing user stores it, cut to the width of the column. -/
theorem updatePassword_run {passwordHash : String} {id fresh : Uuid} {now : Instant} {db db' : Db} {n : ℕ}
    (huser : ∃ user ∈ db.users, user.id = id)
    (hrun : (Statement.updatePassword passwordHash id).run fresh now db = .ok (n, db')) :
    ∃ stored, varchar 255 passwordHash = some stored ∧ db' = db.replacePassword id now stored := by
  simp only [Statement.run] at hrun
  split at hrun
  · rename_i hnone
    obtain ⟨user, hmem, hid⟩ := huser
    have hother := Table.find?_none hnone hmem
    simp [hid] at hother
  · cases hrun
  · rename_i user stored _ hstored
    exact ⟨stored, hstored, (Prod.mk.inj (Except.ok.inj hrun)).2.symm⟩

/-- The row of a token that is found. -/
theorem Db.validToken?_row {db : Db} {purpose : Purpose} {tokenHash : String} {now : Instant}
    {tokenId userId : Uuid} (h : db.validToken? purpose tokenHash now = some (tokenId, userId)) :
    ∃ row ∈ db.oneTimeTokens purpose,
      row.id = tokenId ∧ row.userId = userId ∧ row.tokenHash = tokenHash ∧ now < row.expiresAt ∧
      row.usedAt = none := by
  obtain ⟨row, hrow, hpair⟩ := Option.map_eq_some_iff.mp h
  obtain ⟨hid, huser⟩ := Prod.mk.inj hpair
  obtain ⟨hmem, hkey⟩ := Table.find?_some hrow
  obtain ⟨hhash, hexpires, hunused⟩ := of_decide_eq_true hkey
  exact ⟨row, hmem, hid, huser, hhash, hexpires, hunused⟩

/-- The user of a token that is found exists. -/
theorem Db.validToken?_user {db : Db} {purpose : Purpose} {tokenHash : String} {now : Instant}
    {tokenId userId : Uuid} (h : db.validToken? purpose tokenHash now = some (tokenId, userId)) :
    ∃ user ∈ db.users, user.id = userId := by
  obtain ⟨row, hrow, -, huser, -⟩ := Db.validToken?_row h
  obtain ⟨user, hmem, hid⟩ := db.oneTimeUser purpose row hrow
  exact ⟨user, hmem, hid.trans huser⟩

/-- What is left after the password was replaced: all sessions are ended, or the statement fails. -/
theorem alone_revokeAllTokens {res : Except Failure Unit} {userId : Uuid}
    (h : (svc.alone faults).Exec (AuthService.revokeAllTokens userId) w tr res w') :
    (faults = true ∧ FailsAt (.revokeAllTokens userId) tr res ∧ w'.db = w.db) ∨
      ∃ t : ℕ, w.clock ≤ t ∧ res = .ok () ∧ w'.db = w.db.endSessions userId t := by
  rcases alone_query h with ⟨hfaults, e, htr, hres, hdb⟩ | ⟨t, fresh, n, db, tr', hclock, hrun, htr, hrest⟩
  · exact Or.inl ⟨hfaults, ⟨e, [], hres, htr⟩, hdb⟩
  · obtain ⟨hres, hdb, -⟩ := alone_ok hrest
    obtain rfl : w.db.endSessions userId t = db := (Prod.mk.inj (Except.ok.inj hrun)).2
    exact Or.inr ⟨t, hclock, hres, hdb⟩

/-- Every run of `resetPassword` alone, with any statement failing, ends as listed. -/
theorem resetPassword_outcome {res : Except Failure Unit} {r : ResetPasswordRequest}
    (h : (svc.alone faults).Exec (svc.resetPassword r) w tr res w') : ResetOutcome svc faults r w tr res w' := by
  have hend := (alone_precedes h).clock
  simp only [AuthService.resetPassword, AuthService.validatePassword, selectValidToken] at h
  rcases alone_check h with ⟨hweak, hres, hdb, -⟩ | ⟨haccepted, hfind⟩
  · subst hres
    exact .weak (by simpa using hweak) hdb
  rcases alone_query hfind with ⟨hfaults, e, htr, hres, hdb⟩ | ⟨t, fresh, found, db, tr₁, ht, hrun, htr₁, hfound⟩
  · exact .failedEarly hfaults ⟨e, [], hres, htr⟩ (Or.inl rfl) hdb
  obtain ⟨rfl, rfl⟩ := Prod.mk.inj (Except.ok.inj hrun)
  have hlookup : w.During w' t := ⟨ht, (alone_precedes hfound).clock⟩
  rcases alone_okOr hfound with ⟨hnone, hres, hdb, -⟩ | ⟨⟨tokenId, userId⟩, hsome, hhash⟩
  · subst hres
    exact .unfound hlookup hnone hdb
  have huser := Db.validToken?_user hsome
  rcases alone_hashPassword hhash with ⟨salt, hnone, hres, hdb⟩ |
    ⟨t', salt, passwordHash, tr₂, ht', hargon, htr₂, hupdate⟩
  · subst hres
    exact .unhashed hsome hnone hdb
  rcases alone_query hupdate with ⟨hfaults, e, htr, hres, hdb⟩ | ⟨t₁, fresh₁, n₁, db₁, tr₃, ht₁, hrun₁, htr₃, hmark⟩
  · have hfails : FailsAt (.updatePassword passwordHash userId) tr res := by
      rw [htr₁, htr₂, htr]
      exact FailsAt.cons _ (FailsAt.cons _ ⟨e, [], hres, rfl⟩)
    exact .failedEarly hfaults hfails (Or.inr ⟨passwordHash, userId, rfl⟩) hdb
  obtain ⟨stored, hstored, rfl⟩ := updatePassword_run huser hrun₁
  have hhashes : svc.hashesTo r.password stored := ⟨salt, passwordHash, hargon, hstored⟩
  rcases alone_query hmark with ⟨hfaults, e, htr, hres, hdb⟩ | ⟨t₂, fresh₂, n₂, db₂, tr₄, ht₂, hrun₂, htr₄, hrevoke⟩
  · have hfails : FailsAt (.markTokenUsed .passwordReset tokenId) tr res := by
      rw [htr₁, htr₂, htr₃, htr]
      exact FailsAt.cons _ (FailsAt.cons _ (FailsAt.cons _ ⟨e, [], hres, rfl⟩))
    exact .unmarked hlookup hsome hhashes hfaults hfails hdb
  obtain rfl : (w.db.replacePassword userId t₁ stored).consume .passwordReset tokenId t₂ = db₂ :=
    (Prod.mk.inj (Except.ok.inj hrun₂)).2
  rcases alone_revokeAllTokens hrevoke with ⟨hfaults, hfailed, hdb⟩ | ⟨t₃, -, hres, hdb⟩
  · have hfails : FailsAt (.revokeAllTokens userId) tr res := by
      rw [htr₁, htr₂, htr₃, htr₄]
      exact FailsAt.cons _ (FailsAt.cons _ (FailsAt.cons _ (FailsAt.cons _ hfailed)))
    exact .unrevoked hlookup hsome hhashes hfaults hfails hdb
  · subst hres
    exact .done hlookup (by simpa using haccepted) hsome hhashes hdb

/-- Every run of `changePassword` alone, with any statement failing, ends as listed. -/
theorem changePassword_outcome {res : Except Failure Unit} {userId : Uuid} {r : ChangePasswordRequest}
    (h : (svc.alone faults).Exec (svc.changePassword userId r) w tr res w') :
    ChangeOutcome svc faults userId r w tr res w' := by
  simp only [AuthService.changePassword, AuthService.validatePassword, AuthService.verifyPassword, selectUserById,
    bind_assoc] at h
  rcases alone_query h with ⟨hfaults, e, htr, hres, hdb⟩ | ⟨t, fresh, found, db, tr₁, ht, hrun, htr₁, hfound⟩
  · exact .failedEarly hfaults ⟨e, [], hres, htr⟩ (Or.inl rfl) hdb
  obtain ⟨rfl, rfl⟩ := Prod.mk.inj (Except.ok.inj hrun)
  rcases alone_okOr hfound with ⟨-, hres, hdb, -⟩ | ⟨user, huser, hverify⟩
  · subst hres
    exact .refused (by simp) hdb
  obtain ⟨t', tr₂, -, htr₂, hcompared⟩ := alone_verify hverify
  rcases alone_okOr hcompared with ⟨-, hres, hdb, -⟩ | ⟨verified, hverified, hcheck⟩
  · subst hres
    exact .refused (by simp) hdb
  rcases alone_check hcheck with ⟨-, hres, hdb, -⟩ | ⟨hmatch, hvalidate⟩
  · subst hres
    exact .refused (by simp) hdb
  rcases alone_check hvalidate with ⟨-, hres, hdb, -⟩ | ⟨haccepted, hhash⟩
  · subst hres
    exact .refused (by simp) hdb
  rcases alone_hashPassword hhash with ⟨salt, hnone, hres, hdb⟩ |
    ⟨t'', salt, passwordHash, tr₃, -, hargon, htr₃, hupdate⟩
  · subst hres
    exact .refused (by simp) hdb
  rcases alone_query hupdate with ⟨hfaults, e, htr, hres, hdb⟩ |
    ⟨t₁, fresh₁, n₁, db₁, tr₄, ht₁, hrun₁, htr₄, hrevoke⟩
  · have hfails : FailsAt (.updatePassword passwordHash userId) tr res := by
      rw [htr₁, htr₂, htr₃, htr]
      exact FailsAt.cons _ (FailsAt.cons _ (FailsAt.cons _ ⟨e, [], hres, rfl⟩))
    exact .failedEarly hfaults hfails (Or.inr ⟨passwordHash, rfl⟩) hdb
  obtain ⟨hmem, hid⟩ := Table.find?_some huser
  obtain ⟨stored, hstored, rfl⟩ := updatePassword_run ⟨user, hmem, of_decide_eq_true hid⟩ hrun₁
  have hhashes : svc.hashesTo r.newPassword stored := ⟨salt, passwordHash, hargon, hstored⟩
  rcases alone_revokeAllTokens hrevoke with ⟨hfaults, hfailed, hdb⟩ | ⟨t₂, -, hres, hdb⟩
  · have hfails : FailsAt (.revokeAllTokens userId) tr res := by
      rw [htr₁, htr₂, htr₃, htr₄]
      exact FailsAt.cons _ (FailsAt.cons _ (FailsAt.cons _ (FailsAt.cons _ hfailed)))
    exact .unrevoked hhashes hfaults hfails hdb
  · subst hres
    obtain rfl : verified = true := by simpa using hmatch
    exact .done huser hverified (by simpa using haccepted) hhashes hdb

/-- The reset was interrupted after it had replaced the password: by the statement that marks its
token used, or by the one that ends the sessions. -/
def ResetInterrupted (svc : AuthService) (r : ResetPasswordRequest) (w : World) (tr : Trace) (e : Failure)
    (w' : World) : Prop :=
  ∃ (t t₁ : ℕ) (tokenId userId : Uuid) (stored : String), w.During w' t ∧
    w.db.validToken? .passwordReset (svc.hashToken r.token) t = some (tokenId, userId) ∧
    svc.hashesTo r.password stored ∧
    ((FailsAt (.markTokenUsed .passwordReset tokenId) tr (.error e) ∧
      w'.db = w.db.replacePassword userId t₁ stored) ∨
      ∃ t₂ : ℕ, FailsAt (.revokeAllTokens userId) tr (.error e) ∧
        w'.db = (w.db.replacePassword userId t₁ stored).consume .passwordReset tokenId t₂)

/-- The change was interrupted after it had replaced the password, by the statement that ends the
sessions. -/
def ChangeInterrupted (svc : AuthService) (userId : Uuid) (r : ChangePasswordRequest) (w : World) (tr : Trace)
    (e : Failure) (w' : World) : Prop :=
  ∃ (t₁ : ℕ) (stored : String), svc.hashesTo r.newPassword stored ∧
    FailsAt (.revokeAllTokens userId) tr (.error e) ∧
    w'.db = w.db.replacePassword userId t₁ stored

/-- The call was refused, or its first statement or the replacement of the password failed. -/
def FailsEarly (lookup : Statement) (tr : Trace) (e : Failure) : Prop :=
  (∀ message, e ≠ .err (.database message)) ∨ FailsAt lookup tr (.error e) ∨
    ∃ passwordHash userId, FailsAt (.updatePassword passwordHash userId) tr (.error e)

/-- A reset or change that ends with an error leaves the database as it was, unless it was interrupted
after the replacement of the password: then the password of that one user is replaced, with the
reset token unused, or used and the sessions not ended. -/
theorem failed_change_leaves (svc : AuthService) (w w' : World) (tr : Trace) (e : Failure) :
    (∀ r, (svc.alone true).Exec (svc.resetPassword r) w tr (.error e) w' →
      (FailsEarly (.selectValidToken .passwordReset (svc.hashToken r.token)) tr e ∧ w'.db = w.db) ∨
        ResetInterrupted svc r w tr e w') ∧
    (∀ userId r, (svc.alone true).Exec (svc.changePassword userId r) w tr (.error e) w' →
      (FailsEarly (.selectUserById userId) tr e ∧ w'.db = w.db) ∨ ChangeInterrupted svc userId r w tr e w') := by
  constructor
  · intro r hrun
    generalize hres : (Except.error e : Except Failure Unit) = res at hrun
    cases resetPassword_outcome hrun with
    | weak hweak hdb =>
      cases hres
      exact Or.inl ⟨Or.inl (by simp), hdb⟩
    | unfound ht hnone hdb =>
      cases hres
      exact Or.inl ⟨Or.inl (by simp), hdb⟩
    | unhashed _ _ hdb =>
      cases hres
      exact Or.inl ⟨Or.inl (by simp), hdb⟩
    | failedEarly _ hfails hearly hdb =>
      subst hres
      rcases hearly with rfl | ⟨passwordHash, userId, rfl⟩
      · exact Or.inl ⟨Or.inr (Or.inl hfails), hdb⟩
      · exact Or.inl ⟨Or.inr (Or.inr ⟨passwordHash, userId, hfails⟩), hdb⟩
    | unmarked ht hfound hstored _ hfails hdb =>
      subst hres
      exact Or.inr ⟨_, _, _, _, _, ht, hfound, hstored, Or.inl ⟨hfails, hdb⟩⟩
    | unrevoked ht hfound hstored _ hfails hdb =>
      subst hres
      exact Or.inr ⟨_, _, _, _, _, ht, hfound, hstored, Or.inr ⟨_, hfails, hdb⟩⟩
    | done => cases hres
  · intro userId r hrun
    generalize hres : (Except.error e : Except Failure Unit) = res at hrun
    cases changePassword_outcome hrun with
    | refused he hdb =>
      cases hres
      exact Or.inl ⟨Or.inl he, hdb⟩
    | failedEarly _ hfails hearly hdb =>
      subst hres
      rcases hearly with rfl | ⟨passwordHash, rfl⟩
      · exact Or.inl ⟨Or.inr (Or.inl hfails), hdb⟩
      · exact Or.inl ⟨Or.inr (Or.inr ⟨passwordHash, userId, hfails⟩), hdb⟩
    | unrevoked hstored _ hfails hdb =>
      subst hres
      exact Or.inr ⟨_, _, hstored, hfails, hdb⟩
    | done => cases hres

section Runs

open Reference

/-- A user has registered, logged in and asked for a password reset. -/
def resetWorld : World :=
  (service.executor.play (moves 0 3 1 ++ moves 1 12 2 ++ moves 2 5 3)
    (service.start world fun
      | 0 => .register ⟨"a@b.c", "Abcdefg1", "Abcdefg1", "A"⟩
      | 1 => .login ⟨"a@b.c", "Abcdefg1"⟩ none none
      | _ => .forgotPassword "a@b.c")).shared

/-- A reset with the token that was returned. -/
def resetRequest : ResetPasswordRequest := ⟨base64UrlEncode (choice 3).bytes.toList, "Hijklmn2", "Hijklmn2"⟩

/-- The choices for a reset that fails when it marks its token used. -/
def failsMarking : List Choice := List.replicate 3 (choice 4) ++ [{ choice 4 with fault := some "closed" }]

/-- The password of a user was replaced while a reset token is unused and a session is alive. -/
def HalfChanged (db db' : Db) : Prop :=
  (∃ user ∈ db.users.rows, ∃ user' ∈ db'.users.rows, user'.id = user.id ∧ user'.passwordHash ≠ user.passwordHash) ∧
    (∃ t ∈ (db'.oneTimeTokens .passwordReset).rows, t.usedAt = none) ∧
    ∃ t ∈ db'.refreshTokens.rows, t.revokedAt = none

instance (db db' : Db) : Decidable (HalfChanged db db') := inferInstanceAs (Decidable (_ ∧ _ ∧ _))

/-- A half-changed database has changed. -/
theorem HalfChanged.ne {db db' : Db} (h : HalfChanged db db') : db' ≠ db := by
  intro heq
  subst heq
  obtain ⟨⟨user, huser, user', huser', hid, hhash⟩, -⟩ := h
  have hsame : user' = user := Table.eq_of_pk huser' huser hid
  exact hhash (congrArg User.passwordHash hsame)

/-- The test that a reset failed and left a half-changed account. -/
def leavesHalfChanged (res : Except Failure Unit) (w' : World) : Bool :=
  res = .error (.err (.database "closed")) ∧ HalfChanged resetWorld.db w'.db

/-- A reset fails after it has stored the password and leaves its token unused. -/
theorem exists_halfChanged : ∃ tr w', (service.alone true).Exec (service.resetPassword resetRequest) resetWorld tr
    (.error (.err (.database "closed"))) w' ∧ HalfChanged resetWorld.db w'.db := by
  have hpasses : ((service.executor.solo (AuthService.admits true) failsMarking
      (service.resetPassword resetRequest) resetWorld).any fun out =>
      leavesHalfChanged out.2.1 out.2.2) = true := by
    decide +kernel
  obtain ⟨tr, res, w', hrun, htest⟩ := Executor.exists_exec service.alone_perform leavesHalfChanged hpasses
  obtain ⟨rfl, hhalf⟩ := of_decide_eq_true htest
  exact ⟨tr, w', hrun, hhalf⟩

/-- A reset is interrupted at the statement that marks its token used. -/
theorem failed_change_leaves_unmarked : ∃ tr w',
    ResetInterrupted service resetRequest resetWorld tr (.err (.database "closed")) w' := by
  obtain ⟨tr, w', hrun, hhalf⟩ := exists_halfChanged
  refine ⟨tr, w', ?_⟩
  rcases (failed_change_leaves service resetWorld w' tr (.err (.database "closed"))).1 resetRequest
    hrun with ⟨-, hdb⟩ | hleft
  · exact absurd hdb hhalf.ne
  · exact hleft

/-- A reset that fails when it marks its token used does not leave the database as it was. -/
theorem failed_reset_changes : ∃ tr e w', (service.alone true).Exec (service.resetPassword resetRequest) resetWorld
    tr (.error (.err (.database e))) w' ∧ HalfChanged resetWorld.db w'.db ∧ w'.db ≠ resetWorld.db := by
  obtain ⟨tr, w', hrun, hhalf⟩ := exists_halfChanged
  exact ⟨tr, "closed", w', hrun, hhalf, hhalf.ne⟩

end Runs

end RustPressAuth
