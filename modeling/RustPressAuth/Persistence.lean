import RustPressAuth.Statements

/-!
# What no statement undoes

Along any sequence of statements a row keeps its identity: its keys, its user, its token
hash and its expiry. A verified email stays verified, a revoked refresh token stays
revoked and a used one-time token stays used. Each statement is checked once; every
later argument about a run uses the resulting preorder on databases.
-/

namespace RustPressAuth

open Relational

/-- What later contents of a user row share with earlier ones. -/
structure User.Later (u u' : User) : Prop where
  id : u'.id = u.id
  email : u'.email = u.email
  name : u'.name = u.name
  role : u'.role = u.role
  verified : u.isEmailVerified = true → u'.isEmailVerified = true

/-- What later contents of a refresh token row share with earlier ones. -/
structure RefreshToken.Later (t t' : RefreshToken) : Prop where
  id : t'.id = t.id
  userId : t'.userId = t.userId
  tokenHash : t'.tokenHash = t.tokenHash
  expiresAt : t'.expiresAt = t.expiresAt
  revoked : t.isRevoked = true → t'.isRevoked = true

/-- What later contents of a one-time token row share with earlier ones. -/
structure OneTimeToken.Later (t t' : OneTimeToken) : Prop where
  id : t'.id = t.id
  userId : t'.userId = t.userId
  tokenHash : t'.tokenHash = t.tokenHash
  expiresAt : t'.expiresAt = t.expiresAt
  used : t.usedAt.isSome = true → t'.usedAt.isSome = true

/-- A user is later than itself. -/
theorem User.Later.refl (u : User) : u.Later u := ⟨rfl, rfl, rfl, rfl, fun h => h⟩

/-- A refresh token is later than itself. -/
theorem RefreshToken.Later.refl (t : RefreshToken) : t.Later t := ⟨rfl, rfl, rfl, rfl, fun h => h⟩

/-- A one-time token is later than itself. -/
theorem OneTimeToken.Later.refl (t : OneTimeToken) : t.Later t := ⟨rfl, rfl, rfl, rfl, fun h => h⟩

/-- What is later than a later user is later. -/
theorem User.Later.trans (u v w : User) (h₁ : u.Later v) (h₂ : v.Later w) : u.Later w where
  id := h₂.id.trans h₁.id
  email := h₂.email.trans h₁.email
  name := h₂.name.trans h₁.name
  role := h₂.role.trans h₁.role
  verified h := h₂.verified (h₁.verified h)

/-- What is later than a later refresh token is later. -/
theorem RefreshToken.Later.trans (t u v : RefreshToken) (h₁ : t.Later u) (h₂ : u.Later v) :
    t.Later v where
  id := h₂.id.trans h₁.id
  userId := h₂.userId.trans h₁.userId
  tokenHash := h₂.tokenHash.trans h₁.tokenHash
  expiresAt := h₂.expiresAt.trans h₁.expiresAt
  revoked h := h₂.revoked (h₁.revoked h)

/-- What is later than a later one-time token is later. -/
theorem OneTimeToken.Later.trans (t u v : OneTimeToken) (h₁ : t.Later u) (h₂ : u.Later v) :
    t.Later v where
  id := h₂.id.trans h₁.id
  userId := h₂.userId.trans h₁.userId
  tokenHash := h₂.tokenHash.trans h₁.tokenHash
  expiresAt := h₂.expiresAt.trans h₁.expiresAt
  used h := h₂.used (h₁.used h)

/-- Every row of the first database is still in the second one, in later contents. -/
structure Db.Evolves (db db' : Db) : Prop where
  users : db.users.Evolves User.Later db'.users
  refreshTokens : db.refreshTokens.Evolves RefreshToken.Later db'.refreshTokens
  oneTimeTokens : ∀ purpose,
    (db.oneTimeTokens purpose).Evolves OneTimeToken.Later (db'.oneTimeTokens purpose)

namespace Db

/-- A database evolves to itself. -/
theorem Evolves.refl (db : Db) : db.Evolves db where
  users := Table.Evolves.refl User.Later.refl _
  refreshTokens := Table.Evolves.refl RefreshToken.Later.refl _
  oneTimeTokens _ := Table.Evolves.refl OneTimeToken.Later.refl _

/-- What evolves twice evolves. -/
theorem Evolves.trans {db₁ db₂ db₃ : Db} (h₁ : db₁.Evolves db₂) (h₂ : db₂.Evolves db₃) :
    db₁.Evolves db₃ where
  users := h₁.users.trans User.Later.trans h₂.users
  refreshTokens := h₁.refreshTokens.trans RefreshToken.Later.trans h₂.refreshTokens
  oneTimeTokens purpose :=
    (h₁.oneTimeTokens purpose).trans OneTimeToken.Later.trans (h₂.oneTimeTokens purpose)

/-- A database evolves by an update of users to later ones. -/
theorem evolves_updateUsers (db : Db) {p : User → Bool} {f : User → User}
    {hid : ∀ u, (f u).id = u.id} {hemail : ∀ u, (f u).email = u.email}
    (hf : ∀ u, p u = true → u.Later (f u)) : db.Evolves (db.updateUsers p f hid hemail) where
  users := Table.evolves_update User.Later.refl _ hid hemail hf
  refreshTokens := Table.Evolves.refl RefreshToken.Later.refl _
  oneTimeTokens _ := Table.Evolves.refl OneTimeToken.Later.refl _

/-- A revoked row is later. -/
theorem later_revokedRow (now : Instant) (t : RefreshToken) : t.Later (revokedRow now t) :=
  ⟨rfl, rfl, rfl, rfl, fun _ => rfl⟩

/-- A used row is later. -/
theorem later_usedRow (now : Instant) (t : OneTimeToken) : t.Later (usedRow now t) :=
  ⟨rfl, rfl, rfl, rfl, fun _ => rfl⟩

/-- A database evolves by a revocation. -/
theorem evolves_revoke (db : Db) (p : RefreshToken → Bool) (now : Instant) :
    db.Evolves (db.revoke p now) where
  users := Table.Evolves.refl User.Later.refl _
  refreshTokens := Table.evolves_update (f := revokedRow now) RefreshToken.Later.refl _
    (fun _ => rfl) (fun _ => rfl) fun t _ => later_revokedRow now t
  oneTimeTokens _ := Table.Evolves.refl OneTimeToken.Later.refl _

/-- A database evolves when tokens are used. -/
theorem evolves_markUsed (db : Db) (purpose : Purpose) (p : OneTimeToken → Bool) (now : Instant) :
    db.Evolves (db.markUsed purpose p now) where
  users := Table.Evolves.refl User.Later.refl _
  refreshTokens := Table.Evolves.refl RefreshToken.Later.refl _
  oneTimeTokens purpose' := by
    by_cases h : purpose' = purpose
    · subst h
      simp only [markUsed, Function.update_self]
      exact Table.evolves_update (f := usedRow now) OneTimeToken.Later.refl _
        (fun _ => rfl) (fun _ => rfl) fun t _ => later_usedRow now t
    · simp only [markUsed, Function.update_of_ne h]
      exact Table.Evolves.refl OneTimeToken.Later.refl _

/-- Inserting a user adds one row and touches nothing else. -/
theorem insertUser?_spec {db db' : Db} {user : User} (h : db.insertUser? user = some db') :
    db.users.insert? user = some db'.users ∧ db'.refreshTokens = db.refreshTokens ∧
      db'.oneTimeTokens = db.oneTimeTokens := by
  unfold insertUser? at h
  split at h
  · cases h
  · rename_i hinsert
    cases h
    exact ⟨hinsert, rfl, rfl⟩

/-- Inserting a refresh token adds one row and touches nothing else. -/
theorem insertRefreshToken?_spec {db db' : Db} {token : RefreshToken}
    (h : db.insertRefreshToken? token = some db') :
    db'.users = db.users ∧ db.refreshTokens.insert? token = some db'.refreshTokens ∧
      db'.oneTimeTokens = db.oneTimeTokens := by
  unfold insertRefreshToken? at h
  split at h
  · split at h
    · cases h
    · rename_i hinsert
      cases h
      exact ⟨rfl, hinsert, rfl⟩
  · cases h

/-- Inserting a one-time token adds one row to the table of its purpose. -/
theorem insertOneTimeToken?_spec {db db' : Db} {purpose : Purpose} {token : OneTimeToken}
    (h : db.insertOneTimeToken? purpose token = some db') :
    db'.users = db.users ∧ db'.refreshTokens = db.refreshTokens ∧
      (db.oneTimeTokens purpose).insert? token = some (db'.oneTimeTokens purpose) ∧
      ∀ purpose', purpose' ≠ purpose → db'.oneTimeTokens purpose' = db.oneTimeTokens purpose' := by
  unfold insertOneTimeToken? at h
  split at h
  · split at h
    · cases h
    · rename_i tokens hinsert
      cases h
      refine ⟨rfl, rfl, ?_, fun purpose' hne => Function.update_of_ne hne _ _⟩
      simpa only [Function.update_self] using hinsert
  · cases h

/-- A database evolves by a new user. -/
theorem evolves_insertUser? {db db' : Db} {user : User} (h : db.insertUser? user = some db') :
    db.Evolves db' := by
  obtain ⟨husers, hrefresh, honeTime⟩ := insertUser?_spec h
  refine ⟨Table.evolves_insert? User.Later.refl husers, ?_, fun purpose => ?_⟩
  · rw [hrefresh]
    exact Table.Evolves.refl RefreshToken.Later.refl _
  · rw [honeTime]
    exact Table.Evolves.refl OneTimeToken.Later.refl _

/-- A database evolves by a new refresh token. -/
theorem evolves_insertRefreshToken? {db db' : Db} {token : RefreshToken}
    (h : db.insertRefreshToken? token = some db') : db.Evolves db' := by
  obtain ⟨husers, hrefresh, honeTime⟩ := insertRefreshToken?_spec h
  refine ⟨?_, Table.evolves_insert? RefreshToken.Later.refl hrefresh, fun purpose => ?_⟩
  · rw [husers]
    exact Table.Evolves.refl User.Later.refl _
  · rw [honeTime]
    exact Table.Evolves.refl OneTimeToken.Later.refl _

/-- A database evolves by a new one-time token. -/
theorem evolves_insertOneTimeToken? {db db' : Db} {purpose : Purpose} {token : OneTimeToken}
    (h : db.insertOneTimeToken? purpose token = some db') : db.Evolves db' := by
  obtain ⟨husers, hrefresh, hinsert, hothers⟩ := insertOneTimeToken?_spec h
  refine ⟨?_, ?_, fun purpose' => ?_⟩
  · rw [husers]
    exact Table.Evolves.refl User.Later.refl _
  · rw [hrefresh]
    exact Table.Evolves.refl RefreshToken.Later.refl _
  · by_cases hp : purpose' = purpose
    · subst hp
      exact Table.evolves_insert? OneTimeToken.Later.refl hinsert
    · rw [hothers purpose' hp]
      exact Table.Evolves.refl OneTimeToken.Later.refl _

end Db

/-- A value or an error is the value exactly if it is there. -/
@[simp] theorem orError_eq_ok {α : Type} (message : DbError) (o : Option α) (v : α) :
    orError message o = .ok v ↔ o = some v := by
  cases o <;> simp [orError]

/-- The database after a statement, when it does not fail. -/
theorem Statement.run_evolves {fresh : Uuid} {now : Instant} {db db' : Db} {s : Statement} {v : s.Row}
    (h : s.run fresh now db = .ok (v, db')) : db.Evolves db' := by
  cases s with
  | selectUserIdByEmail email => cases h; exact Db.Evolves.refl db
  | selectUserByEmail email => cases h; exact Db.Evolves.refl db
  | selectUserById id => cases h; exact Db.Evolves.refl db
  | selectRefreshToken id tokenHash => cases h; exact Db.Evolves.refl db
  | selectValidToken purpose tokenHash => cases h; exact Db.Evolves.refl db
  | revokeRefreshToken id => cases h; exact db.evolves_revoke _ now
  | revokeAllTokens userId => cases h; exact db.evolves_revoke _ now
  | invalidateTokens purpose userId => cases h; exact db.evolves_markUsed purpose _ now
  | markTokenUsed purpose id => cases h; exact db.evolves_markUsed purpose _ now
  | insertUser email passwordHash name =>
    simp only [Statement.run, except_bind_eq_ok, orError_eq_ok] at h
    obtain ⟨_, _, _, _, _, _, db₁, hinsert, heq⟩ := h
    cases heq
    exact Db.evolves_insertUser? hinsert
  | insertRefreshToken id userId tokenHash expiresAt ipAddress userAgent =>
    simp only [Statement.run, except_bind_eq_ok, orError_eq_ok] at h
    obtain ⟨_, _, _, _, db₁, hinsert, heq⟩ := h
    cases heq
    exact Db.evolves_insertRefreshToken? hinsert
  | insertOneTimeToken purpose userId tokenHash expiresAt =>
    simp only [Statement.run, except_bind_eq_ok, orError_eq_ok] at h
    obtain ⟨_, _, db₁, hinsert, heq⟩ := h
    cases heq
    exact Db.evolves_insertOneTimeToken? hinsert
  | incrementFailedAttempts id maxLoginAttempts lockoutDuration =>
    simp only [Statement.run] at h
    split at h
    · cases h
    · cases h
      exact db.evolves_updateUsers fun _ _ => ⟨rfl, rfl, rfl, rfl, fun hv => hv⟩
  | recordSuccessfulLogin id ipAddress =>
    simp only [Statement.run] at h
    split at h
    · cases h; exact Db.Evolves.refl db
    · cases h
    · cases h
      exact db.evolves_updateUsers fun _ _ => ⟨rfl, rfl, rfl, rfl, fun hv => hv⟩
  | updatePassword passwordHash id =>
    simp only [Statement.run] at h
    split at h
    · cases h; exact Db.Evolves.refl db
    · cases h
    · cases h
      exact db.evolves_updateUsers fun _ _ => ⟨rfl, rfl, rfl, rfl, fun hv => hv⟩
  | verifyUserEmail id =>
    simp only [Statement.run, except_bind_eq_ok, orError_eq_ok] at h
    obtain ⟨user, huser, heq⟩ := h
    cases heq
    exact db.evolves_updateUsers fun _ _ => ⟨rfl, rfl, rfl, rfl, fun _ => rfl⟩

end RustPressAuth
