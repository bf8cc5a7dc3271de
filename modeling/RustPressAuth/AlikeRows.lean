import RustPressAuth.Relational.Alike
import RustPressAuth.Runs

/-!
# Databases that are read alike

Some columns are only written: when a user last logged in and from where, when the
password was changed, the client a refresh token was issued to. Of the times at which an
email was verified, a token revoked or used, only whether there is one is read. Of a
password hash, only what it says about the passwords it is compared with.

Databases that differ in nothing else are alike, and every statement does the same to
them: it fails with the same error, or returns alike rows and leaves alike databases.
-/

namespace RustPressAuth

open Relational

variable (svc : AuthService) (presented : String → Prop)

/-- Both hashes give the same result with every password that is presented. -/
def AuthService.SameVerdicts (hash hash' : String) : Prop :=
  ∀ password, presented password → svc.comparePassword password hash = svc.comparePassword password hash'

/-- The users agree on all that is read of them. -/
structure User.Alike (user user' : User) : Prop where
  id : user.id = user'.id
  email : user.email = user'.email
  passwordHash : svc.SameVerdicts presented user.passwordHash user'.passwordHash
  name : user.name = user'.name
  role : user.role = user'.role
  status : user.status = user'.status
  avatar : user.avatar = user'.avatar
  bio : user.bio = user'.bio
  website : user.website = user'.website
  verified : user.emailVerifiedAt.isSome = user'.emailVerifiedAt.isSome
  failedLoginAttempts : user.failedLoginAttempts = user'.failedLoginAttempts
  lockedUntil : user.lockedUntil = user'.lockedUntil
  createdAt : user.createdAt = user'.createdAt

/-- The refresh tokens agree on all that is read of them. -/
structure RefreshToken.Alike (token token' : RefreshToken) : Prop where
  id : token.id = token'.id
  userId : token.userId = token'.userId
  tokenHash : token.tokenHash = token'.tokenHash
  expiresAt : token.expiresAt = token'.expiresAt
  revoked : token.revokedAt.isSome = token'.revokedAt.isSome

/-- The one-time tokens agree on all that is read of them. -/
structure OneTimeToken.Alike (token token' : OneTimeToken) : Prop where
  id : token.id = token'.id
  userId : token.userId = token'.userId
  tokenHash : token.tokenHash = token'.tokenHash
  expiresAt : token.expiresAt = token'.expiresAt
  used : token.usedAt.isSome = token'.usedAt.isSome

/-- The databases have alike rows, in the same order. -/
structure Db.Alike (db db' : Db) : Prop where
  users : db.users.Alike (User.Alike svc presented) db'.users
  refreshTokens : db.refreshTokens.Alike RefreshToken.Alike db'.refreshTokens
  oneTimeTokens : ∀ purpose, (db.oneTimeTokens purpose).Alike OneTimeToken.Alike (db'.oneTimeTokens purpose)

/-- The worlds show the same time and have alike databases. -/
structure World.Alike (w w' : World) : Prop where
  clock : w.clock = w'.clock
  db : w.db.Alike svc presented w'.db

variable {svc presented}

namespace User.Alike

variable {user user' : User} (h : user.Alike svc presented user')

include h

/-- Alike users are locked at the same times. -/
theorem isLocked (now : Instant) : user.isLocked now = user'.isLocked now := by
  rw [User.isLocked, User.isLocked, h.lockedUntil]

/-- Alike users are verified together. -/
theorem isEmailVerified : user.isEmailVerified = user'.isEmailVerified := h.verified

/-- Alike users can log in at the same times. -/
theorem canLogin (now : Instant) : user.canLogin now = user'.canLogin now := by
  rw [User.canLogin, User.canLogin, h.status, h.isLocked]

/-- Alike users are shown alike. -/
theorem ofUser : UserResponse.ofUser user = UserResponse.ofUser user' := by
  simp only [UserResponse.ofUser, h.id, h.email, h.name, h.role, h.avatar, h.bio, h.website, h.createdAt,
    h.isEmailVerified]

/-- Alike users get the same claims. -/
theorem accessClaims (now : Instant) (jti : Uuid) :
    svc.accessClaims user now jti = svc.accessClaims user' now jti := by
  simp only [AuthService.accessClaims, h.id, h.email, h.name, h.role]

end User.Alike

namespace RefreshToken.Alike

variable {token token' : RefreshToken} (h : token.Alike token')

include h

/-- Alike refresh tokens are revoked together. -/
theorem isRevoked : token.isRevoked = token'.isRevoked := h.revoked

/-- Alike refresh tokens are unrevoked together. -/
theorem unrevoked : token.revokedAt = none ↔ token'.revokedAt = none := by
  rw [← Option.not_isSome_iff_eq_none, ← Option.not_isSome_iff_eq_none, h.revoked]

/-- Alike refresh tokens are valid at the same times. -/
theorem isValid (now : Instant) : token.isValid now = token'.isValid now := by
  simp only [RefreshToken.isValid, RefreshToken.isExpired, h.isRevoked, h.expiresAt]

end RefreshToken.Alike

/-- Alike one-time tokens are unused together. -/
theorem OneTimeToken.Alike.unused {token token' : OneTimeToken} (h : token.Alike token') :
    token.usedAt = none ↔ token'.usedAt = none := by
  rw [← Option.not_isSome_iff_eq_none, ← Option.not_isSome_iff_eq_none, h.used]

/-- A row is alike itself. -/
theorem User.Alike.refl (user : User) : user.Alike svc presented user :=
  ⟨rfl, rfl, fun _ _ => rfl, rfl, rfl, rfl, rfl, rfl, rfl, rfl, rfl, rfl, rfl⟩

/-- A refresh token is like itself. -/
theorem RefreshToken.Alike.refl (token : RefreshToken) : token.Alike token := ⟨rfl, rfl, rfl, rfl, rfl⟩

/-- A one-time token is like itself. -/
theorem OneTimeToken.Alike.refl (token : OneTimeToken) : token.Alike token := ⟨rfl, rfl, rfl, rfl, rfl⟩

/-- When rows are inserted. -/
theorem Db.isSome_insertUser? (db : Db) (user : User) :
    (db.insertUser? user).isSome = (db.users.insert? user).isSome := by
  unfold Db.insertUser?
  split <;> simp_all

/-- A refresh token can be inserted exactly if its user exists and its key and hash are new. -/
theorem Db.isSome_insertRefreshToken? (db : Db) (token : RefreshToken) : (db.insertRefreshToken? token).isSome =
    (decide (∃ u ∈ db.users.rows, u.id = token.userId) && (db.refreshTokens.insert? token).isSome) := by
  unfold Db.insertRefreshToken?
  split
  · split <;> simp_all
  · simp_all

/-- A one-time token can be inserted exactly if its user exists and its key and hash are new. -/
theorem Db.isSome_insertOneTimeToken? (db : Db) (purpose : Purpose) (token : OneTimeToken) :
    (db.insertOneTimeToken? purpose token).isSome =
      (decide (∃ u ∈ db.users.rows, u.id = token.userId) && ((db.oneTimeTokens purpose).insert? token).isSome) := by
  unfold Db.insertOneTimeToken?
  split
  · split <;> simp_all
  · simp_all

namespace Db.Alike

variable {db db' : Db} (h : db.Alike svc presented db')

include h

/-- Alike databases have alike users under an id. -/
theorem user? (id : Uuid) : Option.Rel (User.Alike svc presented) (db.user? id) (db'.user? id) :=
  h.users.find? fun u u' hu => by rw [hu.id]

/-- Alike databases have alike users under an email. -/
theorem userByEmail? (email : String) :
    Option.Rel (User.Alike svc presented) (db.userByEmail? email) (db'.userByEmail? email) :=
  h.users.find? fun u u' hu => by rw [hu.email]

/-- Alike users are updated alike. -/
theorem updateUser {id : Uuid} {f : User → User} {hid : ∀ u, (f u).id = u.id} {hemail : ∀ u, (f u).email = u.email}
    (hf : ∀ u u' : User, u.Alike svc presented u' → (f u).Alike svc presented (f u')) :
    (db.updateUser id f hid hemail).Alike svc presented (db'.updateUser id f hid hemail) where
  users := h.users.update hid hemail (fun u u' hu => by rw [hu.id]) hf
  refreshTokens := h.refreshTokens
  oneTimeTokens := h.oneTimeTokens

/-- Alike refresh tokens are revoked alike. -/
theorem revoke {p : RefreshToken → Bool} (hp : ∀ t t', RefreshToken.Alike t t' → p t = p t') (now : Instant) :
    (db.revoke p now).Alike svc presented (db'.revoke p now) where
  users := h.users
  refreshTokens := h.refreshTokens.update (f := Db.revokedRow now) (fun _ => rfl) (fun _ => rfl) hp
    fun _ _ ht => ⟨ht.id, ht.userId, ht.tokenHash, ht.expiresAt, rfl⟩
  oneTimeTokens := h.oneTimeTokens

/-- Alike one-time tokens are marked used alike. -/
theorem markUsed (purpose : Purpose) {p : OneTimeToken → Bool} (hp : ∀ t t', OneTimeToken.Alike t t' → p t = p t')
    (now : Instant) : (db.markUsed purpose p now).Alike svc presented (db'.markUsed purpose p now) where
  users := h.users
  refreshTokens := h.refreshTokens
  oneTimeTokens purpose' := by
    by_cases heq : purpose' = purpose
    · subst heq
      simp only [Db.markUsed, Function.update_self]
      exact (h.oneTimeTokens purpose').update (f := Db.usedRow now) (fun _ => rfl) (fun _ => rfl) hp
        fun _ _ ht => ⟨ht.id, ht.userId, ht.tokenHash, ht.expiresAt, rfl⟩
    · simp only [Db.markUsed, Function.update_of_ne heq]
      exact h.oneTimeTokens purpose'

/-- Alike users are inserted into both databases or into neither. -/
theorem insertUser? (user : User) :
    Option.Rel (Db.Alike svc presented) (db.insertUser? user) (db'.insertUser? user) := by
  have hinsert := h.users.insert? (User.Alike.refl user) (fun _ _ hu => hu.id) fun _ _ hu => hu.email
  refine rel_of_isSome ?_ ?_
  · rw [Db.isSome_insertUser?, Db.isSome_insertUser?, isSome_of_rel hinsert]
  · intro d d' hd hd'
    obtain ⟨husers, hrefresh, honeTime⟩ := Db.insertUser?_spec hd
    obtain ⟨husers', hrefresh', honeTime'⟩ := Db.insertUser?_spec hd'
    rw [husers, husers'] at hinsert
    exact ⟨rel_some hinsert, by rw [hrefresh, hrefresh']; exact h.refreshTokens,
      by rw [honeTime, honeTime']; exact h.oneTimeTokens⟩

/-- Both databases have the user a row refers to, or neither. -/
theorem exists_user (id : Uuid) : (∃ u ∈ db.users.rows, u.id = id) ↔ ∃ u ∈ db'.users.rows, u.id = id := by
  have hids : db.users.rows.map User.id = db'.users.rows.map User.id := map_rel (fun _ _ hu => hu.id) h.users
  rw [← List.mem_map, ← List.mem_map, hids]

/-- Alike databases take a refresh token together, and stay alike. -/
theorem insertRefreshToken? (token : RefreshToken) :
    Option.Rel (Db.Alike svc presented) (db.insertRefreshToken? token) (db'.insertRefreshToken? token) := by
  have hinsert :=
    h.refreshTokens.insert? (RefreshToken.Alike.refl token) (fun _ _ ht => ht.id) fun _ _ ht => ht.tokenHash
  refine rel_of_isSome ?_ ?_
  · rw [Db.isSome_insertRefreshToken?, Db.isSome_insertRefreshToken?, isSome_of_rel hinsert,
      decide_eq_decide.mpr (h.exists_user token.userId)]
  · intro d d' hd hd'
    obtain ⟨husers, htokens, honeTime⟩ := Db.insertRefreshToken?_spec hd
    obtain ⟨husers', htokens', honeTime'⟩ := Db.insertRefreshToken?_spec hd'
    rw [htokens, htokens'] at hinsert
    exact ⟨by rw [husers, husers']; exact h.users, rel_some hinsert, by
      rw [honeTime, honeTime']; exact h.oneTimeTokens⟩

/-- Alike databases take a one-time token together, and stay alike. -/
theorem insertOneTimeToken? (purpose : Purpose) (token : OneTimeToken) :
    Option.Rel (Db.Alike svc presented) (db.insertOneTimeToken? purpose token)
      (db'.insertOneTimeToken? purpose token) := by
  have hinsert := (h.oneTimeTokens purpose).insert? (OneTimeToken.Alike.refl token) (fun _ _ ht => ht.id)
    fun _ _ ht => ht.tokenHash
  refine rel_of_isSome ?_ ?_
  · rw [Db.isSome_insertOneTimeToken?, Db.isSome_insertOneTimeToken?, isSome_of_rel hinsert,
      decide_eq_decide.mpr (h.exists_user token.userId)]
  · intro d d' hd hd'
    obtain ⟨husers, hrefresh, htokens, hothers⟩ := Db.insertOneTimeToken?_spec hd
    obtain ⟨husers', hrefresh', htokens', hothers'⟩ := Db.insertOneTimeToken?_spec hd'
    rw [htokens, htokens'] at hinsert
    refine ⟨by rw [husers, husers']; exact h.users, by rw [hrefresh, hrefresh']; exact h.refreshTokens,
      fun purpose' => ?_⟩
    by_cases heq : purpose' = purpose
    · subst heq
      exact rel_some hinsert
    · rw [hothers purpose' heq, hothers' purpose' heq]
      exact h.oneTimeTokens purpose'

/-- As many users have an id. -/
theorem userCount (id : Uuid) : db.userCount id = db'.userCount id := by
  have hcount (o : Option User) : o.toList.length = if o.isSome then 1 else 0 := by cases o <;> rfl
  rw [Db.userCount, Db.userCount, hcount, hcount, isSome_of_rel (h.user? id)]

end Db.Alike

/-- What a statement returns from alike databases: alike rows, and the same of everything else. -/
def Statement.RowAlike (svc : AuthService) (presented : String → Prop) : (s : Statement) → s.Row → s.Row → Prop
  | .insertUser .., user, user' | .verifyUserEmail _, user, user' => User.Alike svc presented user user'
  | .selectUserByEmail _, found, found' | .selectUserById _, found, found' =>
      Option.Rel (User.Alike svc presented) found found'
  | .selectRefreshToken .., found, found' => Option.Rel RefreshToken.Alike found found'
  | .selectUserIdByEmail _, found, found' => found = found'
  | .selectValidToken .., found, found' => found = found'
  | .incrementFailedAttempts .., n, n' | .recordSuccessfulLogin .., n, n' | .updatePassword .., n, n'
  | .insertRefreshToken .., n, n' | .revokeRefreshToken _, n, n' | .revokeAllTokens _, n, n' |
      .invalidateTokens .., n, n'
  | .insertOneTimeToken .., n, n' | .markTokenUsed .., n, n' => n = n'

/-- Outcomes that are both alike or the same error. -/
def OutcomeAlike {α β : Type} (rel : α → β → Prop) : Except DbError α → Except DbError β → Prop
  | .ok v, .ok v' => rel v v'
  | .error e, .error e' => e = e'
  | _, _ => False

section Outcomes

variable {α β γ δ : Type} {rel : γ → δ → Prop}

/-- A step that is the same on both sides. -/
theorem OutcomeAlike.bind_same {o : Except DbError α} {f : α → Except DbError γ} {f' : α → Except DbError δ}
    (h : ∀ v, OutcomeAlike rel (f v) (f' v)) : OutcomeAlike rel (o >>= f) (o >>= f') := by
  cases o with
  | error e => exact rfl
  | ok v => exact h v

/-- A step that finds related values. -/
theorem OutcomeAlike.bind_orError {first : α → α → Prop} {message : DbError} {o o' : Option α}
    {f : α → Except DbError γ} {f' : α → Except DbError δ} (ho : Option.Rel first o o')
    (h : ∀ v v', first v v' → OutcomeAlike rel (f v) (f' v')) :
    OutcomeAlike rel (orError message o >>= f) (orError message o' >>= f') := by
  cases ho with
  | none => exact rfl
  | some hv => exact h _ _ hv

end Outcomes

section Changes

variable {user user' : User} (h : user.Alike svc presented user') (now : Instant)

include h

/-- Alike users stay alike when a failure is counted. -/
theorem User.Alike.incremented (maxLoginAttempts : Int32) (lockoutDuration : Int64) :
    (user.incremented now maxLoginAttempts lockoutDuration).Alike svc presented
      (user'.incremented now maxLoginAttempts lockoutDuration) :=
  { h with
    failedLoginAttempts := congrArg (· + 1) h.failedLoginAttempts
    lockedUntil := by simp only [User.incremented, h.failedLoginAttempts, h.lockedUntil] }

/-- Alike users stay alike when a login is recorded. -/
theorem User.Alike.loggedIn (ipAddress : Option String) :
    (user.loggedIn now ipAddress).Alike svc presented (user'.loggedIn now ipAddress) :=
  { h with
    failedLoginAttempts := rfl
    lockedUntil := rfl }

/-- Alike users stay alike with a new password. -/
theorem User.Alike.withPassword (passwordHash : String) :
    (user.withPassword now passwordHash).Alike svc presented (user'.withPassword now passwordHash) :=
  { h with passwordHash := fun _ _ => rfl }

/-- Alike users stay alike when they are verified. -/
theorem User.Alike.markedVerified : (user.verified now).Alike svc presented (user'.verified now) :=
  { h with
    status := rfl
    verified := rfl }

end Changes

/-- A statement does the same to alike databases: alike rows, alike databases, the same errors. -/
theorem Statement.run_alike {db db' : Db} (h : db.Alike svc presented db') (fresh : Uuid) (now : Instant)
    (s : Statement) :
    OutcomeAlike (fun out out' => s.RowAlike svc presented out.1 out'.1 ∧ out.2.Alike svc presented out'.2)
      (s.run fresh now db) (s.run fresh now db') := by
  cases s with
  | selectUserIdByEmail email => exact ⟨map_eq_of_rel (fun _ _ hu => hu.id) (h.userByEmail? email), h⟩
  | insertUser email passwordHash name =>
    refine .bind_same fun email => .bind_same fun passwordHash => .bind_same fun name => ?_
    exact .bind_orError (h.insertUser? _) fun _ _ hdb => ⟨User.Alike.refl _, hdb⟩
  | selectUserByEmail email => exact ⟨h.userByEmail? email, h⟩
  | selectUserById id => exact ⟨h.user? id, h⟩
  | incrementFailedAttempts id maxLoginAttempts lockoutDuration =>
    have hfault : (db.user? id).bind (User.incrementFault? now maxLoginAttempts lockoutDuration) =
        (db'.user? id).bind (User.incrementFault? now maxLoginAttempts lockoutDuration) := by
      have huser := h.user? id
      generalize db.user? id = found at huser ⊢
      generalize db'.user? id = found' at huser ⊢
      cases huser with
      | none => rfl
      | some hu => simp only [Option.bind_some, User.incrementFault?, hu.failedLoginAttempts]
    simp only [Statement.run, hfault]
    split
    · rfl
    · exact ⟨h.userCount id, h.updateUser fun _ _ hu => hu.incremented now maxLoginAttempts lockoutDuration⟩
  | recordSuccessfulLogin id ipAddress =>
    have huser := h.user? id
    simp only [Statement.run, h.userCount id]
    generalize db.user? id = found at huser ⊢
    generalize db'.user? id = found' at huser ⊢
    cases huser with
    | none => exact ⟨rfl, h⟩
    | some hu =>
      cases varchar? 45 ipAddress with
      | none => rfl
      | some ip => exact ⟨rfl, h.updateUser fun _ _ hu => hu.loggedIn now ip⟩
  | updatePassword passwordHash id =>
    have huser := h.user? id
    simp only [Statement.run, h.userCount id]
    generalize db.user? id = found at huser ⊢
    generalize db'.user? id = found' at huser ⊢
    cases huser with
    | none => exact ⟨rfl, h⟩
    | some hu =>
      cases varchar 255 passwordHash with
      | none => rfl
      | some hash => exact ⟨rfl, h.updateUser fun _ _ hu => hu.withPassword now hash⟩
  | verifyUserEmail id =>
    exact .bind_orError (h.user? id) fun _ _ hu =>
      ⟨hu.markedVerified now, h.updateUser fun _ _ hv => hv.markedVerified now⟩
  | insertRefreshToken id userId tokenHash expiresAt ipAddress userAgent =>
    refine .bind_same fun tokenHash => .bind_same fun ipAddress => ?_
    exact .bind_orError (h.insertRefreshToken? _) fun _ _ hdb => ⟨rfl, hdb⟩
  | selectRefreshToken id tokenHash =>
    exact ⟨h.refreshTokens.find? fun _ _ ht => by rw [ht.id, ht.tokenHash], h⟩
  | revokeRefreshToken id =>
    have hp (t t' : RefreshToken) (ht : t.Alike t') : decide (t.id = id) = decide (t'.id = id) := by rw [ht.id]
    exact ⟨length_filter_rel h.refreshTokens hp, h.revoke hp now⟩
  | revokeAllTokens userId =>
    have hp (t t' : RefreshToken) (ht : t.Alike t') :
        decide (t.userId = userId ∧ t.revokedAt = none) = decide (t'.userId = userId ∧ t'.revokedAt = none) :=
      decide_eq_decide.mpr (by rw [ht.userId, ht.unrevoked])
    exact ⟨length_filter_rel h.refreshTokens hp, h.revoke hp now⟩
  | invalidateTokens purpose userId =>
    have hp (t t' : OneTimeToken) (ht : t.Alike t') :
        decide (t.userId = userId ∧ t.usedAt = none) = decide (t'.userId = userId ∧ t'.usedAt = none) :=
      decide_eq_decide.mpr (by rw [ht.userId, ht.unused])
    exact ⟨length_filter_rel (h.oneTimeTokens purpose) hp, h.markUsed purpose hp now⟩
  | insertOneTimeToken purpose userId tokenHash expiresAt =>
    refine .bind_same fun tokenHash => ?_
    exact .bind_orError (h.insertOneTimeToken? purpose _) fun _ _ hdb => ⟨rfl, hdb⟩
  | selectValidToken purpose tokenHash =>
    have hp (t t' : OneTimeToken) (ht : t.Alike t') :
        decide (t.tokenHash = tokenHash ∧ t.expiresAt > now ∧ t.usedAt = none) =
          decide (t'.tokenHash = tokenHash ∧ t'.expiresAt > now ∧ t'.usedAt = none) :=
      decide_eq_decide.mpr (by rw [ht.tokenHash, ht.expiresAt, ht.unused])
    have hpair (t t' : OneTimeToken) (ht : t.Alike t') : (t.id, t.userId) = (t'.id, t'.userId) := by
      rw [ht.id, ht.userId]
    exact ⟨map_eq_of_rel hpair ((h.oneTimeTokens purpose).find? hp), h⟩
  | markTokenUsed purpose id =>
    have hp (t t' : OneTimeToken) (ht : t.Alike t') : decide (t.id = id) = decide (t'.id = id) := by rw [ht.id]
    exact ⟨length_filter_rel (h.oneTimeTokens purpose) hp, h.markUsed purpose hp now⟩

end RustPressAuth
