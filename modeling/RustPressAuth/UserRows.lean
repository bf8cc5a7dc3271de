import RustPressAuth.CallProtocol
import RustPressAuth.Effects

/-!
# User rows

What each statement does to a row of `users`, as a function on rows, and where the users
come from that a call goes on with. A statement changes the rows by this function and
adds at most one new row.
-/

namespace RustPressAuth

open Atomic Program Relational

/-- What a statement that does not fail does to a row of `users`. -/
def Statement.onUser (now : Instant) : Statement → User → User
  | .incrementFailedAttempts id maxLoginAttempts lockoutDuration, u =>
    if u.id = id then u.incremented now maxLoginAttempts lockoutDuration else u
  | .recordSuccessfulLogin id ipAddress, u =>
    if u.id = id then u.loggedIn now ((varchar? 45 ipAddress).getD none) else u
  | .updatePassword passwordHash id, u =>
    if u.id = id then u.withPassword now ((varchar 255 passwordHash).getD passwordHash) else u
  | .verifyUserEmail id, u => if u.id = id then u.verified now else u
  | _, u => u

/-- No statement changes the id of a user. -/
theorem Statement.onUser_id (now : Instant) (s : Statement) (row : User) : (s.onUser now row).id = row.id := by
  cases s <;> simp only [onUser] <;> split <;> rfl

/-- No statement changes the email of a user. -/
theorem Statement.onUser_email (now : Instant) (s : Statement) (row : User) :
    (s.onUser now row).email = row.email := by
  cases s <;> simp only [onUser] <;> split <;> rfl

/-- Only the verification of its own email changes the status of a row, or when its email was verified. -/
theorem Statement.onUser_verification (now : Instant) {s : Statement} {row : User}
    (h : s ≠ .verifyUserEmail row.id) :
    (s.onUser now row).status = row.status ∧ (s.onUser now row).emailVerifiedAt = row.emailVerifiedAt := by
  cases s with
  | verifyUserEmail id =>
    have hid : row.id ≠ id := fun heq => h (heq ▸ rfl)
    simp only [onUser, if_neg hid, and_self]
  | incrementFailedAttempts id maxLoginAttempts lockoutDuration =>
    simp only [onUser]
    split <;> exact ⟨rfl, rfl⟩
  | recordSuccessfulLogin id ipAddress =>
    simp only [onUser]
    split <;> exact ⟨rfl, rfl⟩
  | updatePassword passwordHash id =>
    simp only [onUser]
    split <;> exact ⟨rfl, rfl⟩
  | _ => exact ⟨rfl, rfl⟩

/-- The row a statement adds to `users`, if any. -/
def Statement.newUser? (fresh : Uuid) (now : Instant) : Statement → Option User
  | .insertUser email passwordHash name =>
    some (newUser fresh now ((varchar 255 email).getD email) ((varchar 255 passwordHash).getD passwordHash)
      ((varchar 100 name).getD name))
  | _ => none

section Rows

variable {fresh : Uuid} {now : Instant} {db db' : Db} {row row' : User}

/-- The users after an update are the users before it, the one with the id updated. -/
theorem Db.mem_updateUser {id : Uuid} {f : User → User} (hid : ∀ u, (f u).id = u.id)
    (hemail : ∀ u, (f u).email = u.email) :
    row' ∈ (db.updateUser id f hid hemail).users ↔
    ∃ row ∈ db.users, (if row.id = id then f row else row) = row' := by
  simp only [Db.updateUser, Db.mem_updateUsers, decide_eq_true_eq]

/-- Without a row of the id, a change of the row with that id changes no row. -/
theorem exists_of_user?_none {id : Uuid} {f : User → User} (h : db.user? id = none) :
    row' ∈ db.users ↔ ∃ row ∈ db.users, (if row.id = id then f row else row) = row' := by
  have hother (row : User) (hrow : row ∈ db.users) : row.id ≠ id := of_decide_eq_false (Table.find?_none h hrow)
  constructor
  · intro hrow
    exact ⟨row', hrow, if_neg (hother row' hrow)⟩
  · rintro ⟨row, hrow, rfl⟩
    rw [if_neg (hother row hrow)]
    exact hrow

/-- The rows after a statement are the rows before it, changed, and the new one. -/
theorem Statement.run_users {s : Statement} {v : s.Row} (h : s.run fresh now db = .ok (v, db')) :
    row' ∈ db'.users ↔ (∃ row ∈ db.users, s.onUser now row = row') ∨ s.newUser? fresh now = some row' := by
  cases s with
  | selectUserIdByEmail email => cases h; simp [onUser, newUser?]
  | selectUserByEmail email => cases h; simp [onUser, newUser?]
  | selectUserById id => cases h; simp [onUser, newUser?]
  | selectRefreshToken id tokenHash => cases h; simp [onUser, newUser?]
  | selectValidToken purpose tokenHash => cases h; simp [onUser, newUser?]
  | revokeRefreshToken id => cases h; simp [onUser, newUser?, Db.revoke]
  | revokeAllTokens userId => cases h; simp [onUser, newUser?, Db.revoke]
  | invalidateTokens purpose userId => cases h; simp [onUser, newUser?, Db.markUsed]
  | markTokenUsed purpose id => cases h; simp [onUser, newUser?, Db.markUsed]
  | insertUser email passwordHash name =>
    simp only [Statement.run, except_bind_eq_ok, orError_eq_ok] at h
    obtain ⟨email', hemail, hash', hhash, name', hname, db₁, hinsert, heq⟩ := h
    cases heq
    obtain ⟨htable, -, -⟩ := Db.insertUser?_spec hinsert
    rw [Table.mem_insert? htable]
    simp [onUser, newUser?, hemail, hhash, hname, eq_comm]
  | insertRefreshToken id userId tokenHash expiresAt ipAddress userAgent =>
    simp only [Statement.run, except_bind_eq_ok, orError_eq_ok] at h
    obtain ⟨_, _, _, _, db₁, hinsert, heq⟩ := h
    cases heq
    obtain ⟨husers, -, -⟩ := Db.insertRefreshToken?_spec hinsert
    simp [onUser, newUser?, husers]
  | insertOneTimeToken purpose userId tokenHash expiresAt =>
    simp only [Statement.run, except_bind_eq_ok, orError_eq_ok] at h
    obtain ⟨_, _, db₁, hinsert, heq⟩ := h
    cases heq
    obtain ⟨husers, -, -, -⟩ := Db.insertOneTimeToken?_spec hinsert
    simp [onUser, newUser?, husers]
  | incrementFailedAttempts id maxLoginAttempts lockoutDuration =>
    simp only [Statement.run] at h
    split at h
    · cases h
    · cases h
      simp only [onUser, newUser?, reduceCtorEq, or_false]
      exact Db.mem_updateUser (f :=
        User.incremented now maxLoginAttempts lockoutDuration) (fun _ => rfl) (fun _ => rfl)
  | recordSuccessfulLogin id ipAddress =>
    simp only [Statement.run] at h
    split at h
    · rename_i hnone
      cases h
      simp only [onUser, newUser?, reduceCtorEq, or_false]
      exact exists_of_user?_none hnone
    · cases h
    · rename_i user ip huser hip
      cases h
      simp only [onUser, newUser?, reduceCtorEq, or_false, hip, Option.getD_some]
      exact Db.mem_updateUser (f := User.loggedIn now ip) (fun _ => rfl) (fun _ => rfl)
  | updatePassword passwordHash id =>
    simp only [Statement.run] at h
    split at h
    · rename_i hnone
      cases h
      simp only [onUser, newUser?, reduceCtorEq, or_false]
      exact exists_of_user?_none hnone
    · cases h
    · rename_i user hash huser hhash
      cases h
      simp only [onUser, newUser?, reduceCtorEq, or_false, hhash, Option.getD_some]
      exact Db.mem_updateUser (f := User.withPassword now hash) (fun _ => rfl) (fun _ => rfl)
  | verifyUserEmail id =>
    simp only [Statement.run, except_bind_eq_ok, orError_eq_ok] at h
    obtain ⟨user, huser, heq⟩ := h
    cases heq
    simp only [onUser, newUser?, reduceCtorEq, or_false]
    exact Db.mem_updateUser (f := User.verified now) (fun _ => rfl) (fun _ => rfl)

/-- A registration returns the new row and adds it to the table. -/
theorem insertUser_run {email passwordHash name : String} {v : User}
    (h : (Statement.insertUser email passwordHash name).run fresh now db = .ok (v, db')) :
    ∃ email' hash' name', v = newUser fresh now email' hash' name' ∧ db.users.insert? v = some db'.users := by
  simp only [Statement.run, except_bind_eq_ok, orError_eq_ok] at h
  obtain ⟨email', -, hash', -, name', -, db₁, hinsert, heq⟩ := h
  obtain ⟨rfl, rfl⟩ := Prod.mk.inj (Except.ok.inj heq)
  exact ⟨email', hash', name', rfl, (Db.insertUser?_spec hinsert).1⟩

end Rows

/-- The user a query returned, if it returned one. -/
def readUser? : Entry → Option User
  | ⟨.sql (.selectUserByEmail _), .ok (some user)⟩ => some user
  | ⟨.sql (.selectUserById _), .ok (some user)⟩ => some user
  | _ => none

variable {svc : AuthService} {w w' : World} {user : User}

/-- A user that is read is a row of the table. -/
theorem readUser?_row {a : Action} {r : a.Reply} (h : svc.machine.perform a w r w')
    (hread : readUser? ⟨a, r⟩ = some user) : user ∈ w.db.users := by
  unfold readUser? at hread
  split at hread
  · rename_i email found hentry
    obtain ⟨rfl, hr⟩ := Sigma.mk.inj hentry
    cases hr
    cases hread
    obtain ⟨fresh, db, hrun, -⟩ := AuthService.perform_ok h
    have hfind : w.db.users.find? (fun u => u.email = email) = some user := (Prod.mk.inj (Except.ok.inj hrun)).1
    exact (Table.find?_some hfind).1
  · rename_i id found hentry
    obtain ⟨rfl, hr⟩ := Sigma.mk.inj hentry
    cases hr
    cases hread
    exact (selectUserById_row h).1
  · cases hread

/-- A user that was read is still there, under the same id, and verified if it was. -/
theorem user_of_read {req : ℕ → Request} {d : System} {ok : System → System → Prop}
    (hrun : svc.machine.Reaches ok (svc.start w req) d) {i : ℕ}
    {x : Entry} {h : Trace} (hsuffix : (x :: h) <:+ ownHistory i d.log) {user : User}
    (hread : readUser? x = some user) :
    ∃ e ∈ d.log, e.caller = i ∧ e.entry = x ∧ user ∈ e.before.db.users ∧
    ∃ user' ∈ d.shared.db.users, user.Later user' := by
  obtain ⟨e, older, he, hcaller, hentry, -⟩ := exists_event_of_suffix hsuffix
  obtain ⟨mid, next, s, hat, -⟩ := hrun.performedAt rfl he
  rw [← hentry] at hread
  have hmem : user ∈ e.before.db.users := readUser?_row hat.perform hread
  have hlog : e ∈ d.log := he.subset List.mem_cons_self
  obtain ⟨user', huser', hlater⟩ := (hrun.before_monotone svc.machine_monotone rfl hlog).db.users user hmem
  exact ⟨e, hlog, hcaller, hentry, hmem, user', huser', hlater⟩

/-- The user a call is authorized for was read by it, active, and not locked by the clock it read
next; where that is required of logins, a login found its email verified. -/
theorem Authorized.read {req : Request} {h : Trace} (hauth : Authorized svc req user h) :
    (∃ x h', (x :: h') <:+ h ∧ readUser? x = some user) ∧ user.status = .active ∧
      ∃ now, did .now now ∈ h ∧ user.isLocked now = false := by
  cases hauth with
  | @login r ipAddress userAgent _ now n h hverified =>
    have htrace := hverified.trace
    subst htrace
    refine ⟨⟨executed (.selectUserByEmail r.email) (some user), [], ⟨[_, _, _], rfl⟩, rfl⟩,
      hverified.active, now, ?_, hverified.unlocked⟩
    simp
  | @refresh refreshToken ipAddress userAgent claims row _ now h hchecked =>
    obtain ⟨checkedAt, h', hfound, hvalid, rfl⟩ := hchecked.steps
    have hlogin := hchecked.canLogin
    simp only [User.canLogin, Bool.and_eq_true, beq_iff_eq, Bool.not_eq_true'] at hlogin
    refine ⟨⟨executed (.selectUserById claims.sub) (some user), _, ⟨[_], rfl⟩, rfl⟩, hlogin.1, now, ?_, hlogin.2⟩
    simp

end RustPressAuth
