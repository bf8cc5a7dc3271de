import RustPressAuth.LiveTokens
import RustPressAuth.UserRows

/-!
# Token rows

What each statement does to a row of `refresh_tokens` and to a row of a table of one-time
tokens, as functions on rows. A statement changes the rows by these functions and adds
at most one new row, whose id is not taken.
-/

namespace RustPressAuth

open Relational

/-- What a statement that does not fail does to a row of `refresh_tokens`. -/
def Statement.onRefreshToken (now : Instant) : Statement → RefreshToken → RefreshToken
  | .revokeRefreshToken id, t => if t.id = id then Db.revokedRow now t else t
  | .revokeAllTokens userId, t => if t.userId = userId ∧ t.revokedAt = none then Db.revokedRow now t else t
  | _, t => t

/-- The row a statement adds to `refresh_tokens`, if any. -/
def Statement.newRefreshToken? (now : Instant) : Statement → Option RefreshToken
  | .insertRefreshToken id userId tokenHash expiresAt ipAddress userAgent =>
    (varchar 255 tokenHash).bind fun tokenHash => (varchar? 45 ipAddress).map fun ipAddress =>
      newRefreshToken now id userId tokenHash expiresAt ipAddress userAgent
  | _ => none

/-- What a statement that does not fail does to a row of a table of one-time tokens. -/
def Statement.onOneTimeToken (now : Instant) (purpose : Purpose) : Statement → OneTimeToken → OneTimeToken
  | .invalidateTokens p userId, t =>
    if p = purpose ∧ t.userId = userId ∧ t.usedAt = none then Db.usedRow now t else t
  | .markTokenUsed p id, t => if p = purpose ∧ t.id = id then Db.usedRow now t else t
  | _, t => t

/-- No statement changes the id of a refresh token. -/
theorem Statement.onRefreshToken_id (now : Instant) (s : Statement) (t : RefreshToken) :
    (s.onRefreshToken now t).id = t.id := by
  cases s <;> simp only [onRefreshToken] <;> split <;> rfl

/-- No statement changes the id of a one-time token. -/
theorem Statement.onOneTimeToken_id (now : Instant) (purpose : Purpose) (s : Statement) (t : OneTimeToken) :
    (s.onOneTimeToken now purpose t).id = t.id := by
  cases s <;> simp only [onOneTimeToken] <;> split <;> rfl

/-- A statement keeps of a session all but when it was revoked. -/
theorem Statement.onRefreshToken_keeps (now : Instant) (s : Statement) (t : RefreshToken) :
    s.onRefreshToken now t = { t with revokedAt := (s.onRefreshToken now t).revokedAt } := by
  cases s <;> simp only [onRefreshToken] <;> split <;> rfl

/-- A statement keeps of a one-time token all but when it was used. -/
theorem Statement.onOneTimeToken_keeps (now : Instant) (purpose : Purpose) (s : Statement) (t : OneTimeToken) :
    s.onOneTimeToken now purpose t = { t with usedAt := (s.onOneTimeToken now purpose t).usedAt } := by
  cases s <;> simp only [onOneTimeToken] <;> split <;> rfl

/-- A statement keeps the name of a user. -/
theorem Statement.onUser_name (now : Instant) (s : Statement) (row : User) :
    (s.onUser now row).name = row.name := by
  cases s <;> simp only [onUser] <;> split <;> rfl

section Rows

variable {fresh : Uuid} {now : Instant} {db db' : Db}

/-- A new refresh token is the row of an INSERT of a refresh token. -/
theorem Statement.newRefreshToken?_eq_some {s : Statement} {t : RefreshToken}
    (h : s.newRefreshToken? now = some t) :
    ∃ tokenHash ipAddress, s = .insertRefreshToken t.id t.userId tokenHash t.expiresAt ipAddress t.userAgent ∧
      varchar 255 tokenHash = some t.tokenHash ∧ varchar? 45 ipAddress = some t.ipAddress ∧
      t = newRefreshToken now t.id t.userId t.tokenHash t.expiresAt t.ipAddress t.userAgent := by
  unfold newRefreshToken? at h
  split at h
  · obtain ⟨hash, hhash, hrest⟩ := Option.bind_eq_some_iff.mp h
    obtain ⟨ip, hip, rfl⟩ := Option.map_eq_some_iff.mp hrest
    exact ⟨_, _, rfl, hhash, hip, rfl⟩
  · cases h

/-- The rows of `refresh_tokens` after a statement are the rows before it, changed, and the new one, whose id is not
taken. -/
theorem Statement.run_sessionRows {s : Statement} {v : s.Row} (h : s.run fresh now db = .ok (v, db')) :
    (∀ t', t' ∈ db'.refreshTokens ↔
      (∃ t ∈ db.refreshTokens, s.onRefreshToken now t = t') ∨ s.newRefreshToken? now = some t') ∧
    ∀ new, s.newRefreshToken? now = some new → ∀ t ∈ db.refreshTokens, t.id ≠ new.id := by
  by_cases hwrites : s.writesRefreshTokens = true
  · cases s with
    | revokeRefreshToken id =>
      cases h
      refine ⟨fun t' => ?_, fun new hnew => by cases hnew⟩
      simp only [onRefreshToken, newRefreshToken?, reduceCtorEq, or_false, Db.mem_revoke, decide_eq_true_eq]
    | revokeAllTokens userId =>
      cases h
      refine ⟨fun t' => ?_, fun new hnew => by cases hnew⟩
      simp only [onRefreshToken, newRefreshToken?, reduceCtorEq, or_false, Db.mem_revoke, decide_eq_true_eq]
    | insertRefreshToken id userId tokenHash expiresAt ipAddress userAgent =>
      simp only [Statement.run, except_bind_eq_ok, orError_eq_ok] at h
      obtain ⟨hash, hhash, ip, hip, db₁, hinsert, heq⟩ := h
      cases heq
      obtain ⟨-, htable, -⟩ := Db.insertRefreshToken?_spec hinsert
      have hadded :
        (Statement.insertRefreshToken id userId tokenHash expiresAt ipAddress userAgent).newRefreshToken? now =
          some (newRefreshToken now id userId hash expiresAt ip userAgent) := by
        simp only [newRefreshToken?, hhash, hip, Option.bind_some, Option.map_some]
      rw [hadded]
      constructor
      · intro t'
        rw [Table.mem_insert? htable]
        simp [onRefreshToken, eq_comm]
      · intro new hnew t ht
        obtain rfl := Option.some.inj hnew
        exact (Table.insert?_fresh htable ht).1
    | _ => cases hwrites
  · rw [(Statement.run_frame h).1 (Bool.eq_false_iff.mpr hwrites)]
    cases s with
    | revokeRefreshToken | revokeAllTokens | insertRefreshToken => exact absurd rfl hwrites
    | _ => simp [onRefreshToken, newRefreshToken?]

/-- The rows of a table of one-time tokens after a statement are the rows before it, changed, and the new one,
whose id is not taken. -/
theorem Statement.run_tokenRows {s : Statement} {v : s.Row} (h : s.run fresh now db = .ok (v, db'))
    (purpose : Purpose) :
    (∀ t', t' ∈ db'.oneTimeTokens purpose ↔
      (∃ t ∈ db.oneTimeTokens purpose, s.onOneTimeToken now purpose t = t') ∨
      s.newToken? fresh now purpose = some t') ∧
    ∀ new, s.newToken? fresh now purpose = some new → ∀ t ∈ db.oneTimeTokens purpose, t.id ≠ new.id := by
  have hmarked (p : Purpose) (f : OneTimeToken → Bool) (t' : OneTimeToken) :
      t' ∈ (db.markUsed p f now).oneTimeTokens purpose ↔
        ∃ t ∈ db.oneTimeTokens purpose, (if p = purpose ∧ f t = true then Db.usedRow now t else t) = t' := by
    by_cases hp : p = purpose
    · subst hp
      simp only [true_and, Db.mem_markUsed]
    · simp only [Db.markUsed, Function.update_of_ne (Ne.symm hp), hp, false_and, if_false, exists_eq_right]
  by_cases hwrites : s.writesOneTimeTokens = true
  · cases s with
    | invalidateTokens p userId =>
      cases h
      refine ⟨fun t' => ?_, fun new hnew => by cases hnew⟩
      simp only [onOneTimeToken, newToken?, reduceCtorEq, or_false, hmarked, decide_eq_true_eq]
    | markTokenUsed p id =>
      cases h
      refine ⟨fun t' => ?_, fun new hnew => by cases hnew⟩
      simp only [onOneTimeToken, newToken?, reduceCtorEq, or_false, hmarked, decide_eq_true_eq]
    | insertOneTimeToken p userId tokenHash expiresAt =>
      simp only [Statement.run, except_bind_eq_ok, orError_eq_ok] at h
      obtain ⟨hash, hhash, db₁, hinsert, heq⟩ := h
      cases heq
      obtain ⟨-, -, htable, hothers⟩ := Db.insertOneTimeToken?_spec hinsert
      by_cases hp : p = purpose
      · subst hp
        simp only [newToken?, if_true, hhash, Option.getD_some, Option.some.injEq]
        constructor
        · intro t'
          rw [Table.mem_insert? htable]
          simp [onOneTimeToken, eq_comm]
        · rintro new rfl t ht
          exact (Table.insert?_fresh htable ht).1
      · rw [hothers purpose (Ne.symm hp)]
        simp [onOneTimeToken, newToken?, hp]
    | _ => cases hwrites
  · rw [(Statement.run_frame h).2 (Bool.eq_false_iff.mpr hwrites)]
    cases s with
    | invalidateTokens | markTokenUsed | insertOneTimeToken => exact absurd rfl hwrites
    | _ => simp [onOneTimeToken, newToken?]

/-- A new user has an id that is not taken, and its values as the columns store them. -/
theorem Statement.run_newUser {s : Statement} {v : s.Row} (h : s.run fresh now db = .ok (v, db')) {new : User}
    (hnew : s.newUser? fresh now = some new) : (∀ u ∈ db.users, u.id ≠ new.id) ∧
      ∃ email passwordHash name, s = .insertUser email passwordHash name ∧ varchar 255 email = some new.email ∧
        varchar 255 passwordHash = some new.passwordHash ∧ varchar 100 name = some new.name := by
  cases s with
  | insertUser email passwordHash name =>
    simp only [Statement.run, except_bind_eq_ok, orError_eq_ok] at h
    obtain ⟨email', hemail, hash', hhash, name', hname, db₁, hinsert, heq⟩ := h
    cases heq
    simp only [newUser?, hemail, hhash, hname, Option.getD_some, Option.some.injEq] at hnew
    subst hnew
    obtain ⟨htable, -, -⟩ := Db.insertUser?_spec hinsert
    exact ⟨fun u hu => (Table.insert?_fresh htable hu).1, _, _, _, rfl, hemail, hhash, hname⟩
  | _ => cases hnew

end Rows

end RustPressAuth
