import RustPressAuth.Runs

/-!
# What single statements read and leave behind

One lemma for each statement about the rows an argument over a run speaks of: a query
returns rows that are in the table, and an update leaves its mark on the rows it is
about. They are stated on the action, as the log of a run records it.
-/

namespace RustPressAuth

open Relational

variable {svc : AuthService} {w w' : World}

/-- The statement writes to `users`. -/
def Statement.writesUsers : Statement → Bool
  | .insertUser .. | .incrementFailedAttempts .. | .recordSuccessfulLogin .. | .updatePassword .. |
      .verifyUserEmail _ => true
  | _ => false

/-- The statement writes to `refresh_tokens`. -/
def Statement.writesRefreshTokens : Statement → Bool
  | .insertRefreshToken .. | .revokeRefreshToken _ | .revokeAllTokens _ => true
  | _ => false

/-- The statement writes to a table of one-time tokens. -/
def Statement.writesOneTimeTokens : Statement → Bool
  | .invalidateTokens .. | .insertOneTimeToken .. | .markTokenUsed .. => true
  | _ => false

/-- A table that a statement does not write to stays as it is. -/
theorem Statement.run_frame {s : Statement} {fresh : Uuid} {now : Instant} {db db' : Db} {v : s.Row}
    (h : s.run fresh now db = .ok (v, db')) :
    (s.writesRefreshTokens = false → db'.refreshTokens = db.refreshTokens) ∧
      (s.writesOneTimeTokens = false → db'.oneTimeTokens = db.oneTimeTokens) := by
  cases s with
  | selectUserIdByEmail email => cases h; exact ⟨fun _ => rfl, fun _ => rfl⟩
  | selectUserByEmail email => cases h; exact ⟨fun _ => rfl, fun _ => rfl⟩
  | selectUserById id => cases h; exact ⟨fun _ => rfl, fun _ => rfl⟩
  | selectRefreshToken id tokenHash => cases h; exact ⟨fun _ => rfl, fun _ => rfl⟩
  | selectValidToken purpose tokenHash => cases h; exact ⟨fun _ => rfl, fun _ => rfl⟩
  | revokeRefreshToken id => cases h; exact ⟨fun hwrites => (by cases hwrites), fun _ => rfl⟩
  | revokeAllTokens userId => cases h; exact ⟨fun hwrites => (by cases hwrites), fun _ => rfl⟩
  | invalidateTokens purpose userId => cases h; exact ⟨fun _ => rfl, fun hwrites => (by cases hwrites)⟩
  | markTokenUsed purpose id => cases h; exact ⟨fun _ => rfl, fun hwrites => (by cases hwrites)⟩
  | insertUser email passwordHash name =>
    simp only [Statement.run, except_bind_eq_ok, orError_eq_ok] at h
    obtain ⟨_, _, _, _, _, _, db₁, hinsert, heq⟩ := h
    cases heq
    obtain ⟨-, hrefresh, honeTime⟩ := Db.insertUser?_spec hinsert
    exact ⟨fun _ => hrefresh, fun _ => honeTime⟩
  | insertRefreshToken id userId tokenHash expiresAt ipAddress userAgent =>
    simp only [Statement.run, except_bind_eq_ok, orError_eq_ok] at h
    obtain ⟨_, _, _, _, db₁, hinsert, heq⟩ := h
    cases heq
    exact ⟨fun hwrites => (by cases hwrites), fun _ => (Db.insertRefreshToken?_spec hinsert).2.2⟩
  | insertOneTimeToken purpose userId tokenHash expiresAt =>
    simp only [Statement.run, except_bind_eq_ok, orError_eq_ok] at h
    obtain ⟨_, _, db₁, hinsert, heq⟩ := h
    cases heq
    exact ⟨fun _ => (Db.insertOneTimeToken?_spec hinsert).2.1, fun hwrites => (by cases hwrites)⟩
  | incrementFailedAttempts id maxLoginAttempts lockoutDuration =>
    simp only [Statement.run] at h
    split at h
    · cases h
    · cases h; exact ⟨fun _ => rfl, fun _ => rfl⟩
  | recordSuccessfulLogin id ipAddress =>
    simp only [Statement.run] at h
    split at h
    · cases h; exact ⟨fun _ => rfl, fun _ => rfl⟩
    · cases h
    · cases h; exact ⟨fun _ => rfl, fun _ => rfl⟩
  | updatePassword passwordHash id =>
    simp only [Statement.run] at h
    split at h
    · cases h; exact ⟨fun _ => rfl, fun _ => rfl⟩
    · cases h
    · cases h; exact ⟨fun _ => rfl, fun _ => rfl⟩
  | verifyUserEmail id =>
    simp only [Statement.run, except_bind_eq_ok, orError_eq_ok] at h
    obtain ⟨user, huser, heq⟩ := h
    cases heq
    exact ⟨fun _ => rfl, fun _ => rfl⟩

/-- A statement that does not write to `users` leaves it as it is. -/
theorem Statement.run_keepsUsers {s : Statement} {fresh : Uuid} {now : Instant} {db db' : Db} {v : s.Row}
    (h : s.run fresh now db = .ok (v, db')) (hwrites : s.writesUsers = false) : db'.users = db.users := by
  cases s with
  | insertUser | incrementFailedAttempts | recordSuccessfulLogin | updatePassword | verifyUserEmail => cases hwrites
  | insertRefreshToken id userId tokenHash expiresAt ipAddress userAgent =>
    simp only [Statement.run, except_bind_eq_ok, orError_eq_ok] at h
    obtain ⟨_, _, _, _, db₁, hinsert, heq⟩ := h
    cases heq
    exact (Db.insertRefreshToken?_spec hinsert).1
  | insertOneTimeToken purpose userId tokenHash expiresAt =>
    simp only [Statement.run, except_bind_eq_ok, orError_eq_ok] at h
    obtain ⟨_, _, db₁, hinsert, heq⟩ := h
    cases heq
    exact (Db.insertOneTimeToken?_spec hinsert).1
  | _ =>
    cases h
    rfl

/-- A row that is read is in the table, under the id and the hash asked for. -/
theorem selectRefreshToken_row {id : Uuid} {tokenHash : String} {row : RefreshToken}
    (h : svc.machine.perform (.sql (.selectRefreshToken id tokenHash)) w (.ok (some row)) w') :
    row ∈ w.db.refreshTokens ∧ row.id = id ∧ row.tokenHash = tokenHash := by
  obtain ⟨fresh, db, hrun, rfl⟩ := AuthService.perform_ok h
  have hfind : w.db.refreshTokens.find? (fun t => t.id = id ∧ t.tokenHash = tokenHash) = some row :=
    (Prod.mk.inj (Except.ok.inj hrun)).1
  obtain ⟨hmem, hkey⟩ := Table.find?_some hfind
  simp only [decide_eq_true_eq] at hkey
  exact ⟨hmem, hkey⟩

/-- After a revocation by id the row with that id is revoked. -/
theorem revokeRefreshToken_row {id : Uuid} {n : ℕ}
    (h : svc.machine.perform (.sql (.revokeRefreshToken id)) w (.ok n) w')
    (hrow : ∃ row ∈ w.db.refreshTokens, row.id = id) :
    ∃ row ∈ w'.db.refreshTokens, row.id = id ∧ row.isRevoked = true := by
  obtain ⟨fresh, db, hrun, rfl⟩ := AuthService.perform_ok h
  obtain rfl : w.db.revoke (fun t => t.id = id) w.now = db := (Prod.mk.inj (Except.ok.inj hrun)).2
  obtain ⟨row, hrow, hid⟩ := hrow
  refine ⟨Db.revokedRow w.now row, Db.mem_revoke.mpr ⟨row, hrow, ?_⟩, hid, rfl⟩
  simp [hid]

/-- An inserted row is in the table, under its hash as the column stores it. -/
theorem insertRefreshToken_stored {id userId : Uuid} {tokenHash : String} {expiresAt : Instant}
    {ipAddress userAgent : Option String} {n : ℕ}
    (h : svc.machine.perform (.sql (.insertRefreshToken id userId tokenHash expiresAt ipAddress userAgent)) w
      (.ok n) w') : ∃ row ∈ w'.db.refreshTokens, row.id = id ∧ row.userId = userId ∧
        varchar 255 tokenHash = some row.tokenHash := by
  obtain ⟨fresh, db, hrun, rfl⟩ := AuthService.perform_ok h
  simp only [Statement.run, except_bind_eq_ok, orError_eq_ok] at hrun
  obtain ⟨hash, hhash, ip, -, db', hinsert, heq⟩ := hrun
  obtain rfl : db' = db := (Prod.mk.inj (Except.ok.inj heq)).2
  obtain ⟨-, htable, -⟩ := Db.insertRefreshToken?_spec hinsert
  exact ⟨_, (Table.mem_insert? htable).mpr (Or.inr rfl), rfl, rfl, hhash⟩

/-- An inserted row is in the table. -/
theorem insertRefreshToken_row {id userId : Uuid} {tokenHash : String} {expiresAt : Instant}
    {ipAddress userAgent : Option String} {n : ℕ}
    (h : svc.machine.perform (.sql (.insertRefreshToken id userId tokenHash expiresAt ipAddress userAgent)) w
      (.ok n) w') : ∃ row ∈ w'.db.refreshTokens, row.id = id ∧ row.userId = userId := by
  obtain ⟨row, hrow, hid, huser, -⟩ := insertRefreshToken_stored h
  exact ⟨row, hrow, hid, huser⟩

/-- A row of a statement's database was there before, or the statement inserted it. -/
theorem Statement.run_refreshTokens {s : Statement} {fresh : Uuid} {now : Instant} {db db' : Db} {v : s.Row}
    (h : s.run fresh now db = .ok (v, db')) {t : RefreshToken} (ht : t ∈ db'.refreshTokens) :
    (∃ q ∈ db.refreshTokens, q.Later t) ∨
      ∃ tokenHash expiresAt ip ua, s = .insertRefreshToken t.id t.userId tokenHash expiresAt ip ua := by
  have hrevoked (p : RefreshToken → Bool) (heq : db' = db.revoke p now) : ∃ q ∈ db.refreshTokens, q.Later t := by
    subst heq
    obtain ⟨q, hq, rfl⟩ := Db.mem_revoke.mp ht
    refine ⟨q, hq, ?_⟩
    split
    · exact Db.later_revokedRow now q
    · exact RefreshToken.Later.refl q
  by_cases hwrites : s.writesRefreshTokens = true
  · cases s with
    | revokeRefreshToken id => cases h; exact Or.inl (hrevoked _ rfl)
    | revokeAllTokens userId => cases h; exact Or.inl (hrevoked _ rfl)
    | insertRefreshToken id userId tokenHash expiresAt ip ua =>
      simp only [Statement.run, except_bind_eq_ok, orError_eq_ok] at h
      obtain ⟨_, _, _, _, db₁, hinsert, heq⟩ := h
      cases heq
      rcases (Table.mem_insert? (Db.insertRefreshToken?_spec hinsert).2.1).mp ht with hold | rfl
      · exact Or.inl ⟨t, hold, RefreshToken.Later.refl t⟩
      · exact Or.inr ⟨tokenHash, expiresAt, ip, ua, rfl⟩
    | _ => cases hwrites
  · rw [(Statement.run_frame h).1 (Bool.eq_false_iff.mpr hwrites)] at ht
    exact Or.inl ⟨t, ht, RefreshToken.Later.refl t⟩

/-- After a revocation by user every row of the user is revoked. -/
theorem revokeAllTokens_row {userId : Uuid} {n : ℕ}
    (h : svc.machine.perform (.sql (.revokeAllTokens userId)) w (.ok n) w') {row : RefreshToken}
    (hrow : row ∈ w.db.refreshTokens) (huser : row.userId = userId) :
    ∃ row' ∈ w'.db.refreshTokens, row'.id = row.id ∧ row'.isRevoked = true := by
  obtain ⟨fresh, db, hrun, rfl⟩ := AuthService.perform_ok h
  obtain rfl : w.db.revoke (fun t => t.userId = userId ∧ t.revokedAt = none) w.now = db :=
    (Prod.mk.inj (Except.ok.inj hrun)).2
  cases hrevoked : row.revokedAt with
  | none =>
    refine ⟨Db.revokedRow w.now row, Db.mem_revoke.mpr ⟨row, hrow, ?_⟩, rfl, rfl⟩
    simp [huser, hrevoked]
  | some t =>
    refine ⟨row, Db.mem_revoke.mpr ⟨row, hrow, ?_⟩, rfl, ?_⟩
    · simp [hrevoked]
    · simp [RefreshToken.isRevoked, hrevoked]

/-- A user that is read is in the table, under the id asked for. -/
theorem selectUserById_row {id : Uuid} {user : User}
    (h : svc.machine.perform (.sql (.selectUserById id)) w (.ok (some user)) w') :
    user ∈ w.db.users ∧ user.id = id := by
  obtain ⟨fresh, db, hrun, rfl⟩ := AuthService.perform_ok h
  have hfind : w.db.users.find? (fun u => u.id = id) = some user := (Prod.mk.inj (Except.ok.inj hrun)).1
  obtain ⟨hmem, hkey⟩ := Table.find?_some hfind
  exact ⟨hmem, of_decide_eq_true hkey⟩

/-- A row found later under the same id has the same contents, or later ones. -/
theorem World.Precedes.refreshToken (h : w.Precedes w') {id : Uuid}
    (hrow : ∃ row ∈ w.db.refreshTokens, row.id = id) : ∃ row ∈ w'.db.refreshTokens, row.id = id := by
  obtain ⟨row, hrow, hid⟩ := hrow
  obtain ⟨row', hrow', hlater⟩ := h.db.refreshTokens row hrow
  exact ⟨row', hrow', hlater.id.trans hid⟩

/-- A row that was revoked is revoked later on. -/
theorem World.Precedes.revoked (h : w.Precedes w') {row row' : RefreshToken}
    (hrow : row ∈ w.db.refreshTokens) (hrow' : row' ∈ w'.db.refreshTokens) (hid : row'.id = row.id)
    (hrevoked : row.isRevoked = true) : row'.isRevoked = true := by
  obtain ⟨later, hmem, hlater⟩ := h.db.refreshTokens row hrow
  obtain rfl : later = row' := Table.eq_of_pk hmem hrow' (hlater.id.trans hid.symm)
  exact hlater.revoked hrevoked

/-- A token that is found is in the table of its purpose, under the hash asked for, unused and
not expired. -/
theorem selectValidToken_row {purpose : Purpose} {tokenHash : String} {tokenId userId : Uuid}
    (h : svc.machine.perform (.sql (.selectValidToken purpose tokenHash)) w (.ok (some (tokenId, userId))) w') :
    ∃ row ∈ w.db.oneTimeTokens purpose, row.id = tokenId ∧ row.userId = userId ∧ row.tokenHash = tokenHash ∧
      row.expiresAt > w.now ∧ row.usedAt = none := by
  obtain ⟨fresh, db, hrun, rfl⟩ := AuthService.perform_ok h
  have hfind : ((w.db.oneTimeTokens purpose).find? fun t =>
      t.tokenHash = tokenHash ∧ t.expiresAt > w.now ∧ t.usedAt = none).map (fun t => (t.id, t.userId)) =
      some (tokenId, userId) := (Prod.mk.inj (Except.ok.inj hrun)).1
  obtain ⟨row, hrow, hpair⟩ := Option.map_eq_some_iff.mp hfind
  obtain ⟨hid, huser⟩ := Prod.mk.inj hpair
  obtain ⟨hmem, hkey⟩ := Table.find?_some hrow
  exact ⟨row, hmem, hid, huser, of_decide_eq_true hkey⟩

/-- After a token is marked used by its id the row with that id is used. -/
theorem markTokenUsed_row {purpose : Purpose} {id : Uuid} {n : ℕ}
    (h : svc.machine.perform (.sql (.markTokenUsed purpose id)) w (.ok n) w') {row : OneTimeToken}
    (hrow : row ∈ w.db.oneTimeTokens purpose) (hid : row.id = id) :
    ∃ row' ∈ w'.db.oneTimeTokens purpose, row.Later row' ∧ row'.usedAt.isSome = true := by
  obtain ⟨fresh, db, hrun, rfl⟩ := AuthService.perform_ok h
  obtain rfl : w.db.markUsed purpose (fun t => t.id = id) w.now = db := (Prod.mk.inj (Except.ok.inj hrun)).2
  refine ⟨Db.usedRow w.now row, Db.mem_markUsed.mpr ⟨row, hrow, ?_⟩, Db.later_usedRow w.now row, rfl⟩
  simp [hid]

end RustPressAuth
