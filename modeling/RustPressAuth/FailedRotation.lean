import RustPressAuth.SessionLaw

/-!
# Rotations that fail half-way

A rotation stores the successor before it revokes the presented token, without a
transaction. A refresh with an unrevoked token that ends with an error leaves the
database as it was, with one exception: when the closing revocation fails, the
successor stays and both tokens are unrevoked.
-/

namespace RustPressAuth

open Atomic Program Machine Relational

variable {svc : AuthService} {w w' : World} {tr : Trace} {x : String} {row : RefreshToken}

/-- The presented refresh token is one of the service and leads to this row. -/
def AuthService.Presents (svc : AuthService) (x : String) (db : Db) (row : RefreshToken) : Prop :=
  ∃ (t : ℕ) (tokenString : String) (claims : RefreshTokenClaims), svc.Decodes true x t tokenString claims ∧
    db.refreshRow? claims.tid (svc.hashToken tokenString) = some row

/-- Whatever row a refresh finds is the row of the presented token. -/
theorem AuthService.Presents.found {b : Bool} {db : Db} {t : Instant} {tokenString : String}
    {claims : RefreshTokenClaims} {found : RefreshToken} (h : svc.Presents x db row)
    (hdecodes : svc.Decodes b x t tokenString claims)
    (hfound : db.refreshRow? claims.tid (svc.hashToken tokenString) = some found) : found = row := by
  obtain ⟨t', tokenString', claims', hdecodes', hrow⟩ := h
  obtain ⟨hmem, hid, -⟩ := Db.refreshRow?_some hrow
  obtain ⟨hmem', hid', -⟩ := Db.refreshRow?_some hfound
  have htid : claims'.tid = claims.tid := Option.some.inj (hdecodes'.tokenId?_eq.symm.trans hdecodes.tokenId?_eq)
  apply Table.eq_of_pk hmem' hmem
  rw [hid', hid, htid]

/-- The closing revocation of the presented token failed: a successor was stored for the user it names,
nothing else is changed, and both are unrevoked. -/
def RotationInterrupted (svc : AuthService) (x : String) (row : RefreshToken) (w : World) (tr : Trace)
    (e : Failure) (w' : World) : Prop :=
  (∃ message, e = .err (.database message)) ∧ StopsAt (.revokeRefreshToken row.id) tr ∧
    ∃ successor new, Names svc successor new ∧ (svc.claims? x).map RefreshTokenClaims.sub = some new.userId ∧
      w.db.insertRefreshToken? new = some w'.db ∧ new.isRevoked = false ∧ row ∈ w'.db.refreshTokens ∧
      row.isRevoked = false

/-- A refresh that failed left everything as it was, or was interrupted before the closing revocation. -/
theorem RefreshFailure.left {res : Except Failure TokenResponse} (h : RefreshFailure svc x w tr res w')
    (hpresents : svc.Presents x w.db row) :
    w'.db = w.db ∨ ∃ e, res = .error e ∧ RotationInterrupted svc x row w tr e w' := by
  cases h with
  | unchanged hdb => exact Or.inl hdb
  | @unrevoked _ _ _ _ _ _ _ _ user hdecodes hrow hvalid huser hstores hstops =>
    obtain rfl := hpresents.found hdecodes hrow
    obtain ⟨hmem, hid, -⟩ := Db.refreshRow?_some hrow
    obtain ⟨tokenId, issuedAt, now, bytes, ipAddress, userAgent, rfl, hinsert⟩ := hstores
    rw [← hid] at hstops
    have hsub : (svc.claims? x).map RefreshTokenClaims.sub = some user.id := by
      rw [hdecodes.claims?_eq, Option.map_some, of_decide_eq_true (Table.find?_some huser).2]
    have hkept := (Table.mem_insert? (Db.insertRefreshToken?_spec hinsert).2.1).mpr (Or.inl hmem)
    exact Or.inr ⟨_, rfl, ⟨_, rfl⟩, hstops, _, _, ⟨issuedAt, bytes, rfl, rfl, rfl⟩, hsub, hinsert, rfl, hkept,
      (RefreshToken.isValid_iff.mp hvalid).2⟩

/-- A refresh that is refused for a token whose row is unrevoked leaves everything as it was. -/
theorem RefreshOutcome.left {e : Failure} (h : RefreshOutcome svc x w (.error e) w')
    (hpresents : svc.Presents x w.db row) (hlive : row.isRevoked = false) : w'.db = w.db := by
  cases h with
  | undecoded _ _ hdb => exact hdb
  | unknown _ _ _ hdb => exact hdb
  | revoked hdecodes hrow hrevoked _ =>
    rw [hpresents.found hdecodes hrow, hlive] at hrevoked
    cases hrevoked
  | expired _ _ _ _ _ hdb => exact hdb
  | unowned _ _ _ _ hdb => exact hdb
  | barred _ _ _ _ _ _ hdb => exact hdb
  | panicked _ _ _ _ _ _ _ _ _ hdb => exact hdb

/-- A refresh with an unrevoked token that ends with an error leaves the database as it was, unless the
closing revocation failed: then exactly a successor was added, and both tokens are unrevoked. -/
theorem failed_refresh_leaves (svc : AuthService) (w w' : World) (x : String) (ipAddress userAgent : Option String)
    (tr : Trace) (e : Failure) (row : RefreshToken) (hpresents : svc.Presents x w.db row)
    (hlive : row.isRevoked = false)
    (hrun : (svc.alone true).Exec (svc.refreshTokens x ipAddress userAgent) w tr (.error e) w') :
    w'.db = w.db ∨ RotationInterrupted svc x row w tr e w' := by
  rcases refreshTokens_ending hrun with houtcome | ⟨-, hfailure⟩
  · exact Or.inl (houtcome.left hpresents hlive)
  · rcases hfailure.left hpresents with hdb | ⟨e', he, hinterrupted⟩
    · exact Or.inl hdb
    · rw [Except.error.inj he]
      exact Or.inr hinterrupted

section Runs

open Reference

/-- A user has registered and logged in. -/
def loggedInWorld : World :=
  (service.executor.play (moves 0 3 1 ++ moves 1 12 2) (service.start world rotationRequests)).shared

/-- The row of the token of the login. -/
def loginRow : RefreshToken := service.storedRow 1 2 0 0 (choice 2).bytes none none

/-- The row of the login is in the table. -/
theorem loginRow_mem : loginRow ∈ loggedInWorld.db.refreshTokens := by
  have hrows : loggedInWorld.db.refreshTokens.rows = [loginRow] := by decide +kernel
  change loginRow ∈ loggedInWorld.db.refreshTokens.rows
  rw [hrows]
  exact List.mem_singleton_self loginRow

/-- The token of the login presents its row. -/
theorem presents_loginToken : service.Presents loginToken loggedInWorld.db loginRow := by
  have hnames : Names service loginToken loginRow := ⟨0, (choice 2).bytes, rfl, rfl, rfl⟩
  obtain ⟨tokenString, claims, hdecodes⟩ := hnames.decodes (t := 0) jwtRoundTrip (by decide)
  exact ⟨0, tokenString, claims, hdecodes, (hnames.refreshRow? jwtRoundTrip loginRow_mem hdecodes).2⟩

/-- The choices for a rotation whose last statement fails. -/
def failsRevoking : List Choice := List.replicate 13 (choice 3) ++ [{ choice 3 with fault := some "closed" }]

/-- Two refresh tokens are unrevoked. -/
def bothLive (db : Db) : Prop :=
  ∃ row ∈ db.refreshTokens.rows, ∃ row' ∈ db.refreshTokens.rows, row'.id ≠ row.id ∧ row.isRevoked = false ∧
    row'.isRevoked = false

instance (db : Db) : Decidable (bothLive db) := inferInstanceAs (Decidable (∃ row ∈ _, ∃ row' ∈ _, _))

/-- The test that a rotation failed and left both tokens alive. -/
def leavesBothLive (res : Except Failure Response) (w' : World) : Bool :=
  res.isOk = false ∧ bothLive w'.db ∧ ¬ bothLive loggedInWorld.db

/-- A refresh fails at its last statement and leaves both tokens unrevoked. -/
theorem exists_bothLive :
    ∃ tr e w', (service.alone true).Exec (service.refreshTokens loginToken none none) loggedInWorld
    tr (.error e) w' ∧ bothLive w'.db ∧ ¬ bothLive loggedInWorld.db := by
  have hpasses : ((service.executor.solo (AuthService.admits true) failsRevoking
      (answer .tokens (refreshIssued 1 2 0 none none)) loggedInWorld).any fun out =>
      leavesBothLive out.2.1 out.2.2) = true := by
    decide +kernel
  obtain ⟨tr, res, w', hrun, htest⟩ := Executor.exists_exec service.alone_perform leavesBothLive hpasses
  obtain ⟨hfailed, hboth, hbefore⟩ := of_decide_eq_true htest
  obtain ⟨result, hrefresh, rfl⟩ := alone_answer hrun
  rw [← refreshTokens_refreshToken] at hrefresh
  cases result with
  | ok response => cases hfailed
  | error e => exact ⟨tr, e, w', hrefresh, hboth, hbefore⟩

/-- A refresh of the token of a login is interrupted at its last statement. -/
theorem failed_refresh_leaves_both :
    ∃ tr e w', RotationInterrupted service loginToken loginRow loggedInWorld tr e w' := by
  obtain ⟨tr, e, w', hrun, hboth, hbefore⟩ := exists_bothLive
  refine ⟨tr, e, w', ?_⟩
  rcases failed_refresh_leaves service loggedInWorld w' loginToken none none tr e loginRow
    presents_loginToken rfl hrun
    with hdb | hinterrupted
  · rw [hdb] at hboth
    exact absurd hboth hbefore
  · exact hinterrupted

/-- A refresh with an unrevoked token fails, and leaves a successor of it with both unrevoked. -/
theorem failed_refresh_changes : ∃ tr e w', (service.alone true).Exec (service.refreshTokens loginToken none none)
    loggedInWorld tr (.error e) w' ∧ service.Presents loginToken loggedInWorld.db loginRow ∧
      loginRow.isRevoked = false ∧ bothLive w'.db ∧ w'.db.refreshTokens ≠ loggedInWorld.db.refreshTokens := by
  obtain ⟨tr, e, w', hrun, hboth, hbefore⟩ := exists_bothLive
  refine ⟨tr, e, w', hrun, presents_loginToken, rfl, hboth, fun hsame => hbefore ?_⟩
  rw [bothLive, ← hsame]
  exact hboth

end Runs

end RustPressAuth
