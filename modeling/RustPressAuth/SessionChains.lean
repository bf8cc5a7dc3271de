import RustPressAuth.AccountOutcomes
import RustPressAuth.Chains.Replay
import RustPressAuth.Rotation

/-!
# Session chains over sequential runs

A login starts a chain of refresh tokens, and every refresh replaces the token that was
presented by a new one at the head of its chain. Along every sequential run the unrevoked
rows of `refresh_tokens` are exactly the current tokens of the chains: the newest ones
that were not logged out and whose user was not hit by a password change or by the reuse
of a revoked token. A token is identified by the row its JWT names.
-/

namespace RustPressAuth

open Atomic Program Machine Relational

/-- The JWT in a combined refresh token. -/
def jwtPart? (refreshToken : String) : Option String :=
  match rsplitDot refreshToken with
  | [_, jwt] => some jwt
  | _ => none

/-- The row a combined refresh token names. -/
def AuthService.tokenId? (svc : AuthService) (refreshToken : String) : Option Uuid :=
  (svc.claims? refreshToken).map RefreshTokenClaims.tid

/-- The user whose revoked refresh token is presented. -/
def AuthService.reusedBy? (svc : AuthService) (db : Db) (refreshToken : String) : Option Uuid :=
  match rsplitDot refreshToken, svc.tokenId? refreshToken with
  | tokenString :: _, some tokenId =>
    (db.refreshRow? tokenId (svc.hashToken tokenString)).bind fun row =>
      if row.isRevoked then some row.userId else none
  | _, _ => none

/-- The user a one-time token was issued to. -/
def Db.tokenOwner? (db : Db) (purpose : Purpose) (tokenHash : String) : Option Uuid :=
  ((db.oneTimeTokens purpose).find? fun t => t.tokenHash = tokenHash).map OneTimeToken.userId

/-- The refresh token a call returned. -/
def issuedRefresh? (c : CallRecord) : Option String :=
  match c.result with
  | .ok (.session response) => some response.refreshToken
  | .ok (.tokens response) => some response.refreshToken
  | _ => none

/-- The refresh tokens that were returned. -/
def issuedRefreshTokens (past : List CallRecord) : List String := past.filterMap issuedRefresh?

/-- What a call means for the chains of refresh tokens: a login starts a chain, a refresh extends the chain
of the presented token, a logout closes the presented token, and a reset, a change of the password and the
reuse of a revoked token end all chains of the user. -/
def sessionEvent (svc : AuthService) (c : CallRecord) : Chains.Event Uuid Uuid :=
  match c.request, c.result with
  | .login _ _ _, .ok (.session response) =>
    match svc.claims? response.refreshToken with
    | some claims => .start claims.sub claims.tid
    | none => .pass
  | .refreshTokens refreshToken _ _, .ok (.tokens response) =>
    match svc.tokenId? refreshToken, svc.tokenId? response.refreshToken with
    | some presented, some tokenId => .extend presented tokenId
    | _, _ => .pass
  | .refreshTokens refreshToken _ _, .error (.err .tokenRevoked) =>
    match svc.reusedBy? c.before.db refreshToken with
    | some userId => .endAll userId
    | none => .pass
  | .logout refreshToken, .ok _ =>
    match svc.tokenId? refreshToken with
    | some tokenId => .close tokenId
    | none => .pass
  | .resetPassword r, .ok _ =>
    match c.before.db.tokenOwner? .passwordReset (svc.hashToken r.token) with
    | some userId => .endAll userId
    | none => .pass
  | .changePassword userId _, .ok _ => .endAll userId
  | _, _ => .pass

/-- The chains of refresh tokens. -/
def sessionChains (svc : AuthService) (past : List CallRecord) : List (Chains.Chain Uuid Uuid) :=
  Chains.replay (past.map (sessionEvent svc))

/-- A JWT that is presented for a refresh and names the row of an issued token is the JWT of that token:
refresh JWTs are made by the service, and ids do not collide. -/
def MadeByService (svc : AuthService) : List CallRecord → Prop
  | [] => True
  | c :: past => (∀ x ipAddress userAgent, c.request = .refreshTokens x ipAddress userAgent →
      ∀ y ∈ issuedRefreshTokens past, svc.tokenId? y = svc.tokenId? x → jwtPart? x = jwtPart? y) ∧
      MadeByService svc past

variable {svc : AuthService}

/-- The JWT decides the claims. -/
theorem claims?_congr (svc : AuthService) {x y : String} (h : jwtPart? x = jwtPart? y) :
    svc.claims? x = svc.claims? y := by
  have hbind (z : String) : svc.claims? z =
      (jwtPart? z).bind fun jwt => (svc.prims.jwtParts jwt).bind fun parts =>
      RefreshTokenClaims.ofPayload parts.2 := by
    unfold AuthService.claims? jwtPart?
    generalize rsplitDot z = parts
    match parts with
    | [] => rfl
    | [_] => rfl
    | [_, _] => rfl
    | _ :: _ :: _ :: _ => rfl
  rw [hbind x, hbind y, h]

/-- A refresh token is cut into its random half and its JWT. -/
theorem rsplitDot_combined (userId tokenId : Uuid) (issuedAt : Instant) (bytes : Vector UInt8 32) :
    rsplitDot (svc.combined userId tokenId issuedAt bytes) = [base64UrlEncode bytes.toList,
      svc.prims.jwtEncode svc.config.jwtSecret (svc.refreshClaims userId tokenId issuedAt).toPayload] :=
  rsplitDot_append _ _ (dot_not_mem_base64UrlEncode _)

/-- The claims of a token of the service. -/
theorem claims?_combined (hjwt : svc.prims.JwtRoundTrip) (userId tokenId : Uuid) (issuedAt : Instant)
    (bytes : Vector UInt8 32) : svc.claims? (svc.combined userId tokenId issuedAt bytes) =
      some (svc.refreshClaims userId tokenId issuedAt) := by
  simp only [AuthService.claims?, rsplitDot_combined, hjwt.parts_encode, Option.bind_some,
    RefreshTokenClaims.ofPayload_toPayload]

/-- The claims a token decodes to are those of the token. -/
theorem AuthService.Decodes.claims?_eq {b : Bool} {x tokenString : String} {now : Instant}
    {claims : RefreshTokenClaims} (h : svc.Decodes b x now tokenString claims) : svc.claims? x = some claims := by
  obtain ⟨jwt, hsplit, hdecode⟩ := h
  exact claims?_of_decodeRefresh hsplit hdecode

/-- The id a token decodes to is the one it names. -/
theorem AuthService.Decodes.tokenId?_eq {b : Bool} {x tokenString : String} {now : Instant}
    {claims : RefreshTokenClaims} (h : svc.Decodes b x now tokenString claims) :
    svc.tokenId? x = some claims.tid := by
  rw [AuthService.tokenId?, h.claims?_eq]
  rfl

/-- The row is the one a token of the service was stored in. -/
def Names (svc : AuthService) (x : String) (row : RefreshToken) : Prop :=
  ∃ (issuedAt : Instant) (bytes : Vector UInt8 32), x = svc.combined row.userId row.id issuedAt bytes ∧
    row.tokenHash = svc.hashToken (base64UrlEncode bytes.toList) ∧
    row.expiresAt = issuedAt + seconds svc.config.refreshTokenExpiration

/-- A token that names a row carries the claims of the row. -/
theorem Names.claims? {x : String} {row : RefreshToken} (hjwt : svc.prims.JwtRoundTrip) (h : Names svc x row) :
    ∃ claims, svc.claims? x = some claims ∧ claims.sub = row.userId ∧ claims.tid = row.id := by
  obtain ⟨issuedAt, bytes, rfl, -⟩ := h
  exact ⟨_, claims?_combined hjwt _ _ _ _, rfl, rfl⟩

/-- A token that names a row carries its id. -/
theorem Names.tokenId? {x : String} {row : RefreshToken} (hjwt : svc.prims.JwtRoundTrip) (h : Names svc x row) :
    svc.tokenId? x = some row.id := by
  obtain ⟨claims, hclaims, -, htid⟩ := h.claims? hjwt
  rw [AuthService.tokenId?, hclaims, ← htid]
  rfl

/-- A later row has the same token. -/
theorem Names.later {x : String} {row row' : RefreshToken} (h : Names svc x row) (hlater : row.Later row') :
    Names svc x row' := by
  obtain ⟨issuedAt, bytes, hx, hhash, hexpires⟩ := h
  rw [← hlater.id, ← hlater.userId] at hx
  exact ⟨issuedAt, bytes, hx, hlater.tokenHash.trans hhash, hlater.expiresAt.trans hexpires⟩

/-- The table holds this token of the user. -/
def holds (table : RefreshTokens) (userId tokenId : Uuid) : Prop :=
  ∃ row ∈ table, row.userId = userId ∧ row.id = tokenId

/-- The table holds this token, unrevoked. -/
def live (table : RefreshTokens) (tokenId : Uuid) : Prop := ∃ row ∈ table, row.id = tokenId ∧ row.isRevoked = false

/-- A row for a token of the service was added. -/
def Adds (svc : AuthService) (userId tokenId : Uuid) (x : String) (table table' : RefreshTokens) : Prop :=
  ∃ row, Names svc x row ∧ row.userId = userId ∧ row.id = tokenId ∧ row.isRevoked = false ∧
    table.insert? row = some table'

/-- The rows that meet a condition were revoked. -/
def Revokes (p : RefreshToken → Bool) (table table' : RefreshTokens) : Prop :=
  ∃ now, ∀ row', row' ∈ table' ↔ ∃ row ∈ table, (if p row then Db.revokedRow now row else row) = row'

section Tables

variable {table table' : RefreshTokens} {userId tokenId : Uuid} {x : String} {p : RefreshToken → Bool}

/-- The id of an added row is new. -/
theorem Adds.fresh (h : Adds svc userId tokenId x table table') (owner : Uuid) : ¬ holds table owner tokenId := by
  obtain ⟨row, -, -, rfl, -, hinsert⟩ := h
  rintro ⟨old, hold, -, hid⟩
  exact (Table.insert?_fresh hinsert hold).1 hid

/-- Users hold the rows they held, and the added one. -/
theorem Adds.holds_iff (h : Adds svc userId tokenId x table table') (u t : Uuid) :
    holds table' u t ↔ holds table u t ∨ u = userId ∧ t = tokenId := by
  obtain ⟨row, -, rfl, rfl, -, hinsert⟩ := h
  simp only [holds, Table.mem_insert? hinsert, or_and_right, exists_or, exists_eq_left]
  simp only [eq_comm]

/-- The rows that were live are live, and the added one. -/
theorem Adds.live_iff (h : Adds svc userId tokenId x table table') (t : Uuid) :
    live table' t ↔ live table t ∨ t = tokenId := by
  obtain ⟨row, -, -, rfl, hlive, hinsert⟩ := h
  simp only [live, Table.mem_insert? hinsert, or_and_right, exists_or, exists_eq_left, hlive, and_true]
  simp only [eq_comm]

/-- A row after a revocation comes from a row before it, with the same contents or later ones. -/
theorem Revokes.source (h : Revokes p table table') {row' : RefreshToken} (hrow' : row' ∈ table') :
    ∃ row ∈ table, row.Later row' ∧ (row'.isRevoked = false ↔ row.isRevoked = false ∧ p row = false) := by
  obtain ⟨now, hrows⟩ := h
  obtain ⟨row, hrow, rfl⟩ := (hrows row').mp hrow'
  refine ⟨row, hrow, ?_⟩
  split
  · rename_i hp
    exact ⟨Db.later_revokedRow now row, by simp [Db.revokedRow, RefreshToken.isRevoked, hp]⟩
  · rename_i hp
    exact ⟨RefreshToken.Later.refl row, by simp [hp]⟩

/-- A row before a revocation is kept. -/
theorem Revokes.kept (h : Revokes p table table') {row : RefreshToken} (hrow : row ∈ table) :
    ∃ row' ∈ table', row.Later row' ∧ (row'.isRevoked = false ↔ row.isRevoked = false ∧ p row = false) := by
  obtain ⟨now, hrows⟩ := id h
  have hrow' := (hrows _).mpr ⟨row, hrow, rfl⟩
  obtain ⟨source, hsource, hlater, hlive⟩ := h.source hrow'
  have hid : source.id = row.id := by
    rw [← hlater.id]
    split <;> rfl
  obtain rfl : source = row := Table.eq_of_pk hsource hrow hid
  exact ⟨_, hrow', hlater, hlive⟩

/-- Users hold the same rows after a revocation. -/
theorem Revokes.holds_iff (h : Revokes p table table') (u t : Uuid) : holds table' u t ↔ holds table u t := by
  constructor
  · rintro ⟨row', hrow', rfl, rfl⟩
    obtain ⟨row, hrow, hlater, -⟩ := h.source hrow'
    exact ⟨row, hrow, hlater.userId.symm, hlater.id.symm⟩
  · rintro ⟨row, hrow, rfl, rfl⟩
    obtain ⟨row', hrow', hlater, -⟩ := h.kept hrow
    exact ⟨row', hrow', hlater.userId, hlater.id⟩

/-- The rows that do not meet the condition stay live. -/
theorem Revokes.live_iff (h : Revokes p table table') (t : Uuid) :
    live table' t ↔ ∃ row ∈ table, row.id = t ∧ row.isRevoked = false ∧ p row = false := by
  constructor
  · rintro ⟨row', hrow', rfl, hlive⟩
    obtain ⟨row, hrow, hlater, hiff⟩ := h.source hrow'
    exact ⟨row, hrow, hlater.id.symm, hiff.mp hlive⟩
  · rintro ⟨row, hrow, rfl, hlive⟩
    obtain ⟨row', hrow', hlater, hiff⟩ := h.kept hrow
    exact ⟨row', hrow', hlater.id, hiff.mpr hlive⟩

/-- Revoking one token. -/
theorem Revokes.live_token (h : Revokes (fun row => row.id = tokenId) table table') (t : Uuid) :
    live table' t ↔ live table t ∧ t ≠ tokenId := by
  rw [h.live_iff]
  constructor
  · rintro ⟨row, hrow, rfl, hlive, hother⟩
    exact ⟨⟨row, hrow, rfl, hlive⟩, of_decide_eq_false hother⟩
  · rintro ⟨⟨row, hrow, rfl, hlive⟩, hother⟩
    exact ⟨row, hrow, rfl, hlive, decide_eq_false hother⟩

/-- Revoking the unrevoked tokens of a user. -/
theorem Revokes.live_user (h : Revokes (fun row => row.userId = userId ∧ row.revokedAt = none) table table')
    (t : Uuid) :
    live table' t ↔ live table t ∧ ¬ holds table userId t := by
  have hunrevoked (row : RefreshToken) (hlive : row.isRevoked = false) : row.revokedAt = none := by
    simpa [RefreshToken.isRevoked] using hlive
  rw [h.live_iff]
  constructor
  · rintro ⟨row, hrow, rfl, hlive, hother⟩
    refine ⟨⟨row, hrow, rfl, hlive⟩, ?_⟩
    rintro ⟨row', hrow', huser, hid⟩
    obtain rfl : row' = row := Table.eq_of_pk hrow' hrow hid
    exact of_decide_eq_false hother ⟨huser, hunrevoked _ hlive⟩
  · rintro ⟨⟨row, hrow, rfl, hlive⟩, hother⟩
    refine ⟨row, hrow, rfl, hlive, decide_eq_false ?_⟩
    rintro ⟨huser, -⟩
    exact hother ⟨row, hrow, huser, rfl⟩

end Tables

/-- What a call did to the chains: it started one, extended one, closed a token, ended the chains of a
user, or left the table as it was. -/
inductive SessionStep (svc : AuthService) (c : CallRecord) : Prop
  | started {userId tokenId : Uuid} {x : String} (hevent : sessionEvent svc c = .start userId tokenId)
      (hissued : issuedRefresh? c = some x)
      (hadds : Adds svc userId tokenId x c.before.db.refreshTokens c.after.db.refreshTokens)
  | extended {presented userId tokenId : Uuid} {x : String} {table : RefreshTokens}
      (hevent : sessionEvent svc c = .extend presented tokenId) (hissued : issuedRefresh? c = some x)
      (howned : holds c.before.db.refreshTokens userId presented) (hlive : live c.before.db.refreshTokens presented)
      (hadds : Adds svc userId tokenId x c.before.db.refreshTokens table)
      (hrevokes : Revokes (fun row => row.id = presented) table c.after.db.refreshTokens)
  | closed {tokenId : Uuid} (hevent : sessionEvent svc c = .close tokenId) (hissued : issuedRefresh? c = none)
      (hrevokes : Revokes (fun row => row.id = tokenId) c.before.db.refreshTokens c.after.db.refreshTokens)
  | ended {userId : Uuid} (hevent : sessionEvent svc c = .endAll userId) (hissued : issuedRefresh? c = none)
      (hrevokes : Revokes (fun row => row.userId = userId ∧ row.revokedAt = none) c.before.db.refreshTokens
        c.after.db.refreshTokens)
  | untouched (hevent : sessionEvent svc c = .pass) (hissued : issuedRefresh? c = none)
      (htable : c.after.db.refreshTokens = c.before.db.refreshTokens)

/-- The tokens of the rows that a refresh may find are tokens of the users of these rows. -/
def SubjectsOwn (svc : AuthService) (c : CallRecord) : Prop :=
  ∀ x ipAddress userAgent claims, c.request = .refreshTokens x ipAddress userAgent → svc.claims? x = some claims →
    ∀ row ∈ c.before.db.refreshTokens, row.id = claims.tid → claims.sub = row.userId

/-- To end a session revokes the row with its id. -/
theorem revokes_endSession (db : Db) (id : Uuid) (now : Instant) :
    Revokes (fun row => row.id = id) db.refreshTokens (db.endSession id now).refreshTokens :=
    ⟨now, fun _ => Db.mem_revoke⟩

/-- To end the sessions of a user revokes all rows of the user. -/
theorem revokes_endSessions (db : Db) (userId : Uuid) (now : Instant) :
    Revokes (fun row => row.userId = userId ∧ row.revokedAt = none) db.refreshTokens
      (db.endSessions userId now).refreshTokens := ⟨now, fun _ => Db.mem_revoke⟩

/-- Storing a token adds its row. -/
theorem AuthService.Stores.adds {userId : Uuid} {x : String} {db db' : Db} (hjwt : svc.prims.JwtRoundTrip)
    (h : svc.Stores userId db x db') : ∃ claims, svc.claims? x = some claims ∧ claims.sub = userId ∧
      Adds svc userId claims.tid x db.refreshTokens db'.refreshTokens := by
  obtain ⟨tokenId, issuedAt, now, bytes, ipAddress, userAgent, rfl, hinsert⟩ := h
  have hclaims := claims?_combined hjwt userId tokenId issuedAt bytes
  have hnames : Names svc (svc.combined userId tokenId issuedAt bytes)
      (svc.storedRow userId tokenId issuedAt now bytes ipAddress userAgent) := ⟨issuedAt, bytes, rfl, rfl, rfl⟩
  exact ⟨_, hclaims, rfl, _, hnames, rfl, rfl, rfl, (Db.insertRefreshToken?_spec hinsert).2.1⟩

/-- The row that is found under an id is the only one with that id. -/
theorem Db.refreshRow?_some {db : Db} {id : Uuid} {tokenHash : String} {row : RefreshToken}
    (h : db.refreshRow? id tokenHash = some row) :
    row ∈ db.refreshTokens ∧ row.id = id ∧ row.tokenHash = tokenHash := by
  obtain ⟨hmem, hkey⟩ := Table.find?_some h
  exact ⟨hmem, of_decide_eq_true hkey⟩

/-- What the reuse of a token is, once its row was found. -/
theorem reusedBy?_of_found {b : Bool} {db : Db} {x tokenString : String} {now : Instant}
    {claims : RefreshTokenClaims} {row : RefreshToken} (hdecodes : svc.Decodes b x now tokenString claims)
    (hrow : db.refreshRow? claims.tid (svc.hashToken tokenString) = some row) :
    svc.reusedBy? db x = if row.isRevoked then some row.userId else none := by
  have htid := hdecodes.tokenId?_eq
  obtain ⟨jwt, hsplit, -⟩ := hdecodes
  simp only [AuthService.reusedBy?, hsplit, htid, hrow, Option.bind_some]

section Calls

variable {w w' : World} {tr : Trace} {c : CallRecord}

/-- The owner of a token that is found. -/
theorem tokenOwner?_of_valid {db : Db} {purpose : Purpose} {tokenHash : String} {now : Instant}
    {tokenId userId : Uuid} (h : db.validToken? purpose tokenHash now = some (tokenId, userId)) :
    db.tokenOwner? purpose tokenHash = some userId := by
  obtain ⟨row, hmem, -, rfl, hhash, -⟩ := Db.validToken?_row h
  have honly : ∀ q ∈ db.oneTimeTokens purpose, decide (q.tokenHash = tokenHash) = true → q = row := by
    intro q hq hsame
    exact Table.eq_of_unique hq hmem ((of_decide_eq_true hsame).trans hhash.symm)
  rw [Db.tokenOwner?, Table.find?_eq_some_of_only hmem (decide_eq_true hhash) honly]
  rfl

/-- The operations that do not write to the table issue no refresh token. -/
theorem SessionStep.of_frame {request : Request} {res : Except Failure Response}
    (hwrites : request.writesRefreshTokens = false) (h : svc.smooth.Exec (svc.serve request) w tr res w') :
    SessionStep svc ⟨request, w, tr, res, w'⟩ := by
  have htable := refreshTokens_of_exec hwrites h
  cases request with
  | register | forgotPassword | createEmailVerification | resendVerification | verifyEmail =>
    obtain ⟨res, -, rfl⟩ := alone_answer h
    cases res with
    | error e => exact .untouched rfl rfl htable
    | ok v => exact .untouched rfl rfl htable
  | _ => cases hwrites

/-- Every call does one of these. -/
theorem sessionStep_of_exec {request : Request} {res : Except Failure Response} (hjwt : svc.prims.JwtRoundTrip)
    (hown : SubjectsOwn svc ⟨request, w, tr, res, w'⟩) (h : svc.smooth.Exec (svc.serve request) w tr res w') :
    SessionStep svc ⟨request, w, tr, res, w'⟩ := by
  cases request with
  | login r ipAddress userAgent =>
    obtain ⟨res, hlogin, rfl⟩ := alone_answer h
    cases login_outcome hlogin with
    | unanswered hfaults => cases hfaults
    | interrupted hfaults => cases hfaults
    | unknown _ _ hdb => exact .untouched rfl rfl (congrArg Db.refreshTokens hdb)
    | locked _ _ _ _ hdb => exact .untouched rfl rfl (congrArg Db.refreshTokens hdb)
    | refused _ _ _ _ _ hdb => exact .untouched rfl rfl (congrArg Db.refreshTokens hdb)
    | wrong _ _ _ _ _ _ hdb => exact .untouched rfl rfl (by rw [hdb]; rfl)
    | panicked _ _ _ _ _ _ _ hdb => exact .untouched rfl rfl (by rw [hdb]; rfl)
    | done _ _ _ _ _ _ _ hstores =>
      obtain ⟨claims, hclaims, hsub, hadds⟩ := hstores.adds hjwt
      refine .started ?_ rfl hadds
      simp only [sessionEvent, Except.map, hclaims, hsub]
  | refreshTokens x ipAddress userAgent =>
    obtain ⟨res, hrefresh, rfl⟩ := alone_answer h
    cases refreshTokens_outcome hrefresh with
    | undecoded _ _ hdb => exact .untouched rfl rfl (congrArg Db.refreshTokens hdb)
    | unknown _ _ _ hdb => exact .untouched rfl rfl (congrArg Db.refreshTokens hdb)
    | unowned _ _ _ _ hdb => exact .untouched rfl rfl (congrArg Db.refreshTokens hdb)
    | barred _ _ _ _ _ _ hdb => exact .untouched rfl rfl (congrArg Db.refreshTokens hdb)
    | panicked _ _ _ _ _ _ _ _ _ hdb => exact .untouched rfl rfl (congrArg Db.refreshTokens hdb)
    | expired hdecodes hrow hlive _ _ hdb =>
      refine .untouched ?_ rfl (congrArg Db.refreshTokens hdb)
      simp [sessionEvent, Except.map, reusedBy?_of_found hdecodes hrow, hlive]
    | revoked hdecodes hrow hrevoked hdb =>
      obtain ⟨hmem, hid, -⟩ := Db.refreshRow?_some hrow
      have hsub := hown x ipAddress userAgent _ rfl hdecodes.claims?_eq _ hmem hid
      refine .ended ?_ rfl (by rw [hdb]; exact revokes_endSessions _ _ _)
      simp [sessionEvent, Except.map, reusedBy?_of_found hdecodes hrow, hrevoked, hsub]
    | done hdecodes hrow _ hvalid huser _ _ hstores hdb =>
      obtain ⟨hmem, hid, -⟩ := Db.refreshRow?_some hrow
      have hsub := hown x ipAddress userAgent _ rfl hdecodes.claims?_eq _ hmem hid
      have huserId := of_decide_eq_true (Table.find?_some huser).2
      obtain ⟨successor, hsuccessor, -, hadds⟩ := hstores.adds hjwt
      refine .extended ?_ rfl ⟨_, hmem, (huserId.trans hsub).symm, hid⟩
        ⟨_, hmem, hid, (RefreshToken.isValid_iff.mp hvalid).2⟩ hadds (by rw [hdb]; exact revokes_endSession _ _ _)
      simp only [sessionEvent, Except.map, AuthService.tokenId?, hdecodes.claims?_eq, hsuccessor, Option.map_some]
  | logout x =>
    obtain ⟨res, hlogout, rfl⟩ := alone_answer h
    cases logout_outcome hlogout with
    | refused hdb => exact .untouched rfl rfl (congrArg Db.refreshTokens hdb)
    | done hdecodes hdb =>
      refine .closed ?_ rfl (by rw [hdb]; exact revokes_endSession _ _ _)
      simp only [sessionEvent, Except.map, hdecodes.tokenId?_eq]
  | resetPassword r =>
    obtain ⟨res, hreset, rfl⟩ := alone_answer h
    cases resetPassword_outcome hreset with
    | weak _ hdb => exact .untouched rfl rfl (congrArg Db.refreshTokens hdb)
    | unfound _ _ hdb => exact .untouched rfl rfl (congrArg Db.refreshTokens hdb)
    | unhashed _ _ hdb => exact .untouched rfl rfl (congrArg Db.refreshTokens hdb)
    | failedEarly hfaults => cases hfaults
    | unmarked _ _ _ hfaults => cases hfaults
    | unrevoked _ _ _ hfaults => cases hfaults
    | done _ _ hfound _ hdb =>
      have howner := tokenOwner?_of_valid hfound
      refine .ended ?_ rfl (by rw [hdb]; exact revokes_endSessions _ _ _)
      simp only [sessionEvent, Except.map, howner]
  | changePassword userId r =>
    obtain ⟨res, hchange, rfl⟩ := alone_answer h
    cases changePassword_outcome hchange with
    | refused _ hdb => exact .untouched rfl rfl (congrArg Db.refreshTokens hdb)
    | failedEarly hfaults => cases hfaults
    | unrevoked _ hfaults => cases hfaults
    | done _ _ _ _ hdb => exact .ended rfl rfl (by rw [hdb]; exact revokes_endSessions _ _ _)
  | _ => exact .of_frame rfl h

end Calls

/-- Every issued token has a row, and every row is the row of an issued token. -/
structure Backed (svc : AuthService) (issued : List String) (table : RefreshTokens) : Prop where
  stored : ∀ x ∈ issued, ∃ row ∈ table, Names svc x row
  named : ∀ row ∈ table, ∃ x ∈ issued, Names svc x row

/-- The table agrees with the chains, and its rows are those of the issued tokens. -/
structure Simulates (svc : AuthService) (past : List CallRecord) (table : RefreshTokens) : Prop where
  agrees : Chains.Agrees (sessionChains svc past) (holds table) (live table)
  backed : Backed svc (issuedRefreshTokens past) table

section Simulation

variable {past : List CallRecord} {table table' : RefreshTokens} {c : CallRecord} {issued : List String}

/-- A new row and its token. -/
theorem Adds.backed {userId tokenId : Uuid} {x : String} (h : Adds svc userId tokenId x table table')
    (hbacked : Backed svc issued table) : Backed svc (x :: issued) table' := by
  obtain ⟨new, hnames, -, -, -, hinsert⟩ := h
  constructor
  · intro y hy
    rcases List.mem_cons.mp hy with rfl | hold
    · exact ⟨new, (Table.mem_insert? hinsert).mpr (Or.inr rfl), hnames⟩
    · obtain ⟨row, hrow, hrowNames⟩ := hbacked.stored y hold
      exact ⟨row, (Table.mem_insert? hinsert).mpr (Or.inl hrow), hrowNames⟩
  · intro row hrow
    rcases (Table.mem_insert? hinsert).mp hrow with hold | rfl
    · obtain ⟨y, hy, hrowNames⟩ := hbacked.named row hold
      exact ⟨y, List.mem_cons_of_mem _ hy, hrowNames⟩
    · exact ⟨x, List.mem_cons_self, hnames⟩

/-- Revoked rows keep their tokens. -/
theorem Revokes.backed {p : RefreshToken → Bool} (h : Revokes p table table') (hbacked : Backed svc issued table) :
    Backed svc issued table' := by
  constructor
  · intro y hy
    obtain ⟨row, hrow, hnames⟩ := hbacked.stored y hy
    obtain ⟨row', hrow', hlater, -⟩ := h.kept hrow
    exact ⟨row', hrow', hnames.later hlater⟩
  · intro row' hrow'
    obtain ⟨row, hrow, hlater, -⟩ := h.source hrow'
    obtain ⟨y, hy, hnames⟩ := hbacked.named row hrow
    exact ⟨y, hy, hnames.later hlater⟩

/-- The empty run is simulated by the empty table. -/
theorem Simulates.empty (svc : AuthService) : Simulates svc [] Table.empty where
  agrees := Chains.Agrees.empty fun _ _ hheld => absurd hheld.choose_spec.1 (Table.not_mem_empty _)
  backed := ⟨nofun, fun row hrow => absurd hrow (Table.not_mem_empty row)⟩

/-- A token replaces the presented one: its row is added, then the old one revoked. -/
theorem Adds.live_replaced {userId presented tokenId : Uuid} {x : String} {mid : RefreshTokens}
    (h : Adds svc userId tokenId x table mid) (hrevokes : Revokes (fun row => row.id = presented) mid table')
    (howned : holds table userId presented) (t : Uuid) :
    live table' t ↔ live table t ∧ t ≠ presented ∨ t = tokenId := by
  have hother : presented ≠ tokenId := by
    intro heq
    exact h.fresh userId (heq ▸ howned)
  rw [hrevokes.live_token, h.live_iff, or_and_right]
  apply or_congr_right
  rw [and_iff_left_iff_imp]
  intro heq
  rw [heq]
  exact hother.symm

/-- One call keeps the simulation. -/
theorem SessionStep.simulates (hstep : SessionStep svc c) (h : Simulates svc past c.before.db.refreshTokens) :
    Simulates svc (c :: past) c.after.db.refreshTokens := by
  have hchains : sessionChains svc (c :: past) = (sessionEvent svc c).apply (sessionChains svc past) := rfl
  have hissues : issuedRefreshTokens (c :: past) = (issuedRefresh? c).toList ++ issuedRefreshTokens past := by
    rw [issuedRefreshTokens, List.filterMap_cons]
    cases issuedRefresh? c <;> rfl
  constructor
  · rw [hchains]
    cases hstep with
    | started hevent _ hadds =>
      rw [hevent]
      exact h.agrees.start hadds.fresh hadds.holds_iff hadds.live_iff
    | extended hevent _ howned hlive hadds hrevokes =>
      rw [hevent]
      exact h.agrees.extend howned hlive hadds.fresh
        (fun o t => (hrevokes.holds_iff o t).trans (hadds.holds_iff o t)) (hadds.live_replaced hrevokes howned)
    | closed hevent _ hrevokes =>
      rw [hevent]
      exact h.agrees.close hrevokes.holds_iff hrevokes.live_token
    | ended hevent _ hrevokes =>
      rw [hevent]
      exact h.agrees.endAll hrevokes.holds_iff hrevokes.live_user
    | untouched hevent _ htable =>
      rw [hevent, htable]
      exact h.agrees
  · rw [hissues]
    cases hstep with
    | started _ hissued hadds =>
      rw [hissued]
      exact hadds.backed h.backed
    | extended _ hissued _ _ hadds hrevokes =>
      rw [hissued]
      exact hrevokes.backed (hadds.backed h.backed)
    | closed _ hissued hrevokes =>
      rw [hissued]
      exact hrevokes.backed h.backed
    | ended _ hissued hrevokes =>
      rw [hissued]
      exact hrevokes.backed h.backed
    | untouched _ hissued htable =>
      rw [hissued, htable]
      exact h.backed

/-- In a run with JWTs made by the service, a refresh finds rows of the user its JWT names. -/
theorem Simulates.subjectsOwn (hjwt : svc.prims.JwtRoundTrip) (h : Simulates svc past c.before.db.refreshTokens)
    (hmade : MadeByService svc (c :: past)) : SubjectsOwn svc c := by
  intro x ipAddress userAgent claims hrequest hclaims row hrow hid
  obtain ⟨y, hy, hnames⟩ := h.backed.named row hrow
  obtain ⟨claims', hclaims', hsub, -⟩ := hnames.claims? hjwt
  have htid : svc.tokenId? y = svc.tokenId? x := by
    rw [hnames.tokenId? hjwt, AuthService.tokenId?, hclaims, hid]
    rfl
  have hsame := claims?_congr svc (hmade.1 x ipAddress userAgent hrequest y hy htid)
  rw [hclaims, hclaims'] at hsame
  rw [Option.some.inj hsame, hsub]

end Simulation

/-- Along every sequential run the table simulates the chains, and every call does one of the steps. -/
theorem simulates_of_serial {first w : World} {past : List CallRecord} (hjwt : svc.prims.JwtRoundTrip)
    (hempty : first.db.refreshTokens = Table.empty) (hrun : svc.smooth.Serial svc.serve first past w)
    (hmade : MadeByService svc past) : Simulates svc past w.db.refreshTokens := by
  induction hrun with
  | start =>
    rw [hempty]
    exact Simulates.empty svc
  | @call past v w' request tr res _ hexec ih =>
    have hbefore := ih hmade.2
    have hown := Simulates.subjectsOwn (c := ⟨request, v, tr, res, w'⟩) hjwt hbefore hmade
    exact (sessionStep_of_exec hjwt hown hexec).simulates hbefore

end RustPressAuth
