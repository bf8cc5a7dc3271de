import RustPressAuth.RevokeAll
import RustPressAuth.UserRows

/-!
# Who is issued an access token

A login looks at the status, the lock and the verification of the user it read. A
rotation looks at the status and the lock only; that its user is verified follows from
an invariant over all operations: where verification is required, every refresh token
belongs to a verified user. The invariant needs the binding between the JWT of a
refresh token and its row, which rests on the JWTs not being forged.
-/

namespace RustPressAuth

open Atomic Program Machine Relational

/-- The access token of a response. -/
def Response.accessToken? : Response → Option String
  | .session response => some response.accessToken
  | .tokens response => some response.accessToken
  | _ => none

/-- The claims name the user: id, email, name and role. -/
structure Payload.Names (payload : Payload) (user : User) : Prop where
  id : payload.sub = some user.id
  email : payload.email = some user.email
  name : payload.name = some user.name
  role : payload.role = some user.role.asStr

/-- The call read one user, and that user passed the gate. -/
structure Gated (svc : AuthService) (d : System) (i : ℕ) (user : User) : Prop where
  onlyRead : (ownHistory i d.log).filterMap readUser? = [user]
  row : ∃ e ∈ d.log, e.caller = i ∧ readUser? e.entry = some user ∧ user ∈ e.before.db.users
  active : user.status = .active
  unlocked : ∃ now x h, (did .now now :: x :: h) <:+ ownHistory i d.log ∧ readUser? x = some user ∧
    user.isLocked now = false
  verified : svc.config.requireEmailVerification = true → user.isEmailVerified = true

/-- Where verification is required, every refresh token belongs to a verified user. -/
def SessionsVerified (svc : AuthService) (db : Db) : Prop :=
  svc.config.requireEmailVerification = true →
    ∀ t ∈ db.refreshTokens, ∃ user ∈ db.users, user.id = t.userId ∧ user.isEmailVerified = true

/-- JWTs are not forged: when a refresh acts, the JWT it presents was signed by an earlier action, if
it verifies under the secret of the service at all. -/
def jwtsUnforged (svc : AuthService) (req : ℕ → Request) : Rule ℕ Action Action.Reply Failure Response World :=
  .ofEvent fun c e => ∀ x ip ua tokenString jwt, req e.caller = .refreshTokens x ip ua →
    rsplitDot x = [tokenString, jwt] → svc.prims.jwtVerify svc.config.jwtSecret jwt = true →
    ∃ f ∈ c.log, ∃ payload, f.entry = did (.sign payload) jwt

variable {svc : AuthService} {req : ℕ → Request} {w : World} {d : System}

/-- A JWT that is accepted with its signature verifies, and carries the claims that are read. -/
theorem decodeRefresh_verified {now : Instant} {jwt : String} {claims : RefreshTokenClaims}
    (h : svc.decodeRefresh true now jwt = some claims) : svc.prims.jwtVerify svc.config.jwtSecret jwt = true ∧
      ∃ alg payload, svc.prims.jwtParts jwt = some (alg, payload) ∧
      RefreshTokenClaims.ofPayload payload = some claims := by
  unfold AuthService.decodeRefresh Primitives.jwtDecode at h
  cases hparts : svc.prims.jwtParts jwt with
  | none => simp [hparts] at h
  | some parts =>
    simp only [hparts, Option.bind_eq_bind, Option.bind_some] at h
    split at h
    · cases h
    · rename_i hsignature
      split at h
      · have hverify : svc.prims.jwtVerify svc.config.jwtSecret jwt = true := by
          simp [AuthService.refreshValidation] at hsignature
          exact hsignature.2
        exact ⟨hverify, parts.1, parts.2, rfl, h⟩
      · cases h

/-- A refresh JWT is signed for the row the call has stored, with the random part it has drawn. -/
theorem stored_of_signed {ok : System → System → Prop} (hrun : svc.machine.Reaches ok (svc.start w req) d)
    {f : LogEvent} (hf : f ∈ d.log) {payload : Payload} {jwt : String} (hentry : f.entry = did (.sign payload) jwt)
    {claims : RefreshTokenClaims} (hclaims : RefreshTokenClaims.ofPayload payload = some claims) :
    ∃ issuedAt bytes, payload = (svc.refreshClaims claims.sub claims.tid issuedAt).toPayload ∧
      (∃ g ∈ d.log, g.entry = did .randomBytes bytes) ∧ ∃ g ∈ d.log, ∃ ip ua, ∃ n : ℕ,
        g.entry = executed (svc.storeRefresh claims.sub claims.tid issuedAt bytes ip ua) n := by
  obtain ⟨older, hsuffix⟩ := exists_suffix_of_mem hf
  have hguard := guard_of_run hrun hsuffix
  obtain ⟨i, s, a, r⟩ := f
  cases hentry
  rcases hguard with ⟨access, -, rfl⟩ | ⟨user, accessToken, tokenId, now, bytes, hstored, rfl⟩
  · rw [RefreshTokenClaims.ofPayload_access] at hclaims
    cases hclaims
  · rw [RefreshTokenClaims.ofPayload_toPayload] at hclaims
    obtain rfl := Option.some.inj hclaims
    obtain ⟨ip, ua, h', n, ⟨h₀, -, rfl⟩, htrace⟩ := hstored
    have hown (x : Entry) (hx : x ∈ ownHistory i older) : ∃ g ∈ d.log, g.entry = x := by
      obtain ⟨g, hg, -, hgentry⟩ := mem_ownHistory.mp hx
      exact ⟨g, hsuffix.subset (List.mem_cons_of_mem _ hg), hgentry⟩
    obtain ⟨g, hg, hgentry⟩ := hown (executed (svc.storeRefresh user.id tokenId now bytes ip ua) n)
      (htrace ▸ List.mem_cons_self)
    exact ⟨now, bytes, rfl, hown (did .randomBytes bytes) (htrace ▸ List.mem_cons_of_mem _ List.mem_cons_self),
      g, hg, ip, ua, n, hgentry⟩

/-- What an event stored for a refresh token is in the table from then on. -/
theorem row_of_stored {ok : System → System → Prop} (hrun : svc.machine.Reaches ok (svc.start w req) d)
    {g : LogEvent} (hg : g ∈ d.log) {userId tokenId : Uuid} {issuedAt : Instant} {bytes : Vector UInt8 32}
    {ip ua : Option String} {n : ℕ}
    (hentry : g.entry = executed (svc.storeRefresh userId tokenId issuedAt bytes ip ua) n) :
    ∃ row ∈ d.shared.db.refreshTokens, row.id = tokenId ∧ row.userId = userId ∧
      varchar 255 (svc.hashToken (base64UrlEncode bytes.toList)) = some row.tokenHash := by
  obtain ⟨s', hperform, hle⟩ := hrun.event_monotone svc.machine_monotone rfl hg
  obtain ⟨row, hrow, hid, huser, hhash⟩ := insertRefreshToken_stored (perform_of_entry hentry hperform)
  obtain ⟨row', hrow', hlater⟩ := hle.db.refreshTokens row hrow
  exact ⟨row', hrow', hlater.id.trans hid, hlater.userId.trans huser, by rw [hlater.tokenHash, hhash]⟩

/-- The JWT of a refresh token that was accepted was signed by the service, over the claims that were read. -/
theorem signed_of_refreshFound (hjwt : svc.prims.JwtRoundTrip)
    (hrun : svc.machine.Reaches (jwtsUnforged svc req).Keeps (svc.start w req) d) {i : ℕ} {x : String}
    {ip ua : Option String} (hreq : req i = .refreshTokens x ip ua) {claims : RefreshTokenClaims}
    {row : RefreshToken} {h : Trace} (hfound : RefreshFound svc x claims row h)
    (hsuffix : h <:+ ownHistory i d.log) :
    ∃ tokenString payload now, rsplitDot x = [tokenString, svc.prims.jwtEncode svc.config.jwtSecret payload] ∧
      h = [executed (.selectRefreshToken claims.tid (svc.hashToken tokenString)) (some row), did .now now] ∧
      RefreshTokenClaims.ofPayload payload = some claims ∧
      ∃ f ∈ d.log, f.entry = did (.sign payload) (svc.prims.jwtEncode svc.config.jwtSecret payload) := by
  obtain ⟨tokenString, jwt, now, hsplit, hdecode, rfl⟩ := hfound.decoded
  obtain ⟨hverify, alg, payload, hparts, hclaims⟩ := decodeRefresh_verified hdecode
  obtain ⟨e, older, he, hcaller, -, -⟩ := exists_event_of_suffix hsuffix
  obtain ⟨mid, next, s, hat, rfl⟩ := hrun.performedAt rfl he
  obtain ⟨f, hf, payload', hentry⟩ := hat.event_ok x ip ua tokenString jwt (hcaller ▸ hreq) hsplit hverify
  have hlog : f ∈ d.log := he.subset (List.mem_cons_of_mem _ hf)
  obtain ⟨s', hperform, -⟩ := hrun.event_monotone svc.machine_monotone rfl hlog
  obtain ⟨choice, hexec⟩ := perform_of_entry hentry hperform
  obtain rfl : svc.prims.jwtEncode svc.config.jwtSecret payload' = jwt := (Prod.mk.inj hexec).1
  rw [hjwt.parts_encode] at hparts
  obtain ⟨-, rfl⟩ := Prod.mk.inj (Option.some.inj hparts)
  exact ⟨tokenString, payload', now, hsplit, rfl, hclaims, f, hlog, hentry⟩

/-- The row behind the JWT of a refresh that was accepted belongs to the user the JWT names. -/
theorem row_of_refreshFound (hjwt : svc.prims.JwtRoundTrip)
    (hrun : svc.machine.Reaches (jwtsUnforged svc req).Keeps (svc.start w req) d) {i : ℕ} {x : String}
    {ip ua : Option String} (hreq : req i = .refreshTokens x ip ua) {claims : RefreshTokenClaims}
    {row : RefreshToken} {h : Trace} (hfound : RefreshFound svc x claims row h)
    (hsuffix : h <:+ ownHistory i d.log) :
    ∃ row ∈ d.shared.db.refreshTokens, row.id = claims.tid ∧ row.userId = claims.sub := by
  obtain ⟨tokenString, payload, now, -, -, hclaims, f, hf, hentry⟩ :=
    signed_of_refreshFound hjwt hrun hreq hfound hsuffix
  obtain ⟨issuedAt, bytes, -, -, g, hg, ip', ua', n, hgentry⟩ := stored_of_signed hrun hf hentry hclaims
  obtain ⟨row', hrow', hid, huser, -⟩ := row_of_stored hrun hg hgentry
  exact ⟨row', hrow', hid, huser⟩

/-- A user read by its id has this id. -/
theorem id_of_read {ok : System → System → Prop} (hrun : svc.machine.Reaches ok (svc.start w req) d) {i : ℕ}
    {id : Uuid} {user : User} (hmem : executed (.selectUserById id) (some user) ∈ ownHistory i d.log) :
    user.id = id := by
  obtain ⟨s, s', hperform⟩ := hrun.performed_of_mem rfl hmem
  exact (selectUserById_row hperform).2

/-- The user a call is authorized for is verified, where sessions belong to verified users. -/
theorem verified_of_authorized (hjwt : svc.prims.JwtRoundTrip)
    (hrun : svc.machine.Reaches (jwtsUnforged svc req).Keeps (svc.start w req) d)
    (hsessions : SessionsVerified svc d.shared.db) {i : ℕ} {user : User} {h : Trace}
    (hauth : Authorized svc (req i) user h) (hsuffix : h <:+ ownHistory i d.log)
    (hrequired : svc.config.requireEmailVerification = true) :
    ∃ user' ∈ d.shared.db.users, user'.id = user.id ∧ user'.isEmailVerified = true := by
  generalize hreq : req i = request at hauth
  cases hauth with
  | @login r ip ua _ now n h hverified =>
    have hsteps := hverified.trace
    subst hsteps
    have hread : (executed (.selectUserByEmail r.email) (some user) :: []) <:+ ownHistory i d.log :=
      List.IsSuffix.trans ⟨[_, _, _], rfl⟩ hsuffix
    obtain ⟨-, -, -, -, -, user', huser', hlater⟩ := user_of_read hrun hread rfl
    exact ⟨user', huser', hlater.id, hlater.verified (hverified.verified hrequired)⟩
  | @refresh x ip ua claims row _ now h hchecked =>
    obtain ⟨checkedAt, h', hfound, hvalid, rfl⟩ := hchecked.steps
    have hbelow : h' <:+ ownHistory i d.log := List.IsSuffix.trans ⟨[_, _, _], rfl⟩ hsuffix
    obtain ⟨t, ht, -, huserId⟩ := row_of_refreshFound hjwt hrun hreq hfound hbelow
    obtain ⟨user', huser', hid, hverified⟩ := hsessions hrequired t ht
    have hread : user.id = claims.sub := id_of_read hrun (hsuffix.subset (by simp))
    exact ⟨user', huser', hid.trans (huserId.trans hread.symm), hverified⟩

/-- Verified users stay verified, so only a new row needs a reason. -/
theorem SessionsVerified.step {w w' : World} (h : SessionsVerified svc w.db) (hle : w.Precedes w')
    (hnew : svc.config.requireEmailVerification = true → ∀ t ∈ w'.db.refreshTokens,
      (∃ q ∈ w.db.refreshTokens, q.Later t) ∨ ∃ user ∈ w'.db.users, user.id = t.userId ∧
      user.isEmailVerified = true) :
    SessionsVerified svc w'.db := by
  intro hrequired t ht
  rcases hnew hrequired t ht with ⟨q, hq, hlater⟩ | hverified
  · obtain ⟨user, huser, hid, hverified⟩ := h hrequired q hq
    obtain ⟨user', huser', hlater'⟩ := hle.db.users user huser
    exact ⟨user', huser', hlater'.id.trans (hid.trans hlater.userId.symm), hlater'.verified hverified⟩
  · exact hverified

/-- In every run from an empty database, refresh tokens belong to verified users. -/
theorem sessionsVerified_of_run (hjwt : svc.prims.JwtRoundTrip) (hempty : w.db = Db.empty)
    (hrun : svc.machine.Reaches (jwtsUnforged svc req).Keeps (svc.start w req) d) :
    SessionsVerified svc d.shared.db := by
  induction hrun with
  | refl =>
    intro _ t ht
    have hrow : t ∈ w.db.refreshTokens := ht
    rw [hempty] at hrow
    exact absurd hrow (Table.not_mem_empty t)
  | @tail b d hrun hstep ih =>
    have hle : b.shared.Precedes d.shared :=
      Reaches.monotone (M := svc.machine) svc.machine_monotone (Relation.ReflTransGen.single hstep)
    have hrun' := Relation.ReflTransGen.tail hrun hstep
    obtain ⟨hmove, hkeeps⟩ := hstep
    apply ih.step hle
    intro hrequired t ht
    cases hmove with
    | idle hidle =>
      obtain ⟨m, rfl⟩ := hidle
      cases m <;> exact Or.inl ⟨t, ht, RefreshToken.Later.refl t⟩
    | @call i a next r s hcall hperform =>
      have hguard := guard_of_run hrun' (List.suffix_refl _)
      cases a with
      | sql statement =>
        rcases AuthService.perform_sql hperform with ⟨e, -, rfl⟩ | ⟨v, fresh, db, -, hexec, rfl⟩
        · exact Or.inl ⟨t, ht, RefreshToken.Later.refl t⟩
        rcases Statement.run_refreshTokens hexec ht with hold | ⟨hash, expiresAt, ip, ua, rfl⟩
        · exact Or.inl hold
        obtain ⟨user, accessToken, now, bytes, hdrawn, hstored⟩ := hguard
        obtain ⟨h₀, hauth, hsuffix⟩ := hdrawn.authorized
        obtain ⟨user', huser', hid, hverified⟩ := verified_of_authorized hjwt hrun ih hauth hsuffix hrequired
        obtain ⟨user'', huser'', hlater⟩ := hle.db.users user' huser'
        have huserId : t.userId = user.id := (Statement.insertRefreshToken.inj hstored).2.1
        exact Or.inr ⟨user'', huser'', hlater.id.trans (hid.trans huserId.symm), hlater.verified hverified⟩
      | _ =>
        rw [Config.advance, AuthService.perform_local hperform (by simp)] at ht
        exact Or.inl ⟨t, ht, RefreshToken.Later.refl t⟩

/-- The user a call is authorized for was verified when the call read it. -/
theorem verified_when_read (hjwt : svc.prims.JwtRoundTrip) (hempty : w.db = Db.empty)
    (hrun : svc.machine.Reaches (jwtsUnforged svc req).Keeps (svc.start w req) d) {i : ℕ} {user : User} {h : Trace}
    (hauth : Authorized svc (req i) user h) (hsuffix : h <:+ ownHistory i d.log)
    (hrequired : svc.config.requireEmailVerification = true) : user.isEmailVerified = true := by
  generalize hreq : req i = request at hauth
  cases hauth with
  | login hverified => exact hverified.verified hrequired
  | @refresh x ip ua claims row _ now h hchecked =>
    obtain ⟨checkedAt, h', hfound, -, rfl⟩ := hchecked.steps
    have hread : (executed (.selectUserById claims.sub) (some user) :: did .now checkedAt :: h') <:+
        ownHistory i d.log := (List.suffix_cons _ _).trans hsuffix
    obtain ⟨e, older, he, hcaller, hentry, hown⟩ := exists_event_of_suffix hread
    obtain ⟨mid, next, s, hat, rfl⟩ := hrun.performedAt rfl he
    have hsessions := sessionsVerified_of_run hjwt hempty hat.run
    have hbelow : h' <:+ ownHistory i mid.log := by
      rw [hown]
      exact List.suffix_cons _ _
    obtain ⟨t, ht, -, huserId⟩ := row_of_refreshFound hjwt hat.run hreq hfound hbelow
    obtain ⟨user', huser', hid', hverified⟩ := hsessions hrequired t ht
    have hperform := perform_of_entry hentry hat.perform
    obtain ⟨hmem, hid⟩ := selectUserById_row hperform
    rw [← hat.before] at hmem
    obtain rfl : user' = user := Table.eq_of_pk huser' hmem ((hid'.trans huserId).trans hid.symm)
    exact hverified

/-- A call that is authorized for a user has read no other one. -/
theorem Authorized.onlyRead {request : Request} {user : User} {h : Trace} (hauth : Authorized svc request user h) :
    h.filterMap readUser? = [user] := by
  cases hauth with
  | login hverified =>
    rw [hverified.trace]
    rfl
  | refresh hchecked =>
    obtain ⟨checkedAt, h', hfound, -, rfl⟩ := hchecked.steps
    obtain ⟨tokenString, jwt, t, -, -, rfl⟩ := hfound.decoded
    rfl

/-- The clock was read right after the user, who was not locked by then. -/
theorem Authorized.readUnlocked {request : Request} {user : User} {h : Trace}
    (hauth : Authorized svc request user h) :
    ∃ now x h', (did .now now :: x :: h') <:+ h ∧ readUser? x = some user ∧ user.isLocked now = false := by
  cases hauth with
  | @login r ip ua _ now n h hverified =>
    have hsteps := hverified.trace
    subst hsteps
    exact ⟨now, _, [], ⟨[_, _], rfl⟩, rfl, hverified.unlocked⟩
  | @refresh x ip ua claims row _ now h hchecked =>
    obtain ⟨checkedAt, h', hfound, -, rfl⟩ := hchecked.steps
    have hlogin := hchecked.canLogin
    simp only [User.canLogin, Bool.and_eq_true, Bool.not_eq_true'] at hlogin
    exact ⟨now, _, _, List.suffix_refl _, rfl, hlogin.2⟩

/-- A call that issued tokens was authorized, signed the access token it returns and read no more users. -/
theorem RefreshIssued.steps {request : Request} {user : User} {accessToken refreshToken : String} {h : Trace}
    (hissued : RefreshIssued svc request user accessToken refreshToken h) :
    ∃ now jti h₀, Authorized svc request user h₀ ∧ h₀ <:+ h ∧
      did (.sign (svc.accessClaims user now jti).toPayload) accessToken ∈ h ∧
      h.filterMap readUser? = h₀.filterMap readUser? := by
  obtain ⟨tokenId, t, bytes, jwt, h', ⟨ip, ua, h₁, n, ⟨h₂, ⟨now, jti, h₀, hauth, rfl⟩, rfl⟩, rfl⟩, -,
    rfl⟩ := hissued
  exact ⟨now, jti, h₀, hauth, ⟨[_, _, _, _, _, _, _, _], rfl⟩, by simp, rfl⟩

/-- A call that issued tokens has passed the gate. -/
theorem gated_of_issued (hjwt : svc.prims.JwtRoundTrip) (hempty : w.db = Db.empty)
    (hrun : svc.machine.Reaches (jwtsUnforged svc req).Keeps (svc.start w req) d) {i : ℕ} {user : User}
    {accessToken refreshToken : String} {h : Trace}
    (hissued : RefreshIssued svc (req i) user accessToken refreshToken h)
    (hsuffix : h <:+ ownHistory i d.log)
    (hrest : (ownHistory i d.log).filterMap readUser? = h.filterMap readUser?) :
    (∃ payload, svc.prims.jwtParts accessToken = some (.hs256, payload) ∧ payload.Names user) ∧
    Gated svc d i user := by
  obtain ⟨now, jti, h₀, hauth, hbelow, hsigned, hread⟩ := hissued.steps
  have hown := hbelow.trans hsuffix
  constructor
  · obtain ⟨s, s', choice, hexec⟩ := hrun.performed_of_mem rfl (hsuffix.subset hsigned)
    obtain rfl : svc.prims.jwtEncode svc.config.jwtSecret (svc.accessClaims user now jti).toPayload = accessToken :=
      (Prod.mk.inj hexec).1
    exact ⟨_, hjwt.parts_encode _ _, rfl, rfl, rfl, rfl⟩
  · obtain ⟨clock, x, h', hclock, hx, hunlocked⟩ := hauth.readUnlocked
    have hreadOwn : (x :: h') <:+ ownHistory i d.log := ((List.suffix_cons _ _).trans hclock).trans hown
    obtain ⟨e, he, hcaller, hentry, hmem, -⟩ := user_of_read hrun hreadOwn hx
    constructor
    · rw [hrest, hread, hauth.onlyRead]
    · exact ⟨e, he, hcaller, hentry ▸ hx, hmem⟩
    · exact hauth.read.2.1
    · exact ⟨clock, x, h', hclock.trans hown, hx, hunlocked⟩
    · exact verified_when_read hjwt hempty hrun hauth hown

/-- Only logins and refreshes return access tokens. -/
theorem accessToken?_eq_none {request : Request} {response : Response} {h : Trace}
    (hsucceeded : Succeeded svc h request response) (hlogin : ∀ r ip ua, request ≠ .login r ip ua)
    (hrefresh : ∀ x ip ua, request ≠ .refreshTokens x ip ua) : response.accessToken? = none := by
  cases request with
  | login r ip ua => exact absurd rfl (hlogin r ip ua)
  | refreshTokens x ip ua => exact absurd rfl (hrefresh x ip ua)
  | register r =>
    obtain ⟨user, rfl, -⟩ := hsucceeded
    rfl
  | verifyEmail token =>
    obtain ⟨_, _, user, _, _, -, rfl, -⟩ := hsucceeded
    rfl
  | logout x | resetPassword r | changePassword id r =>
    obtain ⟨rfl, -⟩ := hsucceeded
    rfl
  | createEmailVerification id =>
    obtain ⟨_, _, _, _, -, -, rfl⟩ := hsucceeded
    rfl
  | forgotPassword email =>
    rcases hsucceeded with ⟨-, rfl⟩ | ⟨_, _, _, _, _, -, -, rfl⟩
    · rfl
    · rfl
  | resendVerification id =>
    rcases hsucceeded with ⟨_, -, -, rfl⟩ | ⟨_, _, _, _, -, -, rfl⟩
    · rfl
    · rfl

/-- In every run from an empty database with unforged JWTs, an access token that is returned names
the one user its call read, who was active, not locked by the clock read next and verified where
that is required; and where it is required, every user with a refresh token is verified. -/
theorem issuance_gate (svc : AuthService) (hjwt : svc.prims.JwtRoundTrip) (w : World) (hempty : w.db = Db.empty)
    (req : ℕ → Request) (d : System)
    (hrun : svc.machine.Reaches (jwtsUnforged svc req).Keeps (svc.start w req) d) :
    (∀ i response accessToken, d.calls i = .done (.ok response) → response.accessToken? = some accessToken →
      ∃ user, (∃ payload, svc.prims.jwtParts accessToken = some (.hs256, payload) ∧ payload.Names user) ∧
        Gated svc d i user) ∧
    (svc.config.requireEmailVerification = true → ∀ t ∈ d.shared.db.refreshTokens,
      ∀ user ∈ d.shared.db.users, user.id = t.userId → user.isEmailVerified = true) := by
  constructor
  · intro i response accessToken hdone haccess
    have hsucceeded := succeeded_of_run hrun hdone
    generalize hreq : req i = request at hsucceeded
    cases request with
    | login r ip ua =>
      obtain ⟨user, access, refresh, hissued, rfl⟩ := hsucceeded
      obtain rfl := Option.some.inj haccess
      rw [← hreq] at hissued
      exact ⟨user, gated_of_issued hjwt hempty hrun hissued (List.suffix_refl _) rfl⟩
    | refreshTokens x ip ua =>
      obtain ⟨claims, row, user, now, h', access, successor, h'', n, -, -, hissued, htrace, rfl⟩ := hsucceeded
      obtain rfl := Option.some.inj haccess
      rw [← hreq] at hissued
      have hsuffix : h'' <:+ ownHistory i d.log := by
        rw [htrace]
        exact List.suffix_cons _ _
      exact ⟨user, gated_of_issued hjwt hempty hrun hissued hsuffix (by rw [htrace]; rfl)⟩
    | register | logout | forgotPassword | resetPassword | changePassword | createEmailVerification |
        resendVerification | verifyEmail =>
      have hnone := accessToken?_eq_none hsucceeded (by simp) (by simp)
      rw [hnone] at haccess
      cases haccess
  · intro hrequired t ht user huser hid
    obtain ⟨user', huser', hid', hverified⟩ := sessionsVerified_of_run hjwt hempty hrun hrequired t ht
    obtain rfl : user' = user := Table.eq_of_pk huser' huser (hid'.trans hid.symm)
    exact hverified

section Runs

open Reference

/-- The service with verification required. -/
def strictService : AuthService := ⟨{ config with requireEmailVerification := true }, primitives⟩

/-- A user registers, verifies the email and logs in. -/
def gateRequests : ℕ → Request
  | 0 => .register ⟨"a@b.c", "Abcdefg1", "Abcdefg1", "A"⟩
  | 1 => .createEmailVerification 1
  | 2 => .verifyEmail (base64UrlEncode (choice 2).bytes.toList)
  | 3 => .login ⟨"a@b.c", "Abcdefg1"⟩ none none
  | _ => .verifyEmail ""

/-- The calls one after the other. -/
def gateRun : System :=
  strictService.executor.play (moves 0 3 1 ++ moves 1 4 2 ++ moves 2 3 3 ++ moves 3 12 4)
    (strictService.start world gateRequests)

/-- A login to a service that requires verified emails passes the gate. -/
theorem issuance_gate_login : ∃ user, user.isEmailVerified = true ∧ Gated strictService gateRun 3 user := by
  have hkeeps (c d : System) (_ : True) : (jwtsUnforged strictService gateRequests).Keeps c d := by
    refine ⟨fun e _ x ip ua tokenString jwt hreq => ?_, fun _ => trivial⟩
    unfold gateRequests at hreq
    split at hreq <;> cases hreq
  have hrun := Reaches.mono hkeeps (strictService.executor.play_reaches
    (moves 0 3 1 ++ moves 1 4 2 ++ moves 2 3 3 ++ moves 3 12 4) (strictService.start world gateRequests))
  have hsession : ((gateRun.calls 3).result?.any fun res => match res with
      | .ok response => response.accessToken?.isSome
      | .error _ => false) = true := by decide +kernel
  obtain ⟨res, hres, htest⟩ := (Option.any_eq_true _ _).mp hsession
  cases res with
  | error e => cases htest
  | ok response =>
    obtain ⟨accessToken, haccess⟩ := Option.isSome_iff_exists.mp htest
    obtain ⟨user, -, hgated⟩ :=
      (issuance_gate strictService jwtRoundTrip world rfl gateRequests gateRun hrun).1 3 response
      accessToken (result?_eq_some.mp hres) haccess
    exact ⟨user, hgated.verified rfl, hgated⟩

end Runs

end RustPressAuth
