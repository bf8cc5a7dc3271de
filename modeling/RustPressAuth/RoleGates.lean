import RustPressAuth.IssuanceGate
import RustPressAuth.Suspension
import RustPressAuth.TokenLifetime
import RustPressAuth.VerificationPaths

/-!
# Who passes the role gates

The middleware decides by the role a token carries, and asks no table. What stands behind
the token is the call that signed it: a login or a refresh that read an active user with
this role. Roles do not change and no operation creates a user with a role of its own, so
a gate for authors, editors or administrators lets in users who were there before.

A token outlives the right to it. When a user is barred while no call of the user is in
progress, the tokens of the user are accepted for their remaining lifetime and the leeway
of the token library, and no longer.
-/

namespace RustPressAuth

open Atomic Program Machine Relational

/-- Access tokens are not forged: a token of the request that verifies under the secret of the service was signed in
the run. -/
def Unforged (svc : AuthService) (d : System) (parts : RequestParts) : Prop :=
  ∀ token, parts.presentedToken = some token → svc.prims.jwtVerify svc.config.jwtSecret token = true →
    ∃ f ∈ d.log, ∃ payload, f.entry = did (.sign payload) token

/-- The token was signed with these claims by a call that had read a user as active and authorized it: by a
login that had verified the password, or by a refresh that had checked the session. -/
def SignedFor (svc : AuthService) (req : ℕ → Request) (d : System) (token : String)
    (claims : AccessTokenClaims) : Prop :=
  ∃ (f : LogEvent) (older : List LogEvent) (payload : Payload) (user : User) (issued : Instant) (jti : Uuid)
    (h : Trace), (f :: older) <:+ d.log ∧ f.entry = did (.sign payload) token ∧
    claims = svc.accessClaims user issued jti ∧
      Authorized svc (req f.caller) user h ∧ ownHistory f.caller older = did .uuid jti :: did .now issued :: h ∧
      ∃ e ∈ older, e.caller = f.caller ∧ readUser? e.entry = some user ∧ user.status = .active

/-- What stands behind claims that are accepted: the presented token was signed for a user whom the service
authorized, and who is in the table with the same role, and was there from the beginning if the role is a
higher one. -/
structure Vouched (svc : AuthService) (req : ℕ → Request) (w : World) (d : System) (parts : RequestParts)
    (claims : AccessTokenClaims) : Prop where
  signed : ∃ token, parts.presentedToken = some token ∧ SignedFor svc req d token claims
  row : ∃ row ∈ d.shared.db.users, claims.Describes svc.config row
  elevated : claims.role ≠ UserRole.user.asStr → ∃ row ∈ w.db.users, row.id = claims.sub ∧
    row.role.asStr = claims.role
  unexpired : timestamp d.shared.now ≤ claims.exp + 60

/-- Different roles have different texts. -/
theorem UserRole.asStr_inj {role role' : UserRole} : role.asStr = role'.asStr ↔ role = role' := by
  cases role <;> cases role' <;> decide

/-- What the extractor decides by the text of a role is what the model decides by the role. -/
theorem AuthUser.decides {user : AuthUser} {role : UserRole} (h : user.role = role.asStr) :
    user.isAdmin = role.isAdmin ∧ user.canPublish = role.canPublish ∧ user.canModerate = role.canModerate := by
  simp only [AuthUser.isAdmin, AuthUser.canPublish, AuthUser.canModerate, h]
  cases role <;> decide

/-- No statement changes the role of a user. -/
theorem Statement.onUser_role (now : Instant) (s : Statement) (row : User) :
    (s.onUser now row).role = row.role := by
  cases s <;> simp only [onUser] <;> split <;> rfl

section Run

variable {svc : AuthService} {req : ℕ → Request} {w : World} {d : System} {ok : System → System → Prop}

/-- A user with a higher role was there at the beginning, with this role. -/
theorem role_origin (hrun : svc.machine.Reaches ok (svc.start w req) d) : ∀ row ∈ d.shared.db.users,
    row.role = .user ∨ ∃ first ∈ w.db.users, first.id = row.id ∧ first.role = row.role := by
  have hind : Machine.Inductive svc.machine ok (fun i => svc.protocol (req i)) (fun c => ∀ row ∈ c.shared.db.users,
      row.role = .user ∨ ∃ first ∈ w.db.users, first.id = row.id ∧ first.role = row.role) := by
    constructor
    · intro c i a next r s hinv _ _ _ hperform _
      cases a with
      | sql statement =>
        rcases AuthService.perform_sql hperform with ⟨e, -, rfl⟩ | ⟨v, fresh, db, -, hexec, rfl⟩
        · exact hinv
        · intro row' hrow'
          rcases (Statement.run_users hexec).mp hrow' with ⟨row, hrow, rfl⟩ | hnew
          · rw [Statement.onUser_role, Statement.onUser_id]
            exact hinv row hrow
          · cases statement with
            | insertUser email passwordHash name =>
              obtain rfl := Option.some.inj hnew
              exact Or.inl rfl
            | _ => cases hnew
      | _ => exact AuthService.perform_local hperform (by simp) ▸ hinv
    · intro c s hinv hidle _
      obtain ⟨m, rfl⟩ := hidle
      cases m with
      | tick elapsed => exact hinv
      | setStatus id status =>
        intro row' hrow'
        obtain ⟨row, hrow, rfl⟩ :=
          (Db.mem_updateUser (f := fun u => { u with status := status }) (fun _ => rfl) (fun _ => rfl)).mp hrow'
        split
        · exact hinv row hrow
        · exact hinv row hrow
  exact hrun.invariant hind start_obeys fun row hrow => Or.inr ⟨row, hrow, rfl, rfl⟩

/-- A signature over claims that read as those of an access token was made for a user the call had authorized, with
the clock it had read. -/
theorem authorized_of_signed (hjwt : svc.prims.JwtRoundTrip) (hrun : svc.machine.Reaches ok (svc.start w req) d)
    {f : LogEvent} {older : List LogEvent} (hf : (f :: older) <:+ d.log) {payload : Payload} {token : String}
    (hentry : f.entry = did (.sign payload) token) {claims : AccessTokenClaims}
    (hcarried : svc.prims.carried token = some claims) :
    ∃ user issued jti h, Authorized svc (req f.caller) user h ∧ claims = svc.accessClaims user issued jti ∧
      ownHistory f.caller older = did .uuid jti :: did .now issued :: h := by
  obtain ⟨mid, next, s, hat, -⟩ := hrun.performedAt rfl hf
  obtain ⟨choice, hexec⟩ := perform_of_entry hentry hat.perform
  obtain rfl : svc.prims.jwtEncode svc.config.jwtSecret payload = token := (Prod.mk.inj hexec).1
  have hread : AccessTokenClaims.ofPayload payload = some claims := by
    simpa [Primitives.carried, hjwt.parts_encode] using hcarried
  have hguard := guard_of_run hrun hf
  obtain ⟨i, s', a, r⟩ := f
  cases hentry
  rcases hguard with ⟨claims', ⟨user, issued, jti, h, hauth, rfl, htrace⟩, rfl⟩ |
    ⟨user, _, tokenId, issued, bytes, -, rfl⟩
  · rw [AccessTokenClaims.ofPayload_toPayload] at hread
    exact ⟨user, issued, jti, h, hauth, (Option.some.inj hread).symm, htrace⟩
  · cases hread

/-- A header is accepted for claims that the service signed. -/
theorem signed_of_validated {env : Environment} (hsecret : env "JWT_SECRET" = some svc.config.jwtSecret)
    {parts : RequestParts} (hunforged : Unforged svc d parts) {now : Instant} {claims : AccessTokenClaims}
    (h : validateToken svc.prims env now parts.authorization = .ok claims) :
    ∃ token, parts.presentedToken = some token ∧ (∃ f ∈ d.log, ∃ payload, f.entry = did (.sign payload) token) ∧
      svc.prims.carried token = some claims ∧ timestamp now ≤ claims.exp + 60 := by
  obtain ⟨header, secret, hheader, hbearer, hsecret', hdecoded⟩ := validateToken_eq_ok.mp h
  obtain rfl := Option.some.inj (hsecret.symm.trans hsecret')
  obtain ⟨hcarried, hverify, haccepted⟩ := Primitives.decodeAccess_eq_some.mp hdecoded
  have hpresented : parts.presentedToken = some (trimBearer header) := by
    simp [RequestParts.presentedToken, hheader, Option.filter, hbearer]
  exact ⟨_, hpresented, hunforged _ hpresented hverify, hcarried, haccepted.exp⟩

/-- A signature over claims that read as those of an access token was made for them by a call that had
authorized the user, and the user is still in the table. -/
theorem signedFor_of_signed (hjwt : svc.prims.JwtRoundTrip) (hrun : svc.machine.Reaches ok (svc.start w req) d)
    {f : LogEvent} (hf : f ∈ d.log) {payload : Payload} {token : String}
    (hentry : f.entry = did (.sign payload) token) {claims : AccessTokenClaims}
    (hcarried : svc.prims.carried token = some claims) :
    SignedFor svc req d token claims ∧
      ∃ user, claims.Describes svc.config user ∧ ∃ row ∈ d.shared.db.users, user.Later row := by
  obtain ⟨older, hsuffix⟩ := exists_suffix_of_mem hf
  obtain ⟨user, issued, jti, h, hauth, rfl, htrace⟩ := authorized_of_signed hjwt hrun hsuffix hentry hcarried
  obtain ⟨⟨x, h', hx, hread⟩, hactive, -⟩ := hauth.read
  have hseen : x ∈ ownHistory f.caller older := by
    rw [htrace]
    exact List.mem_cons_of_mem _ (List.mem_cons_of_mem _ (hx.subset List.mem_cons_self))
  obtain ⟨e, he, hcaller, heentry⟩ := mem_ownHistory.mp hseen
  have hown : (x :: h') <:+ ownHistory f.caller d.log := by
    refine List.IsSuffix.trans ?_ (ownHistory_suffix _ ((List.suffix_cons _ _).trans hsuffix))
    rw [htrace]
    exact hx.trans ⟨[_, _], rfl⟩
  obtain ⟨-, -, -, -, -, row, hrow, hlater⟩ := user_of_read hrun hown hread
  exact ⟨⟨f, older, payload, user, issued, jti, h, hsuffix, hentry, rfl, hauth, htrace, e, he, hcaller,
    heentry ▸ hread, hactive⟩, user, accessClaims_describes svc user issued jti, row, hrow, hlater⟩

/-- Claims that are accepted are vouched for. -/
theorem vouched_of_validated (hjwt : svc.prims.JwtRoundTrip) (hrun : svc.machine.Reaches ok (svc.start w req) d)
    {env : Environment} (hsecret : env "JWT_SECRET" = some svc.config.jwtSecret) {parts : RequestParts}
    (hunforged : Unforged svc d parts) {claims : AccessTokenClaims}
    (h : validateToken svc.prims env d.shared.now parts.authorization = .ok claims) :
    Vouched svc req w d parts claims := by
  obtain ⟨token, hpresented, ⟨f, hf, payload, hentry⟩, hcarried, hexpires⟩ :=
    signed_of_validated hsecret hunforged h
  obtain ⟨hsigned, user, hdescribes, row, hrow, hlater⟩ := signedFor_of_signed hjwt hrun hf hentry hcarried
  constructor
  · exact ⟨token, hpresented, hsigned⟩
  · exact ⟨row, hrow, hdescribes.sub.trans hlater.id.symm, hdescribes.email.trans hlater.email.symm,
      hdescribes.name.trans hlater.name.symm, by rw [hdescribes.role, hlater.role], hdescribes.iss, hdescribes.aud⟩
  · intro hhigher
    rcases role_origin hrun row hrow with huser | ⟨first, hfirst, hid, hrole⟩
    · rw [hlater.role] at huser
      rw [hdescribes.role, huser] at hhigher
      exact absurd rfl hhigher
    · refine ⟨first, hfirst, hid.trans (hlater.id.trans hdescribes.sub.symm), ?_⟩
      rw [hrole, hlater.role, hdescribes.role]
  · exact hexpires

section Gates

variable {α : Type} {prims : Primitives} {env : Environment} {now : Instant} {parts : RequestParts}
    {next : RequestParts → α}
  {out : α}

/-- The gate for a set of roles lets a header through that is accepted for claims with one of them. -/
theorem requireRole_eq_ok {roles : List String} : requireRole roles prims env now parts next = .ok out ↔
    ∃ claims, validateToken prims env now parts.authorization = .ok claims ∧ claims.role ∈ roles ∧
      next { parts with claims := some claims } = out := by
  simp only [requireRole, except_bind_eq_ok]
  refine exists_congr fun claims => and_congr_right fun _ => ?_
  by_cases hrole : claims.role ∈ roles
  · simp [hrole, pure, Except.pure]
  · simp [hrole]

/-- A request that presents a token with acceptable claims is accepted. -/
theorem validateToken_of_presented {secret token : String} {claims : AccessTokenClaims}
    (hsecret : env "JWT_SECRET" = some secret) (hpresented : parts.presentedToken = some token)
    (hdecoded : prims.decodeAccess secret (getValidation env) now token = some claims) :
    validateToken prims env now parts.authorization = .ok claims := by
  obtain ⟨header, hheader, rfl⟩ := Option.map_eq_some_iff.mp hpresented
  obtain ⟨hauthorization, hbearer⟩ := Option.filter_eq_some_iff.mp hheader
  exact validateToken_eq_ok.mpr ⟨header, secret, hauthorization, hbearer, hsecret, hdecoded⟩

/-- The gate for administrators is the gate for their role, with another message. -/
theorem requireAdmin_eq_ok : requireAdmin prims env now parts next = .ok out ↔
    requireRole [UserRole.admin.asStr] prims env now parts next = .ok out := by
  rw [requireRole_eq_ok]
  simp only [requireAdmin, except_bind_eq_ok]
  refine exists_congr fun claims => and_congr_right fun _ => ?_
  by_cases hrole : claims.role = "admin"
  · simp [hrole, UserRole.asStr, pure, Except.pure]
  · simp [hrole, UserRole.asStr]

/-- The optional extractor finds the user the extractor reads. -/
theorem tryAuthUser_eq_some {user : AuthUser} :
    tryAuthUser prims env now parts = some user ↔ AuthUser.fromRequestParts prims env now parts = .ok user := by
  rw [tryAuthUser]
  cases AuthUser.fromRequestParts prims env now parts with
  | error rejection => simp [Except.toOption]
  | ok found => simp [Except.toOption]

end Gates

end Run

/-- In every run with unforged access tokens, a request that a role gate lets through is vouched for and has
one of the roles; a request that passes the gate for administrators is one of a user who was an administrator
from the beginning; and what the extractors decide by the role text is what the row of the user says. -/
theorem role_gates_vouched (svc : AuthService) (hjwt : svc.prims.JwtRoundTrip) (w : World)
    (req : ℕ → Request) (d : System) (hrun : svc.machine.Reaches (fun _ _ => True) (svc.start w req) d)
    (env : Environment) (hsecret : env "JWT_SECRET" = some svc.config.jwtSecret) (parts : RequestParts)
    (hunforged : Unforged svc d parts) :
    (∀ roles (α : Type) (next : RequestParts → α) out,
      requireRole roles svc.prims env d.shared.now parts next = .ok out →
      ∃ claims, next { parts with claims := some claims } = out ∧ claims.role ∈ roles ∧
      Vouched svc req w d parts claims) ∧
    (∀ (α : Type) (next : RequestParts → α) out, requireAdmin svc.prims env d.shared.now parts next = .ok out →
      ∃ claims, next { parts with claims := some claims } = out ∧ Vouched svc req w d parts claims ∧
        ∃ row ∈ w.db.users, row.id = claims.sub ∧ row.isAdmin = true) ∧
    (parts.claims = none → ∀ user, tryAuthUser svc.prims env d.shared.now parts = some user →
      ∃ row ∈ d.shared.db.users, row.id = user.id ∧ user.isAdmin = row.isAdmin ∧
        user.canPublish = row.role.canPublish ∧ user.canModerate = row.role.canModerate) := by
  have hvouched (claims : AccessTokenClaims)
      (h : validateToken svc.prims env d.shared.now parts.authorization = .ok claims) :
      Vouched svc req w d parts claims :=
    vouched_of_validated hjwt hrun hsecret hunforged h
  refine ⟨fun roles α next out h => ?_, fun α next out h => ?_, fun hfresh user h => ?_⟩
  · obtain ⟨claims, hvalid, hrole, hout⟩ := requireRole_eq_ok.mp h
    exact ⟨claims, hout, hrole, hvouched claims hvalid⟩
  · obtain ⟨claims, hvalid, hrole, hout⟩ := requireRole_eq_ok.mp (requireAdmin_eq_ok.mp h)
    rw [List.mem_singleton] at hrole
    have hhigher : claims.role ≠ UserRole.user.asStr := by
      rw [hrole, ne_eq, UserRole.asStr_inj]
      decide
    obtain ⟨row, hrow, hid, hsame⟩ := (hvouched claims hvalid).elevated hhigher
    have hadmin : row.role = .admin := UserRole.asStr_inj.mp (hsame.trans hrole)
    exact ⟨claims, hout, hvouched claims hvalid, row, hrow, hid, by rw [User.isAdmin, hadmin]; rfl⟩
  · rw [tryAuthUser_eq_some, fromRequestParts_eq hfresh, except_map_eq_ok] at h
    obtain ⟨claims, hvalid, rfl⟩ := h
    obtain ⟨row, hrow, hdescribes⟩ := (hvouched claims hvalid).row
    exact ⟨row, hrow, hdescribes.sub.symm, AuthUser.decides hdescribes.role⟩

section Runs

open Reference

/-- An administrator that was there before the service started. -/
def adminUser : User := { newUser 1 0 "a@b.c" (argon2Hash "salt" "Abcdefg1") "A" with role := .admin }

/-- The world of the administrator. -/
def adminWorld : World := ⟨(Db.empty.insertUser? adminUser).getD Db.empty, 0⟩

/-- The administrator logs in. -/
def adminRequests : ℕ → Request := fun _ => .login ⟨"a@b.c", "Abcdefg1"⟩ none none

/-- The state after the login. -/
def adminRun : System := signingService.executor.play (moves 0 12 3) (signingService.start adminWorld adminRequests)

/-- The claims the administrator was issued. -/
def adminClaims : AccessTokenClaims := signingService.accessClaims adminUser 0 (choice 3).uuid

/-- The token the administrator was issued. -/
def adminToken : String := signing.jwtEncode config.jwtSecret adminClaims.toPayload

/-- The header presents the token. -/
theorem adminToken_presented : (RequestParts.announcing adminToken).presentedToken = some adminToken := by
  apply presentedToken_of_bearer _ rfl
  apply signing_signedIsVisible config.jwtSecret
  · rw [adminToken, signing_jwtRoundTrip.parts_encode]
    simp
  · exact signing_jwtRoundTrip.verify_encode _ _

/-- As long as it has not expired, the token is accepted. -/
theorem adminToken_accepted {now : Instant} (hnow : timestamp now ≤ 960) :
    validateToken signing secretOnly now (RequestParts.announcing adminToken).authorization = .ok adminClaims := by
  have hdecoded :
      signing.decodeAccess config.jwtSecret (getValidation secretOnly) now adminToken = some adminClaims := by
    apply Primitives.decodeAccess_eq_some.mpr
    have hexp : adminClaims.exp = 900 := by decide
    refine ⟨?_, signing_jwtRoundTrip.verify_encode _ _, rfl, rfl, by omega, by omega⟩
    simp [Primitives.carried, adminToken, signing_jwtRoundTrip.parts_encode]
  exact validateToken_of_presented rfl adminToken_presented hdecoded

/-- A token that was signed stays unforged in every continuation of the run. -/
theorem adminToken_unforged {d : System} (hsigned : ∃ f ∈ d.log, f.action = .sign adminClaims.toPayload)
    (hrun : signingService.machine.Reaches (fun _ _ => True) (signingService.start adminWorld adminRequests) d) :
    Unforged signingService d (.announcing adminToken) := by
  intro token hpresented _
  obtain rfl := Option.some.inj (adminToken_presented.symm.trans hpresented)
  obtain ⟨f, hf, haction⟩ := hsigned
  obtain ⟨s, ⟨choice, hexec⟩, -⟩ := hrun.event_monotone signingService.machine_monotone rfl hf
  obtain ⟨i, before, a, r⟩ := f
  cases haction
  exact ⟨_, hf, _, congrArg (did _) (Prod.mk.inj hexec).1.symm⟩

/-- An administrator who has logged in passes the gate, vouched for. -/
theorem role_gates_vouched_admin : ∃ claims,
    requireAdmin signing secretOnly adminRun.shared.now (.announcing adminToken) RequestParts.claims =
      .ok (some claims) ∧
      Vouched signingService adminRequests adminWorld adminRun (.announcing adminToken) claims := by
  have hfacts : adminRun.shared.clock = 0 ∧ ∃ f ∈ adminRun.log, f.action = .sign adminClaims.toPayload := by
    decide +kernel
  obtain ⟨hclock, hsigned⟩ := hfacts
  have hrun := signingService.executor.play_reaches (moves 0 12 3) (signingService.start adminWorld adminRequests)
  have hnow : timestamp adminRun.shared.now ≤ 960 := by
    rw [World.now, hclock]
    decide
  have hadmitted : requireAdmin signing secretOnly adminRun.shared.now
    (.announcing adminToken) RequestParts.claims =
      .ok (some adminClaims) :=
    requireAdmin_eq_ok.mpr (requireRole_eq_ok.mpr ⟨_, adminToken_accepted hnow, List.mem_singleton_self _, rfl⟩)
  obtain ⟨-, hgate, -⟩ :=
    role_gates_vouched signingService signing_jwtRoundTrip adminWorld adminRequests adminRun hrun
    secretOnly rfl (.announcing adminToken) (adminToken_unforged hsigned hrun)
  obtain ⟨claims, hout, hvouched, -⟩ := hgate _ _ _ hadmitted
  cases hout
  exact ⟨_, hadmitted, hvouched⟩

end Runs

/-- No call that goes on has read the user. -/
def NoneReads (u : Uuid) (c : System) : Prop :=
  ∀ i, c.Running i → ∀ x ∈ ownHistory i c.log, ∀ user, readUser? x = some user → user.id ≠ u

section Barred

variable {svc : AuthService} {req : ℕ → Request} {w : World} {u : Uuid} {status : UserStatus} {c d : System}

/-- While the user stays barred, every later action is performed on a database in which the user is barred. -/
theorem barred_since (hstatus : status = .suspended ∨ status = .deleted)
    (hbefore : svc.machine.Reaches (fun _ _ => True) (svc.start w req) c) (hbarred : HasStatus u status c.shared.db)
    (hafter : svc.machine.Reaches (noBarredVerification u).Keeps c d) :
    HasStatus u status d.shared.db ∧ ∀ e ∈ d.log, e ∈ c.log ∨ HasStatus u status e.before.db := by
  have hind : Machine.Inductive svc.machine (noBarredVerification u).Keeps (fun i => svc.protocol (req i))
      (fun m => HasStatus u status m.shared.db ∧ ∀ e ∈ m.log, e ∈ c.log ∨ HasStatus u status e.before.db) := by
    constructor
    · intro m i a next r s hinv _ _ _ hperform hkeeps
      refine ⟨hinv.1.perform hperform ?_, fun e he => ?_⟩
      · by_contra hverifies
        obtain ⟨row, hrow, hid, hrowStatus⟩ := hinv.1
        have hfree := hkeeps.event _ rfl (by simpa using hverifies) row hrow hid
        rw [hrowStatus] at hfree
        rcases hstatus with rfl | rfl
        · exact hfree.1 rfl
        · exact hfree.2 rfl
      · rcases List.mem_cons.mp he with rfl | hold
        · exact Or.inr hinv.1
        · exact hinv.2 e hold
    · intro m s hinv _ hkeeps
      obtain ⟨⟨row, hrow, hid, hrowStatus⟩, hlog⟩ := hinv
      exact ⟨⟨row, hkeeps.idle rfl row hrow hid, hid, hrowStatus⟩, hlog⟩
  exact hafter.invariant hind (hbefore.obeys (fun i => svc.protocol (req i)) start_obeys)
    ⟨hbarred, fun e he => Or.inl he⟩

/-- What a call read of a clock lies in the past. -/
theorem read_clock_le {ok : System → System → Prop} (hrun : svc.machine.Reaches ok (svc.start w req) c) {i : ℕ}
    {t : Instant} (hread : did .now t ∈ ownHistory i c.log) : t ≤ c.shared.now := by
  obtain ⟨g, hg, -, hentry⟩ := mem_ownHistory.mp hread
  obtain ⟨s, hperform, -⟩ := hrun.event_monotone svc.machine_monotone rfl hg
  obtain ⟨choice, hexec⟩ := perform_of_entry hentry hperform
  obtain rfl : g.before.now = t := (Prod.mk.inj hexec).1
  exact (hrun.before_monotone svc.machine_monotone rfl hg).now_le

/-- A token of a barred user was signed before the user was barred. -/
theorem signed_before_barred (hjwt : svc.prims.JwtRoundTrip) (hstatus : status = .suspended ∨ status = .deleted)
    (hbefore : svc.machine.Reaches (fun _ _ => True) (svc.start w req) c) (hbarred : HasStatus u status c.shared.db)
    (hnone : NoneReads u c) (hafter : svc.machine.Reaches (noBarredVerification u).Keeps c d) {f : LogEvent}
    (hf : f ∈ d.log) {payload : Payload} {token : String} (hentry : f.entry = did (.sign payload) token)
    {claims : AccessTokenClaims} (hcarried : svc.prims.carried token = some claims) (hsub : claims.sub = u) :
    ∃ f ∈ c.log, ∃ payload, f.entry = did (.sign payload) token := by
  by_contra hnew
  have hrun := hbefore.trans (Reaches.mono (fun _ _ _ => trivial) hafter)
  obtain ⟨older, hsuffix⟩ := exists_suffix_of_mem hf
  obtain ⟨user, issued, jti, h, hauth, rfl, htrace⟩ := authorized_of_signed hjwt hrun hsuffix hentry hcarried
  obtain ⟨⟨x, h', hx, hread⟩, hactive, -⟩ := hauth.read
  have hreads : x ∈ ownHistory f.caller older := by
    rw [htrace]
    exact List.mem_cons_of_mem _ (List.mem_cons_of_mem _ (hx.subset List.mem_cons_self))
  obtain ⟨e, he, hcaller, heentry⟩ := mem_ownHistory.mp hreads
  have hlog : e ∈ d.log := hsuffix.subset (List.mem_cons_of_mem _ he)
  rcases (barred_since hstatus hbefore hbarred hafter).2 e hlog with hold | hsince
  · have hown : x ∈ ownHistory f.caller c.log := mem_ownHistory.mpr ⟨e, hold, hcaller, heentry⟩
    have hrunning : c.Running f.caller := by
      refine ⟨List.ne_nil_of_mem hown, fun hended => hnew ?_⟩
      have hsigned : did (.sign payload) token ∈ ownHistory f.caller d.log :=
        mem_ownHistory.mpr ⟨f, hf, rfl, hentry⟩
      rw [hafter.ownHistory_of_ended hended] at hsigned
      obtain ⟨f', hf', -, hentry'⟩ := mem_ownHistory.mp hsigned
      exact ⟨f', hf', payload, hentry'⟩
    exact hnone _ hrunning x hown user hread hsub
  · obtain ⟨s, hperform, -⟩ := hrun.event_monotone svc.machine_monotone rfl hlog
    have huser : user ∈ e.before.db.users := readUser?_row hperform (by rw [← hread, ← heentry]; rfl)
    obtain ⟨row, hrow, hid, hrowStatus⟩ := hsince
    obtain rfl := Table.eq_of_pk huser hrow (Eq.trans hsub hid.symm)
    rw [hactive] at hrowStatus
    rcases hstatus with rfl | rfl <;> cases hrowStatus

/-- Time may pass while a user is barred. -/
theorem reaches_tick (c : System) (elapsed : ℕ) : svc.machine.Reaches (noBarredVerification u).Keeps c
    { c with shared := (EnvMove.tick elapsed).apply c.shared } := by
  refine .single ⟨.idle ⟨_, rfl⟩, fun e hlog => ?_, fun _ row hrow _ => hrow⟩
  exact absurd hlog.symm (List.cons_ne_self e c.log)

end Barred

/-- After a user was barred while no call that had read the user was going on, and as long as the email of the
user is not verified again, the middleware accepts tokens of the user for at most the lifetime of an access
token and a minute. -/
theorem barred_user_exposure (svc : AuthService) (hjwt : svc.prims.JwtRoundTrip) (w : World)
    (req : ℕ → Request) (u : Uuid) (status : UserStatus) (hstatus : status = .suspended ∨ status = .deleted)
    (c d : System) (hbefore : svc.machine.Reaches (fun _ _ => True) (svc.start w req) c)
    (hbarred : HasStatus u status c.shared.db) (hnone : NoneReads u c)
    (hafter : svc.machine.Reaches (noBarredVerification u).Keeps c d) (env : Environment)
    (hsecret : env "JWT_SECRET" = some svc.config.jwtSecret) (parts : RequestParts)
    (hunforged : Unforged svc d parts) (claims : AccessTokenClaims)
    (hvalid : validateToken svc.prims env d.shared.now parts.authorization = .ok claims)
    (hsub : claims.sub = u) : timestamp d.shared.now ≤ svc.config.accessExpiry c.shared.now + 60 := by
  obtain ⟨token, -, ⟨f, hf, payload, hentry⟩, hcarried, hexpires⟩ := signed_of_validated hsecret hunforged hvalid
  obtain ⟨f', hf', payload', hentry'⟩ :=
    signed_before_barred hjwt hstatus hbefore hbarred hnone hafter hf hentry hcarried hsub
  obtain ⟨older, hsuffix⟩ := exists_suffix_of_mem hf'
  obtain ⟨user, issued, jti, h, -, rfl, htrace⟩ := authorized_of_signed hjwt hbefore hsuffix hentry' hcarried
  have hclock : did .now issued ∈ ownHistory f'.caller c.log := by
    refine (ownHistory_suffix _ ((List.suffix_cons _ _).trans hsuffix)).subset ?_
    rw [htrace]
    exact List.mem_cons_of_mem _ List.mem_cons_self
  have hissued : timestamp issued ≤ timestamp c.shared.now :=
    Int.ediv_le_ediv (by decide) (read_clock_le hbefore hclock)
  rw [accessClaims_exp] at hexpires
  unfold AuthConfig.accessExpiry at hexpires ⊢
  omega

section Runs

open Reference

/-- The administrator is suspended after the login. -/
def suspendedAdmin : System :=
  signingService.executor.play (moves 0 12 3 ++ [.env (.setStatus 1 .suspended)])
    (signingService.start adminWorld adminRequests)

/-- Ten minutes later. -/
def suspendedLater : System :=
  { suspendedAdmin with shared := (EnvMove.tick 600000000).apply suspendedAdmin.shared }

/-- The suspended administrator still passes the middleware, within the bound. -/
theorem barred_user_exposure_later : validateToken signing secretOnly suspendedLater.shared.now
      (RequestParts.announcing adminToken).authorization = .ok adminClaims ∧
    timestamp suspendedLater.shared.now ≤ signingService.config.accessExpiry suspendedAdmin.shared.now + 60 := by
  have hfacts : suspendedLater.shared.clock = 600000000 ∧ HasStatus 1 .suspended suspendedAdmin.shared.db ∧
      (∀ e ∈ suspendedAdmin.log, (suspendedAdmin.calls e.caller).Ended) ∧
      ∃ f ∈ suspendedLater.log, f.action = .sign adminClaims.toPayload := by decide +kernel
  obtain ⟨hclock, hbarred, hended, hsigned⟩ := hfacts
  have hbefore := signingService.executor.play_reaches (moves 0 12 3 ++ [.env (.setStatus 1 .suspended)])
    (signingService.start adminWorld adminRequests)
  have hafter : signingService.machine.Reaches (noBarredVerification 1).Keeps suspendedAdmin suspendedLater :=
    reaches_tick suspendedAdmin 600000000
  have hrun := hbefore.trans (Reaches.mono (fun _ _ _ => trivial) hafter)
  have hnow : timestamp suspendedLater.shared.now ≤ 960 := by
    rw [World.now, hclock]
    decide
  have hvalid := adminToken_accepted hnow
  exact ⟨hvalid,
    barred_user_exposure signingService signing_jwtRoundTrip adminWorld adminRequests 1 .suspended (Or.inl rfl)
    suspendedAdmin suspendedLater hbefore hbarred (fun i hrunning =>
      absurd hrunning (Config.not_running_of_ended hended i)) hafter
    secretOnly rfl (.announcing adminToken) (adminToken_unforged hsigned hrun) adminClaims hvalid rfl⟩

end Runs

end RustPressAuth
