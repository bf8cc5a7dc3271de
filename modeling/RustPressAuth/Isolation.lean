import RustPressAuth.Credentials
import RustPressAuth.LiveTokens
import RustPressAuth.SessionOutcomes

/-!
# The rows of other users

The owner of a credential is the user with the email, the user a token was stored for,
or the authenticated user. A call writes to rows of the owner of its credential only.
For refresh tokens this rests on an invariant over every JWT that was signed and every
row that was stored: the code never compares the user a JWT names with the user of the
row, and it looks the row up by one half of the token and the user by the other.
-/

namespace RustPressAuth

open Atomic Program Machine Relational

/-- The rows of a user are the same in both databases. -/
structure Db.SameFor (userId : Uuid) (db db' : Db) : Prop where
  users : ∀ u, u.id = userId → (u ∈ db'.users ↔ u ∈ db.users)
  refreshTokens : ∀ t, t.userId = userId → (t ∈ db'.refreshTokens ↔ t ∈ db.refreshTokens)
  oneTimeTokens : ∀ purpose t, t.userId = userId → (t ∈ db'.oneTimeTokens purpose ↔ t ∈ db.oneTimeTokens purpose)

/-- A database is the same for a user as itself. -/
theorem Db.SameFor.refl (userId : Uuid) (db : Db) : db.SameFor userId db :=
  ⟨fun _ _ => Iff.rfl, fun _ _ => Iff.rfl, fun _ _ _ => Iff.rfl⟩

/-- What stays the same twice stays the same. -/
theorem Db.SameFor.trans {userId : Uuid} {db₁ db₂ db₃ : Db} (h₁ : db₁.SameFor userId db₂)
    (h₂ : db₂.SameFor userId db₃) :
    db₁.SameFor userId db₃ where
  users u hu := (h₂.users u hu).trans (h₁.users u hu)
  refreshTokens t ht := (h₂.refreshTokens t ht).trans (h₁.refreshTokens t ht)
  oneTimeTokens purpose t ht := (h₂.oneTimeTokens purpose t ht).trans (h₁.oneTimeTokens purpose t ht)

/-- The statement names the user, or the id of a row of the user. -/
def Statement.concerns (db : Db) (userId : Uuid) : Statement → Prop
  | .revokeRefreshToken id => ∃ t ∈ db.refreshTokens, t.id = id ∧ t.userId = userId
  | .markTokenUsed purpose id => ∃ t ∈ db.oneTimeTokens purpose, t.id = id ∧ t.userId = userId
  | s => s.subject? = some userId

/-- The secret part of the token a request presents. -/
def Request.secret? : Request → Option String
  | .refreshTokens x _ _ =>
    match rsplitDot x with
    | [tokenString, _] => some tokenString
    | _ => none
  | .resetPassword r => some r.token
  | .verifyEmail token => some token
  | _ => none

/-- The random bytes that were drawn. -/
def drawn? : Entry → Option (Vector UInt8 32)
  | ⟨.randomBytes, bytes⟩ => some bytes
  | _ => none

/-- No secret that is presented has the hash of another one that was drawn. -/
def NoCollision (svc : AuthService) (request : Request) (log : List LogEvent) : Prop :=
  ∀ secret ∈ request.secret?, ∀ f ∈ log, ∀ bytes ∈ drawn? f.entry,
    svc.hashToken secret = svc.hashToken (base64UrlEncode bytes.toList) → secret = base64UrlEncode bytes.toList

/-- The user a credential belongs to: the user with the email, the user for whom the token was stored,
with both its halves, or the authenticated user. -/
inductive Owner (svc : AuthService) (db : Db) (log : List LogEvent) : Request → Uuid → Prop
  | login {r : LoginRequest} {ipAddress userAgent : Option String} {user : User} (huser : user ∈ db.users)
      (hemail : user.email = r.email) : Owner svc db log (.login r ipAddress userAgent) user.id
  | forgotPassword {email : String} {user : User} (huser : user ∈ db.users) (hemail : user.email = email) :
      Owner svc db log (.forgotPassword email) user.id
  | refreshTokens {userId tokenId : Uuid} {issuedAt : Instant} {bytes : Vector UInt8 32}
      {ipAddress userAgent : Option String} (hstored : ∃ e ∈ log, ∃ ip ua, ∃ n : ℕ, e.entry =
        executed (svc.storeRefresh userId tokenId issuedAt bytes ip ua) n) :
      Owner svc db log (.refreshTokens (svc.combined userId tokenId issuedAt bytes) ipAddress userAgent) userId
  | oneTime {request : Request} {purpose : Purpose} {userId : Uuid} {bytes : Vector UInt8 32}
      (htoken : request.oneTimeToken? = some (purpose, base64UrlEncode bytes.toList))
      (hstored : ∃ e ∈ log, ∃ expiresAt, ∃ n : ℕ, e.entry = executed (.insertOneTimeToken purpose userId
        (svc.hashToken (base64UrlEncode bytes.toList)) expiresAt) n) : Owner svc db log request userId
  | changePassword {userId : Uuid} {r : ChangePasswordRequest} : Owner svc db log (.changePassword userId r) userId
  | createEmailVerification {userId : Uuid} : Owner svc db log (.createEmailVerification userId) userId
  | resendVerification {userId : Uuid} : Owner svc db log (.resendVerification userId) userId

/-- JWTs are not forged, and hashes of secrets do not collide. -/
def honest (svc : AuthService) (req : ℕ → Request) : Rule ℕ Action Action.Reply Failure Response World :=
  .ofEvent fun c e => (jwtsUnforged svc req).event c e ∧ NoCollision svc (req e.caller) c.log

/-- The calls that move present credentials of other users, and the environment leaves the rows of the
user alone. -/
def othersMove (svc : AuthService) (req : ℕ → Request) (userId : Uuid) :
    Rule ℕ Action Action.Reply Failure Response World where
  event c e := (honest svc req).event c e ∧ (req e.caller).presentsCredential = true ∧
    ¬ Owner svc c.shared.db c.log (req e.caller) userId
  idle s t := s.db.SameFor userId t.db

section Statements

variable {fresh userId : Uuid} {now : Instant} {db db' : Db} {s : Statement} {v : s.Row}

/-- A changed row is the same when the condition of the change fails on the rows of the user. -/
theorem mem_update_same {Row : Type} (table table' : Set Row) {owner : Row → Uuid} {f : Row → Row}
    (hupdate : ∀ t, t ∈ table' ↔ ∃ q ∈ table, f q = t) (howner : ∀ q, owner (f q) = owner q)
    (hother : ∀ q ∈ table, owner q = userId → f q = q) {t : Row} (ht : owner t = userId) :
    t ∈ table' ↔ t ∈ table := by
  rw [hupdate]
  constructor
  · rintro ⟨q, hq, rfl⟩
    rw [howner] at ht
    rw [hother q hq ht]
    exact hq
  · intro hmem
    exact ⟨t, hmem, hother t hmem ht⟩

/-- Without new users, a statement keeps the user rows it does not concern. -/
theorem Statement.run_sameUsers (h : s.run fresh now db = .ok (v, db')) (hother : ¬ s.concerns db userId)
    (hregister : ∀ email passwordHash name, s ≠ .insertUser email passwordHash name) {u : User}
    (hu : u.id = userId) :
    u ∈ db'.users ↔ u ∈ db.users := by
  have hnone : s.newUser? fresh now = none := by
    cases s with
    | insertUser email passwordHash name => exact absurd rfl (hregister email passwordHash name)
    | _ => rfl
  have hkeeps (row : User) (hid : row.id = userId) : s.onUser now row = row := by
    cases s with
    | incrementFailedAttempts | recordSuccessfulLogin | updatePassword | verifyUserEmail =>
      apply if_neg
      intro heq
      subst heq
      exact hother (congrArg some hid)
    | _ => rfl
  have hupdate (t : User) : t ∈ db'.users ↔ ∃ q ∈ db.users, s.onUser now q = t := by
    rw [Statement.run_users h, hnone]
    simp
  exact mem_update_same {q | q ∈ db.users} {q | q ∈ db'.users} hupdate (fun q => s.onUser_id now q)
    (fun q _ => hkeeps q) hu

/-- A revocation that fails its condition on the rows of the user keeps them. -/
theorem Db.revoke_same {p : RefreshToken → Bool} (hp : ∀ t ∈ db.refreshTokens, t.userId = userId → p t = false)
    {t : RefreshToken} (ht : t.userId = userId) : t ∈ (db.revoke p now).refreshTokens ↔ t ∈ db.refreshTokens := by
  have howner (q : RefreshToken) : (if p q then Db.revokedRow now q else q).userId = q.userId := by split <;> rfl
  have hother (q : RefreshToken) (hq : q ∈ db.refreshTokens) (huser : q.userId = userId) :
      (if p q then Db.revokedRow now q else q) = q := by
    simp [hp q hq huser]
  exact mem_update_same {q | q ∈ db.refreshTokens} {q | q ∈ (db.revoke p now).refreshTokens}
    (fun _ => Db.mem_revoke) howner hother ht

/-- Marking tokens used keeps the rows of the user on which the condition fails. -/
theorem Db.markUsed_same {purpose : Purpose} {p : OneTimeToken → Bool}
    (hp : ∀ t ∈ db.oneTimeTokens purpose, t.userId = userId → p t = false) (purpose' : Purpose) {t : OneTimeToken}
    (ht : t.userId = userId) : t ∈ (db.markUsed purpose p now).oneTimeTokens purpose' ↔
    t ∈ db.oneTimeTokens purpose' := by
  by_cases hpurpose : purpose' = purpose
  · subst hpurpose
    have howner (q : OneTimeToken) : (if p q then Db.usedRow now q else q).userId = q.userId := by split <;> rfl
    have hother (q : OneTimeToken) (hq : q ∈ db.oneTimeTokens purpose') (huser : q.userId = userId) :
        (if p q then Db.usedRow now q else q) = q := by
      simp [hp q hq huser]
    exact mem_update_same {q | q ∈ db.oneTimeTokens purpose'}
      {q | q ∈ (db.markUsed purpose' p now).oneTimeTokens purpose'} (fun _ => Db.mem_markUsed) howner hother ht
  · simp only [Db.markUsed, Function.update_of_ne hpurpose]

/-- A statement that does not concern a user keeps the refresh tokens of the user. -/
theorem Statement.run_sameRefreshTokens (h : s.run fresh now db = .ok (v, db')) (hother : ¬ s.concerns db userId)
    {t : RefreshToken} (ht : t.userId = userId) : t ∈ db'.refreshTokens ↔ t ∈ db.refreshTokens := by
  by_cases hwrites : s.writesRefreshTokens = true
  · cases s with
    | revokeRefreshToken id =>
      cases h
      apply Db.revoke_same _ ht
      intro q hq huser
      by_contra hp
      exact hother ⟨q, hq, of_decide_eq_true (Bool.not_eq_false _ ▸ hp), huser⟩
    | revokeAllTokens id =>
      cases h
      apply Db.revoke_same _ ht
      intro q hq huser
      have hne : q.userId ≠ id := by
        intro heq
        subst heq
        exact hother (congrArg some huser)
      simp [hne]
    | insertRefreshToken id owner tokenHash expiresAt ip ua =>
      simp only [Statement.run, except_bind_eq_ok, orError_eq_ok] at h
      obtain ⟨_, _, _, _, db₁, hinsert, heq⟩ := h
      cases heq
      rw [Table.mem_insert? (Db.insertRefreshToken?_spec hinsert).2.1]
      constructor
      · rintro (hold | rfl)
        · exact hold
        · exact absurd (congrArg some ht) hother
      · exact Or.inl
    | _ => cases hwrites
  · rw [(Statement.run_frame h).1 (Bool.eq_false_iff.mpr hwrites)]

/-- A statement that does not concern a user keeps the one-time tokens of the user. -/
theorem Statement.run_sameOneTimeTokens (h : s.run fresh now db = .ok (v, db')) (hother : ¬ s.concerns db userId)
    (purpose : Purpose) {t : OneTimeToken} (ht : t.userId = userId) :
    t ∈ db'.oneTimeTokens purpose ↔ t ∈ db.oneTimeTokens purpose := by
  by_cases hwrites : s.writesOneTimeTokens = true
  · cases s with
    | invalidateTokens p id =>
      cases h
      apply Db.markUsed_same _ purpose ht
      intro q hq huser
      have hne : q.userId ≠ id := by
        intro heq
        subst heq
        exact hother (congrArg some huser)
      simp [hne]
    | markTokenUsed p id =>
      cases h
      apply Db.markUsed_same _ purpose ht
      intro q hq huser
      by_contra hp
      exact hother ⟨q, hq, of_decide_eq_true (Bool.not_eq_false _ ▸ hp), huser⟩
    | insertOneTimeToken p owner tokenHash expiresAt =>
      simp only [Statement.run, except_bind_eq_ok, orError_eq_ok] at h
      obtain ⟨_, _, db₁, hinsert, heq⟩ := h
      cases heq
      obtain ⟨-, -, htable, hothers⟩ := Db.insertOneTimeToken?_spec hinsert
      by_cases hp : purpose = p
      · subst hp
        rw [Table.mem_insert? htable]
        constructor
        · rintro (hold | rfl)
          · exact hold
          · exact absurd (congrArg some ht) hother
        · exact Or.inl
      · rw [hothers purpose hp]
    | _ => cases hwrites
  · rw [(Statement.run_frame h).2 (Bool.eq_false_iff.mpr hwrites)]

end Statements

section Run

variable {svc : AuthService} {req : ℕ → Request} {w : World} {ok : System → System → Prop} {d : System}

/-- A row of a token table was stored by a call, with the hash of bytes that were drawn. -/
structure OneTimeStored (svc : AuthService) (log : List LogEvent) (purpose : Purpose) (t : OneTimeToken)
    (bytes : Vector UInt8 32) : Prop where
  hash : t.tokenHash = svc.hashToken (base64UrlEncode bytes.toList)
  drawn : ∃ e ∈ log, drawn? e.entry = some bytes
  stored : ∃ e ∈ log, ∃ expiresAt, ∃ n : ℕ,
    e.entry =
    executed (.insertOneTimeToken purpose t.userId (svc.hashToken (base64UrlEncode bytes.toList)) expiresAt) n

/-- A token that was stored for a user stays one when its row and the log go on. -/
theorem OneTimeStored.extend {log log' : List LogEvent} {purpose : Purpose} {t t' : OneTimeToken}
    {bytes : Vector UInt8 32} (h : OneTimeStored svc log purpose t bytes) (hlater : t.Later t')
    (hlog : ∀ e ∈ log, e ∈ log') :
    OneTimeStored svc log' purpose t' bytes where
  hash := hlater.tokenHash.trans h.hash
  drawn := by
    obtain ⟨e, he, hentry⟩ := h.drawn
    exact ⟨e, hlog e he, hentry⟩
  stored := by
    obtain ⟨e, he, hentry⟩ := h.stored
    rw [hlater.userId]
    exact ⟨e, hlog e he, hentry⟩

/-- The row a call adds is the row of the bytes it has drawn. -/
theorem oneTimeStored_of_new {c : System} {i : ℕ} {s : Statement} {rows : s.Row} {fresh : Uuid} {now : Instant}
    {purpose : Purpose} {t : OneTimeToken} (hguard : StatementGuard svc (req i) (ownHistory i c.log) s)
    (hnew : s.newToken? fresh now purpose = some t) (before : World) :
    ∃ bytes, OneTimeStored svc (⟨i, before, .sql s, .ok rows⟩ :: c.log) purpose t bytes := by
  unfold Statement.newToken? at hnew
  split at hnew
  · split at hnew
    · rename_i p userId tokenHash expiresAt hp
      subst hp
      obtain rfl := Option.some.inj hnew
      obtain ⟨bytes, issuedAt, ⟨h', n, ⟨h₀, -, rfl⟩, htrace⟩, rfl, -⟩ := hguard
      have hown : did .randomBytes bytes ∈ ownHistory i c.log := by
        rw [htrace]
        simp
      obtain ⟨e, he, -, hentry⟩ := mem_ownHistory.mp hown
      refine ⟨bytes, ?_, ⟨e, List.mem_cons_of_mem _ he, by rw [hentry]; rfl⟩, ?_⟩
      · simp [newOneTimeToken, varchar_hashToken]
      · exact ⟨_, List.mem_cons_self, expiresAt, rows, rfl⟩
    · cases hnew
  · cases hnew

/-- In every run from an empty database each one-time token was stored by a call. -/
theorem oneTimeStored_of_run (hempty : w.db = Db.empty) (hrun : svc.machine.Reaches ok (svc.start w req) d)
    {purpose : Purpose} :
    ∀ t ∈ d.shared.db.oneTimeTokens purpose, ∃ bytes, OneTimeStored svc d.log purpose t bytes := by
  have hind : Machine.Inductive svc.machine ok (fun i => svc.protocol (req i))
      (fun c => ∀ t ∈ c.shared.db.oneTimeTokens purpose, ∃ bytes, OneTimeStored svc c.log purpose t bytes) := by
    constructor
    · intro c i a next r s hinv _ hguard _ hperform _ t ht
      have hextend (q : OneTimeToken) (hq : q ∈ c.shared.db.oneTimeTokens purpose) (hlater : q.Later t) :
          ∃ bytes, OneTimeStored svc (⟨i, c.shared, a, r⟩ :: c.log) purpose t bytes := by
        obtain ⟨bytes, hstored⟩ := hinv q hq
        exact ⟨bytes, hstored.extend hlater fun _ => List.mem_cons_of_mem _⟩
      cases a with
      | sql statement =>
        rcases AuthService.perform_sql hperform with ⟨e, -, rfl⟩ | ⟨rows, fresh, db, rfl, hexec, rfl⟩
        · exact hextend t ht (OneTimeToken.Later.refl t)
        · rcases Statement.run_oneTimeTokens hexec ht with ⟨q, hq, hlater⟩ | hnew
          · exact hextend q hq hlater
          · exact oneTimeStored_of_new hguard hnew c.shared
      | _ =>
        rw [Config.advance, AuthService.perform_local hperform (by simp)] at ht
        exact hextend t ht (OneTimeToken.Later.refl t)
    · intro c s hinv hidle _
      obtain ⟨m, rfl⟩ := hidle
      cases m with
      | tick elapsed => exact hinv
      | setStatus id status => exact hinv
  apply hrun.invariant hind start_obeys
  intro t ht
  have hrow : t ∈ w.db.oneTimeTokens purpose := ht
  rw [hempty] at hrow
  exact absurd hrow (Table.not_mem_empty t)

/-- An event of the log whose entry is known has performed its action. -/
theorem performed_of_entry (hrun : svc.machine.Reaches ok (svc.start w req) d) {x : Entry} {h : Trace} {i : ℕ}
    (hsuffix : (x :: h) <:+ ownHistory i d.log) :
    ∃ s s', svc.machine.perform x.1 s x.2 s' ∧ s.Precedes d.shared := by
  obtain ⟨e, older, he, -, hentry, -⟩ := exists_event_of_suffix hsuffix
  have hlog := he.subset List.mem_cons_self
  obtain ⟨s', hperform, -⟩ := hrun.event_monotone svc.machine_monotone rfl hlog
  exact ⟨e.before, s', perform_of_entry hentry hperform, hrun.before_monotone svc.machine_monotone rfl hlog⟩

/-- A user that was read by its email still has the email. -/
theorem userByEmail_of_read (hrun : svc.machine.Reaches ok (svc.start w req) d) {i : ℕ} {email : String}
    {user : User} {h : Trace}
    (hsuffix : (executed (.selectUserByEmail email) (some user) :: h) <:+ ownHistory i d.log) :
    ∃ user' ∈ d.shared.db.users, user'.id = user.id ∧ user'.email = email := by
  obtain ⟨s, s', hperform, hle⟩ := performed_of_entry hrun hsuffix
  obtain ⟨fresh, db, hexec, -⟩ := AuthService.perform_ok hperform
  have hfind : s.db.users.find? (fun u => u.email = email) = some user := (Prod.mk.inj (Except.ok.inj hexec)).1
  obtain ⟨hmem, hemail⟩ := Table.find?_some hfind
  obtain ⟨user', huser', hlater⟩ := hle.db.users user hmem
  exact ⟨user', huser', hlater.id, hlater.email.trans (of_decide_eq_true hemail)⟩

/-- The row of a refresh token that was found belongs to the user its JWT names. -/
theorem subject_of_refreshFound (hjwt : svc.prims.JwtRoundTrip)
    (hrun : svc.machine.Reaches (jwtsUnforged svc req).Keeps (svc.start w req) d) {i : ℕ} {x : String}
    {ip ua : Option String} (hreq : req i = .refreshTokens x ip ua) {claims : RefreshTokenClaims}
    {row : RefreshToken} {h : Trace} (hfound : RefreshFound svc x claims row h)
    (hsuffix : h <:+ ownHistory i d.log) :
    row.userId = claims.sub ∧ ∃ row' ∈ d.shared.db.refreshTokens, row.Later row' ∧ row'.id = claims.tid := by
  obtain ⟨row', hrow', hid, huser⟩ := row_of_refreshFound hjwt hrun hreq hfound hsuffix
  obtain ⟨tokenString, jwt, now, -, -, rfl⟩ := hfound.decoded
  obtain ⟨s, s', hperform, hle⟩ := performed_of_entry hrun hsuffix
  obtain ⟨hmem, hrowId, -⟩ := selectRefreshToken_row hperform
  obtain ⟨last, hlast, hlater⟩ := hle.db.refreshTokens row hmem
  obtain rfl : last = row' := Table.eq_of_pk hlast hrow' (hlater.id.trans (hrowId.trans hid.symm))
  exact ⟨hlater.userId.symm.trans huser, last, hlast, hlater, hid⟩

/-- A refresh token that was found is one the service has stored, both its halves together. -/
theorem owner_of_refreshFound (hjwt : svc.prims.JwtRoundTrip)
    (hrun : svc.machine.Reaches (jwtsUnforged svc req).Keeps (svc.start w req) d) {i : ℕ} {x : String}
    {ip ua : Option String} (hreq : req i = .refreshTokens x ip ua) (hcollision : NoCollision svc (req i) d.log)
    {claims : RefreshTokenClaims} {row : RefreshToken} {h : Trace} (hfound : RefreshFound svc x claims row h)
    (hsuffix : h <:+ ownHistory i d.log) : Owner svc d.shared.db d.log (.refreshTokens x ip ua) claims.sub := by
  obtain ⟨tokenString, payload, now, hsplit, rfl, hclaims, f, hf, hentry⟩ :=
    signed_of_refreshFound hjwt hrun hreq hfound hsuffix
  obtain ⟨issuedAt, bytes, rfl, ⟨f', hf', hdrawn⟩, g, hg, ip', ua', n, hgentry⟩ :=
    stored_of_signed hrun hf hentry hclaims
  obtain ⟨stored, hstored, hid, -, hhash⟩ := row_of_stored hrun hg hgentry
  obtain ⟨s, s', hperform, hle⟩ := performed_of_entry hrun hsuffix
  obtain ⟨hmem, hrowId, hrowHash⟩ := selectRefreshToken_row hperform
  obtain ⟨last, hlast, hlater⟩ := hle.db.refreshTokens row hmem
  obtain rfl : last = stored := Table.eq_of_pk hlast hstored (hlater.id.trans (hrowId.trans hid.symm))
  rw [varchar_hashToken, Option.some.injEq, hlater.tokenHash, hrowHash] at hhash
  have hsecret : tokenString ∈ (req i).secret? := by
    rw [hreq]
    simp [Request.secret?, hsplit]
  have hbytes : drawn? f'.entry = some bytes := by
    rw [hdrawn]
    rfl
  obtain rfl := hcollision tokenString hsecret f' hf' bytes hbytes hhash.symm
  have hwhole : x = svc.combined claims.sub claims.tid issuedAt bytes := eq_of_rsplitDot hsplit
  rw [hwhole]
  exact .refreshTokens ⟨g, hg, ip', ua', n, hgentry⟩

/-- A one-time token that was found is one the service has stored, for the user of its row. -/
theorem owner_of_tokenFound (hempty : w.db = Db.empty) (hrun : svc.machine.Reaches ok (svc.start w req) d) {i : ℕ}
    (hcollision : NoCollision svc (req i) d.log) {purpose : Purpose} {token : String}
    {tokenId userId : Uuid} {h : Trace} (htoken : (req i).oneTimeToken? = some (purpose, token))
    (hfound : TokenFound svc purpose token tokenId userId h) (hsuffix : h <:+ ownHistory i d.log) :
    Owner svc d.shared.db d.log (req i) userId ∧
      ∃ row ∈ d.shared.db.oneTimeTokens purpose, row.id = tokenId ∧ row.userId = userId := by
  rw [hfound] at hsuffix
  obtain ⟨s, s', hperform, hle⟩ := performed_of_entry hrun hsuffix
  obtain ⟨row, hrow, rfl, rfl, hhash, -⟩ := selectValidToken_row hperform
  obtain ⟨row', hrow', hlater⟩ := hle.db.oneTimeTokens purpose row hrow
  obtain ⟨bytes, hstored⟩ := oneTimeStored_of_run hempty hrun row' hrow'
  obtain ⟨f, hf, hdrawn⟩ := hstored.drawn
  have hsecret : token ∈ (req i).secret? := by
    cases hreq : req i with
    | resetPassword r | verifyEmail t =>
      rw [hreq] at htoken
      obtain ⟨-, rfl⟩ := Prod.mk.inj (Option.some.inj htoken)
      rfl
    | _ => rw [hreq] at htoken; cases htoken
  obtain rfl :=
    hcollision token hsecret f hf bytes hdrawn (hhash.symm.trans (hlater.tokenHash.symm.trans hstored.hash))
  obtain ⟨e, he, expiresAt, n, hentry⟩ := hstored.stored
  rw [hlater.userId] at hentry
  exact ⟨.oneTime htoken ⟨e, he, expiresAt, n, hentry⟩, row', hrow', hlater.id, hlater.userId⟩

/-- The user whose credential a call has accepted owns it. -/
theorem owner_of_accepted (hjwt : svc.prims.JwtRoundTrip) (hempty : w.db = Db.empty)
    (hrun : svc.machine.Reaches (jwtsUnforged svc req).Keeps (svc.start w req) d) {i : ℕ}
    (hcollision : NoCollision svc (req i) d.log) {userId : Uuid} {h : Trace}
    (haccepted : Accepted svc (req i) userId h) (hsuffix : h <:+ ownHistory i d.log) :
    Owner svc d.shared.db d.log (req i) userId := by
  generalize hreq : req i = request at haccepted
  cases haccepted with
  | @login r ip ua user now h' _ hchecked hbelow =>
    rw [hchecked.trace] at hbelow
    obtain ⟨user', huser', hid, hemail⟩ :=
      userByEmail_of_read hrun (List.IsSuffix.trans ⟨[_], rfl⟩ (hbelow.trans hsuffix))
    exact hid ▸ .login huser' hemail
  | forgotPassword hbelow =>
    obtain ⟨user', huser', hid, hemail⟩ := userByEmail_of_read hrun (hbelow.trans hsuffix)
    exact hid ▸ .forgotPassword huser' hemail
  | @refreshTokens x ip ua claims row now h' _ hfound hvalid hbelow =>
    exact owner_of_refreshFound hjwt hrun hreq hcollision hfound
      ((List.suffix_cons _ _).trans (hbelow.trans hsuffix))
  | oneTime htoken hfound hbelow =>
    rw [← hreq] at htoken ⊢
    exact (owner_of_tokenFound hempty hrun hcollision htoken hfound (hbelow.trans hsuffix)).1
  | changePassword => exact .changePassword
  | createEmailVerification => exact .createEmailVerification
  | resendVerification => exact .resendVerification

/-- The user a call is authorized for owns its credential. -/
theorem owner_of_authorized (hjwt : svc.prims.JwtRoundTrip)
    (hrun : svc.machine.Reaches (jwtsUnforged svc req).Keeps (svc.start w req) d) {i : ℕ}
    (hcollision : NoCollision svc (req i) d.log) {user : User} {h : Trace} (hauth : Authorized svc (req i) user h)
    (hsuffix : h <:+ ownHistory i d.log) : Owner svc d.shared.db d.log (req i) user.id := by
  generalize hreq : req i = request at hauth
  cases hauth with
  | @login r ip ua _ now n h hverified =>
    have htrace := hverified.trace
    subst htrace
    obtain ⟨user', huser', hid, hemail⟩ := userByEmail_of_read hrun (List.IsSuffix.trans ⟨[_, _, _], rfl⟩ hsuffix)
    exact hid ▸ .login huser' hemail
  | @refresh x ip ua claims row _ now h hchecked =>
    obtain ⟨checkedAt, h', hfound, -, rfl⟩ := hchecked.steps
    have hread : user.id = claims.sub := id_of_read hrun (hsuffix.subset (by simp))
    rw [hread]
    exact owner_of_refreshFound hjwt hrun hreq hcollision hfound (List.IsSuffix.trans ⟨[_, _, _], rfl⟩ hsuffix)

/-- A statement that concerns a user is executed by a call whose credential the user owns. -/
theorem owner_of_concerns (hjwt : svc.prims.JwtRoundTrip) (hempty : w.db = Db.empty)
    (hrun : svc.machine.Reaches (jwtsUnforged svc req).Keeps (svc.start w req) d) {i : ℕ}
    (hcollision : NoCollision svc (req i) d.log) {s : Statement} (hrests : Rests svc (req i) (ownHistory i d.log) s)
    {userId : Uuid} (hconcerns : s.concerns d.shared.db userId) : Owner svc d.shared.db d.log (req i) userId := by
  have hnamed (id : Uuid) (hsubject : s.subject? = some id) : id = userId := by
    cases s with
    | revokeRefreshToken | markTokenUsed => cases hsubject
    | _ => exact Option.some.inj (hsubject.symm.trans hconcerns)
  cases hrests with
  | subject hsubject haccepted =>
    obtain rfl := hnamed _ hsubject
    exact owner_of_accepted hjwt hempty hrun hcollision haccepted (List.suffix_refl _)
  | issue hsubject hauth hsuffix =>
    obtain rfl := hnamed _ hsubject
    exact owner_of_authorized hjwt hrun hcollision hauth hsuffix
  | @reuse x ip ua claims row h' hrequest hfound hrevoked hsuffix =>
    obtain rfl := hnamed _ rfl
    have howner := owner_of_refreshFound hjwt hrun hrequest hcollision hfound hsuffix
    rwa [← hrequest] at howner
  | @rotate x ip ua claims row now h' hrequest hfound hvalid hsuffix =>
    have hbelow := (List.suffix_cons _ _).trans hsuffix
    obtain ⟨huser, row', hrow', hlater, hid⟩ := subject_of_refreshFound hjwt hrun hrequest hfound hbelow
    obtain ⟨t, ht, htid, rfl⟩ := hconcerns
    obtain rfl : row' = t := Table.eq_of_pk hrow' ht (hid.trans htid.symm)
    have howner := owner_of_refreshFound hjwt hrun hrequest hcollision hfound hbelow
    rw [hlater.userId, huser]
    rwa [← hrequest] at howner
  | redeem htoken hfound hsuffix =>
    obtain ⟨howner, row, hrow, hid, rfl⟩ := owner_of_tokenFound hempty hrun hcollision htoken hfound hsuffix
    obtain ⟨t, ht, htid, rfl⟩ := hconcerns
    obtain rfl : row = t := Table.eq_of_pk hrow ht (hid.trans htid.symm)
    exact howner

/-- Where the calls of others move, JWTs and hashes are honest. -/
theorem othersMove_honest {userId : Uuid} {c c' : System} (h : (othersMove svc req userId).Keeps c c') :
    (honest svc req).Keeps c c' := ⟨fun e he => (h.event e he).1, fun _ => trivial⟩

/-- Honest requests forge no JWT. -/
theorem honest_unforged {c c' : System} (h : (honest svc req).Keeps c c') : (jwtsUnforged svc req).Keeps c c' :=
  ⟨fun e he => (h.event e he).1, fun _ => trivial⟩

/-- A query changes nothing. -/
theorem Statement.run_query {s : Statement} {fresh : Uuid} {now : Instant} {db db' : Db} {v : s.Row}
    (h : s.run fresh now db = .ok (v, db')) (hquery : s.isQuery = true) : db' = db := by
  cases s with
  | selectUserIdByEmail | selectUserByEmail | selectUserById | selectRefreshToken | selectValidToken => cases h; rfl
  | _ => cases hquery

/-- A step of a call whose credential the user does not own keeps the rows of the user. -/
theorem sameFor_of_step (hjwt : svc.prims.JwtRoundTrip) (hempty : w.db = Db.empty) {c c' : System}
    (hrun : svc.machine.Reaches (honest svc req).Keeps (svc.start w req) c) (hstep : svc.machine.Step c c')
    {userId : Uuid} (hkeeps : (othersMove svc req userId).Keeps c c') :
    c.shared.db.SameFor userId c'.shared.db := by
  have hnext : svc.machine.Reaches (honest svc req).Keeps (svc.start w req) c' :=
    hrun.tail ⟨hstep, othersMove_honest hkeeps⟩
  have hunforged : svc.machine.Reaches (jwtsUnforged svc req).Keeps (svc.start w req) c :=
    hrun.mono fun _ _ => honest_unforged
  cases hstep with
  | idle hidle => exact hkeeps.idle rfl
  | @call i a next r s hcall hperform =>
    obtain ⟨⟨-, hcollision⟩, hpresents, hforeign⟩ := hkeeps.event ⟨i, c.shared, a, r⟩ rfl
    have hguard := guard_of_run hnext (List.suffix_refl _)
    cases a with
    | sql statement =>
      rcases AuthService.perform_sql hperform with ⟨e, -, rfl⟩ | ⟨rows, fresh, db, -, hexec, rfl⟩
      · exact Db.SameFor.refl userId _
      · by_cases hquery : statement.isQuery = true
        · rw [Config.advance, Statement.run_query hexec hquery]
          exact Db.SameFor.refl userId _
        · have hrests := rests_of_guard hguard (Bool.eq_false_iff.mpr hquery) hpresents
          have hother : ¬ statement.concerns c.shared.db userId := fun hconcerns =>
            hforeign (owner_of_concerns hjwt hempty hunforged hcollision hrests hconcerns)
          have hregister (email passwordHash name : String) : statement ≠ .insertUser email passwordHash name := by
            intro heq
            subst heq
            obtain ⟨req', _, hreq, -⟩ := hguard
            rw [hreq] at hpresents
            cases hpresents
          exact ⟨fun u => Statement.run_sameUsers hexec hother hregister,
            fun t => Statement.run_sameRefreshTokens hexec hother,
            fun purpose t => Statement.run_sameOneTimeTokens hexec hother purpose⟩
    | _ =>
      rw [Config.advance, AuthService.perform_local hperform (by simp)]
      exact Db.SameFor.refl userId _

end Run

/-- In every run from an empty database with honest tokens: while only calls move that present
credentials of other users, the rows of a user stay as they are; and the row that a refresh finds
belongs to the user its JWT names. -/
theorem cross_user_isolation (svc : AuthService) (hjwt : svc.prims.JwtRoundTrip) (w : World)
    (hempty : w.db = Db.empty) (req : ℕ → Request) (b d : System) (userId : Uuid)
    (hb : svc.machine.Reaches (honest svc req).Keeps (svc.start w req) b)
    (hd : svc.machine.Reaches (othersMove svc req userId).Keeps b d) :
    b.shared.db.SameFor userId d.shared.db ∧
    ∀ e ∈ d.log, ∀ tokenId tokenHash row, e.entry = executed (.selectRefreshToken tokenId tokenHash) (some row) →
      ∃ x ipAddress userAgent claims, req e.caller = .refreshTokens x ipAddress userAgent ∧
      svc.claims? x = some claims ∧
        tokenId = claims.tid ∧ row.userId = claims.sub := by
  have hrun : svc.machine.Reaches (honest svc req).Keeps (svc.start w req) d :=
    hb.trans (hd.mono fun _ _ => othersMove_honest)
  constructor
  · clear hrun
    induction hd with
    | refl => exact Db.SameFor.refl userId _
    | @tail c c' hd hstep ih =>
      have hc : svc.machine.Reaches (honest svc req).Keeps (svc.start w req) c :=
        hb.trans (Reaches.mono (fun _ _ => othersMove_honest) hd)
      exact ih.trans (sameFor_of_step hjwt hempty hc hstep.1 hstep.2)
  · intro e he tokenId tokenHash row hentry
    obtain ⟨older, hsuffix⟩ := exists_suffix_of_mem he
    have hguard := guard_of_run hrun hsuffix
    have hown : ownHistory e.caller (e :: older) <:+ ownHistory e.caller d.log := ownHistory_suffix e.caller hsuffix
    rw [ownHistory_cons, if_pos rfl] at hown
    obtain ⟨i, s, a, r⟩ := e
    cases hentry
    obtain ⟨x, ip, ua, tokenString, jwt, claims, now, hreq, hsplit, hdecode, rfl, rfl, htrace⟩ := hguard
    have hfound : RefreshFound svc x claims row
        [executed (.selectRefreshToken claims.tid (svc.hashToken tokenString)) (some row), did .now now] :=
      ⟨tokenString, jwt, now, hsplit, hdecode, rfl⟩
    have htrace : ownHistory i older = [did .now now] := htrace
    rw [htrace] at hown
    have hunforged : svc.machine.Reaches (jwtsUnforged svc req).Keeps (svc.start w req) d :=
      hrun.mono fun _ _ => honest_unforged
    exact ⟨x, ip, ua, claims, hreq, hfound.claims?_eq, rfl,
      (subject_of_refreshFound hjwt hunforged hreq hfound hown).1⟩

section Runs

open Reference

/-- Two users register, and the first one asks for a verification token. -/
def neighbourRequests : ℕ → Request
  | 0 => .register ⟨"a@b.c", "Abcdefg1", "Abcdefg1", "A"⟩
  | 1 => .register ⟨"b@b.c", "Abcdefg1", "Abcdefg1", "B"⟩
  | _ => .createEmailVerification 1

/-- The state after both have registered. -/
def neighbours : System :=
  service.executor.play (moves 0 3 1 ++ moves 1 3 2) (service.start world neighbourRequests)

/-- A verification token is issued to a user, and the neighbour finds everything as it was. -/
theorem cross_user_isolation_neighbour :
    neighbours.shared.db.SameFor 2 (service.executor.play (moves 2 4 3) neighbours).shared.db := by
  have hhonest (c : System) (e : LogEvent) : (honest service neighbourRequests).event c e := by
    have hnone : (neighbourRequests e.caller).secret? = none ∧
        ∀ x ip ua, neighbourRequests e.caller ≠ .refreshTokens x ip ua := by
      unfold neighbourRequests
      split <;> simp [Request.secret?]
    refine ⟨fun x ip ua tokenString jwt hreq => absurd hreq (hnone.2 x ip ua), fun secret hsecret => ?_⟩
    rw [hnone.1] at hsecret
    cases hsecret
  have hlate : service.executor.Allows (Rule.mk (fun _ e => 2 ≤ e.caller) fun _ _ => False) (fun _ => False)
      (moves 2 4 3) neighbours := by decide +kernel
  have hothers (c d : System) (hkeeps : (Rule.mk (fun _ e => 2 ≤ e.caller) fun _ _ => False).Keeps c d) :
      (othersMove service neighbourRequests 2).Keeps c d := by
    refine ⟨fun e he => ⟨hhonest c e, ?_⟩, fun hlog => (hkeeps.idle hlog).elim⟩
    have hreq : neighbourRequests e.caller = .createEmailVerification 1 := by
      have hcaller := hkeeps.event e he
      unfold neighbourRequests
      split <;> first | rfl | omega
    rw [hreq]
    refine ⟨rfl, fun howner => ?_⟩
    cases howner with
    | oneTime htoken => cases htoken
  have hkeeps (c d : System) (_ : True) : (honest service neighbourRequests).Keeps c d :=
    ⟨fun e _ => hhonest c e, fun _ => trivial⟩
  have hb :=
    Reaches.mono hkeeps
    (service.executor.play_reaches (moves 0 3 1 ++ moves 1 3 2) (service.start world neighbourRequests))
  have hd := Reaches.mono hothers (hlate.reaches fun _ _ h => h.elim)
  exact (cross_user_isolation service jwtRoundTrip world rfl neighbourRequests neighbours _ 2 hb hd).1

end Runs

end RustPressAuth
