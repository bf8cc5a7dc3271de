import RustPressAuth.EmailEnumeration
import RustPressAuth.SessionOutcomes

/-!
# Inputs that fit their columns

Registrations, logins and refreshes store texts of their requests in columns of limited
length: the email and the name of a user, and the address of a client. The name is
checked when the request is validated. The email may be longer than its column, and the
address is what a header says, whatever its length. Where neither happens every text
fits; otherwise the statement that stores it is refused, and the request ends with a
database error.
-/

namespace RustPressAuth

open Atomic Program Machine

/-- The texts of a request that a statement stores in columns of limited length, after these lengths. -/
def Statement.inputs : Statement → List (ℕ × String)
  | .insertUser email _ name => [(255, email), (100, name)]
  | .recordSuccessfulLogin _ ipAddress => ipAddress.toList.map fun ip => (45, ip)
  | .insertRefreshToken _ _ _ _ ipAddress _ => ipAddress.toList.map fun ip => (45, ip)
  | _ => []

/-- No text is longer than its column. -/
def Fit (inputs : List (ℕ × String)) : Prop := ∀ input ∈ inputs, input.2.length ≤ input.1

/-- The texts that the action stores fit their columns. -/
def Action.Fits : Action → Prop
  | .sql s => Fit s.inputs
  | _ => True

/-- The database refuses a text of the statement for its length. -/
def Statement.Refused (s : Statement) : Prop := ∃ input ∈ s.inputs, varchar input.1 input.2 = none

instance (s : Statement) : Decidable s.Refused :=
  inferInstanceAs (Decidable (∃ input ∈ s.inputs, varchar input.1 input.2 = none))

/-- Statements failed only because a text was refused. -/
def OnlyRefused (tr : Trace) : Prop :=
  ∀ (s : Statement) (e : DbError), (⟨.sql s, .error e⟩ : Entry) ∈ tr → s.Refused

/-- The request did not panic. -/
def Finished (res : Except Failure HttpReply) : Prop := ∀ fault, res ≠ .error (.panic fault)

/-- The address that the headers name has no more than 45 characters: the first one of `X-Forwarded-For`, or
else `X-Real-IP`. -/
structure RequestParts.ShortAddress (parts : RequestParts) : Prop where
  forwarded : ∀ text, parts.header "x-forwarded-for" = some text → (firstListed text).length ≤ 45
  direct : parts.header "x-forwarded-for" = none → ∀ text, parts.header "x-real-ip" = some text → text.length ≤ 45

/-- A request that stores some of its texts. -/
inductive StoringRequest where
  | register (req : RegisterRequest)
  | login (parts : RequestParts) (req : LoginRequest)
  | refresh (parts : RequestParts) (refreshToken : String)

namespace StoringRequest

/-- The request as its route gets it. -/
def toHttp : StoringRequest → HttpRequest
  | register req => .register req
  | login parts req => .login (.fromRequestParts parts) req
  | refresh parts refreshToken => .refresh (.fromRequestParts parts) refreshToken

/-- The texts of the request that no check limits fit their columns. -/
def FitsColumns : StoringRequest → Prop
  | register req => req.email.length ≤ 255
  | login parts _ => parts.ShortAddress
  | refresh parts _ => parts.ShortAddress

/-- Between two worlds the request has all it takes to succeed: it is valid, and the email is free, the
credentials are correct or the refresh token is good. -/
def Eligible (http : Http) (svc : AuthService) (w w' : World) : StoringRequest → Prop
  | register req => http.registerErrors req = [] ∧ svc.passwordAccepted req.password = true ∧
      w.db.userByEmail? req.email = none ∧ ∀ salt, svc.argon2 salt req.password ≠ none
  | login _ req => http.loginErrors req = [] ∧ ∃ user, w.db.userByEmail? req.email = some user ∧
      user.isLocked w.now = false ∧ user.status = .active ∧
      svc.comparePassword req.password user.passwordHash = some true ∧
      (svc.config.requireEmailVerification = true → user.isEmailVerified = true)
  | refresh _ refreshToken => Http.refreshErrors refreshToken = [] ∧ ∃ tokenString claims row user,
      svc.Decodes true refreshToken w'.now tokenString claims ∧
      w.db.refreshRow? claims.tid (svc.hashToken tokenString) = some row ∧ row.isValid w'.now = true ∧
      w.db.user? claims.sub = some user ∧ user.canLogin w.now = true

end StoringRequest

/-- The empty list of inputs fits. -/
@[simp] theorem fit_nil : Fit [] := fun _ hinput => absurd hinput List.not_mem_nil

/-- A statement whose inputs fit is not refused for their length. -/
theorem not_refused_of_fit {s : Statement} (h : Fit s.inputs) : ¬s.Refused := by
  intro hrefused
  obtain ⟨input, hmem, hnone⟩ := hrefused
  rw [varchar, if_pos (h input hmem)] at hnone
  cases hnone

/-- The address that is extracted from short headers is short, and conversely. -/
theorem shortAddress_iff {parts : RequestParts} :
    parts.ShortAddress ↔ Fit ((ClientInfo.fromRequestParts parts).ip.toList.map fun ip => (45, ip)) := by
  have hfit (ip : Option String) : Fit (ip.toList.map fun ip => (45, ip)) ↔ ∀ text, ip = some text →
    text.length ≤ 45 := by
    cases ip with
    | none => simp [Fit]
    | some text => simp [Fit]
  rw [hfit, ClientInfo.fromRequestParts]
  cases hforwarded : parts.header "x-forwarded-for" with
  | none =>
    rw [Option.map_none, Option.none_or]
    constructor
    · intro hshort
      exact hshort.direct hforwarded
    · intro hdirect
      refine ⟨fun text htext => ?_, fun _ => hdirect⟩
      rw [hforwarded] at htext
      cases htext
  | some text =>
    rw [Option.map_some, Option.some_or]
    constructor
    · intro hshort first hfirst
      rw [← Option.some.inj hfirst]
      exact hshort.forwarded text hforwarded
    · intro hfirst
      refine ⟨fun text' htext => ?_, fun hnone => ?_⟩
      · rw [hforwarded] at htext
        rw [← Option.some.inj htext]
        exact hfirst _ rfl
      · rw [hforwarded] at hnone
        cases hnone

/-- Every action stores texts that fit. -/
def fitting : Protocol Action Action.Reply HttpReply where
  guard _ a := a.Fits
  result _ _ := True

/-- The name of a valid registration fits its column. -/
theorem name_short_of_valid {http : Http} {req : RegisterRequest} (hvalid : http.registerErrors req = []) :
    req.name.length ≤ 100 := by
  simp only [Http.registerErrors, List.append_eq_nil_iff] at hvalid
  have hlength := hvalid.2
  simp only [checkLength, Option.all_some, Bool.and_eq_true, decide_eq_true_eq, ite_eq_left_iff, List.cons_ne_self,
    imp_false, Decidable.not_not] at hlength
  exact hlength.2

/-- A request with short texts performs only actions that fit, whatever it is answered. -/
theorem createRoutes_fits (http : Http) (svc : AuthService) {request : StoringRequest} (hfits : request.FitsColumns)
    (h : Trace) : (http.createRoutes svc request.toHttp).Obeys fitting h := by
  cases request with
  | register req =>
    simp only [StoringRequest.toHttp, Http.createRoutes, Http.register, obeys_bind, obeys_validate, before_result]
    intro herrors
    have hname := name_short_of_valid herrors
    have hinputs : Fit [(255, req.email), (100, req.name)] := by
      intro input hinput
      rcases List.mem_cons.mp hinput with rfl | hlast
      · exact hfits
      · rw [List.mem_singleton.mp hlast]
        exact hname
    simp [AuthService.register, AuthService.validatePassword, AuthService.hashPassword,
      AuthService.createEmailVerification, AuthService.issueOneTimeToken, fitting, Action.Fits,
      Statement.inputs, hinputs]
  | login parts req =>
    have hinputs := shortAddress_iff.mp hfits
    simp [StoringRequest.toHttp, Http.createRoutes, Http.login, AuthService.login, AuthService.verifyPassword,
      AuthService.incrementFailedAttempts, AuthService.recordSuccessfulLogin, AuthService.generateAccessToken,
      AuthService.generateRefreshToken, fitting, Action.Fits, Statement.inputs, hinputs]
  | refresh parts refreshToken =>
    have hinputs := shortAddress_iff.mp hfits
    simp [StoringRequest.toHttp, Http.createRoutes, Http.refreshToken, AuthService.refreshTokens,
      AuthService.redeem, AuthService.rotate, AuthService.revokeAllTokens, AuthService.generateAccessToken,
      AuthService.generateRefreshToken, fitting, Action.Fits, Statement.inputs, hinputs]

/-- An account that is not locked stays so while time passes. -/
theorem unlocked_later {user : User} {now later : Instant} (h : user.isLocked now = false) (hlater : now ≤ later) :
    user.isLocked later = false := by
  unfold User.isLocked at h ⊢
  cases hlock : user.lockedUntil with
  | none => rfl
  | some lockedUntil =>
    simp only [hlock, gt_iff_lt, decide_eq_false_iff_not, Int.not_lt] at h ⊢
    exact Int.le_trans h hlater

/-- A user who can log in can do so later. -/
theorem canLogin_later {user : User} {now later : Instant} (h : user.canLogin now = true) (hlater : now ≤ later) :
    user.canLogin later = true := by
  simp only [User.canLogin, Bool.and_eq_true, Bool.not_eq_true'] at h ⊢
  exact ⟨h.1, unlocked_later h.2 hlater⟩

/-- A refresh JWT that is accepted was accepted with the same claims before. -/
theorem decodeRefresh_earlier {svc : AuthService} {validateSignature : Bool} {earlier now : Instant} {jwt : String}
    {claims : RefreshTokenClaims} (h : svc.decodeRefresh validateSignature now jwt = some claims)
    (hearlier : earlier ≤ now) :
    svc.decodeRefresh validateSignature earlier jwt = some claims := by
  have hseconds : timestamp earlier ≤ timestamp now := Int.ediv_le_ediv (by decide) hearlier
  have hexpiry (v : Validation) (payload : Payload) (hlater : v.expiryOk (timestamp now) payload = true) :
      v.expiryOk (timestamp earlier) payload = true := by
    unfold Validation.expiryOk at hlater ⊢
    split at hlater
    · rename_i exp _
      simp only [Bool.and_eq_true, decide_eq_true_eq, Bool.not_eq_true', decide_eq_false_iff_not] at hlater ⊢
      exact ⟨hlater.1, by omega⟩
    · cases hlater
  obtain ⟨payload, hdecoded, hread⟩ := Option.bind_eq_some_iff.mp h
  refine Option.bind_eq_some_iff.mpr ⟨payload, ?_, hread⟩
  simp only [Primitives.jwtDecode, Option.bind_eq_bind, Option.bind_eq_some_iff, Option.ite_none_left_eq_some,
    Option.ite_none_right_eq_some, Bool.and_eq_true] at hdecoded ⊢
  obtain ⟨parts, hparts, hsigned, ⟨⟨hlater, hissuer⟩, haudience⟩, heq⟩ := hdecoded
  exact ⟨parts, hparts, hsigned, ⟨⟨hexpiry _ _ hlater, hissuer⟩, haudience⟩, heq⟩

/-- A run stores these texts, and succeeds if they fit. -/
structure Stores {β : Type} (inputs : List (ℕ × String)) (tr : Trace) (res : Except Failure β) : Prop where
  bound : ∃ (s : Statement) (r : (Action.sql s).Reply), (⟨.sql s, r⟩ : Entry) ∈ tr ∧ s.inputs = inputs
  succeeds : Fit inputs → ∃ v, res = .ok v

section Alone

variable {svc : AuthService} {α β : Type} {w w' : World} {tr front : Trace} {x : Entry} {res : Except Failure β}
  {inputs : List (ℕ × String)}

/-- What a call stores does not depend on what it did before. -/
theorem Stores.cons (h : Stores inputs tr res) : Stores inputs (x :: tr) res where
  bound := by
    obtain ⟨s, r, hmem, hinputs⟩ := h.bound
    exact ⟨s, r, List.mem_cons_of_mem _ hmem, hinputs⟩
  succeeds := h.succeeds

/-- What a call stores does not depend on what it has done before. -/
theorem Stores.append (h : Stores inputs tr res) : Stores inputs (front ++ tr) res where
  bound := by
    obtain ⟨s, r, hmem, hinputs⟩ := h.bound
    exact ⟨s, r, List.mem_append_right _ hmem, hinputs⟩
  succeeds := h.succeeds

/-- Failures that are only refusals are only refusals in what follows the first entry. -/
theorem OnlyRefused.tail (h : OnlyRefused (x :: tr)) : OnlyRefused tr :=
  fun s e hmem => h s e (List.mem_cons_of_mem _ hmem)

/-- Failures that are only refusals are only refusals in the end of the trace. -/
theorem OnlyRefused.of_append (h : OnlyRefused (front ++ tr)) : OnlyRefused tr :=
  fun s e hmem => h s e (List.mem_append_right _ hmem)

/-- A statement that ran is no failure. -/
theorem OnlyRefused.executed {s : Statement} {rows : s.Row} (h : OnlyRefused tr) :
    OnlyRefused (executed s rows :: tr) := by
  intro s' e hmem
  rcases List.mem_cons.mp hmem with hfirst | hrest
  · cases hfirst
  · exact h s' e hrest

/-- A local action is no failure. -/
theorem OnlyRefused.did {a : Action} {r : a.Reply} (hlocal : ∀ s, a ≠ .sql s) (h : OnlyRefused tr) :
    OnlyRefused (did a r :: tr) := by
  intro s e hmem
  rcases List.mem_cons.mp hmem with hfirst | hrest
  · cases hfirst
    exact absurd rfl (hlocal s)
  · exact h s e hrest

/-- A refused statement is only refused. -/
theorem Statement.Refused.only {s : Statement} {e : DbError} (h : s.Refused) :
    OnlyRefused [⟨.sql s, .error e⟩] := by
  intro s' e' hmem
  cases List.mem_singleton.mp hmem
  exact h

/-- A statement whose texts are not refused does not fail. -/
theorem alone_proceeds {s : Statement} {f : s.Row → AuthM β} (h : (svc.alone true).Exec (query s >>= f) w tr res w')
    (honly : OnlyRefused tr) (hfit : Fit s.inputs) :
    ∃ (t : ℕ) (fresh : Uuid) (rows : s.Row) (db : Db) (tr' : Trace), w.clock ≤ t ∧
      s.run fresh t w.db = .ok (rows, db) ∧ tr = executed s rows :: tr' ∧
      (svc.alone true).Exec (f rows) ⟨db, t⟩ tr' res w' := by
  rcases alone_query h with ⟨-, e, rfl, -⟩ | hgoes
  · exact absurd (honly s e (List.mem_singleton_self _)) (not_refused_of_fit hfit)
  · exact hgoes

/-- A statement stores its texts, whether or not it fails. -/
theorem stores_query {s : Statement} {f : s.Row → AuthM β} (h : (svc.alone true).Exec (query s >>= f) w tr res w')
    (honly : OnlyRefused tr)
    (hrest : Fit s.inputs → ∀ (t : ℕ) (fresh : Uuid) (rows : s.Row) (db : Db) (tr' : Trace), w.clock ≤ t →
      s.run fresh t w.db = .ok (rows, db) → OnlyRefused tr' → (svc.alone true).Exec (f rows) ⟨db, t⟩ tr' res w' →
      ∃ v, res = .ok v) : Stores s.inputs tr res where
  bound := by
    rcases alone_query h with ⟨-, e, rfl, -⟩ | ⟨t, fresh, rows, db, tr', -, -, rfl, -⟩
    · exact ⟨s, .error e, List.mem_singleton_self _, rfl⟩
    · exact ⟨s, .ok rows, List.mem_cons_self, rfl⟩
  succeeds hfit := by
    obtain ⟨t, fresh, rows, db, tr', ht, hrun, rfl, hgoes⟩ := alone_proceeds h honly hfit
    exact hrest hfit t fresh rows db tr' ht hrun honly.tail hgoes

/-- A call that has finished has not panicked. -/
theorem Finished.not_panicked {n : Int64} {res : Except Failure HttpReply} (h : Finished res)
    (hpanicked : Panicked n w tr res w') : False := by
  obtain ⟨fault, hfault⟩ := hpanicked.fault
  exact h fault hfault

/-- The refresh token is stored with the address of the client. -/
theorem stores_refreshToken {userId : Uuid} {ipAddress userAgent : Option String} {f : String → AuthM HttpReply}
    {res : Except Failure HttpReply}
    (h : (svc.alone true).Exec (svc.generateRefreshToken userId ipAddress userAgent >>= f) w tr res w')
    (honly : OnlyRefused tr) (hfinished : Finished res)
    (hrest : ∀ (v : World) (refreshToken : String) (tr' : Trace), OnlyRefused tr' →
      (svc.alone true).Exec (f refreshToken) v tr' res w' → ∃ v, res = .ok v) :
    Stores (ipAddress.toList.map fun ip => (45, ip)) tr res := by
  simp only [AuthService.generateRefreshToken, bind_assoc] at h
  obtain ⟨t₁, tokenId, tr₁, -, rfl, hdate⟩ := alone_uuid h
  rcases alone_expiry hdate with hpanicked | ⟨issuedAt, tr₂, -, -, rfl, hdraw⟩
  · exact (hfinished.not_panicked hpanicked).elim
  obtain ⟨t₃, bytes, tr₃, -, rfl, hstore⟩ := alone_bytes hdraw
  refine (stores_query hstore honly.tail.tail.tail ?_).cons.cons.cons
  intro _ t fresh n db tr₄ _ _ honly' hsign
  obtain ⟨t₅, tr₅, -, rfl, hgoes⟩ := alone_sign hsign
  exact hrest _ _ tr₅ honly'.tail hgoes

/-- A registration of a free email stores the email and the name. -/
theorem register_stores {http : Http} {req : RegisterRequest} {res : Except Failure HttpReply}
    (h : (svc.alone true).Exec (http.createRoutes svc (.register req)) w tr res w') (honly : OnlyRefused tr)
    (hfinished : Finished res) (hvalid : http.registerErrors req = [])
    (haccepted : svc.passwordAccepted req.password = true) (hfree : w.db.userByEmail? req.email = none)
    (hhashes : ∀ salt, svc.argon2 salt req.password ≠ none) :
    Stores [(255, req.email), (100, req.name)] tr res := by
  simp only [Http.createRoutes, Http.register, Http.validate, hvalid, AuthService.register,
    AuthService.validatePassword, haccepted, AuthService.createEmailVerification,
    AuthService.issueOneTimeToken, bind_assoc] at h
  rcases alone_check h with ⟨hinvalid, -⟩ | ⟨-, hpassword⟩
  · cases hinvalid
  rcases alone_check hpassword with ⟨hweak, -⟩ | ⟨-, hfind⟩
  · cases hweak
  simp only [selectUserIdByEmail, insertUser] at hfind
  obtain ⟨t, fresh, found, db, tr₁, -, hrun, rfl, hfound⟩ := alone_proceeds hfind honly fit_nil
  obtain ⟨rfl, rfl⟩ := Prod.mk.inj (Except.ok.inj hrun)
  rcases alone_check hfound with ⟨htaken, -⟩ | ⟨-, hhash⟩
  · rw [hfree] at htaken
    cases htaken
  rcases alone_hashPassword hhash with ⟨salt, hnone, -⟩ | ⟨t₁, salt, passwordHash, tr₂, -, -, rfl, hinsert⟩
  · exact absurd hnone (hhashes salt)
  refine (stores_query hinsert honly.tail.tail ?_).cons.cons
  intro _ t₂ fresh₂ user db₂ tr₃ _ _ honly₃ hdraw
  obtain ⟨t₄, bytes, tr₄, -, rfl, hdate⟩ := alone_bytes hdraw
  rcases alone_expiry hdate with hpanicked | ⟨issuedAt, tr₅, -, -, rfl, hsupersede⟩
  · exact (hfinished.not_panicked hpanicked).elim
  obtain ⟨t₆, fresh₆, n₆, db₆, tr₆, -, -, rfl, hissue⟩ := alone_proceeds hsupersede honly₃.tail.tail fit_nil
  obtain ⟨t₇, fresh₇, n₇, db₇, tr₇, -, -, rfl, hend⟩ := alone_proceeds hissue honly₃.tail.tail.tail fit_nil
  exact ⟨_, (alone_ok hend).1⟩

/-- A login with correct credentials stores the address of the client. -/
theorem login_stores {http : Http} {client : ClientInfo} {req : LoginRequest} {user : User}
    {res : Except Failure HttpReply}
    (h : (svc.alone true).Exec (http.createRoutes svc (.login client req)) w tr res w') (honly : OnlyRefused tr)
    (hfinished : Finished res) (hvalid : http.loginErrors req = [])
    (huser : w.db.userByEmail? req.email = some user) (hunlocked : user.isLocked w.now = false)
    (hactive : user.status = .active) (hmatch : svc.comparePassword req.password user.passwordHash = some true)
    (hverified : svc.config.requireEmailVerification = true → user.isEmailVerified = true) :
    Stores (client.ip.toList.map fun ip => (45, ip)) tr res := by
  simp only [Http.createRoutes, Http.login, Http.validate, hvalid, AuthService.login, AuthService.verifyPassword,
    AuthService.recordSuccessfulLogin, bind_assoc] at h
  rcases alone_check h with ⟨hinvalid, -⟩ | ⟨-, hfind⟩
  · cases hinvalid
  simp only [selectUserByEmail] at hfind
  obtain ⟨t, fresh, found, db, tr₁, ht, hrun, rfl, hfound⟩ := alone_proceeds hfind honly fit_nil
  obtain ⟨rfl, rfl⟩ := Prod.mk.inj (Except.ok.inj hrun)
  rcases alone_okOr hfound with ⟨hnone, -⟩ | ⟨user', huser', hnow⟩
  · rw [huser] at hnone
    cases hnone
  obtain rfl : user = user' := Option.some.inj (huser.symm.trans huser')
  obtain ⟨t₁, tr₂, ht₁, rfl, hlock⟩ := alone_now hnow
  have hstill := unlocked_later hunlocked (Int.ofNat_le.mpr (Nat.le_trans ht ht₁))
  rcases alone_check hlock with ⟨hlocked, -⟩ | ⟨-, hstatus⟩
  · rw [hstill] at hlocked
    cases hlocked
  rcases alone_check hstatus with ⟨hinactive, -⟩ | ⟨-, hverify⟩
  · simp [hactive] at hinactive
  obtain ⟨t₂, tr₃, -, rfl, hcompared⟩ := alone_verify hverify
  rcases alone_okOr hcompared with ⟨hnone, -⟩ | ⟨verified, hsome, hcount⟩
  · rw [hmatch] at hnone
    cases hnone
  obtain rfl : true = verified := Option.some.inj (hmatch.symm.trans hsome)
  rcases alone_check hcount with ⟨hunverified, -⟩ | ⟨-, hrecord⟩
  · cases hemail : user.isEmailVerified with
    | true => simp [hemail] at hunverified
    | false =>
      rw [Bool.and_eq_true] at hunverified
      rw [hverified hunverified.1] at hemail
      cases hemail
  refine (stores_query hrecord honly.tail.tail.tail ?_).cons.cons.cons
  intro hfit t₃ fresh₃ n db₃ tr₄ _ _ honly₄ haccess
  rcases alone_signsAccess haccess with hpanicked | ⟨t₄, accessToken, front, tr₅, -, rfl, -, hrefresh⟩
  · exact (hfinished.not_panicked hpanicked).elim
  refine (stores_refreshToken hrefresh honly₄.of_append hfinished ?_).succeeds hfit
  intro v refreshToken tr₆ _ hend
  exact ⟨_, (alone_ok hend).1⟩

/-- A rotation for a user who can log in stores the address of the client. -/
theorem rotate_stores {claims : RefreshTokenClaims} {user : User} {ipAddress userAgent : Option String}
    {f : TokenResponse → AuthM HttpReply} {res : Except Failure HttpReply}
    (h : (svc.alone true).Exec (svc.rotate claims ipAddress userAgent >>= f) w tr res w')
    (honly : OnlyRefused tr) (hfinished : Finished res) (huser : w.db.user? claims.sub = some user)
    (hlogin : user.canLogin w.now = true)
    (hrest : ∀ (v : World) (response : TokenResponse) (tr' : Trace), (svc.alone true).Exec
      (f response) v tr' res w' →
      ∃ v, res = .ok v) : Stores (ipAddress.toList.map fun ip => (45, ip)) tr res := by
  simp only [AuthService.rotate, bind_assoc] at h
  simp only [selectUserById] at h
  obtain ⟨t, fresh, found, db, tr₁, ht, hrun, rfl, howner⟩ := alone_proceeds h honly fit_nil
  obtain ⟨rfl, rfl⟩ := Prod.mk.inj (Except.ok.inj hrun)
  rcases alone_okOr howner with ⟨hnone, -⟩ | ⟨user', huser', hbar⟩
  · rw [huser] at hnone
    cases hnone
  obtain rfl : user = user' := Option.some.inj (huser.symm.trans huser')
  obtain ⟨t₁, tr₂, ht₁, rfl, hcan⟩ := alone_now hbar
  have hstill := canLogin_later hlogin (Int.ofNat_le.mpr (Nat.le_trans ht ht₁))
  rcases alone_check hcan with ⟨hbarred, -⟩ | ⟨-, haccess⟩
  · rw [hstill] at hbarred
    cases hbarred
  rcases alone_signsAccess haccess with hpanicked | ⟨t₂, accessToken, front, tr₃, -, rfl, -, hrefresh⟩
  · exact (hfinished.not_panicked hpanicked).elim
  refine (stores_refreshToken hrefresh honly.tail.tail.of_append hfinished ?_).append.cons.cons
  intro v successor tr₄ honly₄ hrevoke
  obtain ⟨t₅, fresh₅, n, db₅, tr₅, -, -, rfl, hend⟩ := alone_proceeds hrevoke honly₄ fit_nil
  exact hrest _ _ tr₅ hend

/-- A refresh with a good token stores the address of the client. -/
theorem refresh_stores {http : Http} {client : ClientInfo} {refreshToken tokenString : String}
    {claims : RefreshTokenClaims} {row : RefreshToken} {user : User} {res : Except Failure HttpReply}
    (h : (svc.alone true).Exec (http.createRoutes svc (.refresh client refreshToken)) w tr res w')
    (honly : OnlyRefused tr) (hfinished : Finished res) (hvalid : Http.refreshErrors refreshToken = [])
    (hdecodes : svc.Decodes true refreshToken w'.now tokenString claims)
    (hrow : w.db.refreshRow? claims.tid (svc.hashToken tokenString) = some row) (hlive : row.isValid w'.now = true)
    (huser : w.db.user? claims.sub = some user) (hlogin : user.canLogin w.now = true) :
    Stores (client.ip.toList.map fun ip => (45, ip)) tr res := by
  obtain ⟨jwt, hcut, hclaims⟩ := hdecodes
  simp only [Http.createRoutes, Http.refreshToken, Http.validate, hvalid, AuthService.refreshTokens,
    AuthService.redeem, bind_assoc] at h
  rcases alone_check h with ⟨hinvalid, -⟩ | ⟨-, hsplit⟩
  · cases hinvalid
  rcases alone_splitToken hsplit with ⟨hother, -⟩ | ⟨tokenString', jwt', hcut', hnow⟩
  · exact absurd hcut (hother tokenString jwt)
  obtain ⟨rfl, rfl⟩ : tokenString = tokenString' ∧ jwt = jwt' := by simpa using hcut.symm.trans hcut'
  obtain ⟨t, tr₁, ht, rfl, hdecode⟩ := alone_now hnow
  have hearlier := decodeRefresh_earlier hclaims (Int.ofNat_le.mpr (alone_precedes hdecode).clock)
  rcases alone_okOr hdecode with ⟨hnone, -⟩ | ⟨claims', hclaims', hredeem⟩
  · rw [hearlier] at hnone
    cases hnone
  obtain rfl : claims = claims' := Option.some.inj (hearlier.symm.trans hclaims')
  simp only [selectRefreshToken] at hredeem
  obtain ⟨t₁, fresh₁, found, db₁, tr₂, ht₁, hrun₁, rfl, hfound⟩ := alone_proceeds hredeem honly.tail fit_nil
  obtain ⟨rfl, rfl⟩ := Prod.mk.inj (Except.ok.inj hrun₁)
  rcases alone_okOr hfound with ⟨hnone, -⟩ | ⟨row', hrow', hcheck⟩
  · rw [Db.refreshRow?] at hrow
    rw [hrow] at hnone
    cases hnone
  obtain rfl : row = row' := Option.some.inj (hrow.symm.trans hrow')
  obtain ⟨t₂, tr₃, ht₂, rfl, hrotate⟩ := alone_now hcheck
  have hgood : row.isValid t₂ = true := by
    have hend : (t₂ : ℤ) ≤ w'.now := Int.ofNat_le.mpr (alone_precedes hrotate).clock
    rw [RefreshToken.isValid_iff] at hlive ⊢
    exact ⟨Int.le_trans hend hlive.1, hlive.2⟩
  simp only [hgood, if_true] at hrotate
  have hlater := canLogin_later hlogin (Int.ofNat_le.mpr (Nat.le_trans ht (Nat.le_trans ht₁ ht₂)))
  refine (rotate_stores hrotate honly.tail.tail.tail hfinished huser hlater ?_).cons.cons.cons
  intro v response tr₄ hend
  exact ⟨_, (alone_ok hend).1⟩

/-- A registration of a free email that is too long can end with a database error. -/
theorem register_refused {http : Http} {req : RegisterRequest} {salt hash : String}
    (hvalid : http.registerErrors req = []) (haccepted : svc.passwordAccepted req.password = true)
    (hfree : w.db.userByEmail? req.email = none) (hhash : svc.argon2 salt req.password = some hash)
    (hemail : '\x00' ∉ req.email.toList)
    (hinserts : (Statement.insertUser req.email hash req.name).refusal? = none)
    (hlong : varchar 255 req.email = none) :
    ∃ tr, (svc.alone true).Exec (http.createRoutes svc (.register req)) w tr
      (.error (.err (.database (databaseError "value too long for type character varying(255)")))) w ∧
      OnlyRefused tr := by
  have hselects : (Statement.selectUserIdByEmail req.email).refusal? = none := by
    simp [Statement.refusal?, Statement.bound, Parameter.refusal?_text.mpr hemail]
  have hselect : (Statement.selectUserIdByEmail req.email).run 0 w.now w.db = .ok ((none : Option Uuid), w.db) := by
    simp [Statement.run, hfree]
  have hinsert : (Statement.insertUser req.email hash req.name).run 0 w.now w.db =
      .error (databaseError "value too long for type character varying(255)") := by
    simp only [Statement.run, hlong, orError]
    rfl
  refine ⟨[executed (.selectUserIdByEmail req.email) none, did .salt salt,
    ⟨.sql (.insertUser req.email hash req.name),
      .error (databaseError "value too long for type character varying(255)")⟩], ?_, ?_⟩
  · unfold AuthService.argon2 at hhash
    split at hhash
    · rename_i hparams
      simp only [Http.createRoutes, Http.register, Http.validate, hvalid, AuthService.register,
        AuthService.validatePassword, haccepted, AuthService.hashPassword, hparams, Program.bind_assoc]
      exact alone_check_of
        rfl (alone_check_of rfl (alone_query_of hselects hselect (alone_check_of rfl (alone_salt_of
        (alone_check_of rfl (alone_okOr_of hhash (alone_query_error hinserts hinsert)))))))
    · cases hhash
  · have hrefused : (Statement.insertUser req.email hash req.name).Refused := ⟨_, List.mem_cons_self, hlong⟩
    exact (hrefused.only.did (by simp)).executed

/-- A login with correct credentials can end with a database error, if the address of the client is too long. -/
theorem login_refused {http : Http} {client : ClientInfo} {req : LoginRequest} {user : User} {address : String}
    (hvalid : http.loginErrors req = []) (huser : w.db.userByEmail? req.email = some user)
    (hunlocked : user.isLocked w.now = false) (hactive : user.status = .active)
    (hmatch : svc.comparePassword req.password user.passwordHash = some true)
    (hverified : svc.config.requireEmailVerification = true → user.isEmailVerified = true)
    (haddress : client.ip = some address) (hemail : '\x00' ∉ req.email.toList)
    (hrecords : (Statement.recordSuccessfulLogin user.id client.ip).refusal? = none)
    (hlong : varchar 45 address = none) :
    ∃ tr, (svc.alone true).Exec (http.createRoutes svc (.login client req)) w tr
      (.error (.err (.database (databaseError "value too long for type character varying(45)")))) w ∧
      OnlyRefused tr := by
  have hselect : (Statement.selectUserByEmail req.email).run 0 w.now w.db = .ok (some user, w.db) := by
    simp [Statement.run, huser]
  have hrecord : (Statement.recordSuccessfulLogin user.id client.ip).run 0 w.now w.db =
      .error (databaseError "value too long for type character varying(45)") := by
    have hfound := Db.user?_of_mem (Relational.Table.find?_some huser).1
    simp [Statement.run, hfound, haddress, varchar?, hlong]
  have hchecked : (svc.config.requireEmailVerification && !user.isEmailVerified) = false := by
    cases hrequired : svc.config.requireEmailVerification with
    | false => rfl
    | true => simp [hverified hrequired]
  have hstatus : (user.status != .active) = false := by simp [hactive]
  refine ⟨[executed (.selectUserByEmail req.email) (some user), did .now w.now,
    did (.verifyPassword req.password user.passwordHash) (svc.comparePassword req.password user.passwordHash),
    ⟨.sql (.recordSuccessfulLogin user.id client.ip),
      .error (databaseError "value too long for type character varying(45)")⟩], ?_, ?_⟩
  · simp only [Http.createRoutes, Http.login, Http.validate, hvalid, AuthService.login, AuthService.verifyPassword,
      AuthService.recordSuccessfulLogin, Program.bind_assoc]
    exact alone_check_of rfl (alone_query_of (refusal?_selectUserByEmail.mpr hemail) hselect
      (alone_okOr_of rfl (alone_now_of (alone_check_of hunlocked
      (alone_check_of hstatus (alone_verify_of (alone_okOr_of hmatch (alone_check_of rfl (alone_check_of hchecked
        (alone_query_error hrecords hrecord))))))))))
  · have hrefused : (Statement.recordSuccessfulLogin user.id client.ip).Refused :=
      ⟨(45, address), by simp [Statement.inputs, haddress], hlong⟩
    exact ((hrefused.only.did (by simp)).did (by simp)).executed

/-- A request that has all it takes to succeed stores its texts, which fit if they are short. -/
theorem StoringRequest.exists_stores {http : Http} {request : StoringRequest} {res : Except Failure HttpReply}
    (h : (svc.alone true).Exec (http.createRoutes svc request.toHttp) w tr res w')
    (heligible : request.Eligible http svc w w') (honly : OnlyRefused tr) (hfinished : Finished res) :
    ∃ inputs, Stores inputs tr res ∧ (Fit inputs ↔ request.FitsColumns) := by
  cases request with
  | register req =>
    obtain ⟨hvalid, haccepted, hfree, hhashes⟩ := heligible
    refine ⟨_, register_stores h honly hfinished hvalid haccepted hfree hhashes, ?_⟩
    have hname := name_short_of_valid hvalid
    simp [Fit, StoringRequest.FitsColumns, hname]
  | login parts req =>
    obtain ⟨hvalid, user, huser, hunlocked, hactive, hmatch, hverified⟩ := heligible
    exact ⟨_, login_stores h honly hfinished hvalid huser hunlocked hactive hmatch hverified, shortAddress_iff.symm⟩
  | refresh parts refreshToken =>
    obtain ⟨hvalid, tokenString, claims, row, user, hdecodes, hrow, hlive, huser, hlogin⟩ := heligible
    exact ⟨_, refresh_stores h honly hfinished hvalid hdecodes hrow hlive huser hlogin, shortAddress_iff.symm⟩

end Alone

/-- A request whose texts are short stores only texts that fit, in every run of requests and whatever fails.
One that has all it takes to succeed, where nothing fails but what the database refuses for its length and no
expiry is out of range, stores only texts that fit and succeeds exactly if its texts are short. -/
theorem storable_iff (http : Http) (svc : AuthService) (request : StoringRequest) :
    (request.FitsColumns → ∀ (w : World) (req : ℕ → HttpRequest) (d : HttpSystem),
      svc.machine.Reaches (fun _ _ => True) (http.start svc w req) d →
      ∀ e ∈ d.log, req e.caller = request.toHttp → e.action.Fits) ∧
    ∀ (w w' : World) (tr : Trace) (res : Except Failure HttpReply),
      (svc.alone true).Exec (http.createRoutes svc request.toHttp) w tr res w' → request.Eligible http svc w w' →
      OnlyRefused tr → Finished res → ((∀ x ∈ tr, x.1.Fits) ∧ (∃ reply, res = .ok reply) ↔
        request.FitsColumns) := by
  constructor
  · intro hfits w req d hrun e he hrequest
    have hobeys : ((http.start svc w req).calls e.caller).Obeys fitting [] := by
      simp only [Http.start, Config.start, hrequest]
      exact createRoutes_fits http svc hfits []
    obtain ⟨past, hguard⟩ := hrun.guard_of_mem rfl he hobeys
    exact hguard
  · intro w w' tr res h heligible honly hfinished
    obtain ⟨inputs, hstores, hinputs⟩ := request.exists_stores h heligible honly hfinished
    constructor
    · intro hfitting
      obtain ⟨s, r, hmem, hbound⟩ := hstores.bound
      have hfit : Fit s.inputs := hfitting.1 _ hmem
      rw [hbound] at hfit
      exact hinputs.mp hfit
    · intro hfits
      refine ⟨fun x hx => ?_, hstores.succeeds (hinputs.mpr hfits)⟩
      obtain ⟨past, hguard⟩ := h.guard_of_mem (createRoutes_fits http svc hfits []) hx
      exact hguard

section Runs

open Reference

/-- A statement failed although none of its texts was refused. -/
def failsOtherwise : Entry → Bool
  | ⟨.sql s, .error _⟩ => !decide s.Refused
  | _ => false

/-- The test finds the traces whose failures are only refusals. -/
theorem onlyRefused_of_all {tr : Trace} (h : (tr.all fun x => !failsOtherwise x) = true) : OnlyRefused tr := by
  intro s e hmem
  have hentry := List.all_eq_true.mp h _ hmem
  simpa [failsOtherwise] using hentry

/-- A result that is no panic. -/
def finishes : Except Failure HttpReply → Bool
  | .error (.panic _) => false
  | _ => true

/-- The test finds the calls that have finished. -/
theorem finished_of_finishes {res : Except Failure HttpReply} (h : finishes res = true) : Finished res := by
  rintro fault rfl
  cases h

/-- A computed run in which nothing fails but what is refused. -/
theorem exists_exec_onlyRefused (request : StoringRequest) (w : World) (choices : List Choice)
    (test : Except Failure HttpReply → Bool)
    (h :
      ((service.executor.solo (AuthService.admits true) choices
        (verifyingHttp.createRoutes service request.toHttp) w).any
      fun out => (out.1.all fun x => !failsOtherwise x) && test out.2.1) = true) :
    ∃ tr res w', (service.alone true).Exec (verifyingHttp.createRoutes service request.toHttp) w tr res w' ∧
      OnlyRefused tr ∧ test res = true := by
  obtain ⟨⟨tr, res, w'⟩, hsolo, hpasses⟩ := (Option.any_eq_true _ _).mp h
  obtain ⟨honly, htest⟩ := (Bool.and_eq_true _ _).mp hpasses
  exact ⟨tr, res, w', service.executor.solo_exec service.alone_perform hsolo, onlyRefused_of_all honly, htest⟩

/-- In a world without users a valid registration with an accepted password has all it takes. -/
theorem eligible_registration {req : RegisterRequest} {w' : World} (hvalid : verifyingHttp.registerErrors req = [])
    (haccepted : service.passwordAccepted req.password = true) :
    (StoringRequest.register req).Eligible verifyingHttp service world w' := by
  refine ⟨hvalid, haccepted, rfl, fun salt hnone => ?_⟩
  have hhashed : service.argon2 salt req.password = some (argon2Hash salt req.password) := rfl
  rw [hhashed] at hnone
  cases hnone

/-- A registration with short texts. -/
def shortRegistration : StoringRequest := .register ⟨"a@b.c", "Abcdefg1", "Abcdefg1", "A"⟩

/-- A short registration succeeds, and binds only texts that fit. -/
theorem storable_iff_registration :
    (∃ tr reply w', (service.alone true).Exec (verifyingHttp.createRoutes service shortRegistration.toHttp) world tr
      (.ok reply) w' ∧ OnlyRefused tr) ∧
    ∃ e ∈ (service.executor.play (moves 0 7 1) (verifyingHttp.start service world registrations)).log,
    e.action.Fits := by
  have hshort : shortRegistration.FitsColumns := (by decide : "a@b.c".length ≤ 255)
  constructor
  · obtain ⟨tr, res, w', hrun, honly, hfinishes⟩ :=
      exists_exec_onlyRefused shortRegistration world (List.replicate 7 (choice 1)) finishes (by decide +kernel)
    have heligible : shortRegistration.Eligible verifyingHttp service world w' :=
      eligible_registration (by decide +kernel) (by decide +kernel)
    obtain ⟨-, reply, rfl⟩ :=
      ((storable_iff verifyingHttp service shortRegistration).2 world w' tr res hrun heligible honly
        (finished_of_finishes hfinishes)).mpr hshort
    exact ⟨tr, reply, w', hrun, honly⟩
  · have hlogged :
      (service.executor.play (moves 0 7 1) (verifyingHttp.start service world registrations)).log ≠ [] := by
      decide +kernel
    obtain ⟨e, he⟩ := List.exists_mem_of_ne_nil _ hlogged
    have hrun := service.executor.play_reaches (moves 0 7 1) (verifyingHttp.start service world registrations)
    exact ⟨e, he,
      (storable_iff verifyingHttp service shortRegistration).1 hshort world registrations _ hrun e he rfl⟩

/-- The characters of a valid email: sixty-four before the at sign, and four labels after it, 259 in all. -/
def longChars : List Char :=
  List.replicate 64 'b' ++ '@' :: (List.replicate 63 'c' ++ '.' :: (List.replicate 63 'c' ++ '.' ::
    (List.replicate 63 'c' ++ ['.', 'd', 'e'])))

/-- A registration with this email. -/
def longRegistration : RegisterRequest := ⟨String.ofList longChars, "Abcdefg1", "Abcdefg1", "A"⟩

/-- The headers of a proxy that names the client with its port, in 47 characters. -/
def longHeaders : RequestParts where
  headers := [("x-forwarded-for", "[2001:0db8:0000:0000:0000:ff00:0042:8329]:51234, 10.0.0.1")]

/-- The registration is valid but for the length of its email. -/
theorem longRegistration_valid : verifyingHttp.registerErrors longRegistration = [] := by
  have hchars : '@' ∈ longChars ∧ ' ' ∉ longChars := by decide +kernel
  have hemail : verifyingHttp.validEmail longRegistration.email = true := by
    have haccepts : ∀ email : String, '@' ∈ email.toList ∧ ' ' ∉ email.toList →
      verifyingHttp.validEmail email = true :=
      fun _ => decide_eq_true
    apply haccepts
    rw [longRegistration, String.toList_ofList]
    exact hchars
  rw [Http.registerErrors, checkEmail_eq_nil.mpr hemail]
  decide +kernel

/-- The column refuses the email. -/
theorem varchar_longEmail : varchar 255 longRegistration.email = none := by
  have hchars : ¬longChars.length ≤ 255 ∧ ¬(longChars.drop 255).all (· = ' ') = true := by decide +kernel
  rw [longRegistration, varchar, String.length_ofList, String.toList_ofList, if_neg hchars.1, if_neg hchars.2]

/-- Where the email is free and the credentials are correct, both requests end with a database error, for the
length of a text and for nothing else. -/
theorem long_inputs_refused :
    (∃ tr w', (service.alone true).Exec
        (verifyingHttp.createRoutes service (StoringRequest.register longRegistration).toHttp) world tr
        (.error (.err (.database (databaseError "value too long for type character varying(255)")))) w' ∧
        OnlyRefused tr ∧
      (StoringRequest.register longRegistration).Eligible verifyingHttp service world w') ∧
    ∃ tr w', (service.alone true).Exec
        (verifyingHttp.createRoutes service (StoringRequest.login longHeaders ⟨"a@b.c", "Abcdefg1"⟩).toHttp)
          ⟨memberDb, 0⟩ tr
        (.error (.err (.database (databaseError "value too long for type character varying(45)")))) w' ∧
        OnlyRefused tr ∧
      (StoringRequest.login longHeaders ⟨"a@b.c", "Abcdefg1"⟩).Eligible verifyingHttp service ⟨memberDb, 0⟩ w' := by
  constructor
  · have haccepted : service.passwordAccepted longRegistration.password = true := by decide +kernel
    have hhash : service.argon2 "salt" longRegistration.password = some
      (argon2Hash "salt" longRegistration.password) := rfl
    have hplain : '\x00' ∉ longChars ∧ '\x00' ∉ (argon2Hash "salt" longRegistration.password).toList := by
      decide +kernel
    have hemail : '\x00' ∉ longRegistration.email.toList := by
      rw [longRegistration, String.toList_ofList]
      exact hplain.1
    have hinserts : (Statement.insertUser longRegistration.email (argon2Hash "salt" longRegistration.password)
        longRegistration.name).refusal? = none := by
      have hname : (Parameter.text longRegistration.name).refusal? = none := by decide
      simp only [Statement.refusal?, Statement.bound, List.findSome?_cons, Parameter.refusal?_text.mpr hemail,
        Parameter.refusal?_text.mpr hplain.2, hname, List.findSome?_nil]
    obtain ⟨tr, hrun, honly⟩ :=
      register_refused longRegistration_valid haccepted (w := world) rfl hhash hemail hinserts varchar_longEmail
    exact ⟨tr, world, hrun, honly, eligible_registration longRegistration_valid haccepted⟩
  · have hvalid : verifyingHttp.loginErrors ⟨"a@b.c", "Abcdefg1"⟩ = [] := by decide +kernel
    have huser : memberDb.userByEmail? "a@b.c" = some registeredUser := by decide +kernel
    have hmatch : service.comparePassword "Abcdefg1" registeredUser.passwordHash = some true := by decide +kernel
    have haddress :
      (ClientInfo.fromRequestParts longHeaders).ip = some "[2001:0db8:0000:0000:0000:ff00:0042:8329]:51234" := by
      decide +kernel
    have hlong : varchar 45 "[2001:0db8:0000:0000:0000:ff00:0042:8329]:51234" = none := by decide +kernel
    have hverified : service.config.requireEmailVerification = true →
      registeredUser.isEmailVerified = true := by decide
    obtain ⟨tr, hrun, honly⟩ := login_refused (w := ⟨memberDb, 0⟩) hvalid huser rfl rfl hmatch hverified haddress
      (by decide) (by decide +kernel) hlong
    exact ⟨tr, ⟨memberDb, 0⟩, hrun, honly, hvalid, registeredUser, huser, rfl, rfl, hmatch, hverified⟩

end Runs

end RustPressAuth
