import RustPressAuth.SessionChains

/-!
# The law of session chains

At every point of a sequential run only the newest token of a chain is unrevoked. A
password change or the reuse of a revoked token leaves the user without a session, a
token that was rotated, logged out or revoked is never accepted again, and the current
token of a chain is accepted until its row expires, whenever its user can log in and the
expiries of the new tokens can be computed. Where they cannot, the refresh panics.
-/

namespace RustPressAuth

open Atomic Program Machine Relational

/-- The user has no unrevoked refresh token. -/
def NoSession (userId : Uuid) (db : Db) : Prop :=
  ∀ row ∈ db.refreshTokens, row.userId = userId → row.isRevoked = true

/-- At an instant of the call the presented token leads to no row: its JWT is not accepted, or no row has
its id and its hash. -/
def FindsNone (svc : AuthService) (c : CallRecord) (x : String) : Prop :=
  ∃ t : ℕ, c.before.During c.after t ∧ ∀ tokenString claims, svc.Decodes true x t tokenString claims →
    c.before.db.refreshRow? claims.tid (svc.hashToken tokenString) = none

/-- At a point of a run: every issued token has a row, every row is in exactly one chain, of its user, and
only the newest token of a chain is unrevoked. -/
structure ChainsLaw (svc : AuthService) (past : List CallRecord) (db : Db) : Prop where
  stored : ∀ x ∈ issuedRefreshTokens past, ∃ row ∈ db.refreshTokens, svc.tokenId? x = some row.id
  grouped : ∀ row ∈ db.refreshTokens, ∃ chain ∈ sessionChains svc past, row.id ∈ chain.tokens ∧
    chain.owner = row.userId ∧ ∀ chain' ∈ sessionChains svc past, row.id ∈ chain'.tokens → chain' = chain
  newest : ∀ chain ∈ sessionChains svc past, ∀ row ∈ db.refreshTokens, row.id ∈ chain.tokens →
    row.isRevoked = false → chain.tokens.head? = some row.id

/-- The token was rotated or logged out by an earlier call, or is revoked. -/
inductive Spent (svc : AuthService) (past : List CallRecord) (db : Db) (tokenId : Uuid) : Prop
  | rotated {c : CallRecord} {successor : Uuid} (hc : c ∈ past)
      (hevent : sessionEvent svc c = .extend tokenId successor)
  | loggedOut {c : CallRecord} (hc : c ∈ past) (hevent : sessionEvent svc c = .close tokenId)
      (hrow : ∃ row ∈ c.before.db.refreshTokens, row.id = tokenId)
  | revoked (hrow : ∃ row ∈ db.refreshTokens, row.id = tokenId ∧ row.isRevoked = true)

/-- Throughout the call the expiries of new tokens can be computed. -/
def ComputesExpiries (svc : AuthService) (c : CallRecord) : Prop :=
  ∀ t : ℕ, c.before.During c.after t → svc.config.SessionsExpire t

/-- For every call: a successful reset and a refresh that finds a revoked row are events that end the
sessions of the user, and such an event leaves the user without an unrevoked token; a refresh with a spent
token is refused; and a refresh with an issued token that is the current one of its chain, while expiries can be
computed, is accepted if and only if, at instants of the call, the row has not expired and the user can log in. -/
structure CallLaw (svc : AuthService) (past : List CallRecord) (c : CallRecord) : Prop where
  reset : ∀ r response, c.request = .resetPassword r → c.result = .ok response →
    ∃ userId, sessionEvent svc c = .endAll userId
  reused : ∀ x ipAddress userAgent, c.request = .refreshTokens x ipAddress userAgent →
    ∀ row ∈ c.before.db.refreshTokens, svc.tokenId? x = some row.id → row.isRevoked = true →
    (FindsNone svc c x ∧ c.result = .error (.err .invalidToken)) ∨
      (c.result = .error (.err .tokenRevoked) ∧ sessionEvent svc c = .endAll row.userId)
  ended : ∀ userId, sessionEvent svc c = .endAll userId → NoSession userId c.after.db
  refused : ∀ x ipAddress userAgent tokenId, c.request = .refreshTokens x ipAddress userAgent →
    svc.tokenId? x = some tokenId → Spent svc past c.before.db tokenId → ∃ e, c.result = .error e
  accepted : ∀ x ipAddress userAgent, c.request = .refreshTokens x ipAddress userAgent →
    x ∈ issuedRefreshTokens past →
    ComputesExpiries svc c → ∀ chain ∈ sessionChains svc past, ∀ row ∈ c.before.db.refreshTokens,
    svc.tokenId? x = some row.id → chain.current? = some row.id → ∀ user ∈ c.before.db.users, user.id = row.userId →
    ∃ t t' : ℕ, c.before.During c.after t ∧ c.before.During c.after t' ∧
      ((∃ response, c.result = .ok response) ↔ (t : ℤ) ≤ row.expiresAt ∧ user.canLogin t' = true)

variable {svc : AuthService} {w w' : World} {past : List CallRecord} {c : CallRecord} {x : String}
    {row : RefreshToken}

/-- What the simulation says about a point of the run. -/
theorem Simulates.chainsLaw {db : Db} (hjwt : svc.prims.JwtRoundTrip) (h : Simulates svc past db.refreshTokens) :
    ChainsLaw svc past db where
  stored x hx := by
    obtain ⟨row, hrow, hnames⟩ := h.backed.stored x hx
    exact ⟨row, hrow, hnames.tokenId? hjwt⟩
  grouped row hrow := by
    obtain ⟨chain, hchain, hmem, howner⟩ := (h.agrees.grouped row.userId row.id).mp ⟨row, hrow, rfl, rfl⟩
    refine ⟨chain, hchain, hmem, howner, ?_⟩
    intro chain' hchain' hmem'
    exact h.agrees.unique chain' hchain' chain hchain row.id hmem' hmem
  newest chain hchain row hrow hmem hlive :=
    Chains.head_of_current ((h.agrees.current chain hchain row.id hmem).mp ⟨row, hrow, rfl, hlive⟩)

/-- The row of the current token of a chain is unrevoked. -/
theorem Simulates.live_of_current {table : RefreshTokens} (h : Simulates svc past table)
    {chain : Chains.Chain Uuid Uuid} (hchain : chain ∈ sessionChains svc past)
    (hcurrent : chain.current? = some row.id) (hrow : row ∈ table) :
    row.isRevoked = false := by
  obtain ⟨row', hrow', hid, hlive⟩ :=
    (h.agrees.current chain hchain row.id (Chains.mem_of_current hcurrent)).mpr hcurrent
  obtain rfl : row' = row := Table.eq_of_pk hrow' hrow hid
  exact hlive

/-- The row an issued token names. -/
theorem Simulates.names {table : RefreshTokens} (hjwt : svc.prims.JwtRoundTrip) (h : Simulates svc past table)
    (hx : x ∈ issuedRefreshTokens past) (hrow : row ∈ table) (htid : svc.tokenId? x = some row.id) :
    Names svc x row := by
  obtain ⟨row', hrow', hnames⟩ := h.backed.stored x hx
  rw [hnames.tokenId? hjwt] at htid
  obtain rfl : row' = row := Table.eq_of_pk hrow' hrow (Option.some.inj htid)
  exact hnames

/-- A row that is revoked stays in the table, revoked. -/
theorem Revokes.revoked {p : RefreshToken → Bool} {table table' : RefreshTokens} (h : Revokes p table table')
    (hrow : row ∈ table) (hp : p row = true) : ∃ row' ∈ table', row'.id = row.id ∧ row'.isRevoked = true := by
  obtain ⟨row', hrow', hlater, hlive⟩ := h.kept hrow
  refine ⟨row', hrow', hlater.id, ?_⟩
  rw [← Bool.not_eq_false, hlive]
  simp [hp]

/-- A call that extends a chain leaves the presented token revoked. -/
theorem SessionStep.of_extend {presented successor : Uuid} (hstep : SessionStep svc c)
    (hevent : sessionEvent svc c = .extend presented successor) :
    ∃ row ∈ c.after.db.refreshTokens, row.id = presented ∧ row.isRevoked = true := by
  cases hstep with
  | extended hextend _ howned _ hadds hrevokes =>
    obtain ⟨rfl, -⟩ := Chains.Event.extend.inj (hextend.symm.trans hevent)
    obtain ⟨row, hrow, -, hid⟩ := (hadds.holds_iff _ _).mpr (Or.inl howned)
    obtain ⟨row', hrow', hid', hrevoked⟩ := hrevokes.revoked hrow (decide_eq_true hid)
    exact ⟨row', hrow', hid'.trans hid, hrevoked⟩
  | started hother => cases hother.symm.trans hevent
  | closed hother => cases hother.symm.trans hevent
  | ended hother => cases hother.symm.trans hevent
  | untouched hother => cases hother.symm.trans hevent

/-- A call that closes a chain leaves the presented token revoked. -/
theorem SessionStep.of_close {tokenId : Uuid} (hstep : SessionStep svc c)
    (hevent : sessionEvent svc c = .close tokenId) (hrow : ∃ row ∈ c.before.db.refreshTokens, row.id = tokenId) :
    ∃ row ∈ c.after.db.refreshTokens, row.id = tokenId ∧ row.isRevoked = true := by
  cases hstep with
  | closed hclose _ hrevokes =>
    obtain rfl := Chains.Event.close.inj (hclose.symm.trans hevent)
    obtain ⟨row, hrow, hid⟩ := hrow
    obtain ⟨row', hrow', hid', hrevoked⟩ := hrevokes.revoked hrow (decide_eq_true hid)
    exact ⟨row', hrow', hid'.trans hid, hrevoked⟩
  | started hother => cases hother.symm.trans hevent
  | extended hother => cases hother.symm.trans hevent
  | ended hother => cases hother.symm.trans hevent
  | untouched hother => cases hother.symm.trans hevent

/-- A call that ends the sessions of a user leaves none. -/
theorem SessionStep.of_endAll {userId : Uuid} (hstep : SessionStep svc c)
    (hevent : sessionEvent svc c = .endAll userId) : NoSession userId c.after.db := by
  cases hstep with
  | ended hend _ hrevokes =>
    obtain rfl := Chains.Event.endAll.inj (hend.symm.trans hevent)
    intro row hrow huser
    by_contra hlive
    rw [Bool.not_eq_true] at hlive
    have hboth := (hrevokes.live_user row.id).mp ⟨row, hrow, rfl, hlive⟩
    exact hboth.2 ((hrevokes.holds_iff _ _).mp ⟨row, hrow, huser, rfl⟩)
  | started hother => cases hother.symm.trans hevent
  | extended hother => cases hother.symm.trans hevent
  | closed hother => cases hother.symm.trans hevent
  | untouched hother => cases hother.symm.trans hevent

/-- Tokens that the service made in a run, it made in its beginnings. -/
theorem MadeByService.of_suffix {older : List CallRecord} (h : MadeByService svc past) (hsuffix : older <:+ past) :
    MadeByService svc older := by
  induction past with
  | nil =>
    rw [List.suffix_nil.mp hsuffix]
    trivial
  | cons c past ih =>
    rcases List.suffix_cons_iff.mp hsuffix with rfl | hearlier
    · exact h
    · exact ih h.2 hearlier

/-- Where no refresh token is presented, none is forged. -/
theorem MadeByService.of_none
    (h : ∀ c ∈ past, ∀ x ipAddress userAgent, c.request ≠ .refreshTokens x ipAddress userAgent) :
    MadeByService svc past := by
  induction past with
  | nil => trivial
  | cons c past ih =>
    refine ⟨?_, ih fun d hd => h d (List.mem_cons_of_mem _ hd)⟩
    intro x ipAddress userAgent hrequest
    exact absurd hrequest (h c List.mem_cons_self x ipAddress userAgent)

section Run

variable {first : World} {older : List CallRecord}

/-- Every call of a run does one of the steps, from a table that simulates the chains before it. -/
theorem step_of_serial (hjwt : svc.prims.JwtRoundTrip) (hempty : first.db.refreshTokens = Table.empty)
    (hrun : svc.smooth.Serial svc.serve first past w) (hmade : MadeByService svc past)
    (hsuffix : (c :: older) <:+ past) :
    Simulates svc older c.before.db.refreshTokens ∧ SessionStep svc c ∧
      svc.smooth.Exec (svc.serve c.request) c.before c.trace c.result c.after := by
  have hmade' := hmade.of_suffix hsuffix
  obtain ⟨hpast, hexec⟩ := hrun.call_of_suffix hsuffix
  have hsim := simulates_of_serial hjwt hempty hpast hmade'.2
  exact ⟨hsim, sessionStep_of_exec hjwt (hsim.subjectsOwn hjwt hmade') hexec, hexec⟩

/-- A spent token is revoked. -/
theorem Spent.exists_row (hjwt : svc.prims.JwtRoundTrip) (hempty : first.db.refreshTokens = Table.empty)
    (hrun : svc.smooth.Serial svc.serve first past w) (hmade : MadeByService svc past) {tokenId : Uuid}
    (h : Spent svc past w.db tokenId) : ∃ row ∈ w.db.refreshTokens, row.id = tokenId ∧ row.isRevoked = true := by
  have hlater {d : CallRecord} (hd : d ∈ past)
      (hrow : ∃ row ∈ d.after.db.refreshTokens, row.id = tokenId ∧ row.isRevoked = true) :
      ∃ row ∈ w.db.refreshTokens, row.id = tokenId ∧ row.isRevoked = true := by
    obtain ⟨row, hrow, hid, hrevoked⟩ := hrow
    obtain ⟨row', hrow', hle⟩ := (hrun.monotone (svc.alone_monotone false) hd).db.refreshTokens row hrow
    exact ⟨row', hrow', hle.id.trans hid, hle.revoked hrevoked⟩
  have hstep {d : CallRecord} (hd : d ∈ past) : SessionStep svc d := by
    obtain ⟨older, hsuffix⟩ := exists_suffix_of_mem hd
    exact (step_of_serial hjwt hempty hrun hmade hsuffix).2.1
  cases h with
  | rotated hc hevent => exact hlater hc ((hstep hc).of_extend hevent)
  | loggedOut hc hevent hrow => exact hlater hc ((hstep hc).of_close hevent hrow)
  | revoked hrow => exact hrow

end Run

/-- The row under an id and a hash is found. -/
theorem Db.refreshRow?_eq {db : Db} (hrow : row ∈ db.refreshTokens) :
    db.refreshRow? row.id row.tokenHash = some row := by
  apply Table.find?_eq_some_of_only hrow (decide_eq_true ⟨rfl, rfl⟩)
  intro q hq hsame
  exact Table.eq_of_pk hq hrow (of_decide_eq_true hsame).1

/-- A token of the service that is accepted leads to its row. -/
theorem Names.refreshRow? {b : Bool} {db : Db} {tokenString : String} {now : Instant} {claims : RefreshTokenClaims}
    (hjwt : svc.prims.JwtRoundTrip) (h : Names svc x row) (hrow : row ∈ db.refreshTokens)
    (hdecodes : svc.Decodes b x now tokenString claims) :
    claims.sub = row.userId ∧ db.refreshRow? claims.tid (svc.hashToken tokenString) = some row := by
  obtain ⟨claims', hclaims, hsub, htid⟩ := h.claims? hjwt
  rw [hdecodes.claims?_eq] at hclaims
  obtain rfl := Option.some.inj hclaims
  obtain ⟨issuedAt, bytes, rfl, hhash, -⟩ := h
  obtain ⟨jwt, hsplit, -⟩ := hdecodes
  rw [rsplitDot_combined] at hsplit
  obtain ⟨rfl, -⟩ := List.cons.inj hsplit
  rw [htid, ← hhash]
  exact ⟨hsub, Db.refreshRow?_eq hrow⟩

/-- The JWT outlives the row: until the row expires it is accepted. -/
theorem Names.decodes {t : ℕ} (hjwt : svc.prims.JwtRoundTrip) (h : Names svc x row) (ht : (t : ℤ) ≤ row.expiresAt) :
    ∃ tokenString claims, svc.Decodes true x t tokenString claims := by
  obtain ⟨issuedAt, bytes, rfl, -, hexpires⟩ := h
  refine ⟨_, svc.refreshClaims row.userId row.id issuedAt, _, rsplitDot_combined _ _ _ _, ?_⟩
  rw [svc.decodeRefresh_encode hjwt true t _ rfl, if_pos]
  have hexp : (svc.refreshClaims row.userId row.id issuedAt).exp = timestamp row.expiresAt := by
    rw [hexpires]
    rfl
  rw [hexp, timestamp, timestamp]
  omega

/-- A refresh with the token of an unrevoked row is accepted until the row expires, when the user can log in and the
expiries of the new tokens can be computed. -/
theorem RefreshOutcome.accepted_iff {res : Except Failure TokenResponse} {user : User}
    (hjwt : svc.prims.JwtRoundTrip) (houtcome : RefreshOutcome svc x w res w') (hclock : w.clock ≤ w'.clock)
    (hnames : Names svc x row) (hrow : row ∈ w.db.refreshTokens) (hlive : row.isRevoked = false)
    (huser : user ∈ w.db.users) (hid : user.id = row.userId)
    (hexpire : ∀ t : ℕ, w.During w' t → svc.config.SessionsExpire t) : ∃ t t' : ℕ, w.During w' t ∧ w.During w' t' ∧
      ((∃ response, res = .ok response) ↔ (t : ℤ) ≤ row.expiresAt ∧ user.canLogin t' = true) := by
  have hbegin : w.During w' w.clock := ⟨Nat.le_refl _, hclock⟩
  cases houtcome with
  | undecoded ht hnone _ =>
    refine ⟨_, _, ht, hbegin, iff_of_false (by simp) ?_⟩
    rintro ⟨hunexpired, -⟩
    obtain ⟨tokenString, claims, hdecodes⟩ := hnames.decodes hjwt hunexpired
    exact hnone tokenString claims hdecodes
  | unknown _ hdecodes hnone _ =>
    rw [(hnames.refreshRow? hjwt hrow hdecodes).2] at hnone
    cases hnone
  | revoked hdecodes hfound hrevoked _ =>
    rw [(hnames.refreshRow? hjwt hrow hdecodes).2] at hfound
    rw [← Option.some.inj hfound, hlive] at hrevoked
    cases hrevoked
  | expired hdecodes hfound _ ht₁ hexpired _ =>
    rw [(hnames.refreshRow? hjwt hrow hdecodes).2] at hfound
    rw [← Option.some.inj hfound] at hexpired
    refine ⟨_, _, ht₁, hbegin, iff_of_false (by simp) ?_⟩
    rintro ⟨hunexpired, -⟩
    exact absurd hunexpired (Int.not_le.mpr hexpired)
  | unowned hdecodes _ _ hnone _ =>
    have hmissed := Table.find?_none hnone huser
    rw [(hnames.refreshRow? hjwt hrow hdecodes).1] at hmissed
    exact absurd hid (of_decide_eq_false hmissed)
  | barred hdecodes _ _ hsome ht₂ hbarred _ =>
    obtain ⟨hmem, hkey⟩ := Table.find?_some hsome
    rw [(hnames.refreshRow? hjwt hrow hdecodes).1] at hkey
    rw [Table.eq_of_pk hmem huser ((of_decide_eq_true hkey).trans hid.symm)] at hbarred
    refine ⟨_, _, hbegin, ht₂, iff_of_false (by simp) ?_⟩
    rintro ⟨-, hlogin⟩
    rw [hbarred] at hlogin
    cases hlogin
  | panicked _ _ _ _ _ _ _ ht₄ hearly _ => exact absurd (hexpire _ ht₄) hearly
  | done hdecodes hfound ht₁ hvalid hsome ht₂ hlogin _ _ =>
    obtain ⟨hsub, hrow'⟩ := hnames.refreshRow? hjwt hrow hdecodes
    rw [hrow'] at hfound
    rw [← Option.some.inj hfound] at hvalid
    obtain ⟨hmem, hkey⟩ := Table.find?_some hsome
    rw [hsub] at hkey
    rw [Table.eq_of_pk hmem huser ((of_decide_eq_true hkey).trans hid.symm)] at hlogin
    exact ⟨_, _, ht₁, ht₂, iff_of_true ⟨_, rfl⟩ ⟨(RefreshToken.isValid_iff.mp hvalid).1, hlogin⟩⟩

/-- A refresh that names a revoked row finds no row, or ends the sessions of the user of that row. -/
theorem RefreshOutcome.reused {res : Except Failure TokenResponse} {ipAddress userAgent : Option String}
    {tr : Trace} (houtcome : RefreshOutcome svc x w res w') (hrow : row ∈ w.db.refreshTokens)
    (htid : svc.tokenId? x = some row.id) (hrevoked : row.isRevoked = true) :
    (FindsNone svc ⟨.refreshTokens x ipAddress userAgent, w, tr, res.map .tokens, w'⟩ x ∧
      res = .error (.err .invalidToken)) ∨
      (res = .error (.err .tokenRevoked) ∧ sessionEvent svc
        ⟨.refreshTokens x ipAddress userAgent, w, tr, res.map .tokens, w'⟩ = .endAll row.userId) := by
  have hsame {b : Bool} {t : Instant} {tokenString : String} {claims : RefreshTokenClaims} {found : RefreshToken}
      (hdecodes : svc.Decodes b x t tokenString claims)
      (hfound : w.db.refreshRow? claims.tid (svc.hashToken tokenString) = some found) : found = row := by
    obtain ⟨hmem, hid, -⟩ := Db.refreshRow?_some hfound
    rw [hdecodes.tokenId?_eq] at htid
    exact Table.eq_of_pk hmem hrow (hid.trans (Option.some.inj htid))
  cases houtcome with
  | undecoded ht hnone _ =>
    refine Or.inl ⟨⟨_, ht, ?_⟩, rfl⟩
    intro tokenString claims hdecodes
    exact absurd hdecodes (hnone tokenString claims)
  | @unknown _ t tokenString claims ht hdecodes hnone _ =>
    refine Or.inl ⟨⟨t, ht, ?_⟩, rfl⟩
    intro tokenString' claims' hdecodes'
    have hclaims := hdecodes.claims?_eq.symm.trans hdecodes'.claims?_eq
    obtain ⟨jwt, hsplit, -⟩ := hdecodes
    obtain ⟨jwt', hsplit', -⟩ := hdecodes'
    obtain ⟨rfl, -⟩ := List.cons.inj (hsplit.symm.trans hsplit')
    rw [← Option.some.inj hclaims]
    exact hnone
  | revoked hdecodes hfound _ _ =>
    obtain rfl := hsame hdecodes hfound
    refine Or.inr ⟨rfl, ?_⟩
    simp [sessionEvent, Except.map, reusedBy?_of_found hdecodes hfound, hrevoked]
  | expired hdecodes hfound hlive _ _ _ =>
    rw [hsame hdecodes hfound, hrevoked] at hlive
    cases hlive
  | unowned hdecodes hfound hlive _ _ =>
    rw [hsame hdecodes hfound, hrevoked] at hlive
    cases hlive
  | barred hdecodes hfound hlive _ _ _ _ =>
    rw [hsame hdecodes hfound, hrevoked] at hlive
    cases hlive
  | panicked hdecodes hfound _ hvalid _ _ _ _ _ _ | done hdecodes hfound _ hvalid _ _ _ _ _ =>
    have hlive := (RefreshToken.isValid_iff.mp hvalid).2
    rw [hsame hdecodes hfound, hrevoked] at hlive
    cases hlive

/-- The outcome of a refresh, from its run. -/
theorem refreshOutcome_of_exec {ipAddress userAgent : Option String}
    (hrequest : c.request = .refreshTokens x ipAddress userAgent)
    (hexec : svc.smooth.Exec (svc.serve c.request) c.before c.trace c.result c.after) :
    ∃ res, RefreshOutcome svc x c.before res c.after ∧
      c = ⟨.refreshTokens x ipAddress userAgent, c.before, c.trace, res.map .tokens, c.after⟩ := by
  obtain ⟨request, v, tr, result, v'⟩ := c
  simp only at hrequest hexec
  subst hrequest
  obtain ⟨res, hrefresh, rfl⟩ := alone_answer hexec
  exact ⟨res, refreshTokens_outcome hrefresh, rfl⟩

/-- Every call of a run obeys the law. -/
theorem callLaw_of_serial {first : World} {older : List CallRecord} (hjwt : svc.prims.JwtRoundTrip)
    (hempty : first.db.refreshTokens = Table.empty) (hrun : svc.smooth.Serial svc.serve first past w)
    (hmade : MadeByService svc past) (hsuffix : (c :: older) <:+ past) : CallLaw svc older c := by
  obtain ⟨hsim, hstep, hexec⟩ := step_of_serial hjwt hempty hrun hmade hsuffix
  have hclock := (alone_precedes hexec).clock
  have hreused (x : String) (ipAddress userAgent : Option String)
      (hrequest : c.request = .refreshTokens x ipAddress userAgent) (row : RefreshToken)
      (hrow : row ∈ c.before.db.refreshTokens) (htid : svc.tokenId? x = some row.id)
        (hrevoked : row.isRevoked = true) :
      (FindsNone svc c x ∧ c.result = .error (.err .invalidToken)) ∨
        (c.result = .error (.err .tokenRevoked) ∧ sessionEvent svc c = .endAll row.userId) := by
    obtain ⟨res, houtcome, heq⟩ := refreshOutcome_of_exec hrequest hexec
    rw [heq]
    rcases houtcome.reused hrow htid hrevoked with ⟨hnone, rfl⟩ | ⟨rfl, hevent⟩
    · exact Or.inl ⟨hnone, rfl⟩
    · exact Or.inr ⟨rfl, hevent⟩
  refine ⟨?_, hreused, ?_, ?_, ?_⟩
  · intro r response hrequest hresult
    rw [hrequest, hresult] at hexec
    obtain ⟨res, hreset, hok⟩ := alone_answer hexec
    cases resetPassword_outcome hreset with
    | @done _ _ _ _ _ _ userId _ _ _ hfound _ _ =>
      refine ⟨userId, ?_⟩
      simp only [sessionEvent, hrequest, hresult, tokenOwner?_of_valid hfound]
    | failedEarly hfaults => cases hfaults
    | unmarked _ _ _ hfaults => cases hfaults
    | unrevoked _ _ _ hfaults => cases hfaults
    | _ => cases hok
  · intro userId hevent
    exact hstep.of_endAll hevent
  · intro x ipAddress userAgent tokenId hrequest htid hspent
    have hpast := (hrun.call_of_suffix hsuffix).1
    have hmade' := hmade.of_suffix ((List.suffix_cons c older).trans hsuffix)
    obtain ⟨row, hrow, rfl, hrevoked⟩ := hspent.exists_row hjwt hempty hpast hmade'
    rcases hreused x ipAddress userAgent hrequest row hrow htid hrevoked with ⟨-, hresult⟩ | ⟨hresult, -⟩
    · exact ⟨_, hresult⟩
    · exact ⟨_, hresult⟩
  · intro x ipAddress userAgent hrequest hx hexpire chain hchain row hrow htid hcurrent user huser hid
    obtain ⟨res, houtcome, heq⟩ := refreshOutcome_of_exec hrequest hexec
    obtain ⟨t, t', ht, ht', hiff⟩ := houtcome.accepted_iff hjwt hclock (hsim.names hjwt hx hrow htid) hrow
      (hsim.live_of_current hchain hcurrent hrow) huser hid hexpire
    refine ⟨t, t', ht, ht', ?_⟩
    rw [← hiff, heq]
    cases res with
    | error e => exact iff_of_false (by simp [Except.map]) (by simp)
    | ok response => exact iff_of_true ⟨_, rfl⟩ ⟨_, rfl⟩

/-- At every point of a sequential run from an empty `refresh_tokens` table, when no statement fails and
the presented refresh JWTs are made by the service, the chains and every call obey the law. -/
theorem sessionChains_law (svc : AuthService) (hjwt : svc.prims.JwtRoundTrip) (first : World)
    (past : List CallRecord) (w : World) (hempty : first.db.refreshTokens = Table.empty)
    (hrun : svc.smooth.Serial svc.serve first past w) (hmade : MadeByService svc past) :
    ChainsLaw svc past w.db ∧ ∀ c older, (c :: older) <:+ past → CallLaw svc older c := by
  constructor
  · exact (simulates_of_serial hjwt hempty hrun hmade).chainsLaw hjwt
  · intro c older hsuffix
    exact callLaw_of_serial hjwt hempty hrun hmade hsuffix

section Runs

open Reference

/-- A user registers and logs in, most recent call first. -/
def loginCalls : List (Request × List Choice) :=
  [(.login ⟨"a@b.c", "Abcdefg1"⟩ none none, List.replicate 12 (choice 2)),
    (.register ⟨"a@b.c", "Abcdefg1", "Abcdefg1", "A"⟩, List.replicate 3 (choice 1))]

/-- A refresh with the token of the login, already cut and decoded. -/
def loginRefresh : AuthM Response := answer .tokens (refreshIssued 1 2 0 none none)

/-- The calls presented no refresh token, issued the token of the login, and that token can be refreshed. -/
def refreshable (calls : List CallRecord) (w : World) : Bool :=
  (∀ c ∈ calls, c.request.writesRefreshTokens = true → c.request = .login ⟨"a@b.c", "Abcdefg1"⟩ none none) ∧
    issuedRefreshTokens calls = [loginToken] ∧
    ((service.executor.solo (AuthService.admits false) (List.replicate 14 (choice 3)) loginRefresh w).any
      fun out => out.2.1.toBool) = true

/-- A user registers and logs in, and a refresh with the token of the login is accepted. -/
theorem sessionChains_law_refresh : ∃ past c w, service.smooth.Serial service.serve world (c :: past) w ∧
    (∃ response, c.result = .ok response) ∧ ChainsLaw service (c :: past) w.db ∧ CallLaw service past c := by
  have hpasses : ((service.executor.serial (AuthService.admits false) service.serve loginCalls world).any
      fun run => refreshable run.1 run.2) = true := by decide +kernel
  obtain ⟨past, v, hpast, htest⟩ := Executor.exists_serial service.alone_perform refreshable hpasses
  obtain ⟨hlogins, hissued, hrefreshes⟩ := of_decide_eq_true htest
  obtain ⟨tr, res, w, hexec, hsuccess⟩ :=
    Executor.exists_exec service.alone_perform (fun res _ => res.toBool) hrefreshes
  have hserve : service.serve (.refreshTokens loginToken none none) = loginRefresh := by
    simp only [loginToken, AuthService.serve, refreshTokens_refreshToken, loginRefresh]
  rw [← hserve] at hexec
  have hrun := Serial.call hpast hexec
  have hmade : MadeByService service (⟨.refreshTokens loginToken none none, v, tr, res, w⟩ :: past) := by
    refine ⟨?_, MadeByService.of_none ?_⟩
    · intro x ipAddress userAgent hrequest y hy _
      have hpresented : loginToken = x := (Request.refreshTokens.inj hrequest).1
      rw [hissued] at hy
      rw [List.mem_singleton.mp hy, hpresented]
    · intro c hc x ipAddress userAgent hrequest
      have hlogin := hlogins c hc
      rw [hrequest] at hlogin
      cases hlogin rfl
  have hlaw := sessionChains_law service jwtRoundTrip world _ w rfl hrun hmade
  refine ⟨past, _, w, hrun, ?_, hlaw.1, hlaw.2 _ past List.suffix_rfl⟩
  cases res with
  | error e => cases hsuccess
  | ok response => exact ⟨response, rfl⟩

/-- A service whose refresh tokens live as long as those of a login at the epoch can. -/
def lastingService : AuthService := ⟨{ config with refreshTokenExpiration := 8210266876799 }, primitives⟩

/-- The token of the login. -/
def lastingToken : String := lastingService.combined 1 2 0 (choice 2).bytes

/-- A refresh with it, already cut and decoded. -/
def lastingRefresh : AuthM Response := answer .tokens do
  let claims := lastingService.refreshClaims 1 2 0
  let now ← utcNow
  let claims ← okOr (if 0 ≤ claims.exp ∧ timestamp now ≤ claims.exp + 60 then some claims else none) .invalidToken
  lastingService.redeem (base64UrlEncode (choice 2).bytes.toList) claims none none

/-- A refresh with the token goes on with its claims. -/
theorem serve_lastingToken : lastingService.serve (.refreshTokens lastingToken none none) = lastingRefresh := by
  have hdecode (now : Instant) := lastingService.decodeRefresh_encode jwtRoundTrip true now
    (lastingService.refreshClaims 1 2 0) rfl
  simp only [AuthService.serve, AuthService.refreshTokens, AuthService.splitToken, lastingToken, rsplitDot_combined,
    lastingRefresh, ← hdecode]
  rfl

/-- A second after the login at the epoch a refresh panics. -/
def panicsLater (calls : List CallRecord) (w : World) : Bool :=
  (∀ c ∈ calls, c.request.writesRefreshTokens = true → c.request = .login ⟨"a@b.c", "Abcdefg1"⟩ none none) ∧
    issuedRefreshTokens calls = [lastingToken] ∧ w.clock = 0 ∧
    (∃ row ∈ w.db.refreshTokens.rows, row.id = 2 ∧ row.userId = 1 ∧ row.isRevoked = false ∧
      row.expiresAt = 8210266876799000000) ∧
    (∃ user ∈ w.db.users.rows, user.id = 1 ∧ user.status = .active ∧ user.lockedUntil = none) ∧
    ((lastingService.executor.solo (AuthService.admits false) (List.replicate 14 (choice 3)) lastingRefresh
      ⟨w.db, 1000000⟩).any fun out => out.2.1 = .error (.panic .dateTimeOverflow) ∧ out.2.2.clock = 1000000) = true

/-- The token of a login at the epoch is the current one of its chain, its row has not expired and its user
can log in, but a second later a refresh with it panics. -/
theorem current_token_panics : lastingService.config.validate = .ok () ∧ ∃ past c w,
    lastingService.smooth.Serial lastingService.serve world (c :: past) w ∧
    MadeByService lastingService (c :: past) ∧
      c.request = .refreshTokens lastingToken none none ∧ lastingToken ∈ issuedRefreshTokens past ∧
      c.result = .error (.panic .dateTimeOverflow) ∧
      ∃ chain ∈ sessionChains lastingService past, ∃ row ∈ c.before.db.refreshTokens,
        lastingService.tokenId? lastingToken = some row.id ∧ chain.current? = some row.id ∧
          ∃ user ∈ c.before.db.users, user.id = row.userId ∧
            ∀ t : ℕ, c.before.During c.after t → (t : ℤ) ≤ row.expiresAt ∧ user.canLogin t = true := by
  refine ⟨by decide +kernel, ?_⟩
  have hpasses :
    ((lastingService.executor.serial (AuthService.admits false) lastingService.serve loginCalls world).any
      fun run => panicsLater run.1 run.2) = true := by decide +kernel
  obtain ⟨past, v, hpast, htest⟩ := Executor.exists_serial lastingService.alone_perform panicsLater hpasses
  obtain ⟨hlogins, hissued, hclock, ⟨row, hrow, hid, howner, hlive, hexpires⟩,
    ⟨user, huser, huserId, hactive, hfree⟩, hpanics⟩ := of_decide_eq_true htest
  obtain ⟨tr, res, w, hexec, hend⟩ := Executor.exists_exec lastingService.alone_perform
    (fun (res : Except Failure Response) (w : World) =>
      decide (res = .error (.panic .dateTimeOverflow) ∧ w.clock = 1000000)) hpanics
  obtain ⟨rfl, hlater⟩ := of_decide_eq_true hend
  have hwaits : lastingService.smooth.Waits v ⟨v.db, 1000000⟩ := alone_waits.mpr ⟨rfl, by omega⟩
  have hrefresh := hexec.waits hwaits
  rw [← serve_lastingToken] at hrefresh
  have hnone : MadeByService lastingService past := by
    refine MadeByService.of_none fun c hc x ipAddress userAgent hrequest => ?_
    have hlogin := hlogins c hc
    rw [hrequest] at hlogin
    cases hlogin rfl
  have hsim := simulates_of_serial jwtRoundTrip rfl hpast hnone
  obtain ⟨chain, hchain, hmem, -⟩ := (hsim.agrees.grouped row.userId row.id).mp ⟨row, hrow, rfl, rfl⟩
  have hcurrent := (hsim.agrees.current chain hchain row.id hmem).mp ⟨row, hrow, rfl, hlive⟩
  have htid : lastingService.tokenId? lastingToken = some row.id := by
    rw [AuthService.tokenId?, lastingToken, claims?_combined jwtRoundTrip, hid]
    rfl
  refine ⟨past, _, w, .call hpast hrefresh, ⟨?_, hnone⟩, rfl, ?_, rfl, chain, hchain, row, hrow, htid,
    hcurrent, user, huser, huserId.trans howner.symm, fun t ht => ⟨?_, ?_⟩⟩
  · intro x ipAddress userAgent hrequest y hy _
    rw [hissued] at hy
    rw [List.mem_singleton.mp hy, ← (Request.refreshTokens.inj hrequest).1]
  · rw [hissued]
    exact List.mem_singleton_self _
  · have hbound := ht.2
    simp only [hlater] at hbound
    rw [hexpires]
    exact Int.le_trans (Int.ofNat_le.mpr hbound) (by decide)
  · simp [User.canLogin, User.isLocked, hactive, hfree]

end Runs

end RustPressAuth
