import RustPressAuth.CallProtocol
import RustPressAuth.Effects
import RustPressAuth.Reference

/-!
# Rotation of refresh tokens under concurrency

A rotation reads the row of the presented token, inserts the row of the successor and
then revokes the old row by its id alone. Two calls that present the same token and both
read the row before either revokes it both succeed: the revocation does not ask whether
the row is still unrevoked. Rotation is single-use in every run in which such lookups
do not overlap.
-/

namespace RustPressAuth

open Atomic Program Relational

/-- The request presents this refresh token for rotation. -/
def Request.presents (x : String) : Request → Bool
  | .refreshTokens y _ _ => y == x
  | _ => false

/-- A request presents a token exactly if it is a refresh with it. -/
theorem Request.presents_iff {x : String} {req : Request} :
    req.presents x = true ↔ ∃ ipAddress userAgent, req = .refreshTokens x ipAddress userAgent := by
  cases req with
  | refreshTokens y ipAddress userAgent => simp [presents]
  | _ => simp [presents]

/-- An unrevoked row of `refresh_tokens` was read. -/
def readLive : (Σ a : Action, a.Reply) → Bool
  | ⟨.sql (.selectRefreshToken _ _), .ok (some row)⟩ => !row.isRevoked
  | _ => false

/-- The refresh tokens with this name are successfully rotated at most once. -/
def SingleUse (req : ℕ → Request) (x : String) (d : System) : Prop :=
  ∀ i j v w, (req i).presents x = true → (req j).presents x = true →
    d.calls i = .done (.ok v) → d.calls j = .done (.ok w) → i = j ∧ v = w

/-- No call presenting `x` reads an unrevoked row while another call presenting `x` that read
an unrevoked row is still running. -/
def lookupsApart (req : ℕ → Request) (x : String) : Rule ℕ Action Action.Reply Failure Response World :=
  .ofEvent fun c e => (req e.caller).presents x = true → readLive e.entry = true →
    ∀ f ∈ c.log, (req f.caller).presents x = true → readLive f.entry = true →
      f.caller ≠ e.caller → ¬ c.Running f.caller

/-- The claims of the JWT in a combined refresh token, whether or not it is accepted. -/
def AuthService.claims? (svc : AuthService) (refreshToken : String) : Option RefreshTokenClaims :=
  match rsplitDot refreshToken with
  | [_, jwt] => (svc.prims.jwtParts jwt).bind fun parts => RefreshTokenClaims.ofPayload parts.2
  | _ => none

variable {svc : AuthService} {x : String}

/-- The claims that are accepted are the claims of the token, at any time. -/
theorem claims?_of_decodeRefresh {validateSignature : Bool} {tokenString jwt : String} {now : Instant}
    {claims : RefreshTokenClaims} (hsplit : rsplitDot x = [tokenString, jwt])
    (hdecode : svc.decodeRefresh validateSignature now jwt = some claims) : svc.claims? x = some claims := by
  simp only [AuthService.claims?, hsplit]
  unfold AuthService.decodeRefresh Primitives.jwtDecode at hdecode
  cases hparts : svc.prims.jwtParts jwt with
  | none => simp [hparts] at hdecode
  | some parts =>
    simp only [hparts, Option.bind_eq_bind, Option.bind_some] at hdecode ⊢
    split at hdecode
    · cases hdecode
    · split at hdecode
      · exact hdecode
      · cases hdecode

/-- The claims under which a row was found are those of the token. -/
theorem RefreshFound.claims?_eq {claims : RefreshTokenClaims} {row : RefreshToken} {h : Trace}
    (hfound : RefreshFound svc x claims row h) : svc.claims? x = some claims := by
  obtain ⟨tokenString, jwt, t, hsplit, hdecode, -⟩ := hfound.decoded
  exact claims?_of_decodeRefresh hsplit hdecode

/-- What a successful rotation leaves in the log: it read an unrevoked row, and later revoked the
row with the same id. -/
structure Rotated (log : List LogEvent) (i : ℕ) (id : Uuid) (lookup revocation : LogEvent) : Prop where
  lookup_caller : lookup.caller = i
  revocation_caller : revocation.caller = i
  read : ∃ tokenHash row, lookup.entry = executed (.selectRefreshToken id tokenHash) (some row) ∧
    row.isRevoked = false
  revoked : ∃ n : ℕ, revocation.entry = executed (.revokeRefreshToken id) n
  ordered : ∃ older, (revocation :: older) <:+ log ∧ lookup ∈ older

/-- The lookup of a rotation is in the log. -/
theorem Rotated.lookup_mem {log : List LogEvent} {i : ℕ} {id : Uuid} {lookup revocation : LogEvent}
    (h : Rotated log i id lookup revocation) : lookup ∈ log := by
  obtain ⟨older, hsuffix, hmem⟩ := h.ordered
  exact hsuffix.subset (List.mem_cons_of_mem _ hmem)

/-- A successful rotation has done both. -/
theorem rotated_of_succeeded {log : List LogEvent} {i : ℕ} {ipAddress userAgent : Option String}
    {response : Response}
    (h : Succeeded svc (ownHistory i log) (.refreshTokens x ipAddress userAgent) response) :
    ∃ claims row hfound, RefreshFound svc x claims row hfound ∧
      ∃ lookup revocation, Rotated log i claims.tid lookup revocation := by
  obtain ⟨claims, row, user, now, hc, accessToken, successor, h', n, hchecked, hsuffix, -, htrace, -⟩ := h
  obtain ⟨checkedAt, hf, hfound, hvalid, hsteps⟩ := hchecked.steps
  obtain ⟨tokenString, jwt, t, -, -, hread⟩ := hfound.decoded
  have hlast : (executed (.revokeRefreshToken claims.tid) n :: h') <:+ ownHistory i log :=
    htrace ▸ List.suffix_refl _
  obtain ⟨revocation, older, hrevocation, hcaller, hentry, hown⟩ := exists_event_of_suffix hlast
  have hfirst : (executed (.selectRefreshToken claims.tid (svc.hashToken tokenString)) (some row) ::
      [did .now t]) <:+ ownHistory i older := by
    rw [hown, ← hread]
    apply List.IsSuffix.trans _ hsuffix
    rw [hsteps]
    exact ⟨[_, _, _], rfl⟩
  obtain ⟨lookup, older', hlookup, hcaller', hentry', -⟩ := exists_event_of_suffix hfirst
  have hlive : row.isRevoked = false := (RefreshToken.isValid_iff.mp hvalid).2
  refine ⟨claims, row, hf, hfound, lookup, revocation,
    ⟨hcaller', hcaller, ⟨_, row, hentry', hlive⟩, ⟨n, hentry⟩, ?_⟩⟩
  exact ⟨older, hrevocation, hlookup.subset List.mem_cons_self⟩

section Run

variable {req : ℕ → Request} {w : World} {ok : System → System → Prop} {d : System}

/-- A rotation that was completed is visible to every later lookup of the row. -/
theorem rotated_visible (hrun : svc.machine.Reaches ok (svc.start w req) d) {e : LogEvent}
    {older : List LogEvent} (he : (e :: older) <:+ d.log) {i : ℕ} {id : Uuid} {lookup revocation : LogEvent}
    (hrotated : Rotated older i id lookup revocation) {tokenHash : String} {row : RefreshToken}
    (hread : e.entry = executed (.selectRefreshToken id tokenHash) (some row)) : row.isRevoked = true := by
  obtain ⟨tokenHash', row', hlookup, -⟩ := hrotated.read
  obtain ⟨n, hrevocation⟩ := hrotated.revoked
  obtain ⟨before, hsuffix, hmem⟩ := hrotated.ordered
  have hsuffix' : (revocation :: before) <:+ d.log :=
    (hsuffix.trans (List.suffix_cons e older)).trans he
  obtain ⟨s, hperform, -⟩ := hrun.effect_le svc.machine_monotone rfl hsuffix' hmem
  obtain ⟨hrow', hid', -⟩ := selectRefreshToken_row (Machine.perform_of_entry hlookup hperform)
  have hexists := (hrun.before_le svc.machine_monotone rfl hsuffix' hmem).refreshToken ⟨row', hrow', hid'⟩
  obtain ⟨s, hperform, hle⟩ := hrun.effect_le svc.machine_monotone rfl he (hsuffix.subset List.mem_cons_self)
  obtain ⟨old, hold, hid, hrevoked⟩ :=
    revokeRefreshToken_row (Machine.perform_of_entry hrevocation hperform) hexists
  obtain ⟨mid, next, t, hat, -⟩ := hrun.performedAt rfl he
  obtain ⟨hrow, hid'', -⟩ := selectRefreshToken_row (Machine.perform_of_entry hread hat.perform)
  exact hle.revoked hold hrow (hid''.trans hid.symm) hrevoked

/-- Under the rule, a rotation that looked the row up before another call did and succeeds was
complete when the other call looked the row up. -/
theorem rotation_exclusive (hrun : svc.machine.Reaches (lookupsApart req x).Keeps (svc.start w req) d)
    {e f : LogEvent} {older : List LogEvent} (he : (e :: older) <:+ d.log) (hf : f ∈ older)
    (hne : f.caller ≠ e.caller) (hpresents : (req e.caller).presents x = true)
    (hpresents' : (req f.caller).presents x = true) (hlive : readLive e.entry = true)
    (hlive' : readLive f.entry = true) {response : Response}
    (hsuccess : d.calls f.caller = .done (.ok response)) :
    Succeeded svc (ownHistory f.caller older) (req f.caller) response := by
  obtain ⟨mid, next, s, hat, rfl⟩ := hrun.performedAt rfl he
  have hidle : ¬ mid.Running f.caller := hat.event_ok hpresents hlive f hf hpresents' hlive' hne
  have hcalls := hat.toLast.calls_of_ended (Config.ended_of_not_running hf hidle)
  rw [hsuccess] at hcalls
  exact succeeded_of_run hat.run hcalls.symm

/-- Under the rule, no successful rotation looked the row up after another successful one did. -/
theorem no_later_rotation (hrun : svc.machine.Reaches (lookupsApart req x).Keeps (svc.start w req) d)
    {i j : ℕ} {v : Response} (hi : (req i).presents x = true) (hj : (req j).presents x = true)
    (hij : i ≠ j) (hdj : d.calls j = .done (.ok v)) {claims : RefreshTokenClaims} {row : RefreshToken}
    {h : Trace} (hfound : RefreshFound svc x claims row h) {id' : Uuid}
    {lookup lookup' revocation revocation' : LogEvent}
    (hrotated : Rotated d.log i claims.tid lookup revocation)
    (hrotated' : Rotated d.log j id' lookup' revocation') {older : List LogEvent}
    (hsuffix : (lookup :: older) <:+ d.log) (hmem : lookup' ∈ older) : False := by
  obtain ⟨tokenHash, r, hread, hlive⟩ := hrotated.read
  obtain ⟨tokenHash', r', hread', hlive'⟩ := hrotated'.read
  obtain rfl := hrotated.lookup_caller
  obtain rfl := hrotated'.lookup_caller
  have hreadLive : readLive lookup.entry = true := by
    rw [hread]
    simp [readLive, hlive]
  have hreadLive' : readLive lookup'.entry = true := by
    rw [hread']
    simp [readLive, hlive']
  have hearlier := rotation_exclusive hrun hsuffix hmem hij.symm hi hj hreadLive hreadLive' hdj
  obtain ⟨ipAddress, userAgent, hreq⟩ := Request.presents_iff.mp hj
  rw [hreq] at hearlier
  obtain ⟨claims', row', h', hfound', first, second, hcomplete⟩ := rotated_of_succeeded hearlier
  have hclaims := hfound.claims?_eq
  rw [hfound'.claims?_eq] at hclaims
  obtain rfl := Option.some.inj hclaims
  have hrevoked := rotated_visible hrun hsuffix hcomplete hread
  rw [hlive] at hrevoked
  cases hrevoked

end Run

/-- In every run whose lookups of `x` do not overlap, `x` is rotated at most once. -/
theorem refreshTokens_single_use (svc : AuthService) (w : World) (req : ℕ → Request) (x : String) (d : System)
    (hrun : svc.machine.Reaches (lookupsApart req x).Keeps (svc.start w req) d) : SingleUse req x d := by
  intro i j v v' hi hj hdi hdj
  by_cases hij : i = j
  · subst hij
    rw [hdi] at hdj
    cases hdj
    exact ⟨rfl, rfl⟩
  · exfalso
    have hsi := succeeded_of_run hrun hdi
    have hsj := succeeded_of_run hrun hdj
    obtain ⟨ip, ua, hreq⟩ := Request.presents_iff.mp hi
    obtain ⟨ip', ua', hreq'⟩ := Request.presents_iff.mp hj
    rw [hreq] at hsi
    rw [hreq'] at hsj
    obtain ⟨claims, row, h, hfound, lookup, revocation, hrotated⟩ := rotated_of_succeeded hsi
    obtain ⟨claims', row', h', hfound', lookup', revocation', hrotated'⟩ := rotated_of_succeeded hsj
    obtain ⟨older, hsuffix⟩ := exists_suffix_of_mem hrotated.lookup_mem
    obtain ⟨older', hsuffix'⟩ := exists_suffix_of_mem hrotated'.lookup_mem
    rcases suffix_trichotomy hsuffix hsuffix' with hfirst | hsecond | ⟨hsame, -⟩
    · exact no_later_rotation hrun hj hi (Ne.symm hij) hdi hfound' hrotated' hrotated hsuffix'
        (hfirst.subset List.mem_cons_self)
    · exact no_later_rotation hrun hi hj hij hdj hfound hrotated hrotated' hsuffix
        (hsecond.subset List.mem_cons_self)
    · rw [← hsame] at hrotated'
      exact hij (hrotated.lookup_caller.symm.trans hrotated'.lookup_caller)

section Runs

open Reference

instance (req : ℕ → Request) (x : String) (c : System) (e : LogEvent) :
    Decidable ((lookupsApart req x).event c e) :=
  inferInstanceAs (Decidable (_ → _ → ∀ f ∈ c.log, _ → _ → f.caller ≠ e.caller → ¬ c.Running f.caller))

/-- The token the login below is given. -/
def loginToken : String := refreshToken 1 2 0

/-- A user registers and logs in, and two calls present the refresh token of the login. -/
def rotationRequests : ℕ → Request
  | 0 => .register ⟨"a@b.c", "Abcdefg1", "Abcdefg1", "A"⟩
  | 1 => .login ⟨"a@b.c", "Abcdefg1"⟩ none none
  | _ => .refreshTokens loginToken none none

/-- The two calls one after the other. -/
def rotationsApart : List (Machine.Move ℕ Choice EnvMove) :=
  moves 0 3 1 ++ moves 1 12 2 ++ moves 2 14 3 ++ moves 3 4 4

/-- The two calls, each reading the row before the other revokes it. -/
def rotationsRacing : List (Machine.Move ℕ Choice EnvMove) :=
  moves 0 3 1 ++ moves 1 12 2 ++ moves 2 3 3 ++ moves 3 3 4 ++ moves 2 11 3 ++ moves 3 11 4

/-- The same calls, with the token already cut and decoded. -/
def rotationCalls (i : ℕ) : AuthM Response :=
  if i < 2 then service.serve (rotationRequests i) else answer .tokens (refreshIssued 1 2 0 none none)

/-- The requests begin as these calls. -/
theorem start_rotationRequests :
    service.start world rotationRequests = Config.start world rotationCalls := by
  have hcalls : (fun i => service.serve (rotationRequests i)) = rotationCalls := by
    funext i
    match i with
    | 0 => rfl
    | 1 => rfl
    | i + 2 =>
      have hi : ¬ i + 2 < 2 := by omega
      simp only [rotationCalls, hi, if_false, rotationRequests, loginToken, AuthService.serve,
        refreshTokens_refreshToken]
  rw [AuthService.start, hcalls]

/-- Two refreshes with one token come one after the other, and one succeeds. -/
theorem refreshTokens_single_use_apart : SingleUse rotationRequests loginToken
    (service.executor.play rotationsApart (service.start world rotationRequests)) := by
  have hallows : service.executor.Allows (lookupsApart rotationRequests loginToken) (fun _ => True)
      rotationsApart (service.start world rotationRequests) := by
    rw [start_rotationRequests]
    decide +kernel
  exact refreshTokens_single_use service world rotationRequests loginToken _
    (hallows.reaches fun _ _ _ => trivial)

/-- Two calls that race both rotate the token. -/
theorem refreshTokens_used_twice : ∃ d, service.machine.Reaches (fun _ _ => True)
    (service.start world rotationRequests) d ∧ ¬ SingleUse rotationRequests loginToken d := by
  refine ⟨_, service.executor.play_reaches rotationsRacing _, fun hsingle => ?_⟩
  rw [start_rotationRequests] at hsingle
  have hboth :
    ((service.executor.play rotationsRacing (Config.start world rotationCalls)).calls 2).succeeded = true ∧
      ((service.executor.play rotationsRacing (Config.start world rotationCalls)).calls 3).succeeded = true := by
    decide +kernel
  obtain ⟨v, hv⟩ := succeeded_iff.mp hboth.1
  obtain ⟨w, hw⟩ := succeeded_iff.mp hboth.2
  have hpresents (i : ℕ) : (rotationRequests (i + 2)).presents loginToken = true := by
    simp [rotationRequests, Request.presents]
  exact absurd (hsingle 2 3 v w (hpresents 0) (hpresents 1) hv hw).1 (by decide)

end Runs

end RustPressAuth
