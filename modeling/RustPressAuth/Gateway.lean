import RustPressAuth.EmailVerification
import RustPressAuth.RateLimit
import RustPressAuth.Throttle.Limiter

/-!
# The router behind the rate limiter

Five of the routes take credentials or exchange tokens. They stand behind one limiter, of
which each client address is a key; the other routes do not ask it. A request whose client
is not known, or that comes too early, is answered by the limiter itself and never reaches
its handler.

The router with the limiter refines the router without, whatever the limiter answers: it
only turns requests away, and a run of the routes whose requests it admits is one behind
it. A limiter that runs the generic cell rate algorithm does what it is for: no client
begins more of the limited requests in any window than the burst and the intervals that
fit into it.
-/

namespace RustPressAuth

open Atomic Program Machine Throttle

/-- A response of the limiter, with a text as its body. -/
structure PlainResponse where
  status : ℕ
  headers : List (String × String)
  body : String
deriving DecidableEq, Repr

/-- The errors of the limiter. -/
inductive GovernorError where
  | tooManyRequests (waitTime : ℕ)
  | unableToExtractKey
  | other (code : ℕ) (msg : Option String)
deriving DecidableEq, Repr

/-- The error handler of the limiter: a request that comes too early gets the standard header and its companion. -/
def rateLimitErrorHandler : GovernorError → PlainResponse
  | .tooManyRequests waitTime =>
    { status := 429
      headers := [("retry-after", toString waitTime), ("x-ratelimit-after", toString waitTime),
        ("content-type", "text/plain; charset=utf-8")]
      body := "Too Many Requests. Retry after " ++ toString waitTime ++ "s." }
  | .unableToExtractKey => ⟨500, [], "Unable to extract client identifier"⟩
  | .other code msg => ⟨code, [], msg.getD "Rate limit error"⟩

/-- The shape of a response to a request that comes too early. -/
def tooManyRequestsResponse (retryAfterSecs : ℕ) : PlainResponse where
  status := 429
  headers := [("retry-after", toString retryAfterSecs), ("content-type", "text/plain; charset=utf-8")]
  body := "Too Many Requests"

/-- A client that is told to wait finds the status and the headers of that shape. -/
theorem tooManyRequests_shape (waitTime : ℕ) :
    (rateLimitErrorHandler (.tooManyRequests waitTime)).status = (tooManyRequestsResponse waitTime).status ∧
      (tooManyRequestsResponse waitTime).headers ⊆ (rateLimitErrorHandler (.tooManyRequests waitTime)).headers := by
  refine ⟨rfl, fun header hheader => ?_⟩
  simp only [tooManyRequestsResponse, List.mem_cons, List.not_mem_nil, or_false] at hheader
  rcases hheader with rfl | rfl <;> simp [rateLimitErrorHandler]

/-- A request as it arrives: the limiter's key, where one can be extracted, and the request itself. -/
structure Arrival where
  key : Option IpAddr
  request : HttpRequest
deriving DecidableEq, Repr

/-- What a client gets: the reply of the handler, or the response of the limiter. -/
inductive GatewayReply where
  | handled (reply : HttpReply)
  | throttled (response : PlainResponse)
deriving DecidableEq, Repr

/-- The routes that the limiter is applied to. -/
def HttpRequest.limited : HttpRequest → Bool
  | .register _ | .login .. | .refresh .. | .forgotPassword _ | .resetPassword _ => true
  | _ => false

/-- What becomes of a verdict: a request that comes too early is told the whole seconds it has to wait. -/
def limiterAnswer (verdict : Verdict) : Option (Except Failure GatewayReply) :=
  verdict.wait.map fun wait => .ok (.throttled (rateLimitErrorHandler (.tooManyRequests (wait / fromSecs 1))))

/-- What the clock shows, in nanoseconds. -/
def World.nanos (w : World) : ℕ := 1000 * w.clock

variable {γ : Type}

/-- Where a request enters: the limiter asks for its key, on the routes it is applied to. -/
def RateLimitConfig.passage (cfg : RateLimitConfig) (governor : Governor γ) (arrival : Arrival) :
    Passage IpAddr Verdict Failure GatewayReply :=
  match cfg.applyAuthRateLimit governor with
  | none => .free
  | some _ =>
    if arrival.request.limited then
      match arrival.key with
      | some ip => .asks ip limiterAnswer
      | none => .closed (.ok (.throttled (rateLimitErrorHandler .unableToExtractKey)))
    else .free

/-- The router with an explicit configuration of the limiter. -/
def Http.createRoutesWithRateLimit (http : Http) (svc : AuthService) (governor : Governor γ) (cfg : RateLimitConfig)
    (arrival : Arrival) :
    Program (GatedAction IpAddr Action) (GatedReply Verdict Action.Reply) Failure GatewayReply :=
  (cfg.passage governor arrival).enter .handled (http.createRoutes svc arrival.request)

/-- A state of the whole system of arrivals: the world and the limiter, if one is applied, the requests and
the log. -/
abbrev GatewaySystem (γ : Type) :=
  Config ℕ (GatedAction IpAddr Action) (GatedReply Verdict Action.Reply) Failure GatewayReply (World × Option γ)

/-- The arrivals a run is about, none of them begun, and a new limiter. -/
def Http.gatewayStart (http : Http) (svc : AuthService) (governor : Governor γ) (cfg : RateLimitConfig) (w : World)
    (arrivals : ℕ → Arrival) : GatewaySystem γ :=
  Config.start (w, cfg.applyAuthRateLimit governor) fun i =>
    http.createRoutesWithRateLimit svc governor cfg (arrivals i)

/-- The service behind the limiter, which reads the clock of the world. -/
def AuthService.gateway (svc : AuthService) (governor : Governor γ) :=
  svc.machine.gated (governor.option.gate World.nanos)

/-- A request of this client was admitted, at the time at which it was checked. -/
def Admitted (d : GatewaySystem γ) (ip : IpAddr) (i time : ℕ) : Prop :=
  ∃ e ∈ d.log, e.caller = i ∧ e.entry = ⟨.ask ip, ⟨time, none⟩⟩

/-- The checks that the limited requests of a run of the routes ask for when they begin, in that order. -/
def checksOf (arrivals : ℕ → Arrival) : List LogEvent → List (IpAddr × ℕ)
  | [] => []
  | e :: log =>
    checksOf arrivals log ++
      if ownHistory e.caller log = [] ∧ (arrivals e.caller).request.limited = true then
        ((arrivals e.caller).key.map fun ip => (ip, e.before.nanos)).toList
      else []

/-- The limiter, if one is applied, admits the limited requests that have begun in a run of the routes: their
clients are known, and checked when they begin none of them is refused. -/
def RateLimitConfig.Admits (cfg : RateLimitConfig) (governor : Governor γ) (arrivals : ℕ → Arrival)
    (log : List LogEvent) :
    Prop :=
  ∀ g, cfg.applyAuthRateLimit governor = some g →
    (∀ e ∈ log, (arrivals e.caller).request.limited = true → (arrivals e.caller).key.isSome = true) ∧
      governor.toLimiter.Admits g (checksOf arrivals log)

section Refinement

variable {http : Http} {svc : AuthService} {governor : Governor γ} {cfg : RateLimitConfig} {w : World}
  {arrivals : ℕ → Arrival} {c : HttpSystem} {d : GatewaySystem γ}

/-- A run behind the limiter shows a run of the routes. -/
structure Shows (http : Http) (svc : AuthService) (governor : Governor γ) (cfg : RateLimitConfig)
    (arrivals : ℕ → Arrival) (c : HttpSystem) (d : GatewaySystem γ) : Prop where
  world : d.shared.1 = c.shared
  log : c.log = d.log.filterMap Event.own?
  /-- A request that has done anything is as far as it is there. -/
  begun : ∀ i, ownHistory i c.log ≠ [] → (d.calls i).result? = (c.calls i).result?.map (Except.map .handled)
  /-- What a request got is what it got there, or it was turned away and has done nothing there. -/
  answered : ∀ i result, (d.calls i).result? = some result →
    (c.calls i).result?.map (Except.map .handled) = some result ∨
      ((∃ response, result = .ok (.throttled response) ∧ (response.status = 429 ∨ response.status = 500)) ∧
        (cfg.applyAuthRateLimit governor).isSome = true ∧ (arrivals i).request.limited = true ∧
        ownHistory i c.log = [] ∧
        c.calls i = http.createRoutes svc (arrivals i).request)

/-- The limiter turns away with its own responses only, on the routes it is applied to. -/
theorem passage_refuses {arrival : Arrival} {refused : Except Failure GatewayReply}
    (h : (cfg.passage governor arrival).Refuses refused) :
    (∃ response, refused = .ok (.throttled response) ∧ (response.status = 429 ∨ response.status = 500)) ∧
      (cfg.applyAuthRateLimit governor).isSome = true ∧ arrival.request.limited = true := by
  unfold RateLimitConfig.passage at h
  split at h
  · exact h.elim
  · rename_i rate happlied
    split at h
    · rename_i hlimited
      refine ⟨?_, by rw [happlied]; rfl, hlimited⟩
      split at h
      · obtain ⟨verdict, hverdict⟩ := h
        obtain ⟨wait, -, rfl⟩ := Option.map_eq_some_iff.mp hverdict
        exact ⟨_, rfl, Or.inl rfl⟩
      · exact ⟨_, h, Or.inr rfl⟩
    · exact h.elim

/-- A limiter that admits the requests that have begun lets each of them in. -/
theorem letsIn_of_admits {log : List LogEvent} (hadmits : cfg.Admits governor arrivals log) :
    ∃ g', LetsIn (governor.option.gate World.nanos) (fun i => cfg.passage governor (arrivals i))
      (cfg.applyAuthRateLimit governor) log g' := by
  cases happlied : cfg.applyAuthRateLimit governor with
  | none =>
    refine ⟨none, letsIn_of_free _ _ fun e _ => ?_⟩
    rw [RateLimitConfig.passage, happlied]
  | some g =>
    obtain ⟨hknown, hchecks⟩ := hadmits g happlied
    clear hadmits
    refine ⟨some (governor.after g (checksOf arrivals log)), ?_⟩
    induction log with
    | nil => exact .start
    | cons e log ih =>
      have hknown' := fun f hf => hknown f (List.mem_cons_of_mem e hf)
      by_cases hbegins : ownHistory e.caller log = [] ∧ (arrivals e.caller).request.limited = true
      · obtain ⟨hnew, hlimited⟩ := hbegins
        obtain ⟨ip, hip⟩ := Option.isSome_iff_exists.mp (hknown e List.mem_cons_self hlimited)
        have hmore : checksOf arrivals (e :: log) = checksOf arrivals log ++ [(ip, e.before.nanos)] := by
          rw [checksOf, if_pos ⟨hnew, hlimited⟩, hip]
          rfl
        rw [hmore, Limiter.admits_concat] at hchecks
        have hasks : cfg.passage governor (arrivals e.caller) = .asks ip limiterAnswer := by
          simp only [RateLimitConfig.passage, happlied, hlimited, if_true, hip]
        rw [hmore, Limiter.after_concat]
        refine .asked (ih hknown' hchecks.1) hnew hasks
          (?_ : (governor.option.gate World.nanos).answer ip e.before _ ⟨e.before.nanos, none⟩ _) rfl
        refine ⟨Nat.le_refl _, rfl, ?_⟩
        simp only [Limiter.option, hchecks.2, Option.map_none]
      · have hsame : checksOf arrivals (e :: log) = checksOf arrivals log := by
          rw [checksOf, if_neg hbegins, List.append_nil]
        rw [hsame] at hchecks ⊢
        have hlets := ih hknown' hchecks
        by_cases hnew : ownHistory e.caller log = []
        · refine .free hlets hnew ?_
          have hopen : (arrivals e.caller).request.limited = false := by
            rw [← Bool.not_eq_true]
            exact fun hlimited => hbegins ⟨hnew, hlimited⟩
          simp only [RateLimitConfig.passage, happlied, hopen]
          rfl
        · exact .begun hlets hnew

/-- Related runs show the same. -/
theorem shows_of_behind {turnedAway : ℕ → Except Failure GatewayReply → Prop}
    (h : Behind .handled (fun i =>
      http.createRoutes svc (arrivals i).request) (fun i => cfg.passage governor (arrivals i)) turnedAway
      c d)
    (haway : ∀ i refused, turnedAway i refused → (cfg.passage governor (arrivals i)).Refuses refused) :
    Shows http svc governor cfg arrivals c d where
  world := h.shared
  log := h.log
  begun i hbegun := by
    rcases h.calls i with hopen | ⟨-, hnone, -⟩
    · rw [hopen, result?_ungated]
    · exact absurd hnone hbegun
  answered i result hresult := by
    rcases h.calls i with hopen | ⟨hwaiting, hnone, henters | ⟨refused, hrefused, hturned⟩⟩
    · rw [hopen, result?_ungated] at hresult
      exact Or.inl hresult
    · cases hpassage : cfg.passage governor (arrivals i) with
      | free =>
        rw [henters, hpassage, Passage.enter, result?_ungated, ← hwaiting] at hresult
        exact Or.inl hresult
      | asks key refusal =>
        rw [henters, hpassage] at hresult
        cases hresult
      | closed refused =>
        rw [henters, hpassage] at hresult
        obtain rfl := Option.some.inj hresult
        have hcloses : (cfg.passage governor (arrivals i)).Refuses refused := by
          rw [hpassage]
          rfl
        obtain ⟨hresponse, happlied, hlimited⟩ := passage_refuses hcloses
        exact Or.inr ⟨hresponse, happlied, hlimited, hnone, hwaiting⟩
    · rw [hrefused] at hresult
      obtain rfl := Option.some.inj hresult
      obtain ⟨hresponse, happlied, hlimited⟩ := passage_refuses (haway i refused hturned)
      exact Or.inr ⟨hresponse, happlied, hlimited, hnone, hwaiting⟩

/-- The routes with the limiter in front of them. -/
theorem behind_start (turnedAway : ℕ → Except Failure GatewayReply → Prop) :
    Behind .handled (fun i =>
      http.createRoutes svc (arrivals i).request) (fun i => cfg.passage governor (arrivals i)) turnedAway
      (http.start svc w fun i => (arrivals i).request) (http.gatewayStart svc governor cfg w arrivals) :=
  Behind.start _ _ _ _ _ _

end Refinement

/-- The limiter takes requests away and nothing else, whatever it answers: every run behind it shows a run of
the routes, where each request that was turned away has done nothing. And a run of the routes whose limited
requests it admits when they begin is shown by one behind it. -/
theorem gateway_refines (http : Http) (svc : AuthService) (governor : Governor γ) (cfg : RateLimitConfig)
    (w : World) (arrivals : ℕ → Arrival) :
    (∀ d : GatewaySystem γ,
      (svc.gateway governor).Reaches (fun _ _ => True) (http.gatewayStart svc governor cfg w arrivals) d →
      ∃ c : HttpSystem, svc.machine.Reaches (fun _ _ => True) (http.start svc w fun i => (arrivals i).request) c ∧
        Shows http svc governor cfg arrivals c d) ∧
    ∀ c : HttpSystem, svc.machine.Reaches (fun _ _ => True) (http.start svc w fun i => (arrivals i).request) c →
      cfg.Admits governor arrivals c.log →
        ∃ d : GatewaySystem γ,
          (svc.gateway governor).Reaches (fun _ _ => True) (http.gatewayStart svc governor cfg w arrivals) d ∧
            Shows http svc governor cfg arrivals c d := by
  constructor
  · intro d hrun
    obtain ⟨c, hreaches, hbehind⟩ := Reaches.behind hrun (behind_start _)
    exact ⟨c, hreaches, shows_of_behind hbehind fun _ _ hrefused => hrefused⟩
  · intro c hrun hadmits
    obtain ⟨g', hlets⟩ := letsIn_of_admits hadmits
    obtain ⟨d, hreaches, hbehind, -⟩ := Reaches.ahead hrun rfl rfl (behind_start _) (fun _ => rfl) hlets
    exact ⟨d, hreaches, shows_of_behind hbehind fun _ _ hnever => hnever.elim⟩

section Runs

open Reference RateLimitConfig

/-- Registrations that come in from one client. -/
def crowd (i : ℕ) : Arrival := ⟨some someClient, registrations i⟩

/-- The first of them is admitted, so the run behind the default limiter in which it succeeds exists. -/
theorem gateway_refines_registration : ∃ d : GatewaySystem (CellRate × (IpAddr → ℕ)),
    (verifyingService.gateway textbookGovernor).Reaches (fun _ _ => True)
        (verifyingHttp.gatewayStart verifyingService textbookGovernor default world crowd) d ∧
      Shows verifyingHttp verifyingService textbookGovernor default crowd registered d := by
  have hrun :=
    verifyingService.executor.play_reaches (moves 0 7 1) (verifyingHttp.start verifyingService world registrations)
  have hchecks : checksOf crowd registered.log = [(someClient, 0)] := by decide +kernel
  refine (gateway_refines verifyingHttp verifyingService textbookGovernor default world crowd).2 registered hrun ?_
  rintro g happlied
  obtain ⟨g', rate, happlied', hkeeps, -⟩ := exists_limiter textbookGovernor_documented
    (rfl : (default : RateLimitConfig).disabled = false) (by decide)
  obtain rfl := Option.some.inj (happlied.symm.trans happlied')
  refine ⟨fun _ _ _ => rfl, ?_⟩
  rw [hchecks]
  refine ⟨?_, trivial⟩
  have hfirst := hkeeps [] someClient 0
  rw [Limiter.after] at hfirst
  rw [hfirst]
  exact if_pos (Nat.zero_le _)

end Runs

section Throttling

variable {http : Http} {svc : AuthService} {governor : Governor γ} {cfg : RateLimitConfig} {w : World}
  {arrivals : ℕ → Arrival} {d : GatewaySystem γ} {rate : CellRate} {g : γ}

/-- A limited request asks for its client first, acts only when admitted, and is turned away only when refused. -/
def asksFirst (key : Option IpAddr) :
    Protocol (GatedAction IpAddr Action) (GatedReply Verdict Action.Reply) GatewayReply
    where
  guard h
    | .ask ip => key = some ip ∧ h = []
    | .own _ => ∃ ip time, key = some ip ∧ ⟨.ask ip, ⟨time, none⟩⟩ ∈ h
  result h
    | .handled _ => True
    | .throttled response => (key = none ∧ response = rateLimitErrorHandler .unableToExtractKey) ∨
        ∃ ip time wait, key = some ip ∧ h = [⟨.ask ip, ⟨time, some wait⟩⟩] ∧
          response = rateLimitErrorHandler (.tooManyRequests (wait / fromSecs 1))

/-- A limited request asks the limiter for its client before it does anything. -/
theorem obeys_asksFirst (happlied : cfg.applyAuthRateLimit governor = some g) {arrival : Arrival}
    (hlimited : arrival.request.limited = true) :
    (http.createRoutesWithRateLimit svc governor cfg arrival).Obeys (asksFirst arrival.key) [] := by
  simp only [Http.createRoutesWithRateLimit, RateLimitConfig.passage, happlied, hlimited, if_true]
  cases hkey : arrival.key with
  | none => exact Or.inl ⟨rfl, rfl⟩
  | some ip =>
    refine ⟨⟨rfl, rfl⟩, fun verdict => ?_⟩
    obtain ⟨time, wait⟩ := verdict
    cases wait with
    | none =>
      refine obeys_ungated (fun h' a hsuffix => ⟨ip, time, rfl, ?_⟩) fun _ _ => trivial
      exact hsuffix.subset List.mem_cons_self
    | some wait => exact Or.inr ⟨ip, time, wait, rfl, rfl, rfl⟩

/-- A request to any other route does not ask and is not turned away. -/
def neverAsks : Protocol (GatedAction IpAddr Action) (GatedReply Verdict Action.Reply) GatewayReply where
  guard _
    | .ask _ => False
    | .own _ => True
  result _
    | .handled _ => True
    | .throttled _ => False

/-- How a request behaves at the limiter. -/
def atLimiter (arrival : Arrival) :
    Protocol (GatedAction IpAddr Action) (GatedReply Verdict Action.Reply) GatewayReply :=
  if arrival.request.limited then asksFirst arrival.key else neverAsks

/-- Every request behaves at the limiter as its route demands. -/
theorem obeys_atLimiter (happlied : cfg.applyAuthRateLimit governor = some g) (arrival : Arrival) :
    (http.createRoutesWithRateLimit svc governor cfg arrival).Obeys (atLimiter arrival) [] := by
  cases hlimited : arrival.request.limited with
  | true =>
    rw [atLimiter, if_pos hlimited]
    exact obeys_asksFirst happlied hlimited
  | false =>
    have hfree : cfg.passage governor arrival = .free := by
      rw [RateLimitConfig.passage, happlied, hlimited]
      rfl
    rw [atLimiter, hlimited, Http.createRoutesWithRateLimit, hfree]
    exact obeys_ungated (fun _ _ _ => trivial) fun _ _ => trivial

/-- The limiter does its work in a run, with this burst and interval in nanoseconds. -/
structure Throttles (burst interval : ℕ) (arrivals : ℕ → Arrival) (d : GatewaySystem γ) : Prop where
  /-- A limited request does nothing before its client was admitted for it. -/
  admittedFirst : ∀ e older, e :: older <:+ d.log → (arrivals e.caller).request.limited = true →
    ∀ a, e.action = .own a → ∃ ip time, (arrivals e.caller).key = some ip ∧
    Admitted { d with log := older } ip e.caller time
  /-- In no window are more requests of a client admitted than the burst and the intervals that fit into it. -/
  inWindow : ∀ (ip : IpAddr) (start width : ℕ) (requests : Finset ℕ),
    (∀ i ∈ requests, ∃ time, Admitted d ip i time ∧ start ≤ time ∧ time ≤ start + width) →
    requests.card ≤ burst + width / interval
  /-- The times of checks were read from the clock by then. -/
  inTime : ∀ e ∈ d.log, ∀ ip verdict, e.entry = ⟨.ask ip, verdict⟩ → verdict.time ≤ e.before.1.nanos
  /-- A request is turned away only if it is limited and its client is not known, or another request of the
  same client was admitted less than an interval before; it is told to wait for no longer than what is left of
  the interval. -/
  turnedAway : ∀ i response, (d.calls i).result? = some (.ok (.throttled response)) →
    (arrivals i).request.limited = true ∧
      (((arrivals i).key = none ∧ response = rateLimitErrorHandler .unableToExtractKey) ∨
        ∃ ip time wait, ∃ e ∈ d.log, (arrivals i).key = some ip ∧ e.caller = i ∧
        e.entry = ⟨.ask ip, ⟨time, some wait⟩⟩ ∧
          response = rateLimitErrorHandler (.tooManyRequests (wait / fromSecs 1)) ∧
          ∃ j time', j ≠ i ∧ (arrivals j).key = some ip ∧ Admitted d ip j time' ∧ time < time' + interval ∧
            wait ≤ time' + interval - e.before.1.nanos)

variable (hrun : (svc.gateway governor).Reaches (fun _ _ => True) (http.gatewayStart svc governor cfg w arrivals) d)
  (happlied : cfg.applyAuthRateLimit governor = some g)

include hrun happlied

/-- Whoever was admitted is the client of a limited request. -/
theorem key_of_admitted {ip : IpAddr} {i time : ℕ} (hadmitted : Admitted d ip i time) :
    (arrivals i).key = some ip := by
  obtain ⟨e, he, rfl, hentry⟩ := hadmitted
  obtain ⟨past, hguard⟩ := hrun.guard_of_mem rfl he (obeys_atLimiter happlied (arrivals e.caller))
  obtain ⟨j, before, action, reply⟩ := e
  cases hentry
  unfold atLimiter at hguard
  split at hguard
  · exact hguard.1
  · exact hguard.elim

/-- The refusal of a request is all that the request has seen, so whoever was admitted before is another one. -/
theorem admitted_another (hkeeps : governor.Keeps rate g) {ip : IpAddr} {i time wait : ℕ}
    (hhistory : ownHistory i d.log = [⟨.ask ip, ⟨time, some wait⟩⟩]) :
    ∃ e ∈ d.log, e.caller = i ∧ e.entry = ⟨.ask ip, ⟨time, some wait⟩⟩ ∧
      ∃ j time', j ≠ i ∧ (arrivals j).key = some ip ∧ Admitted d ip j time' ∧ time < time' + rate.period ∧
        wait ≤ time' + rate.period - e.before.1.nanos := by
  have hmem : (⟨.ask ip, ⟨time, some wait⟩⟩ : Σ a : GatedAction IpAddr Action, GatedReply Verdict Action.Reply a) ∈
      ownHistory i d.log := by
    rw [hhistory]
    exact List.mem_cons_self
  obtain ⟨e, he, hcaller, hentry⟩ := mem_ownHistory.mp hmem
  obtain ⟨older, hsuffix⟩ := exists_suffix_of_mem he
  obtain ⟨f, hf, time', hadmitted, hsoon, hwait⟩ :=
    admitted_before_refused hkeeps.option hrun rfl happlied hsuffix hentry
  have hflog : f ∈ d.log := hsuffix.subset (List.mem_cons_of_mem e hf)
  have hother : f.caller ≠ i := by
    intro heq
    have hown := mem_ownHistory.mpr ⟨f, hflog, heq, hadmitted⟩
    rw [hhistory, List.mem_singleton] at hown
    cases hown
  have hseen : Admitted d ip f.caller time' := ⟨f, hflog, rfl, hadmitted⟩
  exact ⟨e, he, hcaller, hentry, f.caller, time', hother, key_of_admitted hrun happlied hseen, hseen, hsoon, hwait⟩

/-- A limiter that keeps a rate does its work in every run. -/
theorem throttles_of_run (hkeeps : governor.Keeps rate g) : Throttles rate.burst rate.period arrivals d where
  admittedFirst e older hsuffix hlimited a haction := by
    have hguard :=
      hrun.guard_at (fun i => atLimiter (arrivals i)) (fun i => obeys_atLimiter happlied (arrivals i)) rfl
      hsuffix
    simp only [atLimiter, hlimited, if_true, haction] at hguard
    obtain ⟨ip, time, hkey, hmem⟩ := hguard
    obtain ⟨f, hf, hcaller, hentry⟩ := mem_ownHistory.mp hmem
    exact ⟨ip, time, hkey, f, hf, hcaller, hentry⟩
  inWindow ip start width requests hrequests := by
    have hcallers : ∀ i ∈ requests, ∃ e ∈ d.log, e.caller = i ∧
        ∃ t, e.entry = ⟨.ask ip, ⟨t, none⟩⟩ ∧ start ≤ t ∧ t ≤ start + width := by
      intro i hi
      obtain ⟨time, ⟨e, he, hcaller, hentry⟩, hstart, hend⟩ := hrequests i hi
      exact ⟨e, he, hcaller, time, hentry, hstart, hend⟩
    exact admitted_in_window hkeeps.option hrun rfl happlied hcallers
  inTime e he ip verdict hentry := checked_in_time hrun rfl he hentry
  turnedAway i response hresult := by
    have hleft := (hrun.leadsTo rfl i).obeys (atLimiter (arrivals i)) _ (obeys_atLimiter happlied (arrivals i))
    rw [result?_eq_some.mp hresult] at hleft
    unfold atLimiter at hleft
    split at hleft
    · rename_i hlimited
      refine ⟨hlimited, ?_⟩
      rcases hleft with hunknown | ⟨ip, time, wait, hkey, hhistory, hresponse⟩
      · exact Or.inl hunknown
      · obtain ⟨e, he, hcaller, hentry, hanother⟩ := admitted_another hrun happlied hkeeps hhistory
        exact Or.inr ⟨ip, time, wait, e, he, hkey, hcaller, hentry, hresponse, hanother⟩
    · exact hleft.elim

end Throttling

/-- In every run behind an enabled limiter, whatever the requests and however they interleave: a limited
request does nothing before its client was admitted for it, no client is admitted more often in any window
than the burst and the intervals that fit into it, and a request is turned away only if its client is not
known or had another one admitted less than an interval before. -/
theorem gateway_throttles (http : Http) (svc : AuthService) (governor : Governor γ)
    (hgovernor : governor.Documented) (cfg : RateLimitConfig) (w : World) (arrivals : ℕ → Arrival)
    (d : GatewaySystem γ)
    (hrun : (svc.gateway governor).Reaches (fun _ _ => True) (http.gatewayStart svc governor cfg w arrivals) d)
    (henabled : cfg.disabled = false) (hburst : 0 < cfg.burst.toNat) :
    Throttles cfg.burst.toNat cfg.replenishInterval arrivals d := by
  obtain ⟨g, rate, happlied, hkeeps, hsame, hinterval⟩ := RateLimitConfig.exists_limiter hgovernor henabled hburst
  rw [← hsame, ← hinterval]
  exact throttles_of_run hrun happlied hkeeps

section Runs

open Reference RateLimitConfig

/-- Six requests in a minute, and no two at once. -/
def tightLimit : RateLimitConfig := ⟨6, 1, false⟩

/-- What the limiter answers is a step of the one that asks. -/
theorem step_asks {svc : AuthService} {governor : Governor γ} {d : GatewaySystem γ} {i : ℕ} {ip : IpAddr}
    {verdict : Verdict} {g : Option γ} {p : AuthM HttpReply}
    (hwaits : d.calls i = Program.gated .handled ip limiterAnswer p)
    (hanswer : (governor.option.gate World.nanos).answer ip d.shared.1 d.shared.2 verdict g) :
    ∃ d', (svc.gateway governor).Step d d' ∧ d'.shared = (d.shared.1, g) ∧ (∀ j, j ≠ i → d'.calls j = d.calls j) ∧
      ∀ refused, limiterAnswer verdict = some refused → d'.calls i = .done refused := by
  have hperform : (svc.gateway governor).perform (.ask ip) d.shared verdict (d.shared.1, g) := ⟨rfl, hanswer⟩
  refine ⟨_, .call hwaits hperform, rfl, fun j hj => ?_, fun refused hrefused => ?_⟩
  · exact Function.update_of_ne hj _ _
  · simp only [Config.advance, Function.update_self, hrefused]

/-- Two of the crowd at the same time: one is admitted, the other has to wait. -/
theorem exists_crowded : ∃ d : GatewaySystem (CellRate × (IpAddr → ℕ)),
    (service.gateway textbookGovernor).Reaches (fun _ _ => True)
        (verifyingHttp.gatewayStart service textbookGovernor tightLimit world crowd) d ∧
      (d.calls 1).result? = some (.ok (.throttled (rateLimitErrorHandler (.tooManyRequests 10)))) := by
  have hpassage (i : ℕ) : tightLimit.passage textbookGovernor (crowd i) = .asks someClient limiterAnswer := rfl
  let start := verifyingHttp.gatewayStart service textbookGovernor tightLimit world crowd
  have hstart (i : ℕ) : start.calls i =
      Program.gated .handled someClient limiterAnswer (verifyingHttp.createRoutes service (registrations i)) := by
    simp only [start, Http.gatewayStart, Config.start, Http.createRoutesWithRateLimit, hpassage]
    rfl
  obtain ⟨next, hfirst, hshared, hothers, -⟩ :=
    @step_asks _ service textbookGovernor _ _ _ ⟨0, none⟩ _ _ (hstart 0) ⟨Nat.zero_le _, rfl, rfl⟩
  have hwaits := (hothers 1 (by decide)).trans (hstart 1)
  have hrefuses : (textbookGovernor.option.gate World.nanos).answer someClient next.shared.1 next.shared.2
      ⟨0, some (fromSecs 10)⟩ next.shared.2 := by
    rw [hshared]
    exact ⟨Nat.zero_le _, rfl, rfl⟩
  obtain ⟨d, hsecond, -, -, hrefused⟩ := step_asks hwaits hrefuses
  refine ⟨d, (Relation.ReflTransGen.single ⟨hfirst, trivial⟩).tail ⟨hsecond, trivial⟩, ?_⟩
  rw [hrefused _ rfl]
  rfl

/-- Of two requests of a client at once, the second is turned away by a limiter without a burst, and told to
wait. -/
theorem gateway_throttles_crowd : ∃ d : GatewaySystem (CellRate × (IpAddr → ℕ)),
    (d.calls 1).result? = some (.ok (.throttled (rateLimitErrorHandler (.tooManyRequests 10)))) ∧
      Throttles 1 (fromSecs 10) crowd d := by
  obtain ⟨d, hrun, hresult⟩ := exists_crowded
  exact ⟨d, hresult,
    gateway_throttles verifyingHttp service textbookGovernor textbookGovernor_documented tightLimit world crowd
    d hrun rfl (by decide)⟩

end Runs

end RustPressAuth
