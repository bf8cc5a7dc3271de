import RustPressAuth.Atomic.Interleaving

/-!
# Calls behind a gate

A gate is asked before a call begins. It answers from a state of its own and what it sees
of the shared state, and a call that it refuses ends with the refusal. Other calls pass
without asking.

A run of calls behind a gate is a run of the calls themselves in which the refused ones
never begin: the gate only takes calls away. So whatever holds of every run of the calls
holds of the calls behind the gate. A run of the calls is one behind the gate when the gate,
asked before each of them begins, lets each of them in.
-/

namespace Atomic

variable {ι Key V A : Type} {R : A → Type} {ε α β σ γ : Type}

/-- The actions of calls behind a gate: to ask it for a key, and their own. -/
inductive GatedAction (Key A : Type) where
  | ask (key : Key)
  | own (a : A)

/-- The gate answers with a verdict. -/
@[reducible] def GatedReply (V : Type) (R : A → Type) : GatedAction Key A → Type
  | .ask _ => V
  | .own a => R a

/-- How a gate answers: what it sees, its state before, the verdict and its state after. -/
structure Gatekeeper (Key V σ γ : Type) where
  answer : Key → σ → γ → V → γ → Prop

namespace Program

/-- A program that does not ask, with its value tagged. -/
def ungated (tag : α → β) : Program A R ε α → Program (GatedAction Key A) (GatedReply V R) ε β
  | done (.ok v) => done (.ok (tag v))
  | done (.error e) => done (.error e)
  | act a next => act (.own a) fun r => (next r).ungated tag

/-- A program that asks for a key first and ends where it is refused. -/
def gated (tag : α → β) (key : Key) (refusal : V → Option (Except ε β)) (p : Program A R ε α) :
    Program (GatedAction Key A) (GatedReply V R) ε β :=
  act (.ask key) fun verdict =>
    match refusal verdict with
    | none => p.ungated tag
    | some refused => done refused

/-- A program ends with the tagged result of what it was made from. -/
theorem result?_ungated (tag : α → β) (p : Program A R ε α) :
    (p.ungated tag : Program (GatedAction Key A) (GatedReply V R) ε β).result? =
      p.result?.map (Except.map tag) := by
  cases p with
  | done result => cases result <;> rfl
  | act a next => rfl

/-- The first action of a program that is carried behind a gate is an action of its own. -/
theorem ungated_eq_act {tag : α → β} {p : Program A R ε α} {b : GatedAction Key A}
    {next : GatedReply V R b → Program (GatedAction Key A) (GatedReply V R) ε β} (h : p.ungated tag = act b next) :
    ∃ a rest, p = act a rest ∧ b = .own a ∧ ∀ r r', HEq r r' → next r = (rest r').ungated tag := by
  cases p with
  | done result => cases result <;> cases h
  | act a rest =>
    cases h
    refine ⟨a, rest, rfl, rfl, fun r r' heq => ?_⟩
    obtain rfl := eq_of_heq heq
    rfl

/-- A program that does not ask obeys a protocol that asks nothing of what comes after its history. -/
theorem obeys_ungated {tag : α → β} {π : Protocol (GatedAction Key A) (GatedReply V R) β} {p : Program A R ε α}
    {h : History (GatedAction Key A) (GatedReply V R)} (hguard : ∀ h' a, h <:+ h' → π.guard h' (.own a))
    (hresult : ∀ h' v, π.result h' (tag v)) : (p.ungated tag).Obeys π h := by
  induction p generalizing h with
  | done result =>
    cases result with
    | ok v => exact hresult h v
    | error e => trivial
  | act a next ih =>
    refine ⟨hguard h a List.suffix_rfl, fun r => ih r fun h' a' hsuffix => hguard h' a' ?_⟩
    exact (List.suffix_cons _ _).trans hsuffix

end Program

open Program

/-- Where a call behind a gate starts: open to all, or after the gate was asked, or already ended. -/
inductive Passage (Key V ε β : Type) where
  | free
  | asks (key : Key) (refusal : V → Option (Except ε β))
  | closed (result : Except ε β)

/-- The program of a call that enters there. -/
def Passage.enter (tag : α → β) (p : Program A R ε α) :
    Passage Key V ε β → Program (GatedAction Key A) (GatedReply V R) ε β
  | .free => p.ungated tag
  | .asks key refusal => p.gated tag key refusal
  | .closed result => done result

/-- An event of a call's own, without the state of the gate. -/
def Event.own? (e : Event ι (GatedAction Key A) (GatedReply V R) (σ × γ)) : Option (Event ι A R σ) :=
  match e with
  | ⟨_, _, .ask _, _⟩ => none
  | ⟨i, before, .own a, r⟩ => some ⟨i, before.1, a, r⟩

/-- The results with which the gate turns a call away. -/
def Passage.Refuses : Passage Key V ε β → Except ε β → Prop
  | .free, _ => False
  | .asks _ refusal, refused => ∃ verdict, refusal verdict = some refused
  | .closed result, refused => refused = result

/-- A gate that is asked before the first action of each call of a log lets each of them in. -/
inductive LetsIn [DecidableEq ι] (gate : Gatekeeper Key V σ γ) (passage : ι → Passage Key V ε β) (g : γ) :
    List (Event ι A R σ) → γ → Prop
  | start : LetsIn gate passage g [] g
  | begun {log : List (Event ι A R σ)} {g' : γ} {e : Event ι A R σ} (h : LetsIn gate passage g log g')
      (hbegun : ownHistory e.caller log ≠ []) : LetsIn gate passage g (e :: log) g'
  | free {log : List (Event ι A R σ)} {g' : γ} {e : Event ι A R σ} (h : LetsIn gate passage g log g')
      (hnew : ownHistory e.caller log = []) (hfree : passage e.caller = .free) : LetsIn gate passage g (e :: log) g'
  | asked {log : List (Event ι A R σ)} {g' g'' : γ} {e : Event ι A R σ} {key : Key}
      {refusal : V → Option (Except ε β)} {verdict : V} (h : LetsIn gate passage g log g')
      (hnew : ownHistory e.caller log = []) (hasks : passage e.caller = .asks key refusal)
      (hanswer : gate.answer key e.before g' verdict g'') (hadmits : refusal verdict = none) :
      LetsIn gate passage g (e :: log) g''

/-- A gate that nobody asks lets everybody in. -/
theorem letsIn_of_free [DecidableEq ι] {gate : Gatekeeper Key V σ γ} {passage : ι → Passage Key V ε β} (g : γ)
    (log : List (Event ι A R σ)) (hfree : ∀ e ∈ log, passage e.caller = .free) : LetsIn gate passage g log g := by
  induction log with
  | nil => exact .start
  | cons e log ih =>
    have hlets := ih fun f hf => hfree f (List.mem_cons_of_mem e hf)
    by_cases hnew : ownHistory e.caller log = []
    · exact .free hlets hnew (hfree e List.mem_cons_self)
    · exact .begun hlets hnew

namespace Machine

/-- The machine of calls behind a gate: the gate answers at once and sees the shared state. -/
def gated (M : Machine A R σ) (gate : Gatekeeper Key V σ γ) :
    Machine (GatedAction Key A) (GatedReply V R) (σ × γ) where
  perform
    | .ask key, s, verdict, s' => s'.1 = s.1 ∧ gate.answer key s.1 s.2 verdict s'.2
    | .own a, s, r, s' => M.perform a s.1 r s'.1 ∧ s'.2 = s.2
  idle s s' := M.idle s.1 s'.1 ∧ s'.2 = s.2

variable [DecidableEq ι] {M : Machine A R σ} {gate : Gatekeeper Key V σ γ}

/-- A run of calls behind a gate, and the run of the calls themselves; calls may have been turned away with
some results. -/
structure Behind (tag : α → β) (calls : ι → Program A R ε α) (passage : ι → Passage Key V ε β)
    (turnedAway : ι → Except ε β → Prop) (c : Config ι A R ε α σ)
    (d : Config ι (GatedAction Key A) (GatedReply V R) ε β (σ × γ)) : Prop where
  shared : d.shared.1 = c.shared
  log : c.log = d.log.filterMap Event.own?
  /-- A call goes on as it would without the gate, or has not begun. -/
  calls : ∀ i, d.calls i = (c.calls i).ungated tag ∨
    (c.calls i = calls i ∧ ownHistory i c.log = [] ∧
      (d.calls i = (passage i).enter tag (calls i) ∨ ∃ refused, d.calls i = done refused ∧ turnedAway i refused))

/-- Calls that have not begun. -/
theorem Behind.start (tag : α → β) (calls : ι → Program A R ε α) (passage : ι → Passage Key V ε β)
    (turnedAway : ι → Except ε β → Prop) (s : σ) (g : γ) :
    Behind tag calls passage turnedAway (Config.start s calls)
      (Config.start (s, g) fun i => (passage i).enter tag (calls i)) where
  shared := rfl
  log := rfl
  calls _ := Or.inr ⟨rfl, rfl, Or.inl rfl⟩

variable {tag : α → β} {calls : ι → Program A R ε α} {passage : ι → Passage Key V ε β}
  {turnedAway : ι → Except ε β → Prop} {c c' : Config ι A R ε α σ}
  {d d' : Config ι (GatedAction Key A) (GatedReply V R) ε β (σ × γ)}

/-- Both runs perform an action of a call that goes on. -/
theorem Behind.own (h : Behind tag calls passage turnedAway c d) {i : ι} {a : A} {r : R a}
    {rest : R a → Program A R ε α} {next : Program (GatedAction Key A) (GatedReply V R) ε β} (s' : σ × γ)
    (hnext : next = (rest r).ungated tag) :
    Behind tag calls passage turnedAway (c.advance i a r s'.1 (rest r)) (d.advance i (.own a) r s' next) where
  shared := rfl
  log := by simp only [Config.advance, List.filterMap_cons, Event.own?, h.shared, h.log]
  calls j := by
    by_cases hj : j = i
    · subst hj
      left
      simp only [Config.advance, Function.update_self]
      exact hnext
    · simp only [Config.advance, Function.update_of_ne hj, ownHistory_cons, if_neg (Ne.symm hj)]
      exact h.calls j

/-- What the gate answers leaves all calls as they are but the one that asked. -/
theorem Behind.asked (h : Behind tag calls passage turnedAway c d) {i : ι} {key : Key} {verdict : V} {s' : σ × γ}
    {rest : Program (GatedAction Key A) (GatedReply V R) ε β} (hshared : s'.1 = d.shared.1)
    (hi : rest = (c.calls i).ungated tag ∨ (c.calls i = calls i ∧ ownHistory i c.log = [] ∧
      ∃ refused, rest = done refused ∧ turnedAway i refused)) :
    Behind tag calls passage turnedAway c (d.advance i (.ask key) verdict s' rest) where
  shared := hshared.trans h.shared
  log := by simp only [Config.advance, List.filterMap_cons, Event.own?, h.log]
  calls j := by
    by_cases hj : j = i
    · subst hj
      simp only [Config.advance, Function.update_self]
      exact hi.imp_right fun hunbegun => ⟨hunbegun.1, hunbegun.2.1, Or.inr hunbegun.2.2⟩
    · simp only [Config.advance, Function.update_of_ne hj]
      exact h.calls j

/-- A step behind a gate is a step of the calls themselves, or none. -/
theorem Behind.step (h : Behind tag calls passage (fun i => (passage i).Refuses) c d)
    (hstep : (M.gated gate).Step d d') :
    ∃ c', (c' = c ∨ M.Step c c') ∧ Behind tag calls passage (fun i => (passage i).Refuses) c' d' := by
  cases hstep with
  | @idle s' hidle =>
    obtain ⟨hidle, -⟩ := hidle
    rw [h.shared] at hidle
    exact ⟨{ c with shared := s'.1 }, Or.inr (.idle hidle), rfl, h.log, h.calls⟩
  | @call i b next r s' hcall hperform =>
    have hfollows (hopen : d.calls i = (c.calls i).ungated tag) : ∃ c', (c' = c ∨ M.Step c c') ∧
        Behind tag calls passage (fun i => (passage i).Refuses) c' (d.advance i b r s' (next r)) := by
      obtain ⟨a, rest, hrest, rfl, hnext⟩ := ungated_eq_act (hopen.symm.trans hcall)
      have howned : M.perform a d.shared.1 r s'.1 := hperform.1
      rw [h.shared] at howned
      exact ⟨c.advance i a r s'.1 (rest r), Or.inr (.call hrest howned), h.own s' (hnext r r HEq.rfl)⟩
    rcases h.calls i with hopen | ⟨hwaiting, hnone, henters | hended⟩
    · exact hfollows hopen
    · cases hpassage : passage i with
      | free =>
        rw [hpassage, Passage.enter, ← hwaiting] at henters
        exact hfollows henters
      | closed result =>
        rw [hpassage, Passage.enter, hcall] at henters
        cases henters
      | asks key refusal =>
        rw [hpassage, Passage.enter, Program.gated, hcall] at henters
        obtain ⟨rfl, hnext⟩ := Program.act.inj henters
        obtain rfl := eq_of_heq hnext
        refine ⟨c, Or.inl rfl, h.asked hperform.1 ?_⟩
        dsimp only
        cases hverdict : refusal r with
        | none => exact Or.inl (by rw [hwaiting])
        | some refused => exact Or.inr ⟨hwaiting, hnone, refused, rfl, by rw [hpassage]; exact ⟨r, hverdict⟩⟩
    · obtain ⟨result, hdone, -⟩ := hended
      rw [hdone] at hcall
      cases hcall

/-- Every run behind a gate is a run of the calls themselves. -/
theorem Reaches.behind {ok : Config ι (GatedAction Key A) (GatedReply V R) ε β (σ × γ) →
      Config ι (GatedAction Key A) (GatedReply V R) ε β (σ × γ) → Prop}
    (hrun : (M.gated gate).Reaches ok d d') (h : Behind tag calls passage (fun i => (passage i).Refuses) c d) :
    ∃ c', M.Reaches (fun _ _ => True) c c' ∧ Behind tag calls passage (fun i => (passage i).Refuses) c' d' := by
  induction hrun with
  | refl => exact ⟨c, .refl, h⟩
  | tail _ hstep ih =>
    obtain ⟨b, hbefore, hbehind⟩ := ih
    obtain ⟨c', rfl | hnext, hbehind'⟩ := hbehind.step hstep.1
    · exact ⟨_, hbefore, hbehind'⟩
    · exact ⟨c', hbefore.tail ⟨hnext, trivial⟩, hbehind'⟩

/-- A call that goes on performs its next action behind the gate as well. -/
theorem Behind.step_own (h : Behind tag calls passage turnedAway c d) {i : ι} {a : A}
    {rest : R a → Program A R ε α} {r : R a} {s' : σ} (hopen : d.calls i = (c.calls i).ungated tag)
    (hcall : c.calls i = act a rest) (hperform : M.perform a c.shared r s') :
    ∃ d', (M.gated gate).Step d d' ∧ Behind tag calls passage turnedAway (c.advance i a r s' (rest r)) d' ∧
      (∀ j, j ≠ i → d'.calls j = d.calls j) ∧ d'.shared.2 = d.shared.2 := by
  rw [hcall, ungated] at hopen
  rw [← h.shared] at hperform
  have hown : (M.gated gate).Step d (d.advance i (.own a) r (s', d.shared.2) _) := .call hopen ⟨hperform, rfl⟩
  exact ⟨_, hown, h.own (s', d.shared.2) rfl, fun j hj => Function.update_of_ne hj _ _, rfl⟩

/-- A call that the gate lets in goes on as it would without the gate. -/
theorem Behind.step_asked (h : Behind tag calls passage turnedAway c d) {i : ι} {key : Key}
    {refusal : V → Option (Except ε β)} {verdict : V} {g' : γ} (hunbegun : c.calls i = calls i)
    (hwaits : d.calls i = (passage i).enter tag (calls i)) (hasks : passage i = .asks key refusal)
    (hanswer : gate.answer key c.shared d.shared.2 verdict g') (hadmits : refusal verdict = none) :
    ∃ d', (M.gated gate).Step d d' ∧ Behind tag calls passage turnedAway c d' ∧
    d'.calls i = (c.calls i).ungated tag ∧
      (∀ j, j ≠ i → d'.calls j = d.calls j) ∧ d'.shared.2 = g' := by
  rw [hasks, Passage.enter, Program.gated] at hwaits
  rw [← h.shared] at hanswer
  have hstep : (M.gated gate).Step d (d.advance i (.ask key) verdict (d.shared.1, g') _) :=
    .call hwaits ⟨rfl, hanswer⟩
  simp only [hadmits] at hstep
  have hrest : ((calls i).ungated tag : Program (GatedAction Key A) (GatedReply V R) ε β) =
    (c.calls i).ungated tag := by
    rw [hunbegun]
  refine ⟨_, hstep, h.asked rfl (Or.inl hrest), ?_, fun j hj => Function.update_of_ne hj _ _, rfl⟩
  simp only [Config.advance, Function.update_self]
  exact hrest

/-- A run of the calls in which the gate lets in each call before its first action is one behind the gate. -/
theorem Reaches.ahead {ok : Config ι A R ε α σ → Config ι A R ε α σ → Prop} (hrun : M.Reaches ok c c')
    (hnew : c.log = []) (hcalls : c.calls = calls) (h : Behind tag calls passage (fun _ _ => False) c d)
    (hwaits : ∀ i, d.calls i = (passage i).enter tag (calls i)) {g' : γ}
    (hlets : LetsIn gate passage d.shared.2 c'.log g') :
    ∃ d', (M.gated gate).Reaches (fun _ _ => True) d d' ∧ Behind tag calls passage (fun _ _ => False) c' d' ∧
      (∀ i, ownHistory i c'.log = [] → c'.calls i = calls i ∧ d'.calls i = (passage i).enter tag (calls i)) ∧
      d'.shared.2 = g' := by
  induction hrun generalizing g' with
  | refl =>
    rw [hnew] at hlets
    cases hlets
    exact ⟨d, .refl, h, fun i _ => ⟨congrFun hcalls i, hwaits i⟩, rfl⟩
  | @tail b c' _ hstep ih =>
    cases hstep.1 with
    | @idle s' hidle =>
      obtain ⟨d₁, hbefore, hbehind, hlater, hgate⟩ := ih hlets
      rw [← hbehind.shared] at hidle
      refine ⟨{ d₁ with shared := (s', d₁.shared.2) }, hbefore.tail ⟨.idle ⟨hidle, rfl⟩, trivial⟩,
        ⟨rfl, ?_, ?_⟩, hlater, hgate⟩
      · exact hbehind.log
      · exact hbehind.calls
    | @call i a rest r s' hcall hperform =>
      have hstill {d₁ d₂ : Config ι (GatedAction Key A) (GatedReply V R) ε β (σ × γ)}
          (hlater : ∀ j, ownHistory j b.log = [] → b.calls j = calls j ∧
            d₁.calls j = (passage j).enter tag (calls j))
          (hsame : ∀ j, j ≠ i → d₂.calls j = d₁.calls j) (j : ι)
          (hj : ownHistory j (b.advance i a r s' (rest r)).log = []) :
          (b.advance i a r s' (rest r)).calls j = calls j ∧ d₂.calls j = (passage j).enter tag (calls j) := by
        have hother : j ≠ i := by
          rintro rfl
          rw [Config.advance, ownHistory_cons, if_pos rfl] at hj
          cases hj
        rw [Config.advance, ownHistory_cons, if_neg (Ne.symm hother)] at hj
        rw [hsame j hother]
        exact ⟨(Function.update_of_ne hother _ _).trans (hlater j hj).1, (hlater j hj).2⟩
      have hfinish {d₁ : Config ι (GatedAction Key A) (GatedReply V R) ε β (σ × γ)}
          (hbehind : Behind tag calls passage (fun _ _ => False) b d₁) (hopen : d₁.calls i =
            (b.calls i).ungated tag)
          (hbefore : (M.gated gate).Reaches (fun _ _ => True) d d₁)
          (hsame : ∀ d₂ : Config ι (GatedAction Key A) (GatedReply V R) ε β (σ × γ),
            (∀ j, j ≠ i → d₂.calls j = d₁.calls j) → ∀ j, ownHistory j (b.advance i a r s' (rest r)).log = [] →
              (b.advance i a r s' (rest r)).calls j = calls j ∧ d₂.calls j = (passage j).enter tag (calls j)) :
          ∃ d', (M.gated gate).Reaches (fun _ _ => True) d d' ∧
            Behind tag calls passage (fun _ _ => False) (b.advance i a r s' (rest r)) d' ∧
            (∀ j, ownHistory j (b.advance i a r s' (rest r)).log = [] →
              (b.advance i a r s' (rest r)).calls j = calls j ∧ d'.calls j = (passage j).enter tag (calls j)) ∧
            d'.shared.2 = d₁.shared.2 := by
        obtain ⟨d₂, hown, hbehind₂, hothers, hgate₂⟩ := hbehind.step_own hopen hcall hperform
        exact ⟨d₂, hbefore.tail ⟨hown, trivial⟩, hbehind₂, hsame d₂ hothers, hgate₂⟩
      cases hlets with
      | begun hlets hbegun =>
        obtain ⟨d₁, hbefore, hbehind, hlater, hgate⟩ := ih hlets
        have hopen : d₁.calls i = (b.calls i).ungated tag :=
          (hbehind.calls i).resolve_right fun hwaiting => hbegun hwaiting.2.1
        rw [← hgate]
        exact hfinish hbehind hopen hbefore fun d₂ => hstill hlater
      | free hlets hnever hfree =>
        obtain ⟨d₁, hbefore, hbehind, hlater, hgate⟩ := ih hlets
        have hopen : d₁.calls i = (b.calls i).ungated tag := by
          obtain ⟨hunbegun, henters⟩ := hlater i hnever
          rw [henters, hunbegun]
          exact congrArg (Passage.enter tag (calls i)) hfree
        rw [← hgate]
        exact hfinish hbehind hopen hbefore fun d₂ => hstill hlater
      | asked hlets hnever hasks hanswer hadmits =>
        obtain ⟨d₁, hbefore, hbehind, hlater, hgate⟩ := ih hlets
        obtain ⟨hunbegun, henters⟩ := hlater i hnever
        rw [← hgate] at hanswer
        obtain ⟨d₂, hask, hbehind₂, hopen, hothers, hgate₂⟩ :=
          hbehind.step_asked (M := M) hunbegun henters hasks hanswer hadmits
        rw [← hgate₂]
        exact hfinish hbehind₂ hopen (hbefore.tail ⟨hask, trivial⟩) fun d₃ hsame =>
          hstill hlater fun j hj => (hsame j hj).trans (hothers j hj)

end Machine

end Atomic
