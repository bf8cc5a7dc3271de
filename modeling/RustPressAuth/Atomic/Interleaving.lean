import Mathlib.Logic.Relation
import Mathlib.Data.List.Basic
import RustPressAuth.Atomic.Program

/-!
# Interleaved runs over a shared state

Any number of calls share one state. A step lets one call perform its next atomic
action, or lets the environment move on its own. The configuration keeps a log of
all actions performed, each with the caller, the reply and the shared state it was
performed on, so properties of a run are properties of its log.

A family of calls may be infinite: a call that never moves is a call never made.
The rule for invariants uses the protocol each call obeys; it is the only place
where the programs of the calls are looked at.
-/

namespace Atomic

open Program (History Protocol)

variable {ι A : Type} {R : A → Type} {ε α σ : Type}

/-- What an action may reply and do to the shared state, and how the state moves by itself. -/
structure Machine (A : Type) (R : A → Type) (σ : Type) where
  perform : (a : A) → σ → R a → σ → Prop
  idle : σ → σ → Prop

/-- One performed action: who performed it, on which state, and the reply. -/
structure Event (ι A : Type) (R : A → Type) (σ : Type) where
  caller : ι
  before : σ
  action : A
  reply : R action

/-- An event as its caller sees it. -/
def Event.entry (e : Event ι A R σ) : Σ a : A, R a := ⟨e.action, e.reply⟩

/-- The entry of an event is its action with the reply. -/
@[simp] theorem Event.entry_mk (i : ι) (s : σ) (a : A) (r : R a) :
    (⟨i, s, a, r⟩ : Event ι A R σ).entry = ⟨a, r⟩ := rfl

/-- The shared state, what is left of every call, and the log, most recent event first. -/
structure Config (ι A : Type) (R : A → Type) (ε α σ : Type) where
  shared : σ
  calls : ι → Program A R ε α
  log : List (Event ι A R σ)

/-- The actions one caller performed, most recent first. -/
def ownHistory [DecidableEq ι] (i : ι) (log : List (Event ι A R σ)) : History A R :=
  log.filterMap fun e => if e.caller = i then some e.entry else none

/-- Nobody has a history in the empty log. -/
@[simp] theorem ownHistory_nil [DecidableEq ι] (i : ι) :
    ownHistory i ([] : List (Event ι A R σ)) = [] := rfl

/-- An event is added to the history of its caller. -/
@[simp] theorem ownHistory_cons [DecidableEq ι] (i : ι) (e : Event ι A R σ)
    (log : List (Event ι A R σ)) :
    ownHistory i (e :: log) =
      if e.caller = i then e.entry :: ownHistory i log else ownHistory i log := by
  by_cases he : e.caller = i <;> simp [ownHistory, he]

/-- An entry of a caller's own history comes from an event of the log. -/
theorem mem_ownHistory [DecidableEq ι] {i : ι} {log : List (Event ι A R σ)} {x : Σ a : A, R a} :
    x ∈ ownHistory i log ↔ ∃ e ∈ log, e.caller = i ∧ e.entry = x := by
  simp only [ownHistory, List.mem_filterMap, Option.ite_none_right_eq_some, Option.some.injEq]

/-- Older logs give older histories. -/
theorem ownHistory_suffix [DecidableEq ι] (i : ι) {log log' : List (Event ι A R σ)} (h : log <:+ log') :
    ownHistory i log <:+ ownHistory i log' := by
  obtain ⟨newer, rfl⟩ := h
  exact ⟨ownHistory i newer, by simp [ownHistory]⟩

/-- Every point of a caller's own history was reached at an event of the log. -/
theorem exists_event_of_suffix [DecidableEq ι] {i : ι} {log : List (Event ι A R σ)} {x : Σ a : A, R a}
    {h : History A R} (hsuffix : (x :: h) <:+ ownHistory i log) :
    ∃ e older, (e :: older) <:+ log ∧ e.caller = i ∧ e.entry = x ∧ ownHistory i older = h := by
  induction log with
  | nil => exact absurd (List.suffix_nil.mp hsuffix) (List.cons_ne_nil _ _)
  | cons e log ih =>
    have hextend (hold : (x :: h) <:+ ownHistory i log) : ∃ f older, (f :: older) <:+ e :: log ∧
        f.caller = i ∧ f.entry = x ∧ ownHistory i older = h := by
      obtain ⟨f, older, hevent, hrest⟩ := ih hold
      exact ⟨f, older, hevent.trans (List.suffix_cons _ _), hrest⟩
    rw [ownHistory_cons] at hsuffix
    by_cases hcaller : e.caller = i
    · rw [if_pos hcaller] at hsuffix
      rcases List.suffix_cons_iff.mp hsuffix with heq | hold
      · obtain ⟨hentry, htail⟩ := List.cons.inj heq
        exact ⟨e, log, List.suffix_refl _, hcaller, hentry.symm, htail.symm⟩
      · exact hextend hold
    · rw [if_neg hcaller] at hsuffix
      exact hextend hsuffix

/-- A member of a list has a position in it. -/
theorem exists_suffix_of_mem {α : Type} {x : α} {L : List α} (hx : x ∈ L) : ∃ l, (x :: l) <:+ L := by
  obtain ⟨newer, older, heq⟩ := List.append_of_mem hx
  exact ⟨older, newer, heq.symm⟩

/-- Of two positions in a list, one comes before the other or they are the same. -/
theorem suffix_trichotomy {α : Type} {x y : α} {l l' L : List α} (hx : (x :: l) <:+ L) (hy : (y :: l') <:+ L) :
    (x :: l) <:+ l' ∨ (y :: l') <:+ l ∨ x = y ∧ l = l' := by
  rcases List.suffix_or_suffix_of_suffix hx hy with h | h
  · rcases List.suffix_cons_iff.mp h with heq | hsuffix
    · exact Or.inr (Or.inr (List.cons.inj heq))
    · exact Or.inl hsuffix
  · rcases List.suffix_cons_iff.mp h with heq | hsuffix
    · obtain ⟨rfl, rfl⟩ := List.cons.inj heq
      exact Or.inr (Or.inr ⟨rfl, rfl⟩)
    · exact Or.inr (Or.inl hsuffix)

/-- An older history that contains an entry of a kind reaches back to before the first such entry. -/
theorem suffix_of_first {α : Type} {p : α → Prop} {x c : α} {l t L : List α} (hl : l <:+ L)
    (hc : (c :: t) <:+ L) (hx : x ∈ l) (hp : p x) (ht : ∀ y ∈ t, ¬ p y) : (c :: t) <:+ l := by
  rcases List.suffix_or_suffix_of_suffix hl hc with h | h
  · rcases List.suffix_cons_iff.mp h with heq | hsuffix
    · exact heq ▸ List.suffix_refl (c :: t)
    · exact absurd hp (ht x (hsuffix.subset hx))
  · exact h

namespace Config

/-- All calls at their beginning. -/
def start (shared : σ) (calls : ι → Program A R ε α) : Config ι A R ε α σ := ⟨shared, calls, []⟩

/-- The call has performed an action and has not ended. -/
def Running [DecidableEq ι] (c : Config ι A R ε α σ) (i : ι) : Prop :=
  ownHistory i c.log ≠ [] ∧ ¬ (c.calls i).Ended

instance [DecidableEq ι] (c : Config ι A R ε α σ) (i : ι) : Decidable (c.Running i) :=
  decidable_of_iff ((ownHistory i c.log).isEmpty = false ∧ ¬ (c.calls i).Ended)
    (and_congr_left fun _ => by cases ownHistory i c.log <;> simp)

/-- A call that performed an action and does not run has ended. -/
theorem ended_of_not_running [DecidableEq ι] {c : Config ι A R ε α σ} {e : Event ι A R σ}
    (he : e ∈ c.log) (h : ¬ c.Running e.caller) : (c.calls e.caller).Ended := by
  by_contra hended
  apply h
  refine ⟨fun hnil => ?_, hended⟩
  have hmem := mem_ownHistory.mpr ⟨e, he, rfl, rfl⟩
  rw [hnil] at hmem
  exact List.not_mem_nil hmem

/-- When every call that performed an action has ended, no call runs. -/
theorem not_running_of_ended [DecidableEq ι] {c : Config ι A R ε α σ}
    (h : ∀ e ∈ c.log, (c.calls e.caller).Ended) (i : ι) :
    ¬ c.Running i := by
  rintro ⟨hactive, hgoesOn⟩
  obtain ⟨x, hx⟩ := List.exists_mem_of_ne_nil _ hactive
  obtain ⟨e, he, rfl, -⟩ := mem_ownHistory.mp hx
  exact hgoesOn (h e he)

/-- The configuration after call `i` performed `a` with reply `r`, leaving the state `s`. -/
def advance [DecidableEq ι] (c : Config ι A R ε α σ) (i : ι) (a : A) (r : R a) (s : σ)
    (rest : Program A R ε α) : Config ι A R ε α σ where
  shared := s
  calls := Function.update c.calls i rest
  log := ⟨i, c.shared, a, r⟩ :: c.log

end Config

namespace Machine

/-- An event whose entry is known was performed as that action with that reply. -/
theorem perform_of_entry {M : Machine A R σ} {e : Event ι A R σ} {a : A} {r : R a} {s : σ}
    (hentry : e.entry = ⟨a, r⟩) (h : M.perform e.action e.before e.reply s) : M.perform a e.before r s := by
  obtain ⟨i, t, b, q⟩ := e
  cases hentry
  exact h

variable [DecidableEq ι] (M : Machine A R σ)

/-- One step of the whole system. -/
inductive Step : Config ι A R ε α σ → Config ι A R ε α σ → Prop
  | call {c : Config ι A R ε α σ} {i : ι} {a : A} {next : R a → Program A R ε α} {r : R a} {s : σ}
      (hcall : c.calls i = .act a next) (hperform : M.perform a c.shared r s) :
      Step c (c.advance i a r s (next r))
  | idle {c : Config ι A R ε α σ} {s : σ} (hidle : M.idle c.shared s) :
      Step c { c with shared := s }

/-- Runs whose every step is allowed by `ok`. -/
def Reaches (ok : Config ι A R ε α σ → Config ι A R ε α σ → Prop) :
    Config ι A R ε α σ → Config ι A R ε α σ → Prop :=
  Relation.ReflTransGen fun c d => M.Step c d ∧ ok c d

variable {M} {ok : Config ι A R ε α σ → Config ι A R ε α σ → Prop} {c d : Config ι A R ε α σ}

/-- Fewer restrictions allow more runs. -/
theorem Reaches.mono {ok' : Config ι A R ε α σ → Config ι A R ε α σ → Prop}
    (hok : ∀ c d, ok c d → ok' c d) (h : M.Reaches ok c d) : M.Reaches ok' c d :=
  Relation.ReflTransGen.mono (fun c d hstep => And.imp_right (hok c d) hstep) c d h

/-- What a machine does, one that can do more does as well. -/
theorem Reaches.machine_mono {M' : Machine A R σ} (hperform : ∀ a s r t, M.perform a s r t → M'.perform a s r t)
    (hidle : ∀ s t, M.idle s t → M'.idle s t) (h : M.Reaches ok c d) : M'.Reaches ok c d := by
  induction h with
  | refl => exact .refl
  | tail _ hstep ih =>
    obtain ⟨hmove, hok⟩ := hstep
    cases hmove with
    | call hcall hact => exact ih.tail ⟨.call hcall (hperform _ _ _ _ hact), hok⟩
    | idle hwait => exact ih.tail ⟨.idle (hidle _ _ hwait), hok⟩

/-- A run that goes on where another one ended. -/
theorem Reaches.trans {b : Config ι A R ε α σ} (h : M.Reaches ok b c) (h' : M.Reaches ok c d) : M.Reaches ok b d :=
  Relation.ReflTransGen.trans h h'

/-- A step leaves an ended call as it is. -/
theorem Step.calls_of_ended (h : M.Step c d) {i : ι} (hi : (c.calls i).Ended) :
    d.calls i = c.calls i := by
  cases h with
  | idle hidle => rfl
  | @call j a next r s hcall hperform =>
    obtain ⟨res, hres⟩ := hi
    have hij : i ≠ j := by
      intro heq
      subst heq
      rw [hcall] at hres
      cases hres
    exact Function.update_of_ne hij _ _

/-- Each call still obeys its protocol after what it has seen. -/
theorem Step.obeys (π : ι → Protocol A R α) (h : M.Step c d)
    (hc : ∀ i, (c.calls i).Obeys (π i) (ownHistory i c.log)) :
    ∀ i, (d.calls i).Obeys (π i) (ownHistory i d.log) := by
  cases h with
  | idle hidle => exact hc
  | @call j a next r s hcall hperform =>
    intro i
    by_cases hij : i = j
    · subst hij
      have hobeys := hc i
      rw [hcall] at hobeys
      simpa only [Config.advance, Function.update_self, ownHistory_cons, Event.entry_mk, if_true]
        using hobeys.2 r
    · simpa only [Config.advance, Function.update_of_ne hij, ownHistory_cons, if_neg (Ne.symm hij)]
        using hc i

/-- In every run the calls obey their protocols. -/
theorem Reaches.obeys (π : ι → Protocol A R α) (h : M.Reaches ok c d)
    (hc : ∀ i, (c.calls i).Obeys (π i) (ownHistory i c.log)) :
    ∀ i, (d.calls i).Obeys (π i) (ownHistory i d.log) := by
  induction h with
  | refl => exact hc
  | tail _ hstep ih => exact hstep.1.obeys π ih

/-- The part of a run around one event of its log: the configuration `mid` on which the action
was performed, and the run from there on. -/
structure PerformedAt (M : Machine A R σ) (ok : Config ι A R ε α σ → Config ι A R ε α σ → Prop)
    (first last mid : Config ι A R ε α σ) (e : Event ι A R σ)
    (next : R e.action → Program A R ε α) (s : σ) : Prop where
  run : M.Reaches ok first mid
  before : mid.shared = e.before
  call : mid.calls e.caller = .act e.action next
  perform : M.perform e.action e.before e.reply s
  allowed : ok mid (mid.advance e.caller e.action e.reply s (next e.reply))
  rest : M.Reaches ok (mid.advance e.caller e.action e.reply s (next e.reply)) last

/-- The run from the configuration on which the action was performed. -/
theorem PerformedAt.toLast {mid : Config ι A R ε α σ} {e : Event ι A R σ}
    {next : R e.action → Program A R ε α} {s : σ} (hat : PerformedAt M ok c d mid e next s) :
    M.Reaches ok mid d :=
  Relation.ReflTransGen.head ⟨.call hat.call (hat.before ▸ hat.perform), hat.allowed⟩ hat.rest

/-- The protocol of the caller held when it performed the action. -/
theorem PerformedAt.guard {π : ι → Protocol A R α} {mid : Config ι A R ε α σ}
    {e : Event ι A R σ} {next : R e.action → Program A R ε α} {s : σ}
    (hat : PerformedAt M ok c d mid e next s)
    (hobeys : ∀ i, (c.calls i).Obeys (π i) (ownHistory i c.log)) :
    (π e.caller).guard (ownHistory e.caller mid.log) e.action := by
  have hcaller := hat.run.obeys π hobeys e.caller
  rw [hat.call] at hcaller
  exact hcaller.1

/-- The protocol of a call allows the value it returned. -/
theorem Reaches.result (π : ι → Protocol A R α) (h : M.Reaches ok c d)
    (hobeys : ∀ i, (c.calls i).Obeys (π i) (ownHistory i c.log)) {i : ι} {v : α}
    (hi : d.calls i = .done (.ok v)) : (π i).result (ownHistory i d.log) v := by
  have hcall := h.obeys π hobeys i
  rw [hi] at hcall
  exact hcall

/-- Every event of the log was performed at some point of the run, on the older log. -/
theorem Reaches.performedAt (h : M.Reaches ok c d) (hnew : c.log = []) {e : Event ι A R σ}
    {older : List (Event ι A R σ)} (he : (e :: older) <:+ d.log) :
    ∃ mid next s, PerformedAt M ok c d mid e next s ∧ mid.log = older := by
  induction h with
  | refl =>
    rw [hnew] at he
    exact absurd (List.suffix_nil.mp he) (List.cons_ne_nil _ _)
  | @tail b d hrun hstep ih =>
    have hextend : (e :: older) <:+ b.log →
        ∃ mid next s, PerformedAt M ok c d mid e next s ∧ mid.log = older := by
      intro hb
      obtain ⟨mid, next, s, hat, hlog⟩ := ih hb
      exact ⟨mid, next, s, { hat with rest := hat.rest.tail hstep }, hlog⟩
    obtain ⟨hmove, hok⟩ := hstep
    cases hmove with
    | idle hidle => exact hextend he
    | @call i a next r s hcall hperform =>
      rcases List.suffix_cons_iff.mp he with heq | hb
      · obtain ⟨rfl, rfl⟩ := List.cons.inj heq
        exact ⟨b, next, s, ⟨hrun, rfl, hcall, hperform, hok, .refl⟩, rfl⟩
      · exact hextend hb

/-- So was every member of the log. -/
theorem Reaches.performedAt_of_mem (h : M.Reaches ok c d) (hnew : c.log = []) {e : Event ι A R σ} (he : e ∈ d.log) :
    ∃ mid next s, PerformedAt M ok c d mid e next s := by
  obtain ⟨older, hsuffix⟩ := exists_suffix_of_mem he
  obtain ⟨mid, next, s, hat, -⟩ := h.performedAt hnew hsuffix
  exact ⟨mid, next, s, hat⟩

/-- The guard of every event of the log held on the caller's own history at that time. -/
theorem Reaches.guard_at (π : ι → Protocol A R α) (h : M.Reaches ok c d)
    (hobeys : ∀ i, (c.calls i).Obeys (π i) (ownHistory i c.log)) (hnew : c.log = [])
    {e : Event ι A R σ} {older : List (Event ι A R σ)} (he : (e :: older) <:+ d.log) :
    (π e.caller).guard (ownHistory e.caller older) e.action := by
  obtain ⟨mid, next, s, hat, rfl⟩ := h.performedAt hnew he
  exact hat.guard hobeys

/-- In every run, what is left of a call is where its own history leads. -/
theorem Reaches.leadsTo (h : M.Reaches ok c d) (hnew : c.log = []) (i : ι) :
    (c.calls i).LeadsTo (ownHistory i d.log) (d.calls i) := by
  induction h with
  | refl =>
    rw [hnew]
    exact .start
  | tail _ hstep ih =>
    cases hstep.1 with
    | idle hidle => exact ih
    | @call j a next r s hcall hperform =>
      by_cases hij : j = i
      · subst hij
        rw [hcall] at ih
        simpa only [Config.advance, ownHistory_cons, if_true, Event.entry_mk, Function.update_self] using ih.act
      · simpa only [Config.advance, ownHistory_cons, if_neg hij, Function.update_of_ne (Ne.symm hij)] using ih

/-- The protocol of one call allowed every action it performed, whatever the other calls are. -/
theorem Reaches.guard_of_mem {π : Protocol A R α} (h : M.Reaches ok c d) (hnew : c.log = []) {e : Event ι A R σ}
    (he : e ∈ d.log) (hobeys : (c.calls e.caller).Obeys π []) : ∃ past, π.guard past e.action := by
  obtain ⟨mid, next, s, hat⟩ := h.performedAt_of_mem hnew he
  have hleft := (hat.run.leadsTo hnew e.caller).obeys π _ hobeys
  rw [hat.call] at hleft
  exact ⟨_, hleft.1⟩

/-- The log only grows. -/
theorem Reaches.log_suffix (h : M.Reaches ok c d) : c.log <:+ d.log := by
  induction h with
  | refl => exact List.suffix_rfl
  | tail _ hstep ih =>
    cases hstep.1 with
    | idle hidle => exact ih
    | call hcall hperform => exact ih.trans (List.suffix_cons _ _)

/-- A call still has its next action before it, or has performed it. -/
theorem Reaches.next_performed (h : M.Reaches ok c d) {i : ι} {a : A} {next : R a → Program A R ε α}
    (hcall : c.calls i = .act a next) :
    d.calls i = .act a next ∨ ∃ s r older, (⟨i, s, a, r⟩ :: older) <:+ d.log ∧ c.log <:+ older := by
  induction h with
  | refl => exact Or.inl hcall
  | @tail b d hrun hstep ih =>
    rcases ih with hwaits | ⟨s, r, older, hperformed, hsince⟩
    · cases hstep.1 with
      | idle hidle => exact Or.inl hwaits
      | @call j a' next' r s hmoves hperform =>
        by_cases hij : j = i
        · subst hij
          obtain ⟨rfl, -⟩ := Program.act.inj (hmoves.symm.trans hwaits)
          exact Or.inr ⟨b.shared, r, b.log, List.suffix_rfl, Reaches.log_suffix hrun⟩
        · left
          rw [← hwaits]
          exact Function.update_of_ne (Ne.symm hij) _ _
    · have hgrows := Reaches.log_suffix (Relation.ReflTransGen.single hstep)
      exact Or.inr ⟨s, r, older, hperformed.trans hgrows, hsince⟩

/-- An ended call stays as it is for the rest of the run. -/
theorem Reaches.calls_of_ended (h : M.Reaches ok c d) {i : ι} (hi : (c.calls i).Ended) :
    d.calls i = c.calls i := by
  induction h with
  | refl => rfl
  | tail _ hstep ih => rw [hstep.1.calls_of_ended (ih ▸ hi), ih]

/-- An ended call performs no further action. -/
theorem Reaches.ownHistory_of_ended (h : M.Reaches ok c d) {i : ι} (hi : (c.calls i).Ended) :
    ownHistory i d.log = ownHistory i c.log := by
  induction h with
  | refl => rfl
  | @tail b e hrun hstep ih =>
    have hcalls := Reaches.calls_of_ended hrun hi
    rw [← ih]
    cases hstep.1 with
    | idle hidle => rfl
    | @call j a next r s hcall hperform =>
      have hij : j ≠ i := by
        intro heq
        subst heq
        obtain ⟨res, hres⟩ := hi
        rw [hcalls, hres] at hcall
        cases hcall
      simp only [Config.advance, ownHistory_cons, if_neg hij]

/-- A preorder that every action and every move of the environment respects. -/
structure Monotone (M : Machine A R σ) (le : σ → σ → Prop) : Prop where
  refl : ∀ s, le s s
  trans : ∀ s t u, le s t → le t u → le s u
  perform : ∀ a s r t, M.perform a s r t → le s t
  idle : ∀ s t, M.idle s t → le s t

/-- Along a run the shared state only moves up a preorder that every move respects. -/
theorem Reaches.monotone {le : σ → σ → Prop} (hle : M.Monotone le) (h : M.Reaches ok c d) :
    le c.shared d.shared := by
  induction h with
  | refl => exact hle.refl _
  | tail _ hstep ih =>
    refine hle.trans _ _ _ ih ?_
    cases hstep.1 with
    | call hcall hperform => exact hle.perform _ _ _ _ hperform
    | idle hidle => exact hle.idle _ _ hidle

/-- The state an event of the log was performed on lies below the state at the end of the run. -/
theorem Reaches.before_monotone {le : σ → σ → Prop} (hle : M.Monotone le) (h : M.Reaches ok c d)
    (hnew : c.log = []) {e : Event ι A R σ} (he : e ∈ d.log) : le e.before d.shared := by
  obtain ⟨mid, next, s, hat⟩ := h.performedAt_of_mem hnew he
  exact hle.trans _ _ _ (hle.perform _ _ _ _ hat.perform) (hat.rest.monotone hle)

/-- An event of the log is an old one, or was performed on a state above the first one. -/
theorem Reaches.before_since {le : σ → σ → Prop} (hle : M.Monotone le) (h : M.Reaches ok c d)
    {e : Event ι A R σ} (he : e ∈ d.log) : e ∈ c.log ∨ le c.shared e.before := by
  induction h with
  | refl => exact Or.inl he
  | @tail b d hrun hstep ih =>
    cases hstep.1 with
    | idle hidle => exact ih he
    | call hcall hperform =>
      rcases List.mem_cons.mp he with rfl | hold
      · exact Or.inr (Reaches.monotone hle hrun)
      · exact ih hold

/-- What an event of the log did to the state is not undone up to the end of the run. -/
theorem Reaches.event_monotone {le : σ → σ → Prop} (hle : M.Monotone le) (h : M.Reaches ok c d)
    (hnew : c.log = []) {e : Event ι A R σ} (he : e ∈ d.log) :
    ∃ s, M.perform e.action e.before e.reply s ∧ le s d.shared := by
  obtain ⟨mid, next, s, hat⟩ := h.performedAt_of_mem hnew he
  exact ⟨s, hat.perform, hat.rest.monotone hle⟩

/-- Every entry of a caller's own history was performed. -/
theorem Reaches.performed_of_mem (h : M.Reaches ok c d) (hnew : c.log = []) {i : ι} {a : A} {r : R a}
    (hx : (⟨a, r⟩ : Σ a : A, R a) ∈ ownHistory i d.log) : ∃ s s', M.perform a s r s' := by
  obtain ⟨e, he, -, hentry⟩ := mem_ownHistory.mp hx
  obtain ⟨mid, next, s, hat⟩ := h.performedAt_of_mem hnew he
  exact ⟨e.before, s, perform_of_entry hentry hat.perform⟩

/-- Older events were performed on lower states. -/
theorem Reaches.before_le {le : σ → σ → Prop} (hle : M.Monotone le) (h : M.Reaches ok c d)
    (hnew : c.log = []) {e f : Event ι A R σ} {older : List (Event ι A R σ)}
    (he : (e :: older) <:+ d.log) (hf : f ∈ older) : le f.before e.before := by
  obtain ⟨mid, next, s, hat, rfl⟩ := h.performedAt hnew he
  rw [← hat.before]
  exact hat.run.before_monotone hle hnew hf

/-- What an older event did is not undone when the newer one is performed. -/
theorem Reaches.effect_le {le : σ → σ → Prop} (hle : M.Monotone le) (h : M.Reaches ok c d)
    (hnew : c.log = []) {e f : Event ι A R σ} {older : List (Event ι A R σ)}
    (he : (e :: older) <:+ d.log) (hf : f ∈ older) :
    ∃ s, M.perform f.action f.before f.reply s ∧ le s e.before := by
  obtain ⟨mid, next, s, hat, rfl⟩ := h.performedAt hnew he
  rw [← hat.before]
  exact hat.run.event_monotone hle hnew hf

/-- A property of configurations kept by every allowed step that obeys the protocols. -/
structure Inductive (M : Machine A R σ) (ok : Config ι A R ε α σ → Config ι A R ε α σ → Prop)
    (π : ι → Protocol A R α) (inv : Config ι A R ε α σ → Prop) : Prop where
  call : ∀ (c : Config ι A R ε α σ) i a (next : R a → Program A R ε α) r s,
    inv c → c.calls i = .act a next → (π i).guard (ownHistory i c.log) a →
    (∀ j, (c.calls j).Obeys (π j) (ownHistory j c.log)) →
    M.perform a c.shared r s → ok c (c.advance i a r s (next r)) →
    inv (c.advance i a r s (next r))
  idle : ∀ (c : Config ι A R ε α σ) s, inv c → M.idle c.shared s → ok c { c with shared := s } →
    inv { c with shared := s }

/-- The induction rule: an inductive property that holds at the start holds throughout. -/
theorem Reaches.invariant {π : ι → Protocol A R α} {inv : Config ι A R ε α σ → Prop}
    (hind : Inductive M ok π inv) (h : M.Reaches ok c d)
    (hobeys : ∀ i, (c.calls i).Obeys (π i) (ownHistory i c.log)) (hc : inv c) : inv d := by
  induction h with
  | refl => exact hc
  | tail hrun hstep ih =>
    have hall := Reaches.obeys π hrun hobeys
    obtain ⟨hstep, hok⟩ := hstep
    cases hstep with
    | idle hidle => exact hind.idle _ _ ih hidle hok
    | @call i a next r s hcall hperform =>
      have hi := hall i
      rw [hcall] at hi
      exact hind.call _ i a next r s ih hcall hi.1 hall hperform hok

end Machine

end Atomic
