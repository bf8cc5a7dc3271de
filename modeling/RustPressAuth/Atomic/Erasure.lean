import RustPressAuth.Atomic.Interleaving

/-!
# Calls that can be left out of a run

What is true of a call whenever it ends, with a value or an error, is decided on its tree
alone, as obedience to a protocol is: an ending condition relates what the call has done
to its result.

A call whose every action left the shared state as it was can be left out of a run. The
other calls receive the same replies on the same states, so the run without it exists and
ends the same way. Any set of such calls can be left out at once.
-/

namespace Atomic

variable {ι A : Type} {R : A → Type} {ε α β σ : Type}

namespace Program

/-- However the actions are answered, the program ends as the condition says. -/
def Ends (ending : History A R → Except ε α → Prop) : Program A R ε α → History A R → Prop
  | done result, h => ending h result
  | act a next, h => ∀ r, (next r).Ends ending (⟨a, r⟩ :: h)

section Rules

variable (ending : History A R → Except ε α → Prop) (h : History A R)

/-- The ending condition of the first part of a sequence. -/
def followedBy (f : α → Program A R ε β) (ending : History A R → Except ε β → Prop) (h : History A R) :
    Except ε α → Prop
  | .ok v => (f v).Ends ending h
  | .error e => ending h (.error e)

/-- What follows a value are the endings of the program for it. -/
@[simp] theorem followedBy_ok (f : α → Program A R ε β) (ending : History A R → Except ε β → Prop) (v : α) :
    followedBy f ending h (.ok v) ↔ (f v).Ends ending h := Iff.rfl

/-- Nothing follows an error. -/
@[simp] theorem followedBy_error (f : α → Program A R ε β) (ending : History A R → Except ε β → Prop) (e : ε) :
    followedBy f ending h (.error e) ↔ ending h (.error e) := Iff.rfl

/-- A value ends as it is. -/
@[simp] theorem ends_pure (v : α) : (pure v : Program A R ε α).Ends ending h ↔ ending h (.ok v) := Iff.rfl

/-- A failure ends as it is. -/
@[simp] theorem ends_fail (e : ε) : (fail e : Program A R ε α).Ends ending h ↔ ending h (.error e) := Iff.rfl

/-- An action has the endings of what follows each of its replies. -/
@[simp] theorem ends_act (a : A) (next : R a → Program A R ε α) :
    (act a next).Ends ending h ↔ ∀ r, (next r).Ends ending (⟨a, r⟩ :: h) := Iff.rfl

/-- A sequence ends where its first part fails, or where the rest ends. -/
@[simp] theorem ends_bind (p : Program A R ε α) (f : α → Program A R ε β)
    (ending : History A R → Except ε β → Prop) :
    (p >>= f).Ends ending h ↔ p.Ends (followedBy f ending) h := by
  rw [bind_eq]
  induction p generalizing h with
  | done result => cases result <;> rfl
  | act a next ih => simp only [bind, ends_act, ih]

/-- A branch ends as the taken side does. -/
@[simp] theorem ends_ite (condition : Prop) [Decidable condition] (p q : Program A R ε α) :
    (if condition then p else q).Ends ending h ↔
      (condition → p.Ends ending h) ∧ (¬ condition → q.Ends ending h) := by
  by_cases hc : condition <;> simp [hc]

end Rules

variable {ending ending' : History A R → Except ε α → Prop} {h : History A R}

/-- Ending conditions can be weakened. -/
theorem Ends.mono {p : Program A R ε α} (hends : p.Ends ending h) (hweaker : ∀ h r, ending h r → ending' h r) :
    p.Ends ending' h := by
  induction p generalizing h with
  | done result => exact hweaker h result hends
  | act a next ih => exact fun r => ih r (hends r)

/-- What is left of a program ends as the program does. -/
theorem LeadsTo.ends {p q : Program A R ε α} (hleads : p.LeadsTo h q) (hends : p.Ends ending []) :
    q.Ends ending h := by
  induction hleads with
  | start => exact hends
  | act _ ih => exact ih _

end Program

namespace Config

/-- The configuration without some calls: they have not begun, as in the first one, and the log has none of
their events. -/
def without (c d : Config ι A R ε α σ) (left : ι → Prop) [DecidablePred left] : Config ι A R ε α σ where
  shared := d.shared
  calls i := if left i then c.calls i else d.calls i
  log := d.log.filter fun e => ¬ left e.caller

variable {c d : Config ι A R ε α σ} {left : ι → Prop} [DecidablePred left]

/-- The shared state is the one of the run without the calls. -/
@[simp] theorem without_shared : (c.without d left).shared = d.shared := rfl

/-- The calls that are left out are those of the full run. -/
theorem without_calls_of_left {i : ι} (hi : left i) : (c.without d left).calls i = c.calls i := if_pos hi

/-- The other calls are those of the run without them. -/
theorem without_calls_of_kept {i : ι} (hi : ¬ left i) : (c.without d left).calls i = d.calls i := if_neg hi

/-- Nothing is left out of a run that has not begun. -/
theorem without_self (hnew : c.log = []) : c.without c left = c := by
  obtain ⟨shared, calls, log⟩ := c
  obtain rfl : log = [] := hnew
  simp [without]

/-- What a kept call did is still in the log. -/
theorem ownHistory_without [DecidableEq ι] {i : ι} (hi : ¬ left i) :
    ownHistory i (c.without d left).log = ownHistory i d.log := by
  rw [without, ownHistory, ownHistory, List.filterMap_filter]
  apply List.filterMap_congr
  intro e _
  by_cases hcaller : e.caller = i
  · subst hcaller
    simp [hi]
  · simp [hcaller]

/-- What the others did is not. -/
theorem ownHistory_without_of_left [DecidableEq ι] {i : ι} (hi : left i) :
    ownHistory i (c.without d left).log = [] := by
  rw [without, ownHistory, List.filterMap_filter, List.filterMap_eq_nil_iff]
  intro e _
  by_cases hcaller : e.caller = i
  · subst hcaller
    simp [hi]
  · simp [hcaller]

section Steps

variable [DecidableEq ι] {i : ι} {a : A} {r : R a} {s : σ} {rest : Program A R ε α}

/-- A step of a call that is left out does not show, when it left the shared state as it was. -/
theorem without_advance_of_left (hi : left i) :
    c.without (d.advance i a r d.shared rest) left = c.without d left := by
  have hcalls : ∀ j, (if left j then c.calls j else Function.update d.calls i rest j) =
      if left j then c.calls j else d.calls j := by
    intro j
    by_cases hj : left j
    · rw [if_pos hj, if_pos hj]
    · have hne : j ≠ i := fun heq => hj (heq ▸ hi)
      rw [if_neg hj, if_neg hj, Function.update_of_ne hne]
  simp only [without, advance, hcalls, List.filter_cons, hi, not_true_eq_false, decide_false,
    Bool.false_eq_true, if_false]

/-- A step of a call that is kept is the same step. -/
theorem without_advance_of_kept (hi : ¬ left i) :
    c.without (d.advance i a r s rest) left = (c.without d left).advance i a r s rest := by
  have hcalls : (fun j => if left j then c.calls j else Function.update d.calls i rest j) =
      Function.update (fun j => if left j then c.calls j else d.calls j) i rest := by
    funext j
    by_cases hj : j = i
    · subst hj
      rw [if_neg hi, Function.update_self, Function.update_self]
    · rw [Function.update_of_ne hj, Function.update_of_ne hj]
  simp only [without, advance, hcalls, List.filter_cons, hi, not_false_eq_true, decide_true, if_true]

end Steps

end Config

namespace Machine

variable [DecidableEq ι] {M : Machine A R σ} {ok : Config ι A R ε α σ → Config ι A R ε α σ → Prop}
  {c d : Config ι A R ε α σ}

/-- In every run, a call that ends ends as its tree does. -/
theorem Reaches.ends {i : ι} {ending : Program.History A R → Except ε α → Prop} (h : M.Reaches ok c d)
    (hnew : c.log = []) (hends : (c.calls i).Ends ending []) {result : Except ε α} (hi : d.calls i = .done result) :
    ending (ownHistory i d.log) result := by
  have hleft := (h.leadsTo hnew i).ends hends
  rw [hi] at hleft
  exact hleft

/-- The event left the shared state as it was. -/
def Quiet (M : Machine A R σ) (e : Event ι A R σ) : Prop :=
  ∀ s, M.perform e.action e.before e.reply s → s = e.before

/-- Calls whose every event was quiet can be left out: the run without them exists. -/
theorem Reaches.without {left : ι → Prop} [DecidablePred left] (h : M.Reaches ok c d) (hnew : c.log = [])
    (hquiet : ∀ e ∈ d.log, left e.caller → M.Quiet e) : M.Reaches (fun _ _ => True) c (c.without d left) := by
  induction h with
  | refl =>
    rw [Config.without_self hnew]
    exact .refl
  | @tail b d hrun hstep ih =>
    have hgrows := Reaches.log_suffix (Relation.ReflTransGen.single hstep)
    have hbefore := ih fun e he => hquiet e (hgrows.subset he)
    cases hstep.1 with
    | @idle s hidle => exact hbefore.tail ⟨.idle hidle, trivial⟩
    | @call i a next r s hcall hperform =>
      by_cases hi : left i
      · obtain rfl : s = b.shared := hquiet ⟨i, b.shared, a, r⟩ List.mem_cons_self hi s hperform
        rw [Config.without_advance_of_left hi]
        exact hbefore
      · rw [Config.without_advance_of_kept hi]
        exact hbefore.tail ⟨.call ((Config.without_calls_of_kept hi).trans hcall) hperform, trivial⟩

end Machine

end Atomic
