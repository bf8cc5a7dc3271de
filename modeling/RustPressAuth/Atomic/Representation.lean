import RustPressAuth.Atomic.Interleaving

/-!
# The same calls on represented states

A machine may keep its shared state in another form. Where it does with the representation
of a state what the first machine does with the state, and nothing else, the calls cannot
tell the two apart: the runs of the one are those of the other, state by state. The
agreement may rest on an invariant of the states, if the first machine keeps it.
-/

namespace Atomic

variable {ι A : Type} {R : A → Type} {ε α σ τ : Type}

/-- The event on represented states. -/
def Event.map (enc : σ → τ) (e : Event ι A R σ) : Event ι A R τ := ⟨e.caller, enc e.before, e.action, e.reply⟩

/-- The configuration with represented states; what is left of every call is the same. -/
def Config.map (enc : σ → τ) (c : Config ι A R ε α σ) : Config ι A R ε α τ :=
  ⟨enc c.shared, c.calls, c.log.map (Event.map enc)⟩

namespace Machine

/-- On represented states `N` does what `M` does, as long as the states are good; and `M` keeps them good. -/
structure Represents (N : Machine A R τ) (M : Machine A R σ) (enc : σ → τ) (good : σ → Prop) : Prop where
  perform : ∀ a s r t', good s → (N.perform a (enc s) r t' ↔ ∃ t, M.perform a s r t ∧ enc t = t')
  idle : ∀ s t', good s → (N.idle (enc s) t' ↔ ∃ t, M.idle s t ∧ enc t = t')
  performGood : ∀ a s r t, good s → M.perform a s r t → good t
  idleGood : ∀ s t, good s → M.idle s t → good t

variable [DecidableEq ι] {N : Machine A R τ} {M : Machine A R σ} {enc : σ → τ} {good : σ → Prop}
  {c d : Config ι A R ε α σ} {d' : Config ι A R ε α τ}

/-- A step of the abstract machine stays within the states that have a representation. -/
theorem Represents.good_of_step (h : N.Represents M enc good) (hgood : good c.shared) (hstep : M.Step c d) :
    good d.shared := by
  cases hstep with
  | call hcall hperform => exact h.performGood _ _ _ _ hgood hperform
  | idle hidle => exact h.idleGood _ _ hgood hidle

/-- The states of a run stay good. -/
theorem Represents.good_of_reaches (h : N.Represents M enc good) (hgood : good c.shared)
    (hrun : M.Reaches (fun _ _ => True) c d) : good d.shared := by
  induction hrun with
  | refl => exact hgood
  | tail _ hstep ih => exact h.good_of_step ih hstep.1

/-- The steps of the two machines are the same. -/
theorem Represents.step_iff (h : N.Represents M enc good) (hgood : good c.shared) :
    N.Step (c.map enc) d' ↔ ∃ d, M.Step c d ∧ d.map enc = d' := by
  constructor
  · intro hstep
    cases hstep with
    | call hcall hperform =>
      obtain ⟨t, hperformed, rfl⟩ := (h.perform _ _ _ _ hgood).mp hperform
      exact ⟨_, .call hcall hperformed, rfl⟩
    | idle hidle =>
      obtain ⟨t, hidled, rfl⟩ := (h.idle _ _ hgood).mp hidle
      exact ⟨_, .idle hidled, rfl⟩
  · rintro ⟨d, hstep, rfl⟩
    cases hstep with
    | call hcall hperform =>
        exact Step.call (c := c.map enc) hcall ((h.perform _ _ _ _ hgood).mpr ⟨_, hperform, rfl⟩)
    | idle hidle => exact Step.idle (c := c.map enc) ((h.idle _ _ hgood).mpr ⟨_, hidle, rfl⟩)

/-- The runs of the two machines are the same. -/
theorem Represents.reaches_iff (h : N.Represents M enc good) (hgood : good c.shared) :
    N.Reaches (fun _ _ => True) (c.map enc) d' ↔ ∃ d, M.Reaches (fun _ _ => True) c d ∧ d.map enc = d' := by
  constructor
  · intro hrun
    induction hrun with
    | refl => exact ⟨c, .refl, rfl⟩
    | tail _ hstep ih =>
      obtain ⟨b, hrun, rfl⟩ := ih
      obtain ⟨d, hstepped, rfl⟩ := (h.step_iff (h.good_of_reaches hgood hrun)).mp hstep.1
      exact ⟨d, hrun.tail ⟨hstepped, trivial⟩, rfl⟩
  · rintro ⟨d, hrun, rfl⟩
    induction hrun with
    | refl => exact .refl
    | tail hrun hstep ih =>
        exact ih.tail ⟨(h.step_iff (h.good_of_reaches hgood hrun)).mpr ⟨_, hstep.1, rfl⟩, trivial⟩

end Machine

end Atomic
