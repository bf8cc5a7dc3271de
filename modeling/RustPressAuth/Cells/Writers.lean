import Mathlib.Data.List.Basic
import Mathlib.Logic.Function.Basic

/-!
# Records written one field at a time

Several writers replace a record as a whole, but each field with a write of its own, and
each writer in an order of its own. The record follows one of them when it holds the
values of that one in the fields it has written. It goes on to follow it while the others
write nothing else to those fields, and at the end the record is the one that it wrote.
-/

namespace Cells

variable {F : Type} {V : F → Type}

/-- A writer that has begun: the record it writes, and the fields it has yet to write. -/
structure Writer (V : F → Type) where
  target : ∀ f, V f
  rest : List F

/-- The record holds what the writer has written. -/
def Follows (record : ∀ f, V f) (w : Writer V) : Prop := ∀ f, f ∉ w.rest → record f = w.target f

variable {record target : ∀ f, V f} {f : F} {rest : List F} {w : Writer V}

/-- A record that follows a writer with nothing left to write is what it wrote. -/
theorem Follows.eq_target (h : Follows record ⟨target, []⟩) : record = target := by
  funext f
  exact h f List.not_mem_nil

variable [DecidableEq F]

/-- The writer writes its next field. -/
theorem Follows.write (h : Follows record ⟨target, f :: rest⟩) :
    Follows (Function.update record f (target f)) ⟨target, rest⟩ := by
  intro g hg
  by_cases heq : g = f
  · subst heq
    exact Function.update_self _ _ _
  · rw [Function.update_of_ne heq]
    apply h g
    rw [List.mem_cons, not_or]
    exact ⟨heq, hg⟩

/-- A writer begins: the record follows it from its first write on. -/
theorem follows_begin (hall : ∀ g, g ∈ f :: rest) :
    Follows (Function.update record f (target f)) ⟨target, rest⟩ := by
  apply Follows.write
  intro g hg
  exact absurd (hall g) hg

/-- Another one writes a field that the writer has yet to write, or the same value. -/
theorem Follows.other (h : Follows record w) {value : V f} (hvalue : f ∉ w.rest → value = w.target f) :
    Follows (Function.update record f value) w := by
  intro g hg
  by_cases heq : g = f
  · subst heq
    rw [Function.update_self]
    exact hvalue hg
  · rw [Function.update_of_ne heq]
    exact h g hg

end Cells
