import Mathlib.Data.List.Forall2
import RustPressAuth.Relational.Table

/-!
# Tables with the same rows up to a relation

Two tables are alike when their rows are, one by one and in the same order. Queries whose
conditions agree on alike rows find alike rows, and changes that keep alike rows alike
keep the tables alike. Nothing here depends on what the relation overlooks.
-/

namespace Relational

variable {Row K U : Type} {rel : Row → Row → Prop}

/-- Related options hold values both or neither. -/
theorem isSome_of_rel {L : Type} {rel : L → Row → Prop} {left : Option L} {row : Option Row}
    (h : Option.Rel rel left row) :
    left.isSome = row.isSome := by
  cases h with
  | some _ => rfl
  | none => rfl

/-- Options are related when they hold values both or neither, and related ones. -/
theorem rel_of_isSome {o o' : Option Row} (hsome : o.isSome = o'.isSome)
    (h : ∀ r r', o = some r → o' = some r' → rel r r') :
    Option.Rel rel o o' := by
  cases o with
  | none =>
    cases o' with
    | none => exact .none
    | some r' => cases hsome
  | some r =>
    cases o' with
    | none => cases hsome
    | some r' => exact .some (h r r' rfl rfl)

/-- Two rows that were found are related. -/
theorem rel_some {r r' : Row} (h : Option.Rel rel (some r) (some r')) : rel r r' := by
  cases h with
  | some hrel => exact hrel

/-- A column on which related rows agree, of rows that may be absent. -/
theorem map_eq_of_rel {C : Type} {col : Row → C} (hcol : ∀ r r', rel r r' → col r = col r') {o o' : Option Row}
    (h : Option.Rel rel o o') : o.map col = o'.map col := by
  cases h with
  | none => rfl
  | some hrel => exact congrArg some (hcol _ _ hrel)

/-- The first rows that meet conditions which agree on related rows. -/
theorem find?_rel {L : Type} {rel : L → Row → Prop} {left : List L} {rows : List Row}
    (h : List.Forall₂ rel left rows) {p : L → Bool} {q : Row → Bool} (hagree : ∀ a row, rel a row → p a = q row) :
    Option.Rel rel (left.find? p) (rows.find? q) := by
  induction h with
  | nil => exact .none
  | @cons a row left rows hrel _ ih =>
    rw [List.find?_cons, List.find?_cons, hagree a row hrel]
    cases q row with
    | true => exact .some hrel
    | false => exact ih

/-- As many rows meet conditions which agree on related rows. -/
theorem length_filter_rel {rows rows' : List Row} (h : List.Forall₂ rel rows rows') {p : Row → Bool}
    (hagree : ∀ r r', rel r r' → p r = p r') : (rows.filter p).length = (rows'.filter p).length := by
  induction h with
  | nil => rfl
  | @cons r r' rows rows' hrel _ ih =>
    rw [List.filter_cons, List.filter_cons, hagree r r' hrel]
    cases p r' with
    | true => exact congrArg (· + 1) ih
    | false => exact ih

/-- A column on which related rows agree is the same. -/
theorem map_rel {C : Type} {col : Row → C} (hcol : ∀ r r', rel r r' → col r = col r') {rows rows' : List Row}
    (h : List.Forall₂ rel rows rows') : rows.map col = rows'.map col := by
  induction h with
  | nil => rfl
  | cons hrel _ ih => rw [List.map_cons, List.map_cons, hcol _ _ hrel, ih]

namespace Table

variable {pk : Row → K} {unique : Row → U}

/-- The tables have related rows, in the same order. -/
def Alike (rel : Row → Row → Prop) (t t' : Table Row pk unique) : Prop := List.Forall₂ rel t.rows t'.rows

variable {t t' : Table Row pk unique}

/-- Related rows are found in alike tables. -/
theorem Alike.find? (h : t.Alike rel t') {p : Row → Bool} (hagree : ∀ r r', rel r r' → p r = p r') :
    Option.Rel rel (t.find? p) (t'.find? p) := find?_rel h hagree

/-- Alike tables stay alike when related rows are updated to related rows. -/
theorem Alike.update (h : t.Alike rel t') {p : Row → Bool} {f : Row → Row} (hpk : ∀ r, pk (f r) = pk r)
    (hunique : ∀ r, unique (f r) = unique r) (hagree : ∀ r r', rel r r' → p r = p r')
    (hkeep : ∀ r r', rel r r' → rel (f r) (f r')) :
    (t.update p f hpk hunique).Alike rel (t'.update p f hpk hunique) := by
  simp only [Alike, Table.update, updateRows, List.forall₂_map_left_iff, List.forall₂_map_right_iff]
  refine List.Forall₂.imp (fun r r' hrel => ?_) h
  rw [hagree r r' hrel]
  split
  · exact hkeep r r' hrel
  · exact hrel

/-- A row is inserted into both tables or into neither. -/
theorem Alike.insert? [DecidableEq K] [DecidableEq U] (h : t.Alike rel t') {row row' : Row} (hrow : rel row row')
    (hpk : ∀ r r', rel r r' → pk r = pk r') (hunique : ∀ r r', rel r r' → unique r = unique r') :
    Option.Rel (Alike rel) (t.insert? row) (t'.insert? row') := by
  have hkeys : (pk row ∉ t.rows.map pk ∧ unique row ∉ t.rows.map unique) ↔
      (pk row' ∉ t'.rows.map pk ∧ unique row' ∉ t'.rows.map unique) := by
    rw [map_rel hpk h, map_rel hunique h, hpk row row' hrow, hunique row row' hrow]
  by_cases hfresh : pk row ∉ t.rows.map pk ∧ unique row ∉ t.rows.map unique
  · rw [Table.insert?, Table.insert?, dif_pos hfresh, dif_pos (hkeys.mp hfresh)]
    exact .some (List.rel_append h (.cons hrow .nil))
  · rw [Table.insert?, Table.insert?, dif_neg hfresh, dif_neg fun h => hfresh (hkeys.mpr h)]
    exact .none

end Table

end Relational
