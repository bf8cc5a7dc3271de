import Mathlib.Data.List.Nodup

/-!
# Tables with a primary key and one more unique column

A table is a list of rows together with the proof that its primary key and its unique
column repeat nowhere, so a table that violates its constraints cannot be built.
Insertion fails on a repeated key; an update may change every column but these two.

Rows are never deleted here. A table evolves into another one when every row is kept
up to a relation between its old and its new contents.
-/

namespace Relational

variable {Row K U : Type}

/-- Rows in insertion order, with no repeated primary key and no repeated unique column. -/
structure Table (Row : Type) {K U : Type} (pk : Row → K) (unique : Row → U) where
  rows : List Row
  pk_nodup : (rows.map pk).Nodup
  unique_nodup : (rows.map unique).Nodup

namespace Table

variable {pk : Row → K} {unique : Row → U}

instance : Membership Row (Table Row pk unique) where
  mem t r := r ∈ t.rows

/-- The rows of a table are its list of rows. -/
theorem mem_def {t : Table Row pk unique} {r : Row} : r ∈ t ↔ r ∈ t.rows := Iff.rfl

/-- The table without rows. -/
def empty : Table Row pk unique := ⟨[], List.nodup_nil, List.nodup_nil⟩

/-- The empty table has no rows. -/
@[simp] theorem not_mem_empty (r : Row) : r ∉ (empty : Table Row pk unique) := by
  simp [mem_def, empty]

/-- The first row that meets a condition. -/
def find? (t : Table Row pk unique) (p : Row → Bool) : Option Row := t.rows.find? p

/-- Add a row, unless its primary key or its unique column is taken. -/
def insert? [DecidableEq K] [DecidableEq U] (t : Table Row pk unique) (row : Row) :
    Option (Table Row pk unique) :=
  if h : pk row ∉ t.rows.map pk ∧ unique row ∉ t.rows.map unique then
    some {
      rows := t.rows ++ [row]
      pk_nodup := by
        rw [List.map_append, List.map_singleton]
        exact List.nodup_append_comm.mp (List.nodup_cons.mpr ⟨h.1, t.pk_nodup⟩)
      unique_nodup := by
        rw [List.map_append, List.map_singleton]
        exact List.nodup_append_comm.mp (List.nodup_cons.mpr ⟨h.2, t.unique_nodup⟩) }
  else none

/-- The rows with `f` applied where the condition holds. -/
def updateRows (rows : List Row) (p : Row → Bool) (f : Row → Row) : List Row :=
  rows.map fun r => if p r then f r else r

/-- An update that keeps a column leaves the column of the whole table as it is. -/
theorem map_updateRows {C : Type} (col : Row → C) (p : Row → Bool) (f : Row → Row)
    (hf : ∀ r, col (f r) = col r) (rows : List Row) :
    (updateRows rows p f).map col = rows.map col := by
  rw [updateRows, List.map_map]
  apply List.map_congr_left
  intro r _
  by_cases hp : p r <;> simp [hp, hf]

/-- Apply `f` to the rows that meet a condition; `f` keeps both unique columns. -/
def update (t : Table Row pk unique) (p : Row → Bool) (f : Row → Row)
    (hpk : ∀ r, pk (f r) = pk r) (hunique : ∀ r, unique (f r) = unique r) :
    Table Row pk unique where
  rows := updateRows t.rows p f
  pk_nodup := by rw [map_updateRows pk p f hpk]; exact t.pk_nodup
  unique_nodup := by rw [map_updateRows unique p f hunique]; exact t.unique_nodup

/-- The primary key determines the row. -/
theorem eq_of_pk {t : Table Row pk unique} {r q : Row} (hr : r ∈ t) (hq : q ∈ t)
    (h : pk r = pk q) : r = q := List.inj_on_of_nodup_map t.pk_nodup hr hq h

/-- The unique column determines the row. -/
theorem eq_of_unique {t : Table Row pk unique} {r q : Row} (hr : r ∈ t) (hq : q ∈ t)
    (h : unique r = unique q) : r = q := List.inj_on_of_nodup_map t.unique_nodup hr hq h

/-- A row that is found is in the table and meets the condition. -/
theorem find?_some {t : Table Row pk unique} {p : Row → Bool} {r : Row}
    (h : t.find? p = some r) : r ∈ t ∧ p r = true :=
  ⟨List.mem_of_find?_eq_some h, List.find?_some h⟩

/-- Where no row is found none meets the condition. -/
theorem find?_none {t : Table Row pk unique} {p : Row → Bool} (h : t.find? p = none) {r : Row}
    (hr : r ∈ t) : p r = false := by
  simpa using List.find?_eq_none.mp h r hr

/-- A condition met by a single row finds that row. -/
theorem find?_eq_some_of_only {t : Table Row pk unique} {p : Row → Bool} {r : Row} (hr : r ∈ t)
    (hp : p r = true) (honly : ∀ q ∈ t, p q = true → q = r) : t.find? p = some r := by
  cases h : t.find? p with
  | none => rw [find?_none h hr] at hp; cases hp
  | some q =>
    obtain ⟨hq, hpq⟩ := find?_some h
    rw [honly q hq hpq]

/-- The rows after an update are those before it, the ones that meet the condition updated. -/
theorem mem_update_of {t : Table Row pk unique} {p : Row → Bool} {f : Row → Row}
    (hpk : ∀ r, pk (f r) = pk r) (hunique : ∀ r, unique (f r) = unique r) {r : Row} :
    r ∈ t.update p f hpk hunique ↔ ∃ q ∈ t, (if p q then f q else q) = r := by
  simp [mem_def, update, updateRows]

/-- The rows after an update are those before it, for whatever proofs it carries. -/
theorem mem_update {t : Table Row pk unique} {p : Row → Bool} {f : Row → Row}
    {hpk : ∀ r, pk (f r) = pk r} {hunique : ∀ r, unique (f r) = unique r} {r : Row} :
    r ∈ t.update p f hpk hunique ↔ ∃ q ∈ t, (if p q then f q else q) = r := mem_update_of hpk hunique

section Insert

variable [DecidableEq K] [DecidableEq U] {t t' : Table Row pk unique} {row : Row}

/-- The rows after an insertion are those before it and the new one. -/
theorem mem_insert? (h : t.insert? row = some t') {r : Row} : r ∈ t' ↔ r ∈ t ∨ r = row := by
  unfold insert? at h
  split at h
  · cases h
    simp [mem_def]
  · cases h

/-- A row that could be inserted repeats no key of the table. -/
theorem insert?_fresh (h : t.insert? row = some t') {r : Row} (hr : r ∈ t) :
    pk r ≠ pk row ∧ unique r ≠ unique row := by
  unfold insert? at h
  split at h
  · rename_i hfresh
    exact ⟨fun heq => hfresh.1 (heq ▸ List.mem_map_of_mem hr),
      fun heq => hfresh.2 (heq ▸ List.mem_map_of_mem hr)⟩
  · cases h

/-- A row that repeats no key of the table can be inserted. -/
theorem exists_insert (h : ∀ r ∈ t, pk r ≠ pk row ∧ unique r ≠ unique row) : (t.insert? row).isSome = true := by
  have hpk : pk row ∉ t.rows.map pk := by
    intro hmem
    obtain ⟨r, hr, heq⟩ := List.mem_map.mp hmem
    exact (h r hr).1 heq
  have hunique : unique row ∉ t.rows.map unique := by
    intro hmem
    obtain ⟨r, hr, heq⟩ := List.mem_map.mp hmem
    exact (h r hr).2 heq
  rw [insert?, dif_pos ⟨hpk, hunique⟩]
  rfl

end Insert

/-- Every row is kept, up to the relation `rel` between its old and its new contents. -/
def Evolves (rel : Row → Row → Prop) (t t' : Table Row pk unique) : Prop :=
  ∀ r ∈ t, ∃ r' ∈ t', rel r r'

/-- A table evolves to itself. -/
theorem Evolves.refl {rel : Row → Row → Prop} (hrel : ∀ r, rel r r) (t : Table Row pk unique) :
    t.Evolves rel t := fun r hr => ⟨r, hr, hrel r⟩

/-- What evolves twice evolves. -/
theorem Evolves.trans {rel : Row → Row → Prop} (hrel : ∀ a b c, rel a b → rel b c → rel a c)
    {t₁ t₂ t₃ : Table Row pk unique} (h₁ : t₁.Evolves rel t₂) (h₂ : t₂.Evolves rel t₃) :
    t₁.Evolves rel t₃ := by
  intro r hr
  obtain ⟨r', hr', hrel'⟩ := h₁ r hr
  obtain ⟨r'', hr'', hrel''⟩ := h₂ r' hr'
  exact ⟨r'', hr'', hrel _ _ _ hrel' hrel''⟩

/-- A table evolves by an update that relates each row to what becomes of it. -/
theorem evolves_update {rel : Row → Row → Prop} (hrefl : ∀ r, rel r r)
    (t : Table Row pk unique) {p : Row → Bool} {f : Row → Row}
    (hpk : ∀ r, pk (f r) = pk r) (hunique : ∀ r, unique (f r) = unique r)
    (hf : ∀ r, p r = true → rel r (f r)) : t.Evolves rel (t.update p f hpk hunique) := by
  intro r hr
  refine ⟨_, mem_update.mpr ⟨r, hr, rfl⟩, ?_⟩
  by_cases hp : p r = true
  · simpa [hp] using hf r hp
  · simpa [hp] using hrefl r

/-- A table evolves by an insertion. -/
theorem evolves_insert? [DecidableEq K] [DecidableEq U] {rel : Row → Row → Prop}
    (hrefl : ∀ r, rel r r) {t t' : Table Row pk unique} {row : Row}
    (h : t.insert? row = some t') : t.Evolves rel t' :=
  fun r hr => ⟨r, (mem_insert? h).mpr (Or.inl hr), hrefl r⟩

end Table

end Relational
