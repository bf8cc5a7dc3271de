import RustPressAuth.Sql.Command

/-!
# Definitions that are made once

The statements that create enumerated types, tables and indexes where these do not exist
yet. A definition needs what it refers to: the type and the referenced column of a column,
the table of an index.

A catalog only grows, and a definition that was made once is void on every later catalog.
So a list of definitions can be gone through again from the start, by anyone and at any
time: whoever is at work, the catalog is the one that some first part of the list makes.
-/

namespace Sql

variable {T C N I : Type}

/-- The statements that define a schema. -/
inductive Definition (T C N I : Type) where
  /-- `CREATE TYPE ... AS ENUM`, in a block that goes on after `duplicate_object`. -/
  | createType (name : N) (labels : List String)
  /-- `CREATE TABLE IF NOT EXISTS`. -/
  | createTable (name : T) (columns : List (Column T C N))
  /-- `CREATE INDEX IF NOT EXISTS`. -/
  | createIndex (name : I) (table : T) (column : C)

/-- A catalog with its indexes. -/
structure Schema (T C N I : Type) extends Catalog T C N where
  indexes : List (I × T × C)

namespace Schema

/-- Nothing is defined. -/
def empty : Schema T C N I := ⟨⟨[], []⟩, []⟩

variable [DecidableEq T] [DecidableEq C] [DecidableEq N] [DecidableEq I]

/-- What a column of a new table refers to is there: its type, and a unique column of this or another table. -/
def Supports (s : Schema T C N I) (table : T) (columns : List (Column T C N)) (column : Column T C N) : Bool :=
  (match column.type with
    | .enum name => (s.enums.lookup name).isSome
    | _ => true) &&
  match column.references with
  | none => true
  | some (target, key) =>
    let candidates := if target = table then columns else (s.tables.lookup target).getD []
    candidates.any fun candidate => decide (candidate.name = key) && candidate.unique

/-- Make a definition. -/
def define (s : Schema T C N I) : Definition T C N I → Except SqlError (Schema T C N I)
  | .createType name labels =>
    if (s.enums.lookup name).isSome then .ok s
    else .ok { s with enums := s.enums ++ [(name, labels)] }
  | .createTable name columns =>
    if (s.tables.lookup name).isSome then .ok s
    else if columns.all (s.Supports name columns) then .ok { s with tables := s.tables ++ [(name, columns)] }
    else .error .undefinedTable
  | .createIndex name table column =>
    match s.tables.lookup table with
    | none => .error .undefinedTable
    | some columns =>
      if column ∉ columns.map Column.name then .error .undefinedColumn
      else if (s.indexes.lookup name).isSome then .ok s
      else .ok { s with indexes := s.indexes ++ [(name, table, column)] }

/-- All that is defined stays defined as it is. -/
structure Le (s s' : Schema T C N I) : Prop where
  enums : ∀ name labels, s.enums.lookup name = some labels → s'.enums.lookup name = some labels
  tables : ∀ name columns, s.tables.lookup name = some columns → s'.tables.lookup name = some columns
  indexes : ∀ name place, s.indexes.lookup name = some place → s'.indexes.lookup name = some place

/-- The object of the definition is there, with what the definition looks at. -/
def Has (s : Schema T C N I) : Definition T C N I → Prop
  | .createType name _ => (s.enums.lookup name).isSome = true
  | .createTable name _ => (s.tables.lookup name).isSome = true
  | .createIndex name table column => (s.indexes.lookup name).isSome = true ∧
      ∃ columns, s.tables.lookup table = some columns ∧ column ∈ columns.map Column.name

variable {s s' t : Schema T C N I} {d : Definition T C N I}

omit [DecidableEq C] in
/-- A schema is at most itself. -/
theorem Le.refl (s : Schema T C N I) : s.Le s := ⟨fun _ _ => id, fun _ _ => id, fun _ _ => id⟩

/-- What a list holds it still holds when more is put at its end. -/
theorem lookup_append_of_some {α β : Type} [DecidableEq α] {l m : List (α × β)} {a : α} {v : β}
    (h : l.lookup a = some v) :
    (l ++ m).lookup a = some v := by
  rw [List.lookup_append, h, Option.some_or]

/-- What is appended to a list is looked up in it. -/
theorem lookup_append_singleton {α β : Type} [DecidableEq α] {l : List (α × β)} {a : α} {v : β} :
    ((l ++ [(a, v)]).lookup a).isSome = true := by
  rw [List.lookup_append, List.lookup_cons, beq_self_eq_true]
  cases l.lookup a <;> rfl

/-- A definition adds, and its object is there afterwards. -/
theorem define_ok (h : s.define d = .ok s') : s.Le s' ∧ s'.Has d := by
  cases d with
  | createType name labels =>
    simp only [define] at h
    split at h
    · rename_i hthere
      cases h
      exact ⟨.refl s, hthere⟩
    · cases h
      exact ⟨⟨fun _ _ hlabels => lookup_append_of_some hlabels, fun _ _ => id, fun _ _ => id⟩,
        lookup_append_singleton⟩
  | createTable name columns =>
    simp only [define] at h
    split at h
    · rename_i hthere
      cases h
      exact ⟨.refl s, hthere⟩
    · split at h
      · cases h
        exact ⟨⟨fun _ _ => id, fun _ _ hcolumns => lookup_append_of_some hcolumns, fun _ _ => id⟩,
          lookup_append_singleton⟩
      · cases h
  | createIndex name table column =>
    simp only [define] at h
    split at h
    · cases h
    · rename_i columns hcolumns
      split at h
      · cases h
      · rename_i hcolumn
        simp only [Decidable.not_not] at hcolumn
        split at h
        · rename_i hthere
          cases h
          exact ⟨.refl s, hthere, columns, hcolumns, hcolumn⟩
        · cases h
          exact ⟨⟨fun _ _ => id, fun _ _ => id, fun _ _ hplace => lookup_append_of_some hplace⟩,
            lookup_append_singleton, columns, hcolumns, hcolumn⟩

/-- A definition whose object is there is void. -/
theorem define_of_has (h : s.Has d) : s.define d = .ok s := by
  cases d with
  | createType name labels =>
    simp only [define]
    exact if_pos h
  | createTable name columns =>
    simp only [define]
    exact if_pos h
  | createIndex name table column =>
    obtain ⟨hthere, columns, hcolumns, hcolumn⟩ := h
    simp only [define, hcolumns, hcolumn, not_true_eq_false, if_false, hthere, if_true]

omit [DecidableEq C] in
/-- What a schema has, a larger one has. -/
theorem Has.later (h : s.Has d) (hle : s.Le s') : s'.Has d := by
  cases d with
  | createType name labels =>
    obtain ⟨found, hfound⟩ := Option.isSome_iff_exists.mp h
    exact Option.isSome_iff_exists.mpr ⟨found, hle.enums _ _ hfound⟩
  | createTable name columns =>
    obtain ⟨found, hfound⟩ := Option.isSome_iff_exists.mp h
    exact Option.isSome_iff_exists.mpr ⟨found, hle.tables _ _ hfound⟩
  | createIndex name table column =>
    obtain ⟨hthere, columns, hcolumns, hcolumn⟩ := h
    obtain ⟨found, hfound⟩ := Option.isSome_iff_exists.mp hthere
    exact ⟨Option.isSome_iff_exists.mpr ⟨found, hle.indexes _ _ hfound⟩, columns, hle.tables _ _ hcolumns, hcolumn⟩

/-- Make the definitions of a list one after the other. -/
def defineAll (s : Schema T C N I) : List (Definition T C N I) → Except SqlError (Schema T C N I)
  | [] => .ok s
  | d :: rest => do
    let s' ← s.define d
    s'.defineAll rest

variable {ds : List (Definition T C N I)} {n k : ℕ}

/-- Definitions that follow others are executed on the schema the others leave. -/
theorem defineAll_append {es : List (Definition T C N I)} :
    s.defineAll (ds ++ es) = s.defineAll ds >>= fun next => next.defineAll es := by
  induction ds generalizing s with
  | nil => rfl
  | cons d ds ih =>
    simp only [List.cons_append, defineAll]
    cases s.define d with
    | error e => rfl
    | ok s' => exact ih

/-- A first part of a list that can be gone through can be gone through. -/
theorem exists_stage (h : s.defineAll ds = .ok t) (n : ℕ) : ∃ s', s.defineAll (ds.take n) = .ok s' := by
  rw [← List.take_append_drop n ds, defineAll_append] at h
  cases hfirst : s.defineAll (ds.take n) with
  | error e =>
    rw [hfirst] at h
    cases h
  | ok s' => exact ⟨s', rfl⟩

/-- The next definition leads from one stage to the next. -/
theorem define_next (h : s.defineAll ds = .ok t) (hd : ds[n]? = some d)
    (hstage : s.defineAll (ds.take n) = .ok s') :
    ∃ s'', s'.define d = .ok s'' ∧ s.defineAll (ds.take (n + 1)) = .ok s'' := by
  obtain ⟨s'', hnext⟩ := exists_stage h (n + 1)
  have htake : ds.take (n + 1) = ds.take n ++ [d] := by
    rw [List.take_add_one, hd, Option.toList_some]
  rw [htake, defineAll_append, hstage] at hnext
  simp only [ok_bind, defineAll] at hnext
  cases hdefine : s'.define d with
  | error e =>
    rw [hdefine] at hnext
    cases hnext
  | ok next =>
    rw [hdefine] at hnext
    obtain rfl := Except.ok.inj hnext
    refine ⟨next, rfl, ?_⟩
    rw [htake, defineAll_append, hstage]
    simp only [ok_bind, defineAll, hdefine]

/-- Later stages have the objects of all definitions before them. -/
theorem has_of_stage (h : s.defineAll ds = .ok t) (hd : ds[k]? = some d) (hk : k < n)
    (hstage : s.defineAll (ds.take n) = .ok s') : s'.Has d := by
  induction n generalizing s' with
  | zero => cases hk
  | succ n ih =>
    cases hn : ds[n]? with
    | none =>
      have hlength : ds.length ≤ n := List.getElem?_eq_none_iff.mp hn
      have hbefore : s.defineAll (ds.take n) = .ok s' := by
        rw [List.take_of_length_le hlength]
        rw [List.take_of_length_le (Nat.le_succ_of_le hlength)] at hstage
        exact hstage
      have hkn : k < n := Nat.lt_of_lt_of_le (List.getElem?_eq_some_iff.mp hd).1 hlength
      exact ih hkn hbefore
    | some last =>
      obtain ⟨before, hbefore⟩ := exists_stage h n
      obtain ⟨after, hdefine, hafter⟩ := define_next h hn hbefore
      obtain rfl : after = s' := Except.ok.inj (hafter.symm.trans hstage)
      obtain ⟨hle, hhas⟩ := define_ok hdefine
      rcases Nat.lt_succ_iff_lt_or_eq.mp hk with hlt | rfl
      · exact (ih hlt hbefore).later hle
      · obtain rfl : last = d := Option.some.inj (hn.symm.trans hd)
        exact hhas

/-- A definition of the list that was made before is void, and the one that is due leads on. -/
theorem define_at_stage (h : s.defineAll ds = .ok t) (hd : ds[k]? = some d) (hk : k ≤ n)
    (hstage : s.defineAll (ds.take n) = .ok s') :
    ∃ s'' m, s'.define d = .ok s'' ∧ s.defineAll (ds.take m) = .ok s'' ∧ n ≤ m ∧ k < m := by
  rcases Nat.lt_or_eq_of_le hk with hlt | rfl
  · exact ⟨s', n, define_of_has (has_of_stage h hd hlt hstage), hstage, Nat.le_refl n, hlt⟩
  · obtain ⟨s'', hdefine, hnext⟩ := define_next h hd hstage
    exact ⟨s'', k + 1, hdefine, hnext, Nat.le_succ k, Nat.lt_succ_self k⟩

end Schema

end Sql
