import RustPressAuth.Sql.Command

/-!
# Integrity under changes

What a command can do to tables that agree with their declarations. An UPDATE whose columns
are plain (none of them unique, none referring to rows or referred to) can only fail by a
value that does not fit or by NULL; an INSERT moreover by a repeated unique column or by a
reference to no row.
-/

namespace Sql

namespace Catalog

variable {T C N : Type} [DecidableEq T] [DecidableEq C] [DecidableEq N]

section Declarations

variable (catalog : Catalog T C N)

/-- No table, and no column of a table, is declared twice. -/
def WellNamed : Prop := (catalog.tables.map Prod.fst).Nodup ∧ ∀ t ∈ catalog.tables, (t.2.map Column.name).Nodup

instance : Decidable catalog.WellNamed := inferInstanceAs (Decidable (_ ∧ ∀ t ∈ catalog.tables, _))

/-- Columns of a table whose constraints concern single rows. -/
def Plain (table : T) (names : List C) : Prop :=
  ∀ t ∈ catalog.tables, ∀ column ∈ t.2,
    (t.1 = table → column.name ∈ names → column.unique = false ∧ column.references = none) ∧
      ∀ target ∈ column.references, target.1 = table → target.2 ∉ names

instance (table : T) (names : List C) : Decidable (catalog.Plain table names) :=
  inferInstanceAs (Decidable (∀ t ∈ catalog.tables, ∀ column ∈ t.2, _))

end Declarations

/-- A new row meets the constraints of a column that concern other rows. -/
structure Fits (contents : Contents T C) (table : T) (row : Record C) (column : Column T C N) : Prop where
  unique : column.unique = true → ∀ v ∈ row column.name, ∀ old ∈ contents table, old column.name ≠ some v
  references : ∀ target ∈ column.references, ∀ v ∈ row column.name,
    ∃ row' ∈ Function.update contents table (contents table ++ [row]) target.1, row' target.2 = some v

omit [DecidableEq C] [DecidableEq N] in
/-- A row fits a column exactly if its value is new where it must be unique, and found where it refers to a
column. -/
theorem fits_iff {contents : Contents T C} {table : T} {row : Record C} {column : Column T C N} :
    Fits contents table row column ↔
      (column.unique = true → ∀ v ∈ row column.name, ∀ old ∈ contents table, old column.name ≠ some v) ∧
      ∀ target ∈ column.references, ∀ v ∈ row column.name,
        ∃ row' ∈ Function.update contents table (contents table ++ [row]) target.1, row' target.2 = some v :=
  ⟨fun h => ⟨h.unique, h.references⟩, fun ⟨hunique, hreferences⟩ => ⟨hunique, hreferences⟩⟩

variable {catalog : Catalog T C N} {contents : Contents T C} {table : T} {columns : List (Column T C N)}
    {b : Bindings}
  {sets : List (C × Expr C)} {condition : Expr C} {row : Record C}

omit [DecidableEq T] [DecidableEq C] in
/-- What is stored in a column, the column admits. -/
theorem store_admits {type : ColumnType N} {v w : Value} (h : catalog.store type v = .ok w) :
    catalog.admits type w = true := by
  cases type with
  | uuid => cases v <;> cases h; rfl
  | text => cases v <;> cases h; rfl
  | timestamptz => cases v <;> cases h; rfl
  | varchar n =>
    cases v with
    | text s =>
      simp only [store, fitText] at h
      split at h
      · rename_i hlength
        cases h
        simpa only [admits, decide_eq_true_eq] using hlength
      · split at h
        · cases h
          simp only [admits, String.length_ofList, List.length_take, decide_eq_true_eq]
          exact Nat.min_le_left n _
        · cases h
    | _ => cases h
  | integer =>
    cases v with
    | integer n =>
      simp only [store, Sql.integer] at h
      split at h
      · rename_i hrange
        cases h
        simpa only [admits, decide_eq_true_eq] using hrange
      · cases h
    | _ => cases h
  | enum name =>
    cases v with
    | text s =>
      simp only [store] at h
      split at h
      · rename_i labels hlabels
        split at h
        · rename_i hmem
          cases h
          simp [admits, hlabels, hmem]
        · cases h
      · cases h
    | _ => cases h

/-- The results of a computation on a list come from its elements. -/
theorem mem_of_mapM {ε α β : Type} {g : α → Except ε β} {rows : List α} {values : List β}
    (h : rows.mapM g = .ok values) {v : β} (hv : v ∈ values) : ∃ r ∈ rows, g r = .ok v := by
  induction rows generalizing values with
  | nil =>
    cases h
    cases hv
  | cons r rows ih =>
    rw [List.mapM_cons] at h
    obtain ⟨first, hfirst, h⟩ := bind_eq_ok h
    obtain ⟨rest, hrest, h⟩ := bind_eq_ok h
    cases h
    rcases List.mem_cons.mp hv with rfl | hold
    · exact ⟨r, List.mem_cons_self, hfirst⟩
    · obtain ⟨q, hq, hvalue⟩ := ih hrest hold
      exact ⟨q, List.mem_cons_of_mem r hq, hvalue⟩

omit [DecidableEq T] in
/-- A value is assigned to the column of that name, which admits it. -/
theorem assign_ok {set : C × Expr C} {value : C × Option Value} (h : catalog.assign columns b row set = .ok value) :
    value.1 = set.1 ∧ ∃ column ∈ columns, column.name = set.1 ∧
    ∀ v ∈ value.2, catalog.admits column.type v = true := by
  unfold assign at h
  split at h
  · cases h
  · rename_i column hfind
    have hmem := List.mem_of_find?_eq_some hfind
    have hname : column.name = set.1 := by simpa using List.find?_some hfind
    obtain ⟨v, -, h⟩ := bind_eq_ok h
    cases v with
    | none =>
      cases h
      exact ⟨rfl, column, hmem, hname, fun v hv => by cases hv⟩
    | some v =>
      obtain ⟨w, hstore, h⟩ := bind_eq_ok h
      cases h
      refine ⟨rfl, column, hmem, hname, ?_⟩
      rintro v' ⟨⟩
      exact store_admits hstore

omit [DecidableEq T] in
/-- The values of several assignments, found by the names of their columns. -/
theorem lookup_assigned {values : List (C × Option Value)}
    (h : sets.mapM (catalog.assign columns b row) = .ok values) {c : C} {v : Option Value}
    (hv : values.lookup c = some v) :
    c ∈ sets.map Prod.fst ∧ ∃ column ∈ columns, column.name = c ∧ ∀ w ∈ v, catalog.admits column.type w = true := by
  obtain ⟨value, hvalue, hc⟩ : ∃ value ∈ values, value = (c, v) := by
    rw [List.lookup_eq_some_iff] at hv
    obtain ⟨before, after, rfl, -⟩ := hv
    exact ⟨(c, v), by simp, rfl⟩
  subst hc
  obtain ⟨set, hset, hassign⟩ := mem_of_mapM h hvalue
  obtain ⟨hname, column, hcolumn, hcolumnName, hadmits⟩ := assign_ok hassign
  exact ⟨List.mem_map.mpr ⟨set, hset, hname.symm⟩, column, hcolumn, hcolumnName.trans hname.symm, hadmits⟩

omit [DecidableEq T] in
/-- What becomes of a row keeps the columns that are not set, and the columns that are set admit their values. -/
theorem changeRow_ok (hnames : (columns.map Column.name).Nodup) {hit : Bool} {row' : Record C}
    (h : catalog.changeRow columns b sets condition row = .ok (hit, row')) :
    (∀ c ∉ sets.map Prod.fst, row' c = row c) ∧
      ∀ column ∈ columns, row' column.name = row column.name ∨
        ∀ v ∈ row' column.name, catalog.admits column.type v = true := by
  obtain ⟨met, -, h⟩ := bind_eq_ok h
  cases met with
  | false =>
    cases h
    exact ⟨fun _ _ => rfl, fun _ _ => Or.inl rfl⟩
  | true =>
    rw [if_pos rfl] at h
    obtain ⟨values, hvalues, h⟩ := bind_eq_ok h
    cases h
    refine ⟨fun c hc => ?_, fun column hcolumn => ?_⟩
    · cases hlookup : values.lookup c with
      | none => simp only [Record.write, hlookup, Option.getD_none]
      | some v => exact absurd (lookup_assigned hvalues hlookup).1 hc
    · cases hlookup : values.lookup column.name with
      | none => exact Or.inl (by simp only [Record.write, hlookup, Option.getD_none])
      | some v =>
        obtain ⟨-, column', hcolumn', hname, hadmits⟩ := lookup_assigned hvalues hlookup
        obtain rfl : column' = column := List.inj_on_of_nodup_map hnames hcolumn' hcolumn hname
        simp only [Record.write, hlookup, Option.getD_some]
        exact Or.inr hadmits

omit [DecidableEq T] in
/-- The columns of a new row admit its values. -/
theorem newRow_ok (hnames : (columns.map Column.name).Nodup) (h : catalog.newRow columns b sets = .ok row) :
    ∀ column ∈ columns, ∀ v ∈ row column.name, catalog.admits column.type v = true := by
  intro column hcolumn
  obtain ⟨values, hvalues, h⟩ := bind_eq_ok h
  cases h
  cases hlookup : values.lookup column.name with
  | none =>
    simp only [Record.write, hlookup, Option.getD_none]
    rintro v ⟨⟩
  | some v =>
    obtain ⟨-, column', hcolumn', hname, hadmits⟩ := lookup_assigned hvalues hlookup
    obtain rfl : column' = column := List.inj_on_of_nodup_map hnames hcolumn' hcolumn hname
    simpa only [Record.write, hlookup, Option.getD_some] using hadmits

omit [DecidableEq T] [DecidableEq C] in
/-- A column accepts a value that it admits, and NULL only where it may be NULL. -/
theorem accepts_of_admits {column : Column T C N} {v : Option Value}
    (hadmits : ∀ w ∈ v, catalog.admits column.type w = true)
    (hpresent : column.notNull = true → v.isSome = true) : catalog.Accepts column v = true := by
  cases v with
  | some w => exact hadmits w rfl
  | none =>
    cases hnull : column.notNull with
    | false => simp only [Accepts, hnull, Bool.not_false]
    | true => cases hpresent hnull

omit [DecidableEq C] [DecidableEq N] in
/-- A table with columns is in the catalog. -/
theorem mem_of_columns (hcolumns : catalog.columns table = .ok columns) : (table, columns) ∈ catalog.tables := by
  unfold Catalog.columns at hcolumns
  split at hcolumns
  · rename_i found hfound
    cases hcolumns
    rw [List.lookup_eq_some_iff] at hfound
    obtain ⟨before, after, htables, -⟩ := hfound
    rw [htables]
    simp
  · cases hcolumns

omit [DecidableEq C] [DecidableEq N] in
/-- In a well-named catalog the columns of a table are found under its name. -/
theorem WellNamed.columns_eq (hnamed : catalog.WellNamed) (hcolumns : catalog.columns table = .ok columns)
    {t : T × List (Column T C N)} (ht : t ∈ catalog.tables) (hname : t.1 = table) : t.2 = columns := by
  have heq : t = (table, columns) := List.inj_on_of_nodup_map hnamed.1 ht (mem_of_columns hcolumns) hname
  rw [heq]

omit [DecidableEq C] in
/-- Rows whose plain columns changed keep a valid database valid, as far as each column accepts its values. -/
theorem valid_update (hnamed : catalog.WellNamed) (hvalid : catalog.Valid contents)
    (hcolumns : catalog.columns table = .ok columns) {names : List C} (hplain : catalog.Plain table names)
    {α : Type} {rows : List α} {enc enc' : α → Record C} (hrows : contents table = rows.map enc)
    (hkept : ∀ r ∈ rows, ∀ c ∉ names, enc' r c = enc r c)
    (haccepts : ∀ r ∈ rows, ∀ column ∈ columns, catalog.Accepts column (enc' r column.name) = true) :
    catalog.Valid (Function.update contents table (rows.map enc')) := by
  have hreferred (target : T × C) (hkey : target.1 = table → target.2 ∉ names) (v : Value)
      (h : ∃ row' ∈ contents target.1, row' target.2 = some v) :
      ∃ row' ∈ Function.update contents table (rows.map enc') target.1, row' target.2 = some v := by
    obtain ⟨row', hrow', hv⟩ := h
    by_cases htarget : target.1 = table
    · rw [htarget, hrows] at hrow'
      obtain ⟨q, hq, rfl⟩ := List.mem_map.mp hrow'
      rw [htarget, Function.update_self]
      exact ⟨enc' q, List.mem_map_of_mem hq, (hkept q hq _ (hkey htarget)).trans hv⟩
    · rw [Function.update_of_ne htarget]
      exact ⟨row', hrow', hv⟩
  intro t ht column hcolumn
  have hold := hvalid t ht column hcolumn
  have hfree := hplain t ht column hcolumn
  by_cases hname : t.1 = table
  · have hmem : column ∈ columns := hnamed.columns_eq hcolumns ht hname ▸ hcolumn
    rw [hname, hrows] at hold
    rw [hname, Function.update_self]
    refine ⟨fun row hrow => ?_, fun hunique => ?_, fun target htarget row hrow v hv => ?_⟩
    · obtain ⟨r, hr, rfl⟩ := List.mem_map.mp hrow
      exact haccepts r hr column hmem
    · have hset : column.name ∉ names := fun hset => by
        rw [(hfree.1 hname hset).1] at hunique
        cases hunique
      have hsame : (rows.map enc').filterMap (fun row => row column.name) =
          (rows.map enc).filterMap fun row => row column.name := by
        rw [List.filterMap_map, List.filterMap_map]
        exact List.filterMap_congr fun r hr => hkept r hr _ hset
      rw [hsame]
      exact hold.unique hunique
    · have hset : column.name ∉ names := fun hset => by
        rw [(hfree.1 hname hset).2] at htarget
        cases htarget
      obtain ⟨r, hr, rfl⟩ := List.mem_map.mp hrow
      rw [hkept r hr _ hset] at hv
      exact hreferred target (hfree.2 target htarget) v
        (hold.references target htarget _ (List.mem_map_of_mem hr) v hv)
  · rw [Function.update_of_ne hname]
    exact ⟨hold.accepts, hold.unique, fun target htarget row hrow v hv =>
      hreferred target (hfree.2 target htarget) v (hold.references target htarget row hrow v hv)⟩

omit [DecidableEq C] in
/-- A new row keeps a valid database valid exactly when each column accepts its value and it fits in with the
other rows. -/
theorem valid_insert_iff (hnamed : catalog.WellNamed) (hvalid : catalog.Valid contents)
    (hcolumns : catalog.columns table = .ok columns) :
    catalog.Valid (Function.update contents table (contents table ++ [row])) ↔
      ∀ column ∈ columns, catalog.Accepts column (row column.name) = true ∧ Fits contents table row column := by
  constructor
  · intro hnew column hcolumn
    have hholds := hnew _ (mem_of_columns hcolumns) column hcolumn
    simp only [Function.update_self] at hholds
    have hrow : row ∈ contents table ++ [row] := List.mem_append_right _ (List.mem_singleton_self row)
    refine ⟨hholds.accepts row hrow, fun hunique v hv old hold heq => ?_, fun target htarget v hv =>
      hholds.references target htarget row hrow v hv⟩
    have hnodup := hholds.unique hunique
    rw [List.filterMap_append, List.nodup_append] at hnodup
    exact hnodup.2.2 v (List.mem_filterMap.mpr ⟨old, hold, heq⟩) v
      (List.mem_filterMap.mpr ⟨row, List.mem_singleton_self row, hv⟩) rfl
  · intro hfits t ht column hcolumn
    have hold := hvalid t ht column hcolumn
    have hreferred (target : T × C) (v : Value) (h : ∃ row' ∈ contents target.1, row' target.2 = some v) :
        ∃ row' ∈ Function.update contents table (contents table ++ [row]) target.1, row' target.2 = some v := by
      obtain ⟨row', hrow', hv⟩ := h
      by_cases htarget : target.1 = table
      · rw [htarget] at hrow'
        rw [htarget, Function.update_self]
        exact ⟨row', List.mem_append_left _ hrow', hv⟩
      · rw [Function.update_of_ne htarget]
        exact ⟨row', hrow', hv⟩
    by_cases hname : t.1 = table
    · have hmem : column ∈ columns := hnamed.columns_eq hcolumns ht hname ▸ hcolumn
      obtain ⟨haccepts, hnew⟩ := hfits column hmem
      rw [hname] at hold
      rw [hname, Function.update_self]
      refine ⟨fun r hr => ?_, fun hunique => ?_, fun target htarget r hr v hv => ?_⟩
      · rcases List.mem_append.mp hr with hbefore | hlast
        · exact hold.accepts r hbefore
        · rw [List.mem_singleton.mp hlast]
          exact haccepts
      · rw [List.filterMap_append, List.nodup_append]
        refine ⟨hold.unique hunique, ?_, fun v hv w hw heq => ?_⟩
        · cases hrow : row column.name <;> simp [hrow]
        · obtain ⟨old, hbefore, hvalue⟩ := List.mem_filterMap.mp hv
          obtain ⟨last, hlast, hrow⟩ := List.mem_filterMap.mp hw
          rw [List.mem_singleton.mp hlast] at hrow
          exact hnew.unique hunique w hrow old hbefore (heq ▸ hvalue)
      · rcases List.mem_append.mp hr with hbefore | hlast
        · exact hreferred target v (hold.references target htarget r hbefore v hv)
        · rw [List.mem_singleton.mp hlast] at hv
          exact hnew.references target htarget v hv
    · rw [Function.update_of_ne hname]
      exact ⟨hold.accepts, hold.unique, fun target htarget r hr v hv =>
        hreferred target v (hold.references target htarget r hr v hv)⟩

/-- An UPDATE of plain columns of encoded rows; the encodings have no NULL where none may be. -/
theorem exec_update_plain (hnamed : catalog.WellNamed) (hvalid : catalog.Valid contents)
    (hcolumns : catalog.columns table = .ok columns) (hplain : catalog.Plain table (sets.map Prod.fst)) {α : Type}
    {rows : List α} {enc : α → Record C} {p : α → Bool} {f : α → α} (hrows : contents table = rows.map enc)
    (hpresent : ∀ r, ∀ column ∈ columns, column.notNull = true → (enc r column.name).isSome = true)
    (htest : ∀ r ∈ rows, condition.test b (enc r) = .ok (p r))
    (hset : ∀ r ∈ rows, p r = true →
      ∃ values, sets.mapM (catalog.assign columns b (enc r)) = .ok values ∧ Record.write values
      (enc r) = enc (f r)) :
    catalog.exec b contents (.update table sets condition) = .ok ((rows.filter p).map fun r => enc (f r),
      Function.update contents table ((rows.map fun r => if p r then f r else r).map enc)) := by
  have hchange : ∀ r ∈ rows,
      catalog.changeRow columns b sets condition (enc r) = .ok (p r, enc (if p r then f r else r)) := by
    intro r hr
    rw [changeRow_eq (htest r hr) (hset r hr), apply_ite enc]
  apply exec_update hcolumns hrows hchange
  rw [List.map_map]
  apply valid_update hnamed hvalid hcolumns hplain hrows
  · intro r hr
    exact (changeRow_ok (hnamed.2 _ (mem_of_columns hcolumns)) (hchange r hr)).1
  · intro r hr column hcolumn
    rcases (changeRow_ok (hnamed.2 _ (mem_of_columns hcolumns)) (hchange r hr)).2 column
      hcolumn with hsame | hadmits
    · have hold := hvalid _ (mem_of_columns hcolumns) column hcolumn
      simp only [hrows] at hold
      simp only [Function.comp_apply, hsame]
      exact hold.accepts _ (List.mem_map_of_mem hr)
    · exact accepts_of_admits hadmits (hpresent _ column hcolumn)

/-- An INSERT into a valid database, of a row with no NULL where none may be. -/
theorem exec_insert_row (hnamed : catalog.WellNamed) (hvalid : catalog.Valid contents)
    (hcolumns : catalog.columns table = .ok columns) (hrow : catalog.newRow columns b sets = .ok row)
    (hpresent : ∀ column ∈ columns, column.notNull = true → (row column.name).isSome = true)
    (hfits : ∀ column ∈ columns, Fits contents table row column) :
    catalog.exec b contents (.insert table sets) =
      .ok ([row], Function.update contents table (contents table ++ [row])) := by
  rw [exec_insert hcolumns hrow, commit, if_pos]
  refine (valid_insert_iff hnamed hvalid hcolumns).mpr fun column hcolumn => ⟨?_, hfits column hcolumn⟩
  exact accepts_of_admits (newRow_ok (hnamed.2 _ (mem_of_columns hcolumns)) hrow column hcolumn)
    (hpresent column hcolumn)

/-- An INSERT of a row that does not fit in with the others. -/
theorem exec_insert_violation (hnamed : catalog.WellNamed) (hvalid : catalog.Valid contents)
    (hcolumns : catalog.columns table = .ok columns) (hrow : catalog.newRow columns b sets = .ok row)
    (hfits : ¬ ∀ column ∈ columns, Fits contents table row column) :
    catalog.exec b contents (.insert table sets) = .error .violation := by
  rw [exec_insert hcolumns hrow, commit, if_neg]
  exact fun hnew => hfits fun column hcolumn => ((valid_insert_iff hnamed hvalid hcolumns).mp hnew column hcolumn).2

/-- A command keeps a valid database valid. -/
theorem exec_valid {command : Command T C} {rows : List (Record C)} {contents' : Contents T C}
    (hvalid : catalog.Valid contents) (h : catalog.exec b contents command = .ok (rows, contents')) :
    catalog.Valid contents' := by
  have hcommit {rows' : List (Record C)} {after : Contents T C} (h : catalog.commit rows' after =
    .ok (rows, contents')) :
      catalog.Valid contents' := by
    unfold commit at h
    split at h
    · rename_i hafter
      cases h
      exact hafter
    · cases h
  cases command with
  | insert table sets =>
    obtain ⟨columns, -, h⟩ := bind_eq_ok h
    obtain ⟨row, -, h⟩ := bind_eq_ok h
    exact hcommit h
  | update table sets condition =>
    obtain ⟨columns, -, h⟩ := bind_eq_ok h
    obtain ⟨changed, -, h⟩ := bind_eq_ok h
    exact hcommit h
  | select table condition =>
    obtain ⟨columns, -, h⟩ := bind_eq_ok h
    obtain ⟨tested, -, h⟩ := bind_eq_ok h
    cases h
    exact hvalid

end Catalog

end Sql
