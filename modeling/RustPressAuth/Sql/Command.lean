import Mathlib.Data.Int.Notation
import Mathlib.Data.List.Nodup
import Mathlib.Data.Nat.Notation
import Mathlib.Logic.Function.Basic
import RustPressAuth.Numeric.Rounding

/-!
# A small SQL

Tables with declared columns, and the commands INSERT, UPDATE and SELECT on them. A column
holds a value of its type or NULL; expressions follow the three-valued logic of NULL. A
command that would leave a table in conflict with its declaration fails, and a command
that fails changes nothing. Parameters are checked before a command is executed. Instants
and intervals are counted in microseconds and are limited in range.

Tables, columns and enumerated types are named by types of one's own. Rows are kept in the
order of their insertion.
-/

namespace Sql

/-- Values. -/
inductive Value where
  | uuid (id : BitVec 128)
  | text (s : String)
  | integer (n : ℤ)
  | instant (t : ℤ)
  | span (d : ℤ)
  | label (s : String)
  | truth (b : Bool)
deriving DecidableEq, Repr

/-- Why a command fails. -/
inductive SqlError where
  | undefinedTable
  | undefinedColumn
  | undefinedParameter
  | typeMismatch
  | outOfRange
  | intervalOutOfRange
  | timestampOutOfRange
  | nulCharacter
  | tooLong (n : ℕ)
  | invalidLabel
  | violation
deriving DecidableEq, Repr

/-- Expressions over the columns of a row. -/
inductive Expr (C : Type) where
  | column (name : C)
  /-- The parameter `$n`. -/
  | param (n : ℕ)
  | literal (v : Value)
  | null
  /-- `NOW()`. -/
  | now
  /-- `gen_random_uuid()`. -/
  | randomUuid
  | add (a b : Expr C)
  | mul (a b : Expr C)
  | eq (a b : Expr C)
  | gt (a b : Expr C)
  | ge (a b : Expr C)
  | isNull (a : Expr C)
  | and (a b : Expr C)
  | caseWhen (condition a b : Expr C)
deriving DecidableEq, Repr

/-- A row: the value of each column, or NULL. -/
abbrev Record (C : Type) := C → Option Value

/-- What a command is executed with. -/
structure Bindings where
  params : List (Option Value)
  now : ℤ
  fresh : BitVec 128

/-- A value of type INTEGER. -/
def integer (n : ℤ) : Except SqlError Value :=
  if -2147483648 ≤ n ∧ n ≤ 2147483647 then .ok (.integer n) else .error .outOfRange

/-- A value of type INTERVAL. -/
def interval (d : ℤ) : Except SqlError Value :=
  if -9223372036854775808 ≤ d ∧ d < 9223372036854775808 then .ok (.span d) else .error .intervalOutOfRange

/-- The instants of type TIMESTAMPTZ: from November 24, 4714 BC to the end of the year 294276. -/
def IsTimestamp (t : ℤ) : Prop := -210866803200000000 ≤ t ∧ t < 9224318016000000000

instance (t : ℤ) : Decidable (IsTimestamp t) := inferInstanceAs (Decidable (_ ∧ _))

/-- A value of type TIMESTAMPTZ. -/
def timestamp (t : ℤ) : Except SqlError Value :=
  if IsTimestamp t then .ok (.instant t) else .error .timestampOutOfRange

namespace Value

/-- Addition of integers, and of an interval to an instant. -/
def add : Value → Value → Except SqlError Value
  | .integer m, .integer n => Sql.integer (m + n)
  | .instant t, .span d => Sql.timestamp (t + d)
  | _, _ => .error .typeMismatch

/-- An interval so many times, computed in double precision. -/
def mul : Value → Value → Except SqlError Value
  | .span d, .integer n => Sql.interval (Numeric.round 53 (Numeric.round 53 d * Numeric.round 53 n))
  | _, _ => .error .typeMismatch

/-- Why a value is refused as a parameter: a text has the character NUL, or an instant is out of range. -/
def refusal? : Value → Option SqlError
  | .text s => if '\x00' ∈ s.toList then some .nulCharacter else none
  | .instant t => if IsTimestamp t then none else some .timestampOutOfRange
  | _ => none

/-- Values of one kind are compared. -/
def equal : Value → Value → Except SqlError Value
  | .uuid a, .uuid b => .ok (.truth (decide (a = b)))
  | .text a, .text b => .ok (.truth (decide (a = b)))
  | .integer a, .integer b => .ok (.truth (decide (a = b)))
  | .instant a, .instant b => .ok (.truth (decide (a = b)))
  | _, _ => .error .typeMismatch

/-- Numbers and times are compared. -/
def greater : Value → Value → Except SqlError Value
  | .integer a, .integer b => .ok (.truth (decide (a > b)))
  | .instant a, .instant b => .ok (.truth (decide (a > b)))
  | _, _ => .error .typeMismatch

/-- Numbers and times are compared, the same ones included. -/
def greaterEqual : Value → Value → Except SqlError Value
  | .integer a, .integer b => .ok (.truth (decide (a ≥ b)))
  | .instant a, .instant b => .ok (.truth (decide (a ≥ b)))
  | _, _ => .error .typeMismatch

end Value

/-- An operation on NULL is NULL. -/
def strict (f : Value → Value → Except SqlError Value) :
    Option Value → Option Value → Except SqlError (Option Value)
  | some a, some b => (f a b).map some
  | _, _ => .ok none

/-- AND of true, false and NULL. -/
def both : Option Value → Option Value → Except SqlError (Option Value)
  | some (.truth false), _ => .ok (some (.truth false))
  | _, some (.truth false) => .ok (some (.truth false))
  | some (.truth true), some (.truth true) => .ok (some (.truth true))
  | some (.truth true), none | none, some (.truth true) | none, none => .ok none
  | _, _ => .error .typeMismatch

/-- The value of an expression on a row. -/
def Expr.eval {C : Type} (b : Bindings) (row : Record C) : Expr C → Except SqlError (Option Value)
  | .column name => .ok (row name)
  | .param n =>
    match b.params[n - 1]? with
    | some v => .ok v
    | none => .error .undefinedParameter
  | .literal v => .ok (some v)
  | .null => .ok none
  | .now => .ok (some (.instant b.now))
  | .randomUuid => .ok (some (.uuid b.fresh))
  | .add x y => do strict Value.add (← x.eval b row) (← y.eval b row)
  | .mul x y => do strict Value.mul (← x.eval b row) (← y.eval b row)
  | .eq x y => do strict Value.equal (← x.eval b row) (← y.eval b row)
  | .gt x y => do strict Value.greater (← x.eval b row) (← y.eval b row)
  | .ge x y => do strict Value.greaterEqual (← x.eval b row) (← y.eval b row)
  | .isNull x => do .ok (some (.truth (← x.eval b row).isNone))
  | .and x y => do both (← x.eval b row) (← y.eval b row)
  | .caseWhen condition x y => do
    if (← condition.eval b row) = some (.truth true) then x.eval b row else y.eval b row

/-- A row meets a condition that is true on it, neither false nor NULL. -/
def Expr.test {C : Type} (b : Bindings) (condition : Expr C) (row : Record C) : Except SqlError Bool := do
  .ok (decide ((← condition.eval b row) = some (.truth true)))

/-- Types of columns. -/
inductive ColumnType (N : Type) where
  | uuid
  | varchar (n : ℕ)
  | text
  | integer
  | timestamptz
  | enum (name : N)
deriving DecidableEq, Repr

/-- A column with its constraints; a primary key is unique and not NULL. -/
structure Column (T C N : Type) where
  name : C
  type : ColumnType N
  notNull : Bool := false
  unique : Bool := false
  default : Expr C := .null
  references : Option (T × C) := none
deriving DecidableEq, Repr

/-- The enumerated types and the tables that are declared. -/
structure Catalog (T C N : Type) where
  enums : List (N × List String)
  tables : List (T × List (Column T C N))

/-- The rows of every table. -/
abbrev Contents (T C : Type) := T → List (Record C)

variable {T C N : Type} [DecidableEq T] [DecidableEq C] [DecidableEq N]

/-- A text stored in a VARCHAR(n) column: too long a text fails, unless all that is cut off are spaces. -/
def fitText (n : ℕ) (s : String) : Except SqlError Value :=
  if s.length ≤ n then .ok (.text s)
  else if (s.toList.drop n).all (· = ' ') then .ok (.text (String.ofList (s.toList.take n)))
  else .error (.tooLong n)

namespace Catalog

variable (catalog : Catalog T C N)

/-- A value as a column of the type stores it. -/
def store : ColumnType N → Value → Except SqlError Value
  | .uuid, .uuid id => .ok (.uuid id)
  | .varchar n, .text s => fitText n s
  | .text, .text s => .ok (.text s)
  | .integer, .integer n => Sql.integer n
  | .timestamptz, .instant t => .ok (.instant t)
  | .enum name, .text s =>
    match catalog.enums.lookup name with
    | some labels => if s ∈ labels then .ok (.label s) else .error .invalidLabel
    | none => .error .typeMismatch
  | _, _ => .error .typeMismatch

/-- The value is one a column of the type can hold. -/
def admits : ColumnType N → Value → Bool
  | .uuid, .uuid _ => true
  | .varchar n, .text s => decide (s.length ≤ n)
  | .text, .text _ => true
  | .integer, .integer n => decide (-2147483648 ≤ n ∧ n ≤ 2147483647)
  | .timestamptz, .instant _ => true
  | .enum name, .label s => ((catalog.enums.lookup name).getD []).contains s
  | _, _ => false

/-- The column can hold the value, or NULL. -/
def Accepts (column : Column T C N) : Option Value → Bool
  | none => !column.notNull
  | some v => catalog.admits column.type v

/-- The rows agree with the declaration of one of their columns. -/
structure Holds (contents : Contents T C) (rows : List (Record C)) (column : Column T C N) : Prop where
  accepts : ∀ row ∈ rows, catalog.Accepts column (row column.name) = true
  unique : column.unique = true → (rows.filterMap fun row => row column.name).Nodup
  references : ∀ target ∈ column.references, ∀ row ∈ rows, ∀ v ∈ row column.name,
    ∃ row' ∈ contents target.1, row' target.2 = some v

instance (contents : Contents T C) (rows : List (Record C)) (column : Column T C N) :
    Decidable (catalog.Holds contents rows column) :=
  decidable_of_iff ((∀ row ∈ rows, catalog.Accepts column (row column.name) = true) ∧
      (column.unique = true → (rows.filterMap fun row => row column.name).Nodup) ∧
      ∀ target ∈ column.references, ∀ row ∈ rows, ∀ v ∈ row column.name, ∃ row' ∈ contents target.1,
        row' target.2 = some v)
    ⟨fun ⟨haccepts, hunique, hreferences⟩ => ⟨haccepts, hunique, hreferences⟩,
      fun h => ⟨h.accepts, h.unique, h.references⟩⟩

/-- All tables agree with their declarations. -/
def Valid (contents : Contents T C) : Prop :=
  ∀ table ∈ catalog.tables, ∀ column ∈ table.2, catalog.Holds contents (contents table.1) column

instance (contents : Contents T C) : Decidable (catalog.Valid contents) :=
  inferInstanceAs (Decidable (∀ table ∈ catalog.tables, ∀ column ∈ table.2, _))

end Catalog

/-- The commands; a list of assignments stands for the columns and the values of an INSERT, and for the SET of
an UPDATE. -/
inductive Command (T C : Type) where
  | insert (table : T) (sets : List (C × Expr C))
  | update (table : T) (sets : List (C × Expr C)) (condition : Expr C)
  | select (table : T) (condition : Expr C)
deriving DecidableEq, Repr

/-- The row with some of its columns overwritten. -/
def Record.write (values : List (C × Option Value)) (row : Record C) : Record C :=
  fun c => (values.lookup c).getD (row c)

namespace Catalog

variable (catalog : Catalog T C N)

/-- The columns of a table. -/
def columns (table : T) : Except SqlError (List (Column T C N)) :=
  match catalog.tables.lookup table with
  | some columns => .ok columns
  | none => .error .undefinedTable

/-- The value that is assigned to a column. -/
def assign (columns : List (Column T C N)) (b : Bindings) (row : Record C) (set : C × Expr C) :
    Except SqlError (C × Option Value) :=
  match columns.find? fun column => column.name = set.1 with
  | none => .error .undefinedColumn
  | some column => do
    match ← set.2.eval b row with
    | none => .ok (set.1, none)
    | some v => do .ok (set.1, some (← catalog.store column.type v))

/-- The columns that an INSERT does not name, with their defaults. -/
def defaults (columns : List (Column T C N)) (sets : List (C × Expr C)) : List (C × Expr C) :=
  (columns.filter fun column => column.name ∉ sets.map Prod.fst).map fun column => (column.name, column.default)

/-- The row that an INSERT adds. -/
def newRow (columns : List (Column T C N)) (b : Bindings) (sets : List (C × Expr C)) :
    Except SqlError (Record C) := do
  let values ← (sets ++ defaults columns sets).mapM (catalog.assign columns b fun _ => none)
  .ok (Record.write values fun _ => none)

/-- Whether a SELECT finds a row. -/
def findRow (b : Bindings) (condition : Expr C) (row : Record C) : Except SqlError (Bool × Record C) := do
  .ok (← condition.test b row, row)

/-- What an UPDATE makes of a row, and whether it is one that it changes. -/
def changeRow (columns : List (Column T C N)) (b : Bindings) (sets : List (C × Expr C)) (condition : Expr C)
    (row : Record C) : Except SqlError (Bool × Record C) := do
  if ← condition.test b row then
    let values ← sets.mapM (catalog.assign columns b row)
    .ok (true, Record.write values row)
  else .ok (false, row)

/-- The outcome of a change, which has to agree with the declarations. -/
def commit (rows : List (Record C)) (contents : Contents T C) : Except SqlError (List (Record C) × Contents T C) :=
  if catalog.Valid contents then .ok (rows, contents) else .error .violation

/-- Execute a command: the rows it is about, as it leaves them, and the contents of all tables. -/
def exec (b : Bindings) (contents : Contents T C) : Command T C → Except SqlError (List (Record C) × Contents T C)
  | .insert table sets => do
    let columns ← catalog.columns table
    let row ← catalog.newRow columns b sets
    catalog.commit [row] (Function.update contents table (contents table ++ [row]))
  | .update table sets condition => do
    let columns ← catalog.columns table
    let changed ← (contents table).mapM (catalog.changeRow columns b sets condition)
    catalog.commit ((changed.filter Prod.fst).map Prod.snd) (Function.update contents table (changed.map Prod.snd))
  | .select table condition => do
    let _ ← catalog.columns table
    let tested ← (contents table).mapM (findRow b condition)
    .ok ((tested.filter Prod.fst).map Prod.snd, contents)

end Catalog

/-- Why a parameter is refused. -/
def Bindings.refusal? (b : Bindings) : Option SqlError := b.params.findSome? fun v => v.bind Value.refusal?

/-- Run a command: its parameters are received, and it is executed. -/
def Catalog.run (catalog : Catalog T C N) (b : Bindings) (contents : Contents T C) (command : Command T C) :
    Except SqlError (List (Record C) × Contents T C) :=
  match b.refusal? with
  | some e => .error e
  | none => catalog.exec b contents command

/-- A value is passed on. -/
@[simp] theorem ok_bind {ε α β : Type} (v : α) (f : α → Except ε β) : (Except.ok v >>= f) = f v := rfl

/-- An error is passed by. -/
@[simp] theorem error_bind {ε α β : Type} (e : ε) (f : α → Except ε β) : (Except.error e >>= f) = .error e := rfl

/-- The conjunction of two truth values. -/
@[simp] theorem both_truth (a b : Bool) :
    both (some (.truth a)) (some (.truth b)) = .ok (some (.truth (a && b))) := by
  cases a <;> cases b <;> rfl

section Conditions

variable {C : Type} {b : Bindings} {row : Record C}

/-- A condition that evaluates to a truth value tests as it. -/
theorem Expr.test_of_eval {condition : Expr C} {t : Bool} (h : condition.eval b row = .ok (some (.truth t))) :
    condition.test b row = .ok t := by
  simp [Expr.test, h]

/-- An id column is compared with a parameter. -/
theorem Expr.eval_eq_uuid {c : C} {n : ℕ} {id id' : BitVec 128} (hcolumn : row c = some (.uuid id))
    (hparam : b.params[n - 1]? = some (some (.uuid id'))) :
    (Expr.eq (.column c) (.param n)).eval b row = .ok (some (.truth (decide (id = id')))) := by
  simp only [Expr.eval, hcolumn, hparam, ok_bind, strict, Value.equal, Except.map]

/-- A text column is compared with a parameter. -/
theorem Expr.eval_eq_text {c : C} {n : ℕ} {s s' : String} (hcolumn : row c = some (.text s))
    (hparam : b.params[n - 1]? = some (some (.text s'))) :
    (Expr.eq (.column c) (.param n)).eval b row = .ok (some (.truth (decide (s = s')))) := by
  simp only [Expr.eval, hcolumn, hparam, ok_bind, strict, Value.equal, Except.map]

/-- A time column is compared with the current time. -/
theorem Expr.eval_gt_now {c : C} {t : ℤ} (hcolumn : row c = some (.instant t)) :
    (Expr.gt (.column c) .now).eval b row = .ok (some (.truth (decide (t > b.now)))) := by
  simp only [Expr.eval, hcolumn, ok_bind, strict, Value.greater, Except.map]

/-- A column is NULL exactly if it has no value. -/
theorem Expr.eval_isNull {c : C} : (Expr.isNull (.column c)).eval b row = .ok (some (.truth (row c).isNone)) := by
  simp only [Expr.eval, ok_bind]

/-- The conjunction of two conditions with truth values. -/
theorem Expr.eval_and {x y : Expr C} {s t : Bool} (hx : x.eval b row = .ok (some (.truth s)))
    (hy : y.eval b row = .ok (some (.truth t))) : (Expr.and x y).eval b row = .ok (some (.truth (s && t))) := by
  simp only [Expr.eval, hx, hy, ok_bind, both_truth]

end Conditions

/-- A sequence that succeeds is made of computations that succeed. -/
theorem bind_eq_ok {ε α β : Type} {x : Except ε α} {f : α → Except ε β} {v : β} (h : (x >>= f) = .ok v) :
    ∃ u, x = .ok u ∧ f u = .ok v := by
  cases x with
  | error e => cases h
  | ok u => exact ⟨u, rfl, h⟩

/-- A computation that succeeds on every element succeeds on the list. -/
theorem mapM_ok {ε α β γ : Type} {g : β → Except ε γ} {enc : α → β} {f : α → γ} {rows : List α}
    (h : ∀ r ∈ rows, g (enc r) = .ok (f r)) : (rows.map enc).mapM g = .ok (rows.map f) := by
  induction rows with
  | nil => rfl
  | cons r rows ih =>
    rw [List.map_cons, List.mapM_cons, h r List.mem_cons_self, ih fun q hq => h q (List.mem_cons_of_mem r hq)]
    rfl

/-- A computation that fails in one way only fails so on a list if it does on an element. -/
theorem mapM_error {ε β γ : Type} {g : β → Except ε γ} {e : ε} {rows : List β}
    (hall : ∀ q ∈ rows, ∀ e', g q = .error e' → e' = e) {row : β} (hrow : row ∈ rows)
    (h : g row = .error e) : rows.mapM g = .error e := by
  induction rows with
  | nil => cases hrow
  | cons q rows ih =>
    rw [List.mapM_cons]
    cases hq : g q with
    | error e' =>
      rw [hall q List.mem_cons_self e' hq]
      rfl
    | ok v =>
      rcases List.mem_cons.mp hrow with rfl | hrest
      · rw [h] at hq
        cases hq
      · rw [ih (fun r hr => hall r (List.mem_cons_of_mem q hr)) hrest]
        rfl

/-- The rows marked among those of a list. -/
theorem filter_marked {α β : Type} (p : α → Bool) (f : α → β) (rows : List α) :
    ((rows.map fun r => (p r, f r)).filter Prod.fst).map Prod.snd = (rows.filter p).map f := by
  induction rows with
  | nil => rfl
  | cons r rows ih => cases hp : p r <;> simp [hp, ih]

namespace Catalog

section Rows

omit [DecidableEq T]

variable {catalog : Catalog T C N} {b : Bindings} {columns : List (Column T C N)} {sets : List (C × Expr C)}
  {condition : Expr C} {row : Record C}

/-- A row that does not meet the condition is left as it is. -/
theorem changeRow_miss (htest : condition.test b row = .ok false) :
    catalog.changeRow columns b sets condition row = .ok (false, row) := by
  simp only [changeRow, htest, ok_bind, Bool.false_eq_true, if_false]

/-- An UPDATE changes a row that meets its condition by the values it assigns, and no other one. -/
theorem changeRow_eq {met : Bool} {row' : Record C} (htest : condition.test b row = .ok met)
    (hset : met = true → ∃ values, sets.mapM (catalog.assign columns b row) = .ok values ∧
      Record.write values row = row') :
    catalog.changeRow columns b sets condition row = .ok (met, if met then row' else row) := by
  cases met with
  | false => exact changeRow_miss htest
  | true =>
    obtain ⟨values, hvalues, rfl⟩ := hset rfl
    simp only [changeRow, htest, hvalues, ok_bind, if_true]

/-- A row that meets the condition and whose new values fail ends the command. -/
theorem changeRow_error {e : SqlError} (htest : condition.test b row = .ok true)
    (hvalues : sets.mapM (catalog.assign columns b row) = .error e) :
    catalog.changeRow columns b sets condition row = .error e := by
  simp only [changeRow, htest, hvalues, ok_bind, error_bind, if_true]

end Rows

section Exec

variable {catalog : Catalog T C N} {b : Bindings} {contents : Contents T C} {table : T}
    {columns : List (Column T C N)}
  {sets : List (C × Expr C)} {condition : Expr C} {row : Record C} {α : Type} {enc : α → Record C} {rows : List α}
  {p : α → Bool} {f : α → α}

/-- An UPDATE of encoded rows that leaves the tables as declared. -/
theorem exec_update (hcolumns : catalog.columns table = .ok columns) (hrows : contents table = rows.map enc)
    (hchange : ∀ r ∈ rows, catalog.changeRow columns b sets condition (enc r) =
      .ok (p r, enc (if p r then f r else r)))
    (hvalid : catalog.Valid (Function.update contents table ((rows.map fun r => if p r then f r else r).map enc))) :
    catalog.exec b contents (.update table sets condition) = .ok ((rows.filter p).map fun r => enc (f r),
      Function.update contents table ((rows.map fun r => if p r then f r else r).map enc)) := by
  have hmarked :
      (rows.filter p).map (fun r => enc (if p r then f r else r)) = (rows.filter p).map fun r => enc (f r) := by
    apply List.map_congr_left
    intro r hr
    rw [if_pos (List.mem_filter.mp hr).2]
  have hall : (rows.map fun r => (p r, enc (if p r then f r else r))).map Prod.snd =
      (rows.map fun r => if p r then f r else r).map enc := by
    simp only [List.map_map, Function.comp_def]
  simp only [exec, hcolumns, hrows, mapM_ok hchange, ok_bind, filter_marked, hmarked, hall, commit]
  rw [if_pos hvalid]

/-- An UPDATE fails when its assignments fail on the rows that meet its condition, and there is one. -/
theorem exec_update_error {e : SqlError} (hcolumns : catalog.columns table = .ok columns)
    (hrows : contents table = rows.map enc) (htest : ∀ r ∈ rows, condition.test b (enc r) = .ok (p r))
    (hfails : ∀ r ∈ rows, p r = true → sets.mapM (catalog.assign columns b (enc r)) = .error e)
    {r : α} (hr : r ∈ rows) (hp : p r = true) :
    catalog.exec b contents (.update table sets condition) = .error e := by
  have hchange (q : α) (hq : q ∈ rows) : catalog.changeRow columns b sets condition (enc q) =
      if p q then .error e else .ok (false, enc q) := by
    cases hmet : p q with
    | true => exact changeRow_error (hmet ▸ htest q hq) (hfails q hq hmet)
    | false => exact changeRow_miss (hmet ▸ htest q hq)
  have hall : ∀ row ∈ rows.map enc, ∀ e', catalog.changeRow columns b sets condition row = .error e' → e' = e := by
    intro row hrow e' herror
    obtain ⟨q, hq, rfl⟩ := List.mem_map.mp hrow
    rw [hchange q hq] at herror
    split at herror
    · exact (Except.error.inj herror).symm
    · cases herror
  have hfail := hchange r hr
  rw [if_pos hp] at hfail
  simp only [exec, hcolumns, hrows, mapM_error hall (List.mem_map_of_mem hr) hfail, ok_bind, error_bind]

/-- A SELECT of encoded rows. -/
theorem exec_select (hcolumns : catalog.columns table = .ok columns) (hrows : contents table = rows.map enc)
    (htest : ∀ r ∈ rows, condition.test b (enc r) = .ok (p r)) :
    catalog.exec b contents (.select table condition) = .ok ((rows.filter p).map enc, contents) := by
  have hfound : ∀ r ∈ rows, findRow b condition (enc r) = .ok (p r, enc r) := by
    intro r hr
    simp only [findRow, htest r hr, ok_bind]
  simp only [exec, hcolumns, hrows, mapM_ok hfound, ok_bind, filter_marked]

/-- An INSERT adds its row, if the tables stay as declared. -/
theorem exec_insert (hcolumns : catalog.columns table = .ok columns)
    (hrow : catalog.newRow columns b sets = .ok row) :
    catalog.exec b contents (.insert table sets) =
      catalog.commit [row] (Function.update contents table (contents table ++ [row])) := by
  simp only [exec, hcolumns, hrow, ok_bind]

/-- An INSERT of a row that cannot be made fails. -/
theorem exec_insert_error {e : SqlError} (hcolumns : catalog.columns table = .ok columns)
    (hrow : catalog.newRow columns b sets = .error e) :
    catalog.exec b contents (.insert table sets) = .error e := by
  simp only [exec, hcolumns, hrow, ok_bind, error_bind]

end Exec

end Catalog

end Sql
