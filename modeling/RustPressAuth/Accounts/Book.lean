import Mathlib.Data.Int.Notation
import RustPressAuth.Relational.Alike

/-!
# A book of accounts

What a service that keeps accounts is for. Accounts are registered under a name with a
password; a password can be changed by its owner or replaced with a recovery token; an
account can be verified. Logins that fail are counted, and enough of them lock the account
for a time. The book is what is left of the events, and it answers who is admitted with
which password.

A store agrees with a book when its rows stand for the accounts one by one, in the order
of registration. Whatever a store finds by a key, the book finds as well.
-/

namespace Accounts

variable {Name Id Password Token Row : Type}

/-- An account as its owner knows it, with the failed logins since the last successful one and the end of its
lock. -/
structure Account (Name Id Password : Type) where
  name : Name
  id : Id
  password : Password
  verified : Bool
  failures : ℤ
  lockedUntil : Option ℤ

/-- After how many failed logins an account is locked, and when a lock ends that is set at a time. -/
structure LockRule where
  attempts : ℤ
  lockEnd : ℤ → ℤ

namespace Account

/-- An account as it is registered. -/
def new (name : Name) (id : Id) (password : Password) : Account Name Id Password where
  name := name
  id := id
  password := password
  verified := false
  failures := 0
  lockedUntil := none

/-- The account after one more failed login. -/
def failed (rule : LockRule) (now : ℤ) (a : Account Name Id Password) : Account Name Id Password :=
  { a with
    failures := a.failures + 1
    lockedUntil := if rule.attempts ≤ a.failures + 1 then some (rule.lockEnd now) else a.lockedUntil }

/-- The account after a successful login. -/
def cleared (a : Account Name Id Password) : Account Name Id Password :=
  { a with failures := 0, lockedUntil := none }

/-- Whether the account is locked at a time. -/
def isLocked (a : Account Name Id Password) (now : ℤ) : Bool := a.lockedUntil.any fun t => now < t

end Account

/-- What happens to accounts. -/
inductive Event (Name Id Password Token : Type) where
  | register (name : Name) (id : Id) (password : Password)
  | recover (name : Name) (token : Token)
  | reset (token : Token) (password : Password)
  | change (id : Id) (password : Password)
  | verify (id : Id)
  | fail (name : Name) (now : ℤ)
  | letIn (name : Name)
  | pass

/-- The accounts in the order of registration, and the recovery tokens that were issued, each with the
account it is for. -/
structure Book (Name Id Password Token : Type) where
  accounts : List (Account Name Id Password)
  recovery : List (Token × Id)

/-- Why something is refused. -/
inductive Refusal where
  | weak
  | taken
  | missing
  | locked
  | denied
  | unverified
deriving DecidableEq

namespace Book

/-- The book before anything happened. -/
def empty : Book Name Id Password Token := ⟨[], []⟩

section Lookup

variable [DecidableEq Name] [DecidableEq Id] [DecidableEq Password]

/-- The account with a name. -/
def named? (book : Book Name Id Password Token) (name : Name) : Option (Account Name Id Password) :=
  book.accounts.find? fun a => a.name = name

/-- The account with an id. -/
def byId? (book : Book Name Id Password Token) (id : Id) : Option (Account Name Id Password) :=
  book.accounts.find? fun a => a.id = id

/-- Whether a registration is accepted. -/
def enrol (book : Book Name Id Password Token) (accepts : Password → Bool) (name : Name) (password : Password) :
    Except Refusal Unit :=
  if accepts password = false then .error .weak
  else if (book.named? name).isSome then .error .taken
  else .ok ()

/-- Who is admitted under a name and a password at a time; where that is asked for, only if verified. -/
def identify (book : Book Name Id Password Token) (strict : Bool) (name : Name) (password : Password) (now : ℤ) :
    Except Refusal Id :=
  match book.named? name with
  | none => .error .denied
  | some account =>
    if account.isLocked now then .error .locked
    else if password ≠ account.password then .error .denied
    else if strict = true ∧ account.verified = false then .error .unverified
    else .ok account.id

/-- Whether the owner of an account may replace the password. -/
def renew (book : Book Name Id Password Token) (accepts : Password → Bool) (id : Id) (current new : Password) :
    Except Refusal Unit :=
  match book.byId? id with
  | none => .error .missing
  | some account =>
    if current ≠ account.password then .error .denied
    else if accepts new = false then .error .weak
    else .ok ()

end Lookup

section Replay

variable [DecidableEq Name] [DecidableEq Id] [DecidableEq Token]

/-- Change the account with an id. -/
def update (book : Book Name Id Password Token) (id : Id)
    (f : Account Name Id Password → Account Name Id Password) : Book Name Id Password Token :=
  { book with accounts := book.accounts.map fun a => if a.id = id then f a else a }

/-- Replace the password of an account. -/
def setPassword (book : Book Name Id Password Token) (id : Id) (password : Password) :
    Book Name Id Password Token :=
  book.update id fun a => { a with password := password }

/-- Change the account with a name. -/
def updateNamed (book : Book Name Id Password Token) (name : Name)
    (f : Account Name Id Password → Account Name Id Password) : Book Name Id Password Token :=
  match book.named? name with
  | some account => book.update account.id f
  | none => book

/-- The book after an event. -/
def apply (rule : LockRule) (book : Book Name Id Password Token) :
    Event Name Id Password Token → Book Name Id Password Token
  | .register name id password => { book with accounts := book.accounts ++ [.new name id password] }
  | .recover name token =>
    match book.named? name with
    | some account => { book with recovery := (token, account.id) :: book.recovery }
    | none => book
  | .reset token password =>
    match book.recovery.lookup token with
    | some id => book.setPassword id password
    | none => book
  | .change id password => book.setPassword id password
  | .verify id => book.update id fun a => { a with verified := true }
  | .fail name now => book.updateNamed name (Account.failed rule now)
  | .letIn name => book.updateNamed name Account.cleared
  | .pass => book

omit [DecidableEq Token] in
/-- Changing an account changes no recovery token. -/
theorem recovery_updateNamed (book : Book Name Id Password Token) (name : Name)
    (f : Account Name Id Password → Account Name Id Password) :
    (book.updateNamed name f).recovery = book.recovery := by
  unfold updateNamed
  split <;> rfl

/-- Only an event that issues a recovery token to a known name changes what tokens are for. -/
theorem lookup_apply (rule : LockRule) (book : Book Name Id Password Token) (token : Token)
    (e : Event Name Id Password Token) (he : ∀ name, e ≠ .recover name token) :
    (book.apply rule e).recovery.lookup token = book.recovery.lookup token := by
  cases e with
  | register name id password => rfl
  | recover name t =>
    have hne : (token == t) = false := by
      rw [beq_eq_false_iff_ne]
      intro heq
      exact he name (heq ▸ rfl)
    simp only [apply]
    split
    · simp only [List.lookup_cons, hne]
    · rfl
  | reset t password =>
    simp only [apply]
    split <;> rfl
  | change id password => rfl
  | verify id => rfl
  | fail name now => rw [apply, recovery_updateNamed]
  | letIn name => rw [apply, recovery_updateNamed]
  | pass => rfl

end Replay

section Stores

variable {rel : Account Name Id Password → Row → Prop} {rule : LockRule}
    {book : Book Name Id Password Token} {rows : List Row}

/-- The rows of a store stand for the accounts, one by one. -/
def Agrees (rel : Account Name Id Password → Row → Prop) (book : Book Name Id Password Token)
    (rows : List Row) : Prop :=
  List.Forall₂ rel book.accounts rows

/-- The empty book agrees with the empty table. -/
theorem Agrees.empty : (empty : Book Name Id Password Token).Agrees rel [] := .nil

/-- Keys that accounts and rows share find an account and the row that stands for it, or neither. -/
theorem Agrees.find (h : book.Agrees rel rows) {p : Account Name Id Password → Bool} {q : Row → Bool}
    (hkey : ∀ a row, rel a row → p a = q row) : Option.Rel rel (book.accounts.find? p) (rows.find? q) :=
  Relational.find?_rel h hkey

/-- A row that is added stands for the account that is registered. -/
theorem Agrees.register [DecidableEq Name] [DecidableEq Id] [DecidableEq Token] (h : book.Agrees rel rows)
    {name : Name} {id : Id} {password : Password} {row : Row} (hrow : rel (.new name id password) row) :
    (book.apply rule (.register name id password)).Agrees rel (rows ++ [row]) :=
  List.rel_append h (.cons hrow .nil)

/-- Rows and accounts that are changed together still agree. -/
theorem Agrees.map (h : book.Agrees rel rows) {book' : Book Name Id Password Token} {f : Row → Row}
    {g : Account Name Id Password → Account Name Id Password} (hbook : book'.accounts = book.accounts.map g)
    (hkeep : ∀ a row, rel a row → rel (g a) (f row)) : book'.Agrees rel (rows.map f) := by
  unfold Agrees
  rw [hbook, List.forall₂_map_left_iff, List.forall₂_map_right_iff]
  exact List.Forall₂.imp hkeep h

/-- An account and its row are changed together. -/
theorem Agrees.update [DecidableEq Id] (h : book.Agrees rel rows) {id : Id} {f : Row → Row} {p : Row → Bool}
    {g : Account Name Id Password → Account Name Id Password}
    (hid : ∀ a row, rel a row → (p row = true ↔ a.id = id))
    (hkeep : ∀ a row, rel a row → a.id = id → rel (g a) (f row)) :
    (book.update id g).Agrees rel (rows.map fun row => if p row then f row else row) := by
  refine h.map rfl fun a row hrel => ?_
  have hiff := hid a row hrel
  by_cases hown : a.id = id
  · rw [if_pos hown, if_pos (hiff.mpr hown)]
    exact hkeep a row hrel hown
  · rw [if_neg hown, if_neg fun hp => hown (hiff.mp hp)]
    exact hrel

/-- Events that change no account leave the agreement as it is. -/
theorem Agrees.recover [DecidableEq Name] [DecidableEq Id] [DecidableEq Token] (h : book.Agrees rel rows)
    (name : Name) (token : Token) : (book.apply rule (.recover name token)).Agrees rel rows := by
  simp only [apply]
  split
  · exact h
  · exact h

end Stores

end Book

end Accounts
