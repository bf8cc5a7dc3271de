import Mathlib.Logic.Function.Basic

/-!
# Programs as trees of atomic actions

A program is a tree: at every node it performs one atomic action and continues
with the reply, until it ends with a value or an error. The actions stay
uninterpreted here, so the same tree can be run alone or interleaved with others.

A protocol says what a program must have seen before it performs an action and
before it ends. Whether a program obeys a protocol is decided on its tree alone,
for every reply the actions could give. A contract restricts the replies instead: it says
how the actions are answered as long as only allowed actions are performed.
-/

namespace Atomic

variable {A : Type} {R : A → Type} {ε α β : Type}

/-- A computation that performs atomic actions one at a time. -/
inductive Program (A : Type) (R : A → Type) (ε α : Type) where
  | done (result : Except ε α)
  | act (action : A) (next : R action → Program A R ε α)

namespace Program

/-- Sequencing: an error ends the whole computation. -/
def bind : Program A R ε α → (α → Program A R ε β) → Program A R ε β
  | done (.ok v), f => f v
  | done (.error e), _ => done (.error e)
  | act a next, f => act a fun r => (next r).bind f

instance : Monad (Program A R ε) where
  pure v := done (.ok v)
  bind := bind

/-- End with an error. -/
def fail (e : ε) : Program A R ε α := done (.error e)

/-- Perform one action and return its reply. -/
def perform (a : A) : Program A R ε (R a) := act a fun r => done (.ok r)

/-- The result of a computation that has ended. -/
def result? : Program A R ε α → Option (Except ε α)
  | done r => some r
  | act _ _ => none

/-- The computation has ended, in whichever way. -/
def Ended (p : Program A R ε α) : Prop := ∃ r, p = done r

instance (p : Program A R ε α) : Decidable p.Ended :=
  match p with
  | done r => .isTrue ⟨r, rfl⟩
  | act _ _ => .isFalse fun ⟨_, h⟩ => by cases h

/-- A program has a result exactly if it is done with it. -/
theorem result?_eq_some {p : Program A R ε α} {r : Except ε α} : p.result? = some r ↔ p = done r := by
  cases p with
  | done r' => simp [result?]
  | act a next => simp [result?]

/-- The computation has returned a value. -/
def succeeded : Program A R ε α → Bool
  | done (.ok _) => true
  | _ => false

/-- A program has succeeded exactly if it is done with a value. -/
theorem succeeded_iff {p : Program A R ε α} : p.succeeded = true ↔ ∃ v, p = done (.ok v) := by
  constructor
  · intro h
    unfold succeeded at h
    split at h
    · exact ⟨_, rfl⟩
    · cases h
  · rintro ⟨v, rfl⟩
    rfl

/-- The notation of the monad is `Program.bind`. -/
theorem bind_eq (p : Program A R ε α) (f : α → Program A R ε β) : p >>= f = p.bind f := rfl

/-- The actions performed so far with their replies, most recent first. -/
abbrev History (A : Type) (R : A → Type) := List (Σ a : A, R a)

/-- The computation that is left after these actions with these replies. -/
inductive LeadsTo (p : Program A R ε α) : History A R → Program A R ε α → Prop
  | start : LeadsTo p [] p
  | act {h : History A R} {a : A} {next : R a → Program A R ε α} {r : R a} (hact : LeadsTo p h (act a next)) :
      LeadsTo p (⟨a, r⟩ :: h) (next r)

/-- The last action of a history was the next one of what was left before it. -/
theorem leadsTo_cons {p q : Program A R ε α} {a : A} {r : R a} {h : History A R} :
    p.LeadsTo (⟨a, r⟩ :: h) q ↔ ∃ next, p.LeadsTo h (act a next) ∧ q = next r := by
  constructor
  · intro hq
    cases hq with
    | act hact => exact ⟨_, hact, rfl⟩
  · rintro ⟨next, hact, rfl⟩
    exact hact.act

/-- By the empty history a program comes to itself. -/
theorem leadsTo_nil {p q : Program A R ε α} : p.LeadsTo [] q ↔ q = p := by
  constructor
  · intro hq
    cases hq with
    | start => rfl
  · intro heq
    subst heq
    exact .start

/-- What must have been seen before each action, and before a value is returned. -/
structure Protocol (A : Type) (R : A → Type) (α : Type) where
  guard : History A R → A → Prop
  result : History A R → α → Prop

/-- The protocol of the first part of a sequence, whose second part needs `next`. -/
def Protocol.before (π : Protocol A R β) (next : History A R → α → Prop) : Protocol A R α where
  guard := π.guard
  result := next

/-- Every action and every returned value of the tree meets the protocol, whatever the replies. -/
def Obeys (π : Protocol A R α) : Program A R ε α → History A R → Prop
  | done (.ok v), h => π.result h v
  | done (.error _), _ => True
  | act a next, h => π.guard h a ∧ ∀ r, (next r).Obeys π (⟨a, r⟩ :: h)

section Rules

variable (π : Protocol A R α) (ρ : Protocol A R β) (h : History A R)

/-- An action obeys a protocol that allows it, if what follows every reply does. -/
@[simp] theorem obeys_act (a : A) (next : R a → Program A R ε α) :
    (act a next).Obeys π h ↔ π.guard h a ∧ ∀ r, (next r).Obeys π (⟨a, r⟩ :: h) := Iff.rfl

/-- A value obeys a protocol that allows it as a result. -/
@[simp] theorem obeys_pure (v : α) : (pure v : Program A R ε α).Obeys π h ↔ π.result h v := Iff.rfl

/-- A failure obeys every protocol. -/
@[simp] theorem obeys_fail (e : ε) : (fail e : Program A R ε α).Obeys π h := trivial

/-- A sequence obeys a protocol when its first part hands over to an obedient rest. -/
@[simp] theorem obeys_bind (p : Program A R ε α) (f : α → Program A R ε β) :
    (p >>= f).Obeys ρ h ↔ p.Obeys (ρ.before fun h v => (f v).Obeys ρ h) h := by
  rw [bind_eq]
  induction p generalizing h with
  | done r => cases r <;> rfl
  | act a next ih => simp only [bind, obeys_act, Protocol.before, ih]

/-- What is left of an obedient program is obedient after what the program has seen. -/
theorem LeadsTo.obeys {p q : Program A R ε α} (hleads : p.LeadsTo h q) (hobeys : p.Obeys π []) : q.Obeys π h := by
  induction hleads with
  | start => exact hobeys
  | act _ ih => exact ih.2 _

/-- A branch obeys a protocol when the taken side does. -/
@[simp] theorem obeys_ite (condition : Prop) [Decidable condition] (p q : Program A R ε α) :
    (if condition then p else q).Obeys π h ↔
      (condition → p.Obeys π h) ∧ (¬ condition → q.Obeys π h) := by
  by_cases hc : condition <;> simp [hc]

/-- A protocol for what comes before has the same guard. -/
@[simp] theorem before_guard (next : History A R → α → Prop) : (ρ.before next).guard = ρ.guard := rfl

/-- A protocol for what comes before has the result that the rest needs. -/
@[simp] theorem before_result (next : History A R → α → Prop) : (ρ.before next).result = next := rfl

/-- Only the last result of nested protocols counts. -/
@[simp] theorem before_before {γ : Type} (next : History A R → α → Prop)
    (next' : History A R → γ → Prop) : (ρ.before next).before next' = ρ.before next' := rfl

end Rules

/-- The actions a program may perform, when they are answered as the program relies on. -/
structure Contract (A : Type) (R : A → Type) where
  allows : A → Prop
  answers : (a : A) → R a → Prop

/-- As long as it is answered that way, the program performs allowed actions only and returns no other values. -/
def Fulfils (C : Contract A R) (post : α → Prop) : Program A R ε α → Prop
  | done (.ok v) => post v
  | done (.error _) => True
  | act a next => C.allows a ∧ ∀ r, C.answers a r → (next r).Fulfils C post

section ContractRules

variable {C : Contract A R} {post post' : α → Prop}

/-- A value fulfils a contract exactly if it meets the postcondition. -/
@[simp] theorem fulfils_pure (v : α) : (pure v : Program A R ε α).Fulfils C post ↔ post v := Iff.rfl

/-- A failure fulfils every contract. -/
@[simp] theorem fulfils_fail (e : ε) : (fail e : Program A R ε α).Fulfils C post := trivial

/-- A single action fulfils a contract that allows it, if its answers meet the postcondition. -/
@[simp] theorem fulfils_perform (a : A) {post : R a → Prop} :
    (perform a : Program A R ε (R a)).Fulfils C post ↔ C.allows a ∧ ∀ r, C.answers a r → post r := Iff.rfl

/-- A sequence fulfils a contract when its first part returns values for which the rest does. -/
@[simp] theorem fulfils_bind {post : β → Prop} (p : Program A R ε α) (f : α → Program A R ε β) :
    (p >>= f).Fulfils C post ↔ p.Fulfils C fun v => (f v).Fulfils C post := by
  rw [bind_eq]
  induction p with
  | done r => cases r <;> rfl
  | act a next ih => simp only [bind, Fulfils, ih]

/-- A program that ensures more. -/
theorem Fulfils.mono {p : Program A R ε α} (h : p.Fulfils C post) (hpost : ∀ v, post v → post' v) :
    p.Fulfils C post' := by
  induction p with
  | done r =>
    cases r with
    | ok v => exact hpost v h
    | error e => trivial
  | act a next ih => exact ⟨h.1, fun r hr => ih r (h.2 r hr)⟩

end ContractRules

end Program

end Atomic
