import RustPressAuth.Atomic.Interleaving

/-!
# Rules for runs, and runs from schedules

A rule restricts the runs under consideration: what a call may do at which moment, and
which moves the environment makes. A schedule says who moves next and settles every
choice left open; carrying it out yields a run, and whether that run keeps a rule can
be computed.
-/

namespace Atomic

variable {ι A : Type} {R : A → Type} {ε α σ C E : Type}

/-- A restriction on the events of a run and on the moves of the environment. -/
structure Rule (ι A : Type) (R : A → Type) (ε α σ : Type) where
  event : Config ι A R ε α σ → Event ι A R σ → Prop
  idle : σ → σ → Prop

/-- The step keeps the rule. -/
structure Rule.Keeps (rule : Rule ι A R ε α σ) (c d : Config ι A R ε α σ) : Prop where
  event : ∀ e, d.log = e :: c.log → rule.event c e
  idle : d.log = c.log → rule.idle c.shared d.shared

/-- A rule that restricts events only. -/
def Rule.ofEvent (P : Config ι A R ε α σ → Event ι A R σ → Prop) : Rule ι A R ε α σ := ⟨P, fun _ _ => True⟩

namespace Machine

variable [DecidableEq ι] {M : Machine A R σ}

/-- An event of a run that keeps a rule was allowed when it was performed. -/
theorem PerformedAt.event_ok {rule : Rule ι A R ε α σ} {first last mid : Config ι A R ε α σ}
    {e : Event ι A R σ} {next : R e.action → Program A R ε α} {s : σ}
    (hat : PerformedAt M rule.Keeps first last mid e next s) : rule.event mid e := by
  apply hat.allowed.event
  rw [Config.advance, hat.before]

/-- Actions and environment moves computed from a choice of everything left open. -/
structure Executor (M : Machine A R σ) (C E : Type) where
  exec : (a : A) → C → σ → R a × σ
  env : E → σ → σ
  exec_sound : ∀ a choice s, M.perform a s (exec a choice s).1 (exec a choice s).2
  env_sound : ∀ e s, M.idle s (env e s)

/-- One entry of a schedule: which call moves and with which choice, or what the environment does. -/
inductive Move (ι C E : Type) where
  | call (i : ι) (choice : C)
  | env (e : E)

variable {C E : Type}

/-- Carry out one entry of a schedule; an ended call does not move. -/
def Executor.move (X : Executor M C E) (c : Config ι A R ε α σ) :
    Move ι C E → Config ι A R ε α σ
  | .call i choice =>
    match c.calls i with
    | .done _ => c
    | .act a next =>
      let outcome := X.exec a choice c.shared
      c.advance i a outcome.1 outcome.2 (next outcome.1)
  | .env e => { c with shared := X.env e c.shared }

/-- Carry out a schedule. -/
def Executor.play (X : Executor M C E) (schedule : List (Move ι C E)) (c : Config ι A R ε α σ) :
    Config ι A R ε α σ :=
  schedule.foldl X.move c

/-- A schedule yields a run. -/
theorem Executor.play_reaches (X : Executor M C E) (schedule : List (Move ι C E))
    (c : Config ι A R ε α σ) : M.Reaches (fun _ _ => True) c (X.play schedule c) := by
  induction schedule generalizing c with
  | nil => exact .refl
  | cons m rest ih =>
    refine Relation.ReflTransGen.trans ?_ (ih (X.move c m))
    cases m with
    | env e => exact .single ⟨.idle (X.env_sound e c.shared), trivial⟩
    | call i choice =>
      cases hcall : c.calls i with
      | done r => simpa only [Executor.move, hcall] using Relation.ReflTransGen.refl
      | act a next =>
        have hstep := Step.call hcall (X.exec_sound a choice c.shared)
        simpa only [Executor.move, hcall] using Relation.ReflTransGen.single ⟨hstep, trivial⟩

/-- The event a schedule entry adds to the log, if any. -/
def Executor.event? (X : Executor M C E) (c : Config ι A R ε α σ) : Move ι C E → Option (Event ι A R σ)
  | .call i choice =>
    match c.calls i with
    | .done _ => none
    | .act a _ => some ⟨i, c.shared, a, (X.exec a choice c.shared).1⟩
  | .env _ => none

/-- Every event of the schedule is allowed, and every move of the environment is a listed one. -/
def Executor.Allows (X : Executor M C E) (rule : Rule ι A R ε α σ) (listed : E → Prop) :
    List (Move ι C E) → Config ι A R ε α σ → Prop
  | [], _ => True
  | m :: rest, c =>
    (∀ e ∈ X.event? c m, rule.event c e) ∧ (∀ e, m = .env e → listed e) ∧
      X.Allows rule listed rest (X.move c m)

instance Executor.decidableAllows (X : Executor M C E) (rule : Rule ι A R ε α σ) (listed : E → Prop)
    [∀ c e, Decidable (rule.event c e)] [DecidablePred listed] :
    ∀ (schedule : List (Move ι C E)) (c : Config ι A R ε α σ), Decidable (X.Allows rule listed schedule c)
  | [], _ => .isTrue trivial
  | m :: rest, c =>
    have : Decidable (X.Allows rule listed rest (X.move c m)) := decidableAllows X rule listed rest _
    have : Decidable (∀ e, m = .env e → listed e) :=
      match m with
      | .call _ _ => .isTrue fun _ h => by cases h
      | .env e => decidable_of_iff (listed e) ⟨fun h _ heq => by cases heq; exact h, fun h => h e rfl⟩
    inferInstanceAs (Decidable (_ ∧ _ ∧ _))

/-- A schedule whose entries are allowed yields a run that keeps the rule. -/
theorem Executor.Allows.reaches {X : Executor M C E} {rule : Rule ι A R ε α σ} {listed : E → Prop}
    (hlisted : ∀ e s, listed e → rule.idle s (X.env e s)) {schedule : List (Move ι C E)}
    {c : Config ι A R ε α σ} (h : X.Allows rule listed schedule c) :
    M.Reaches rule.Keeps c (X.play schedule c) := by
  induction schedule generalizing c with
  | nil => exact .refl
  | cons m rest ih =>
    obtain ⟨hevent, henv, hrest⟩ := h
    refine Relation.ReflTransGen.trans ?_ (ih hrest)
    cases m with
    | env e =>
      refine .single ⟨.idle (X.env_sound e c.shared), fun f hf => ?_, fun _ => hlisted e _ (henv e rfl)⟩
      exact absurd hf.symm (List.cons_ne_self _ _)
    | call i choice =>
      cases hcall : c.calls i with
      | done r => simpa only [Executor.move, hcall] using Relation.ReflTransGen.refl
      | act a next =>
        have hstep := Step.call hcall (X.exec_sound a choice c.shared)
        have hkeeps : rule.Keeps c (X.move c (.call i choice)) := by
          simp only [Executor.move, hcall, Config.advance]
          refine ⟨fun f hf => ?_, fun hlog => absurd hlog (List.cons_ne_self _ _)⟩
          obtain ⟨rfl, -⟩ := List.cons.inj hf
          exact hevent _ (by simp [Executor.event?, hcall])
        simp only [Executor.move, hcall] at hkeeps ⊢
        exact .single ⟨hstep, hkeeps⟩

end Machine

end Atomic
