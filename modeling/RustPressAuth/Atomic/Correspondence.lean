import RustPressAuth.Atomic.Interleaving

/-!
# Runs that mirror each other

Two programs match when they perform corresponding actions for as long as these are
answered with corresponding replies, and end with corresponding values or the same error.
Sequencing keeps matches, so they are proved along the text of the programs.

Where one machine answers every action of another one, on a corresponding state and with
a corresponding reply, every interleaved run of matching calls is mirrored: step by step,
with corresponding states throughout. This is a forward simulation whose work is done once
for each action, whatever the calls are.
-/

namespace Atomic

variable {A : Type} {R : A → Type} {ε α α' β β' σ : Type}

/-- Which actions correspond, and which of their replies. -/
structure Correspondence (A : Type) (R : A → Type) where
  action : A → A → Prop
  reply : (a : A) → R a → (a' : A) → R a' → Prop

namespace Program

variable (K : Correspondence A R)

/-- The two programs perform corresponding actions and end alike, with values related by `post`. -/
def Matches (post : α → α' → Prop) : Program A R ε α → Program A R ε α' → Prop
  | done (.ok v), done (.ok v') => post v v'
  | done (.error e), done (.error e') => e = e'
  | act a next, act a' next' => K.action a a' ∧ ∀ r r', K.reply a r a' r' → (next r).Matches post (next' r')
  | _, _ => False

variable {K} {post : α → α' → Prop}

/-- Two values match if they are related as the values the programs return must be. -/
@[simp] theorem matches_pure {v : α} {v' : α'} :
    (pure v : Program A R ε α).Matches K post (pure v' : Program A R ε α') ↔ post v v' := Iff.rfl

/-- Two failures match if they are the same. -/
@[simp] theorem matches_fail {e e' : ε} :
    (fail e : Program A R ε α).Matches K post (fail e' : Program A R ε α') ↔ e = e' := Iff.rfl

/-- Two actions match if they correspond, and their continuations match after every two corresponding replies.
-/
@[simp] theorem matches_act {a a' : A} {next : R a → Program A R ε α} {next' : R a' → Program A R ε α'} :
    (act a next).Matches K post (act a' next') ↔
      K.action a a' ∧ ∀ r r', K.reply a r a' r' → (next r).Matches K post (next' r') := Iff.rfl

/-- Sequences match when their first parts do and the rests match on related values. -/
theorem Matches.bind {post' : β → β' → Prop} {p : Program A R ε α} {p' : Program A R ε α'}
    {f : α → Program A R ε β} {f' : α' → Program A R ε β'} (h : p.Matches K post p')
    (hnext : ∀ v v', post v v' → (f v).Matches K post' (f' v')) : (p >>= f).Matches K post' (p' >>= f') := by
  rw [bind_eq, bind_eq]
  induction p generalizing p' with
  | done result =>
    cases p' with
    | done result' =>
      cases result with
      | ok v =>
        cases result' with
        | ok v' => exact hnext v v' h
        | error e' => exact h.elim
      | error e =>
        cases result' with
        | ok v' => exact h.elim
        | error e' => exact h
    | act a' next' => cases result <;> exact h.elim
  | act a next ih =>
    cases p' with
    | done result' => exact h.elim
    | act a' next' => exact ⟨h.1, fun r r' hr => ih r (h.2 r r' hr)⟩

/-- Programs that match on equal values have ended alike, or have not ended. -/
theorem Matches.result? {p p' : Program A R ε α} (h : p.Matches K Eq p') : p'.result? = p.result? := by
  cases p with
  | done result =>
    cases p' with
    | done result' =>
      cases result with
      | ok v =>
        cases result' with
        | ok v' =>
          obtain rfl : v = v' := h
          rfl
        | error e' => exact h.elim
      | error e =>
        cases result' with
        | ok v' => exact h.elim
        | error e' =>
          obtain rfl : e = e' := h
          rfl
    | act a' next' => cases result <;> exact h.elim
  | act a next =>
    cases p' with
    | done result' => exact h.elim
    | act a' next' => rfl

end Program

namespace Machine

variable {ι : Type} [DecidableEq ι] {K : Correspondence A R} {M : Machine A R σ}

/-- The machine answers what it does on one state on every corresponding one, and moves by itself likewise. -/
structure Mirrors (M : Machine A R σ) (K : Correspondence A R) (alike : σ → σ → Prop) : Prop where
  perform : ∀ a a' s s' r t, K.action a a' → alike s s' → M.perform a s r t →
    ∃ r' t', M.perform a' s' r' t' ∧ K.reply a r a' r' ∧ alike t t'
  idle : ∀ s s' t, alike s s' → M.idle s t → ∃ t', M.idle s' t' ∧ alike t t'

variable {alike : σ → σ → Prop} {post : α → α' → Prop}

/-- Corresponding states of two runs: of the shared state, of every call, and of what every call has done. -/
structure MirroredBy (K : Correspondence A R) (alike : σ → σ → Prop) (post : α → α' → Prop) (c : Config ι A R ε α σ)
    (c' : Config ι A R ε α' σ) : Prop where
  shared : alike c.shared c'.shared
  calls : ∀ i, (c.calls i).Matches K post (c'.calls i)
  log : List.Forall₂ (fun e e' => e.caller = e'.caller ∧ alike e.before e'.before ∧ K.action e.action e'.action ∧
    K.reply e.action e.reply e'.action e'.reply) c.log c'.log

/-- One step is mirrored by one step. -/
theorem Step.mirrored (hmirrors : M.Mirrors K alike) {c d : Config ι A R ε α σ} {c' : Config ι A R ε α' σ}
    (h : M.Step c d) (hc : MirroredBy K alike post c c') : ∃ d', M.Step c' d' ∧ MirroredBy K alike post d d' := by
  cases h with
  | @idle s hidle =>
    obtain ⟨t', hidle', halike⟩ := hmirrors.idle _ _ _ hc.shared hidle
    exact ⟨_, .idle hidle', halike, hc.calls, hc.log⟩
  | @call i a next r s hcall hperform =>
    have hmatches := hc.calls i
    rw [hcall] at hmatches
    cases hcall' : c'.calls i with
    | done result =>
      rw [hcall'] at hmatches
      exact hmatches.elim
    | act a' next' =>
      rw [hcall'] at hmatches
      obtain ⟨haction, hnext⟩ := hmatches
      obtain ⟨r', t', hperform', hreply, halike⟩ := hmirrors.perform _ _ _ _ _ _ haction hc.shared hperform
      refine ⟨_, .call hcall' hperform', halike, ?_, .cons ⟨rfl, hc.shared, haction, hreply⟩ hc.log⟩
      intro j
      by_cases hj : j = i
      · subst hj
        simpa only [Config.advance, Function.update_self] using hnext r r' hreply
      · simpa only [Config.advance, Function.update_of_ne hj] using hc.calls j

/-- Every run is mirrored by a run. -/
theorem Reaches.mirrored {ok : Config ι A R ε α σ → Config ι A R ε α σ → Prop} (hmirrors : M.Mirrors K alike)
    {c d : Config ι A R ε α σ} {c' : Config ι A R ε α' σ} (h : M.Reaches ok c d)
    (hc : MirroredBy K alike post c c') :
    ∃ d', M.Reaches (fun _ _ => True) c' d' ∧ MirroredBy K alike post d d' := by
  induction h with
  | refl => exact ⟨c', .refl, hc⟩
  | tail _ hstep ih =>
    obtain ⟨b', hrun', hb⟩ := ih
    obtain ⟨d', hstep', hd⟩ := hstep.1.mirrored hmirrors hb
    exact ⟨d', hrun'.tail ⟨hstep', trivial⟩, hd⟩

end Machine

end Atomic
