import RustPressAuth.Atomic.Schedule

/-!
# One call running alone

`Exec` runs a single program from its beginning to its end, with no other call in
between; only the environment may move between its actions. The trace of the run lists
the actions with their replies, oldest first. Such a run is a run of the interleaved
system in which the other calls stand still.

The rules invert a run along the program: a sequence runs its first part and then the
rest, and an action is performed after the environment has moved.

`Serial` makes one call after the other, and keeps a record of each.
-/

namespace Atomic

variable {A : Type} {R : A → Type} {ε α β γ σ : Type}

namespace Program

/-- A program that goes on with its value is itself. -/
theorem bind_eq_self (p : Program A R ε α) : p >>= pure = p := by
  rw [bind_eq]
  induction p with
  | done r => cases r <;> rfl
  | act a next ih => simp only [bind, ih]

/-- Programs in sequence may be put together from either end. -/
theorem bind_assoc (p : Program A R ε α) (f : α → Program A R ε β) (g : β → Program A R ε γ) :
    p >>= f >>= g = p >>= fun v => f v >>= g := by
  simp only [bind_eq]
  induction p with
  | done r => cases r <;> rfl
  | act a next ih => simp only [bind, ih]

end Program

namespace Machine

variable {M : Machine A R σ}

/-- The environment moves on its own for a while. -/
def Waits (M : Machine A R σ) : σ → σ → Prop := Relation.ReflTransGen M.idle

/-- The program runs alone, with this trace, to this result. -/
inductive Exec (M : Machine A R σ) : Program A R ε α → σ → List (Σ a : A, R a) → Except ε α → σ → Prop
  | done {r : Except ε α} {s : σ} : Exec M (.done r) s [] r s
  | act {a : A} {next : R a → Program A R ε α} {r : R a} {s t u : σ} {tr : List (Σ a : A, R a)}
      {res : Except ε α} (hperform : M.perform a s r t) (hrest : Exec M (next r) t tr res u) :
      Exec M (.act a next) s (⟨a, r⟩ :: tr) res u
  | idle {p : Program A R ε α} {s t u : σ} {tr : List (Σ a : A, R a)} {res : Except ε α}
      (hidle : M.idle s t) (hrest : Exec M p t tr res u) : Exec M p s tr res u

variable {s u : σ} {tr : List (Σ a : A, R a)}

/-- An execution may begin with waiting. -/
theorem Exec.waits {p : Program A R ε α} {t : σ} {res : Except ε α} (hwaits : M.Waits s t)
    (h : M.Exec p t tr res u) : M.Exec p s tr res u := by
  induction hwaits using Relation.ReflTransGen.head_induction_on with
  | refl => exact h
  | head hidle _ ih => exact .idle hidle ih

/-- The environment may also move after the end. -/
theorem Exec.then_waits {p : Program A R ε α} {t : σ} {res : Except ε α} (h : M.Exec p s tr res t)
    (hwaits : M.Waits t u) : M.Exec p s tr res u := by
  induction h with
  | done => exact Exec.done.waits hwaits
  | act hperform _ ih => exact .act hperform (ih hwaits)
  | idle hidle _ ih => exact .idle hidle (ih hwaits)

/-- What has ended only waits. -/
theorem exec_done {r res : Except ε α} :
    M.Exec (.done r) s tr res u ↔ M.Waits s u ∧ tr = [] ∧ res = r := by
  constructor
  · intro h
    generalize hp : Program.done r = p at h
    induction h with
    | done =>
      cases hp
      exact ⟨.refl, rfl, rfl⟩
    | act hperform hrest => cases hp
    | idle hidle hrest ih =>
      obtain ⟨hwaits, htr, hres⟩ := ih hp
      exact ⟨.head hidle hwaits, htr, hres⟩
  · rintro ⟨hwaits, rfl, rfl⟩
    exact Exec.done.waits hwaits

/-- An execution of an action waits, performs it and goes on after its reply. -/
theorem exec_act {a : A} {next : R a → Program A R ε α} {res : Except ε α} :
    M.Exec (.act a next) s tr res u ↔ ∃ s' r t tr', M.Waits s s' ∧ M.perform a s' r t ∧
      M.Exec (next r) t tr' res u ∧ tr = ⟨a, r⟩ :: tr' := by
  constructor
  · intro h
    generalize hp : Program.act a next = p at h
    induction h with
    | done => cases hp
    | act hperform hrest =>
      cases hp
      exact ⟨_, _, _, _, .refl, hperform, hrest, rfl⟩
    | idle hidle hrest ih =>
      obtain ⟨s', r, t, tr', hwaits, hrest'⟩ := ih hp
      exact ⟨s', r, t, tr', .head hidle hwaits, hrest'⟩
  · rintro ⟨s', r, t, tr', hwaits, hperform, hrest, rfl⟩
    exact (Exec.act hperform hrest).waits hwaits

/-- A sequence fails in its first part, or runs both parts. -/
theorem exec_bind {p : Program A R ε α} {f : α → Program A R ε β} {res : Except ε β} :
    M.Exec (p >>= f) s tr res u ↔ (∃ e, M.Exec p s tr (.error e) u ∧ res = .error e) ∨
      ∃ v t tr₁ tr₂, M.Exec p s tr₁ (.ok v) t ∧ M.Exec (f v) t tr₂ res u ∧ tr = tr₁ ++ tr₂ := by
  rw [Program.bind_eq]
  induction p generalizing s tr with
  | done r =>
    cases r with
    | ok v =>
      constructor
      · intro h
        exact Or.inr ⟨v, s, [], tr, .done, h, rfl⟩
      · rintro (⟨e, h, -⟩ | ⟨v', t, tr₁, tr₂, h, hrest, rfl⟩)
        · exact absurd (exec_done.mp h).2.2 (by simp)
        · obtain ⟨hwaits, rfl, hv⟩ := exec_done.mp h
          cases hv
          exact hrest.waits hwaits
    | error e =>
      constructor
      · intro h
        obtain ⟨hwaits, rfl, rfl⟩ := exec_done.mp h
        exact Or.inl ⟨e, exec_done.mpr ⟨hwaits, rfl, rfl⟩, rfl⟩
      · rintro (⟨e', h, rfl⟩ | ⟨v', t, tr₁, tr₂, h, -, -⟩)
        · obtain ⟨hwaits, rfl, he⟩ := exec_done.mp h
          cases he
          exact exec_done.mpr ⟨hwaits, rfl, rfl⟩
        · exact absurd (exec_done.mp h).2.2 (by simp)
  | act a next ih =>
    simp only [Program.bind, exec_act]
    constructor
    · rintro ⟨s', r, t, tr', hwaits, hperform, hrest, rfl⟩
      rcases (ih r).mp hrest with ⟨e, herror, hres⟩ | ⟨v, t', tr₁, tr₂, hfirst, hsecond, rfl⟩
      · exact Or.inl ⟨e, ⟨s', r, t, tr', hwaits, hperform, herror, rfl⟩, hres⟩
      · exact Or.inr ⟨v, t', _, tr₂, ⟨s', r, t, tr₁, hwaits, hperform, hfirst, rfl⟩, hsecond, rfl⟩
    · rintro (⟨e, ⟨s', r, t, tr', hwaits, hperform, herror, rfl⟩, hres⟩ |
        ⟨v, t', tr₁, tr₂, ⟨s', r, t, tr', hwaits, hperform, hfirst, rfl⟩, hsecond, rfl⟩)
      · exact ⟨s', r, t, tr', hwaits, hperform, (ih r).mpr (Or.inl ⟨e, herror, hres⟩), rfl⟩
      · exact ⟨s', r, t, _, hwaits, hperform, (ih r).mpr (Or.inr ⟨v, t', tr', tr₂, hfirst, hsecond, rfl⟩), rfl⟩

/-- A run only moves up a preorder that every move respects. -/
theorem Exec.monotone {le : σ → σ → Prop} (hle : M.Monotone le) {p : Program A R ε α} {res : Except ε α}
    (h : M.Exec p s tr res u) : le s u := by
  induction h with
  | done => exact hle.refl _
  | act hperform hrest ih => exact hle.trans _ _ _ (hle.perform _ _ _ _ hperform) ih
  | idle hidle hrest ih => exact hle.trans _ _ _ (hle.idle _ _ hidle) ih

/-- What runs alone on one machine runs alone on every machine with its moves. -/
theorem Exec.mono {M' : Machine A R σ} (hperform : ∀ a s r t, M.perform a s r t → M'.perform a s r t)
    (hidle : ∀ s t, M.idle s t → M'.idle s t) {p : Program A R ε α} {res : Except ε α} (h : M.Exec p s tr res u) :
    M'.Exec p s tr res u := by
  induction h with
  | done => exact .done
  | act hact _ ih => exact .act (hperform _ _ _ _ hact) ih
  | idle hmove _ ih => exact .idle (hidle _ _ hmove) ih

/-- The protocol allowed every action of a call when it was performed. -/
theorem Exec.guard_of_mem {π : Program.Protocol A R α} {p : Program A R ε α} {res : Except ε α}
    (h : M.Exec p s tr res u) {past : Program.History A R} (hobeys : p.Obeys π past) {x : Σ a : A, R a}
    (hx : x ∈ tr) :
    ∃ past', π.guard past' x.1 := by
  induction h generalizing past with
  | done => exact absurd hx List.not_mem_nil
  | act _ _ ih =>
    rcases List.mem_cons.mp hx with rfl | hlater
    · exact ⟨past, hobeys.1⟩
    · exact ih (hobeys.2 _) hlater
  | idle _ _ ih => exact ih hobeys hx

/-- What every action that the protocol allows keeps, and the environment keeps, is kept by a call. -/
theorem Exec.invariant {inv : σ → Prop} {π : Program.Protocol A R α}
    (hperform : ∀ h a r s t, π.guard h a → M.perform a s r t → inv s → inv t)
    (hidle : ∀ s t, M.idle s t → inv s → inv t) {p : Program A R ε α} {res : Except ε α} (h : M.Exec p s tr res u)
    {past : Program.History A R} (hobeys : p.Obeys π past) (hs : inv s) : inv u := by
  induction h generalizing past with
  | done => exact hs
  | act hact _ ih => exact ih (hobeys.2 _) (hperform _ _ _ _ _ hobeys.1 hact hs)
  | idle hmove _ ih => exact ih hobeys (hidle _ _ hmove hs)

/-- Where every allowed action keeps an invariant and is answered as the contract says, a call that fulfils the
contract keeps the invariant and returns what it ensures. -/
theorem Exec.fulfils {inv : σ → Prop} {C : Program.Contract A R} {post : α → Prop}
    (hperform : ∀ a r s t, C.allows a → M.perform a s r t → inv s → inv t ∧ C.answers a r)
    (hidle : ∀ s t, M.idle s t → inv s → inv t) {p : Program A R ε α} {res : Except ε α} (h : M.Exec p s tr res u)
    (hfulfils : p.Fulfils C post) (hs : inv s) : inv u ∧ ∀ v, res = .ok v → post v := by
  induction h with
  | done =>
    refine ⟨hs, fun v hv => ?_⟩
    rw [hv] at hfulfils
    exact hfulfils
  | act hact _ ih =>
    obtain ⟨hinv, hanswer⟩ := hperform _ _ _ _ hfulfils.1 hact hs
    exact ih (hfulfils.2 _ hanswer) hinv
  | idle hmove _ ih => exact ih hfulfils (hidle _ _ hmove hs)

/-- Every action of the step is one of these calls. -/
def ByCalls {ι : Type} (mine : ι → Prop) (c d : Config ι A R ε α σ) : Prop :=
  ∀ e, d.log = e :: c.log → mine e.caller

/-- A call that goes on alone is a run of the interleaved system in which only that call moves. -/
theorem Exec.reaches_alone {ι : Type} [DecidableEq ι] {p : Program A R ε α} {res : Except ε α}
    (h : M.Exec p s tr res u) {c : Config ι A R ε α σ} {i : ι} (hshared : c.shared = s) (hcall : c.calls i = p) :
    ∃ d, M.Reaches (ByCalls (· = i)) c d ∧ d.shared = u ∧ d.calls = Function.update c.calls i (.done res) := by
  induction h generalizing c with
  | done =>
    refine ⟨c, .refl, hshared, ?_⟩
    rw [← hcall, Function.update_eq_self]
  | @act a next r s t u tr res hperform hrest ih =>
    have hadvance := ih (c := c.advance i a r t (next r)) rfl (Function.update_self _ _ _)
    obtain ⟨d, hrun, hshared', hcalls⟩ := hadvance
    have hmine : ByCalls (· = i) c (c.advance i a r t (next r)) := fun e he => (List.cons.inj he).1 ▸ rfl
    refine ⟨d, .head ⟨.call hcall (hshared ▸ hperform), hmine⟩ hrun, hshared', ?_⟩
    rw [hcalls, Config.advance, Function.update_idem]
  | @idle p s t u tr res hidle hrest ih =>
    obtain ⟨d, hrun, hshared', hcalls⟩ := ih (c := { c with shared := t }) rfl hcall
    have hmine : ByCalls (· = i) c { c with shared := t } := fun e he => absurd he.symm (List.cons_ne_self e c.log)
    exact ⟨d, .head ⟨.idle (hshared ▸ hidle), hmine⟩ hrun, hshared', hcalls⟩

/-- A call that runs alone is a run of the interleaved system, whatever the other calls are. -/
theorem Exec.reaches {ι : Type} [DecidableEq ι] {p : Program A R ε α} {res : Except ε α}
    (h : M.Exec p s tr res u) {c : Config ι A R ε α σ} {i : ι} (hshared : c.shared = s) (hcall : c.calls i = p) :
    ∃ d, M.Reaches (fun _ _ => True) c d ∧ d.shared = u ∧ d.calls = Function.update c.calls i (.done res) := by
  obtain ⟨d, hrun, hend⟩ := h.reaches_alone hshared hcall
  exact ⟨d, hrun.mono fun _ _ _ => trivial, hend⟩

/-- A call that was made and has ended: its trace and result, and the states around it. -/
structure Record (Q A : Type) (R : A → Type) (ε α σ : Type) where
  request : Q
  before : σ
  trace : List (Σ a : A, R a)
  result : Except ε α
  after : σ

/-- A sequential run from a state: the records of its calls, most recent first. -/
inductive Serial {Q : Type} (M : Machine A R σ) (serve : Q → Program A R ε α) (first : σ) :
    List (Record Q A R ε α σ) → σ → Prop
  | start : Serial M serve first [] first
  | call {past : List (Record Q A R ε α σ)} {s u : σ} {request : Q} {tr : List (Σ a : A, R a)} {res : Except ε α}
      (hpast : Serial M serve first past s) (hexec : M.Exec (serve request) s tr res u) :
      Serial M serve first (⟨request, s, tr, res, u⟩ :: past) u

/-- After the last call of a sequential run the environment may still move. -/
theorem Serial.then_waits {Q : Type} {serve : Q → Program A R ε α} {first s : σ} {c : Record Q A R ε α σ}
    {past : List (Record Q A R ε α σ)} (h : M.Serial serve first (c :: past) s) (hwaits : M.Waits s u) :
    M.Serial serve first ({ c with after := u } :: past) u := by
  cases h with
  | call hpast hexec => exact .call hpast (hexec.then_waits hwaits)

/-- An earlier part of a sequential run is a sequential run, which ends where its last call ended. -/
theorem Serial.of_suffix {Q : Type} {serve : Q → Program A R ε α} {first s : σ} {c : Record Q A R ε α σ}
    {past older : List (Record Q A R ε α σ)} (h : M.Serial serve first past s) (hsuffix : (c :: older) <:+ past) :
    M.Serial serve first (c :: older) c.after := by
  induction h with
  | start => exact absurd (List.suffix_nil.mp hsuffix) (by simp)
  | call hpast hexec ih =>
    rcases List.suffix_cons_iff.mp hsuffix with heq | hearlier
    · cases heq
      exact .call hpast hexec
    · exact ih hearlier

/-- A call of a sequential run, with the run before it. -/
theorem Serial.call_of_suffix {Q : Type} {serve : Q → Program A R ε α} {first s : σ} {c : Record Q A R ε α σ}
    {past older : List (Record Q A R ε α σ)} (h : M.Serial serve first past s) (hsuffix : (c :: older) <:+ past) :
    M.Serial serve first older c.before ∧ M.Exec (serve c.request) c.before c.trace c.result c.after := by
  cases h.of_suffix hsuffix with
  | call hpast hexec => exact ⟨hpast, hexec⟩

/-- A sequential run only moves up a preorder that every move respects. -/
theorem Serial.monotone {Q : Type} {serve : Q → Program A R ε α} {first s : σ} {c : Record Q A R ε α σ}
    {past : List (Record Q A R ε α σ)} {le : σ → σ → Prop} (hle : M.Monotone le) (h : M.Serial serve first past s)
    (hc : c ∈ past) : le c.after s := by
  induction h with
  | start => exact absurd hc List.not_mem_nil
  | call hpast hexec ih =>
    rcases List.mem_cons.mp hc with rfl | hearlier
    · exact hle.refl _
    · exact hle.trans _ _ _ (ih hearlier) (hexec.monotone hle)

/-- A call of a sequential run is a run of its program. -/
theorem Serial.exec {Q : Type} {serve : Q → Program A R ε α} {first s : σ} {c : Record Q A R ε α σ}
    {past : List (Record Q A R ε α σ)} (h : M.Serial serve first past s) (hc : c ∈ past) :
    M.Exec (serve c.request) c.before c.trace c.result c.after := by
  obtain ⟨newer, older, rfl⟩ := List.append_of_mem hc
  exact (h.call_of_suffix (List.suffix_append newer (c :: older))).2

/-- A later call begins above the state in which an earlier one ended. -/
theorem Serial.after_le {Q : Type} {serve : Q → Program A R ε α} {first s : σ} {c d : Record Q A R ε α σ}
    {newer older : List (Record Q A R ε α σ)} {le : σ → σ → Prop} (hle : M.Monotone le)
    (h : M.Serial serve first (newer ++ c :: older) s) (hd : d ∈ newer) : le c.after d.before := by
  obtain ⟨later, earlier, rfl⟩ := List.append_of_mem hd
  have hsuffix : (d :: (earlier ++ c :: older)) <:+ (later ++ d :: earlier) ++ c :: older := by
    rw [List.append_assoc]
    exact List.suffix_append later _
  exact (h.call_of_suffix hsuffix).1.monotone hle (List.mem_append_right _ List.mem_cons_self)

/-- A sequential run on other moves of a machine is a sequential run. -/
theorem Serial.mono {Q : Type} {M' : Machine A R σ} {serve : Q → Program A R ε α} {first s : σ}
    (hperform : ∀ a s r t, M.perform a s r t → M'.perform a s r t) (hidle : ∀ s t, M.idle s t → M'.idle s t)
    {past : List (Record Q A R ε α σ)} (h : M.Serial serve first past s) : M'.Serial serve first past s := by
  induction h with
  | start => exact .start
  | call _ hexec ih => exact .call ih (hexec.mono hperform hidle)

/-- The record of a call under another name of its request. -/
def Record.relabel {Q Q' : Type} (f : Q → Q') (c : Record Q A R ε α σ) : Record Q' A R ε α σ :=
  ⟨f c.request, c.before, c.trace, c.result, c.after⟩

/-- The requests of a sequential run may be given by other names. -/
theorem Serial.relabel {Q Q' : Type} {f : Q → Q'} {serve : Q' → Program A R ε α} {first s : σ}
    {past : List (Record Q A R ε α σ)} (h : M.Serial (fun q => serve (f q)) first past s) :
    M.Serial serve first (past.map (Record.relabel f)) s := by
  induction h with
  | start => exact .start
  | call _ hexec ih => exact .call ih hexec

/-- A sequential run is a run of the interleaved system: the calls are numbered from the oldest on, and
those that were not made have not begun. -/
theorem Serial.reaches {Q : Type} {serve : Q → Program A R ε α} {first s : σ} {past : List (Record Q A R ε α σ)}
    (h : M.Serial serve first past s) (req : ℕ → Q) (hreq : ∀ i c, past.reverse[i]? = some c → req i = c.request) :
    ∃ d, M.Reaches (fun _ _ => True) (Config.start first fun i => serve (req i)) d ∧ d.shared = s ∧
      (∀ i c, past.reverse[i]? = some c → d.calls i = .done c.result) ∧
      ∀ i, past.length ≤ i → d.calls i = serve (req i) := by
  induction h with
  | start => exact ⟨_, .refl, rfl, fun i c hc => absurd hc (by simp), fun i _ => rfl⟩
  | @call past s u request tr res _ hexec ih =>
    simp only [List.reverse_cons] at hreq ⊢
    have hlength : past.reverse.length = past.length := List.length_reverse
    have holder (i : ℕ) (c : Record Q A R ε α σ) (hc : past.reverse[i]? = some c) :
        i < past.length ∧ (past.reverse ++ [⟨request, s, tr, res, u⟩])[i]? = some c := by
      obtain ⟨hi, -⟩ := List.getElem?_eq_some_iff.mp hc
      exact ⟨by omega, by rw [List.getElem?_append_left hi, hc]⟩
    obtain ⟨d, hrun, hshared, hdone, hwaiting⟩ := ih fun i c hc => hreq i c (holder i c hc).2
    have hnew : (past.reverse ++ [(⟨request, s, tr, res, u⟩ : Record Q A R ε α σ)])[past.length]? =
        some ⟨request, s, tr, res, u⟩ := by
      rw [← hlength]
      exact List.getElem?_concat_length
    have hcall : d.calls past.length = serve request := by
      rw [hwaiting _ (Nat.le_refl _), hreq _ _ hnew]
    obtain ⟨d', hrun', hshared', hcalls⟩ := hexec.reaches hshared hcall
    refine ⟨d', hrun.trans hrun', hshared', ?_, ?_⟩
    · intro i c hc
      rw [hcalls]
      by_cases hi : i = past.length
      · subst hi
        rw [Function.update_self, ← Option.some.inj (hnew.symm.trans hc)]
      · have hlt : i < past.reverse.length := by
          have hle := (List.getElem?_eq_some_iff.mp hc).1
          rw [List.length_append, List.length_singleton] at hle
          omega
        rw [Function.update_of_ne hi]
        exact hdone i c (by rw [← hc, List.getElem?_append_left hlt])
    · intro i hi
      rw [List.length_cons] at hi
      rw [hcalls, Function.update_of_ne (by omega)]
      exact hwaiting i (by omega)

section Executor

variable {C E : Type} {M' : Machine A R σ}

/-- Run a program alone, with a choice for each action; no result when the choices run out, or a
reply is not admitted. -/
def Executor.solo (X : Executor M C E) (admitted : (a : A) → R a → Bool) :
    List C → Program A R ε α → σ → Option (List (Σ a : A, R a) × Except ε α × σ)
  | _, .done res, s => some ([], res, s)
  | [], .act _ _, _ => none
  | choice :: choices, .act a next, s =>
    let outcome := X.exec a choice s
    if admitted a outcome.1 then
      (X.solo admitted choices (next outcome.1) outcome.2).map fun rest => (⟨a, outcome.1⟩ :: rest.1, rest.2)
    else none

/-- What is computed is a run of every machine that performs the admitted actions. -/
theorem Executor.solo_exec {X : Executor M C E} {admitted : (a : A) → R a → Bool}
    (hadmitted : ∀ a s r t, M.perform a s r t → admitted a r = true → M'.perform a s r t) {choices : List C}
    {p : Program A R ε α} {res : Except ε α} (h : X.solo admitted choices p s = some (tr, res, u)) :
    M'.Exec p s tr res u := by
  induction choices generalizing p s tr with
  | nil =>
    cases p with
    | done res' =>
      cases h
      exact .done
    | act a next => cases h
  | cons choice choices ih =>
    cases p with
    | done res' =>
      cases h
      exact .done
    | act a next =>
      simp only [Executor.solo] at h
      split at h
      · rename_i hreply
        obtain ⟨⟨tr', res', u'⟩, hrest, heq⟩ := Option.map_eq_some_iff.mp h
        cases heq
        exact .act (hadmitted a s _ _ (X.exec_sound a choice s) hreply) (ih hrest)
      · cases h

/-- A test that the computed run passes is passed by some run. -/
theorem Executor.exists_exec {X : Executor M C E} {admitted : (a : A) → R a → Bool}
    (hadmitted : ∀ a s r t, M.perform a s r t → admitted a r = true → M'.perform a s r t)
    (test : Except ε α → σ → Bool) {choices : List C} {p : Program A R ε α}
    (h : ((X.solo admitted choices p s).any fun out => test out.2.1 out.2.2) = true) :
    ∃ tr res u, M'.Exec p s tr res u ∧ test res u = true := by
  obtain ⟨⟨tr, res, u⟩, hsolo, htest⟩ := (Option.any_eq_true _ _).mp h
  exact ⟨tr, res, u, X.solo_exec hadmitted hsolo, htest⟩

/-- Make calls one after the other, each with its choices. -/
def Executor.serial {Q : Type} (X : Executor M C E) (admitted : (a : A) → R a → Bool)
    (serve : Q → Program A R ε α) : List (Q × List C) → σ → Option (List (Record Q A R ε α σ) × σ)
  | [], s => some ([], s)
  | (request, choices) :: earlier, s =>
    (X.serial admitted serve earlier s).bind fun run =>
      (X.solo admitted choices (serve request) run.2).map fun out =>
        (⟨request, run.2, out.1, out.2.1, out.2.2⟩ :: run.1, out.2.2)

/-- The computed calls, most recent first, are a sequential run. -/
theorem Executor.serial_run {Q : Type} {X : Executor M C E} {admitted : (a : A) → R a → Bool}
    (hadmitted : ∀ a s r t, M.perform a s r t → admitted a r = true → M'.perform a s r t)
    {serve : Q → Program A R ε α} {calls : List (Q × List C)} {past : List (Record Q A R ε α σ)}
    (h : X.serial admitted serve calls s = some (past, u)) : M'.Serial serve s past u := by
  induction calls generalizing past u with
  | nil =>
    cases h
    exact .start
  | cons call earlier ih =>
    obtain ⟨request, choices⟩ := call
    obtain ⟨⟨past', s'⟩, hearlier, hcall⟩ := Option.bind_eq_some_iff.mp h
    obtain ⟨⟨tr, res, u'⟩, hsolo, heq⟩ := Option.map_eq_some_iff.mp hcall
    cases heq
    exact .call (ih hearlier) (X.solo_exec hadmitted hsolo)

/-- A test that the computed calls pass is passed by some sequential run. -/
theorem Executor.exists_serial {Q : Type} {X : Executor M C E} {admitted : (a : A) → R a → Bool}
    (hadmitted : ∀ a s r t, M.perform a s r t → admitted a r = true → M'.perform a s r t)
    (test : List (Record Q A R ε α σ) → σ → Bool) {serve : Q → Program A R ε α} {calls : List (Q × List C)}
    (h : ((X.serial admitted serve calls s).any fun run => test run.1 run.2) = true) :
    ∃ past u, M'.Serial serve s past u ∧ test past u = true := by
  obtain ⟨⟨past, u⟩, hserial, htest⟩ := (Option.any_eq_true _ _).mp h
  exact ⟨past, u, X.serial_run hadmitted hserial, htest⟩

end Executor

end Machine

end Atomic
