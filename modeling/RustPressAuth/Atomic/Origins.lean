import RustPressAuth.Atomic.Interleaving

/-!
# Which call made a row

A shared state holds rows, and each row has a key. Calls change rows and add new ones, and
no call adds twice. Then every row that was not there at the start has a call that made it,
no call made two, and every call that added has its row, however the calls interleave.

What is known of a row and the call that made it is a relation of one's own. It has to
hold when the row is added, and to last while the row is changed.
-/

namespace Atomic

open Program

variable {ι A σ Row K : Type} {R : A → Type} {ε α : Type}

/-- The rows a shared state holds, their keys, and what is known of a row and the call that made it. -/
structure Origins (ι σ Row K : Type) where
  holds : σ → Row → Prop
  key : Row → K
  made : σ → ι → Row → Prop

namespace Origins

variable (o : Origins ι σ Row K)

/-- No row of the state has the key of this one. -/
def New (s : σ) (row : Row) : Prop := ∀ q, o.holds s q → o.key q ≠ o.key row

/-- The row stems from an earlier one, and what was known of that one is known of it. -/
def Kept (s s' : σ) (row : Row) : Prop :=
  ∃ q, o.holds s q ∧ o.key q = o.key row ∧ ∀ i, o.made s i q → o.made s' i row

/-- Every row of the first state has its successor in the second. -/
def Lasts (s s' : σ) : Prop := ∀ q, o.holds s q → ∃ row, o.holds s' row ∧ o.key row = o.key q

/-- The rows of the second state are those of the first, with what was known of them. -/
structure Keeps (s s' : σ) : Prop where
  lasts : o.Lasts s s'
  rows : ∀ row, o.holds s' row → o.Kept s s' row

/-- What an action of a call does to the rows: it keeps them, and adds one if it is one that adds. -/
structure Grows (adds : Bool) (i : ι) (s s' : σ) : Prop where
  lasts : o.Lasts s s'
  rows : ∀ row, o.holds s' row → o.Kept s s' row ∨ (adds = true ∧ o.New s row ∧ o.made s' i row)
  one : ∀ row row', o.holds s' row → o.holds s' row' → o.New s row → o.New s row' → o.key row = o.key row'
  adds : adds = true → ∃ row, o.holds s' row ∧ o.New s row

/-- Rows that are not from the start are matched with the calls that made them. -/
structure Matched (first s : σ) (maker : K → ι) : Prop where
  made : ∀ row, o.holds s row → o.New first row → o.made s (maker (o.key row)) row
  apart : ∀ row row', o.holds s row → o.holds s row' → o.New first row → o.New first row' →
    maker (o.key row) = maker (o.key row') → o.key row = o.key row'

variable {o} {s s' first : σ} {row row' : Row} {maker : K → ι}

/-- Rows of one key are new together. -/
theorem New.of_key (h : o.New s row) (hkey : o.key row = o.key row') : o.New s row' := by
  intro q hq
  rw [← hkey]
  exact h q hq

/-- A row that is new in a state was not there in an earlier one. -/
theorem New.of_lasts (h : o.New s' row) (hlasts : o.Lasts s s') : o.New s row := by
  intro q hq
  obtain ⟨later, hlater, hkey⟩ := hlasts q hq
  rw [← hkey]
  exact h later hlater

/-- Every row lasts where nothing changes. -/
theorem Lasts.refl (s : σ) : o.Lasts s s := fun q hq => ⟨q, hq, rfl⟩

/-- Rows that last through two changes last through both. -/
theorem Lasts.trans {t : σ} (h : o.Lasts s s') (h' : o.Lasts s' t) : o.Lasts s t := by
  intro q hq
  obtain ⟨row, hrow, hkey⟩ := h q hq
  obtain ⟨row', hrow', hkey'⟩ := h' row hrow
  exact ⟨row', hrow', hkey'.trans hkey⟩

/-- A kept row is made by whoever made the one it stems from. -/
theorem Kept.made (h : o.Kept s s' row) (hnew : o.New first row)
    (hmade : ∀ row, o.holds s row → o.New first row → o.made s (maker (o.key row)) row) :
    o.made s' (maker (o.key row)) row := by
  obtain ⟨q, hq, hkey, hlasts⟩ := h
  have hmaker := hmade q hq (hnew.of_key hkey.symm)
  rw [hkey] at hmaker
  exact hlasts _ hmaker

/-- The same state keeps its rows. -/
theorem Keeps.refl (s : σ) : o.Keeps s s where
  lasts := Lasts.refl s
  rows row hrow := ⟨row, hrow, rfl, fun _ => id⟩

/-- An action that does not add only keeps. -/
theorem Grows.keeps {i : ι} (h : o.Grows false i s s') : o.Keeps s s' where
  lasts := h.lasts
  rows row hrow := by
    rcases h.rows row hrow with hkept | ⟨hadds, -⟩
    · exact hkept
    · cases hadds

/-- A change that adds no row grows by nobody. -/
theorem Keeps.grows (h : o.Keeps s s') (i : ι) : o.Grows false i s s' where
  lasts := h.lasts
  rows row hrow := Or.inl (h.rows row hrow)
  one row _ hrow _ hnew _ := by
    obtain ⟨q, hq, hkey, -⟩ := h.rows row hrow
    exact absurd hkey (hnew q hq)
  adds hadds := by cases hadds

/-- The rows of a state after a change of every row. -/
theorem Keeps.of_rows {f : Row → Row} (hrows : ∀ row, o.holds s' row ↔ ∃ q, o.holds s q ∧ f q = row)
    (hkey : ∀ q, o.key (f q) = o.key q) (hmade : ∀ q i, o.made s i q → o.made s' i (f q)) : o.Keeps s s' where
  lasts q hq := ⟨f q, (hrows _).mpr ⟨q, hq, rfl⟩, hkey q⟩
  rows row hrow := by
    obtain ⟨q, hq, rfl⟩ := (hrows row).mp hrow
    exact ⟨q, hq, (hkey q).symm, hmade q⟩

/-- The rows of a state after a change of every row and the addition of a new one, if there is one. -/
theorem Grows.of_rows {f : Row → Row} {new? : Option Row} {adds : Bool} {i : ι}
    (hrows : ∀ row, o.holds s' row ↔ (∃ q, o.holds s q ∧ f q = row) ∨ new? = some row)
    (hkey : ∀ q, o.key (f q) = o.key q) (hmade : ∀ q i, o.made s i q → o.made s' i (f q))
    (hadds : adds = new?.isSome) (hnew : ∀ row, new? = some row → o.New s row ∧ o.made s' i row) :
    o.Grows adds i s s' := by
  have hold (row : Row) (hrow : o.holds s' row) (hrowNew : o.New s row) : new? = some row := by
    rcases (hrows row).mp hrow with ⟨q, hq, rfl⟩ | hadded
    · exact absurd (hkey q).symm (hrowNew q hq)
    · exact hadded
  constructor
  · intro q hq
    exact ⟨f q, (hrows _).mpr (Or.inl ⟨q, hq, rfl⟩), hkey q⟩
  · intro row hrow
    rcases (hrows row).mp hrow with ⟨q, hq, rfl⟩ | hadded
    · exact Or.inl ⟨q, hq, (hkey q).symm, hmade q⟩
    · exact Or.inr ⟨by rw [hadds, hadded]; rfl, hnew row hadded⟩
  · intro row row' hrow hrow' hrowNew hrowNew'
    have hsame := (hold row hrow hrowNew).symm.trans (hold row' hrow' hrowNew')
    exact congrArg o.key (Option.some.inj hsame)
  · intro hadds'
    rw [hadds] at hadds'
    obtain ⟨row, hadded⟩ := Option.isSome_iff_exists.mp hadds'
    exact ⟨row, (hrows row).mpr (Or.inr hadded), (hnew row hadded).1⟩

end Origins

namespace Machine

variable [DecidableEq ι] {M : Machine A R σ} {ok : Config ι A R ε α σ → Config ι A R ε α σ → Prop}
    {c d : Config ι A R ε α σ}
  {o : Origins ι σ Row K} {adds : (Σ a : A, R a) → Bool}

/-- Rows matched with the calls that made them: these are the calls that added. -/
structure Traced (o : Origins ι σ Row K) (adds : (Σ a : A, R a) → Bool) (first : σ) (d : Config ι A R ε α σ)
    (maker : K → ι) :
    Prop extends o.Matched first d.shared maker where
  lasts : o.Lasts first d.shared
  added : ∀ i, (∃ x ∈ ownHistory i d.log, adds x = true) ↔
    ∃ row, o.holds d.shared row ∧ o.New first row ∧ maker (o.key row) = i

variable {first : σ} {maker : K → ι}

/-- While all rows are kept, their makers stay the same. -/
theorem Traced.keep (h : Traced o adds first c maker) (hkeeps : o.Keeps c.shared d.shared)
    (hadds : ∀ i, (∃ x ∈ ownHistory i d.log, adds x = true) ↔ ∃ x ∈ ownHistory i c.log, adds x = true) :
    Traced o adds first d maker := by
  constructor
  · constructor
    · intro row hrow hnew
      exact (hkeeps.rows row hrow).made hnew h.made
    · intro row row' hrow hrow' hnew hnew' hsame
      obtain ⟨q, hq, hkey, -⟩ := hkeeps.rows row hrow
      obtain ⟨q', hq', hkey', -⟩ := hkeeps.rows row' hrow'
      rw [← hkey, ← hkey'] at hsame ⊢
      exact h.apart q q' hq hq' (hnew.of_key hkey.symm) (hnew'.of_key hkey'.symm) hsame
  · exact h.lasts.trans hkeeps.lasts
  · intro i
    rw [hadds i, h.added i]
    constructor
    · rintro ⟨q, hq, hnew, hmaker⟩
      obtain ⟨row, hrow, hkey⟩ := hkeeps.lasts q hq
      exact ⟨row, hrow, hnew.of_key hkey.symm, by rw [hkey, hmaker]⟩
    · rintro ⟨row, hrow, hnew, hmaker⟩
      obtain ⟨q, hq, hkey, -⟩ := hkeeps.rows row hrow
      exact ⟨q, hq, hnew.of_key hkey.symm, by rw [hkey, hmaker]⟩

/-- A call that adds its first row is the maker of that row. -/
theorem Traced.add [DecidableEq K] (h : Traced o adds first c maker) {i : ι} {a : A} {r : R a} {s' : σ}
    {rest : Program A R ε α} (hgrows : o.Grows true i c.shared s') (hadds : adds ⟨a, r⟩ = true)
    (honce : ∀ x ∈ ownHistory i c.log, adds x = false) :
    ∃ maker, Traced o adds first (c.advance i a r s' rest) maker := by
  obtain ⟨new, hnew, hfresh⟩ := hgrows.adds rfl
  have hfreshFirst : o.New first new := hfresh.of_lasts h.lasts
  have hkept (row : Row) (hrow : o.holds s' row) (hkey : o.key row ≠ o.key new) : o.Kept c.shared s' row := by
    rcases hgrows.rows row hrow with hkept | ⟨-, hrowNew, -⟩
    · exact hkept
    · exact absurd (hgrows.one row new hrow hnew hrowNew hfresh) hkey
  have hmade (row : Row) (hrow : o.holds s' row) (hkey : o.key row = o.key new) : o.made s' i row := by
    rcases hgrows.rows row hrow with ⟨q, hq, hqkey, -⟩ | ⟨-, -, hmade⟩
    · exact absurd (hqkey.trans hkey) (hfresh q hq)
    · exact hmade
  have hnone (q : Row) (hq : o.holds c.shared q) (hqNew : o.New first q) : maker (o.key q) ≠ i := by
    intro heq
    obtain ⟨x, hx, hxadds⟩ := (h.added i).mpr ⟨q, hq, hqNew, heq⟩
    rw [honce x hx] at hxadds
    cases hxadds
  have hother (row : Row) (hrow : o.holds s' row) (hkey : o.key row ≠ o.key new) (hrowNew : o.New first row) :
      maker (o.key row) ≠ i := by
    obtain ⟨q, hq, hqkey, -⟩ := hkept row hrow hkey
    rw [← hqkey]
    exact hnone q hq (hrowNew.of_key hqkey.symm)
  refine ⟨Function.update maker (o.key new) i, ?_⟩
  constructor
  · constructor
    · intro row hrow hrowNew
      by_cases hkey : o.key row = o.key new
      · rw [hkey, Function.update_self]
        exact hmade row hrow hkey
      · rw [Function.update_of_ne hkey]
        exact (hkept row hrow hkey).made hrowNew h.made
    · intro row row' hrow hrow' hrowNew hrowNew' hsame
      by_cases hkey : o.key row = o.key new
      · by_cases hkey' : o.key row' = o.key new
        · exact hkey.trans hkey'.symm
        · rw [hkey, Function.update_self, Function.update_of_ne hkey'] at hsame
          exact absurd hsame.symm (hother row' hrow' hkey' hrowNew')
      · by_cases hkey' : o.key row' = o.key new
        · rw [hkey', Function.update_self, Function.update_of_ne hkey] at hsame
          exact absurd hsame (hother row hrow hkey hrowNew)
        · rw [Function.update_of_ne hkey, Function.update_of_ne hkey'] at hsame
          obtain ⟨q, hq, hqkey, -⟩ := hkept row hrow hkey
          obtain ⟨q', hq', hqkey', -⟩ := hkept row' hrow' hkey'
          rw [← hqkey, ← hqkey'] at hsame ⊢
          exact h.apart q q' hq hq' (hrowNew.of_key hqkey.symm) (hrowNew'.of_key hqkey'.symm) hsame
  · exact h.lasts.trans hgrows.lasts
  · intro j
    simp only [Config.advance, ownHistory_cons, Event.entry_mk]
    by_cases hij : i = j
    · subst hij
      rw [if_pos rfl]
      constructor
      · intro _
        exact ⟨new, hnew, hfreshFirst, Function.update_self _ _ _⟩
      · intro _
        exact ⟨_, List.mem_cons_self, hadds⟩
    · rw [if_neg hij, h.added j]
      constructor
      · rintro ⟨q, hq, hqNew, hmaker⟩
        obtain ⟨row, hrow, hkey⟩ := hgrows.lasts q hq
        refine ⟨row, hrow, hqNew.of_key hkey.symm, ?_⟩
        rw [hkey, Function.update_of_ne (hfresh q hq), hmaker]
      · rintro ⟨row, hrow, hrowNew, hmaker⟩
        have hkey : o.key row ≠ o.key new := by
          intro heq
          rw [heq, Function.update_self] at hmaker
          exact hij hmaker
        rw [Function.update_of_ne hkey] at hmaker
        obtain ⟨q, hq, hqkey, -⟩ := hkept row hrow hkey
        exact ⟨q, hq, hrowNew.of_key hqkey.symm, by rw [hqkey, hmaker]⟩

/-- In every run the rows that are not from the start are matched with the calls that made them, if no call
adds twice. -/
theorem Reaches.traced [DecidableEq K] [Inhabited ι] (π : ι → Protocol A R α) (h : M.Reaches ok c d)
    (hlog : c.log = []) (hobeys : ∀ i, (c.calls i).Obeys (π i) (ownHistory i c.log))
    (honce : ∀ i h a r, (π i).guard h a → adds ⟨a, r⟩ = true → ∀ x ∈ h, adds x = false)
    (hcall : ∀ b i a s' r, M.Reaches ok c b → (π i).guard (ownHistory i b.log) a → M.perform a b.shared r s' →
      o.Grows (adds ⟨a, r⟩) i b.shared s')
    (hidle : ∀ s s', M.idle s s' → o.Keeps s s') :
    ∃ maker, Traced o adds c.shared d maker := by
  induction h with
  | refl =>
    have hold (row : Row) (hrow : o.holds c.shared row) (hnew : o.New c.shared row) : False := hnew row hrow rfl
    refine ⟨fun _ => default, ⟨fun row hrow hnew => (hold row hrow hnew).elim, ?_⟩, Origins.Lasts.refl _, ?_⟩
    · exact fun row _ hrow _ hnew => (hold row hrow hnew).elim
    · intro i
      rw [hlog]
      constructor
      · rintro ⟨x, hx, -⟩
        exact absurd hx (by simp)
      · rintro ⟨row, hrow, hnew, -⟩
        exact (hold row hrow hnew).elim
  | @tail b d hrun hstep ih =>
    obtain ⟨maker, htraced⟩ := ih
    obtain ⟨hmove, -⟩ := hstep
    cases hmove with
    | idle hidles => exact ⟨maker, htraced.keep (hidle _ _ hidles) fun _ => Iff.rfl⟩
    | @call i a next r s' hnext hperform =>
      have hguard : (π i).guard (ownHistory i b.log) a := by
        have hleft := Reaches.obeys π hrun hobeys i
        rw [hnext] at hleft
        exact hleft.1
      have hgrows := hcall b i a s' r hrun hguard hperform
      cases hadds : adds ⟨a, r⟩ with
      | true =>
        rw [hadds] at hgrows
        exact htraced.add hgrows hadds (honce i _ a r hguard hadds)
      | false =>
        rw [hadds] at hgrows
        refine ⟨maker, htraced.keep hgrows.keeps fun j => ?_⟩
        simp only [Config.advance, ownHistory_cons, Event.entry_mk]
        split
        · simp only [List.mem_cons, exists_eq_or_imp, hadds, Bool.false_eq_true, false_or]
        · exact Iff.rfl

end Machine

end Atomic
