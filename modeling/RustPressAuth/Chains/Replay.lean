import Mathlib.Data.List.Basic

/-!
# Chains of tokens

A session is a chain of tokens: it starts with one, and a token that is presented is
replaced by a new one at the head of its chain. Closing the newest token of a chain, or
ending all chains of an owner, leaves a chain without a current token until it is
extended. Chains are replayed from the history of these events, most recent first.

A store agrees with the chains when its live tokens are the current ones. Each event
keeps the agreement, given what it does to the store.
-/

namespace Chains

variable {Owner Token : Type}

/-- A chain: its owner, its tokens, newest first, and whether the newest one is current. -/
structure Chain (Owner Token : Type) where
  owner : Owner
  tokens : List Token
  alive : Bool

/-- The current token of a chain. -/
def Chain.current? (chain : Chain Owner Token) : Option Token := if chain.alive then chain.tokens.head? else none

/-- What happens to the chains. -/
inductive Event (Owner Token : Type) where
  | start (owner : Owner) (token : Token)
  | extend (presented token : Token)
  | close (token : Token)
  | endAll (owner : Owner)
  | pass
deriving DecidableEq

/-- The store agrees with the chains: it holds their tokens for their owners, each in one chain, and
its live tokens are the current ones. -/
structure Agrees (chains : List (Chain Owner Token)) (owned : Owner → Token → Prop)
    (live : Token → Prop) : Prop where
  grouped : ∀ owner token, owned owner token ↔ ∃ chain ∈ chains, token ∈ chain.tokens ∧ chain.owner = owner
  unique : ∀ chain ∈ chains, ∀ chain' ∈ chains, ∀ token ∈ chain.tokens, token ∈ chain'.tokens → chain = chain'
  current : ∀ chain ∈ chains, ∀ token ∈ chain.tokens, live token ↔ chain.current? = some token

variable {chains : List (Chain Owner Token)} {owned owned' : Owner → Token → Prop} {live live' : Token → Prop}
  {owner : Owner} {token presented : Token} {chain : Chain Owner Token}

/-- The current token is the newest one. -/
theorem head_of_current (h : chain.current? = some token) : chain.tokens.head? = some token := by
  rw [Chain.current?] at h
  split at h
  · exact h
  · cases h

/-- The current token of a chain is one of its tokens. -/
theorem mem_of_current (h : chain.current? = some token) : token ∈ chain.tokens :=
  List.mem_of_mem_head? (head_of_current h)

/-- Nothing agrees with nothing. -/
theorem Agrees.empty (howned : ∀ owner token, ¬ owned owner token) :
    Agrees ([] : List (Chain Owner Token)) owned live where
  grouped owner token := iff_of_false (howned owner token) (by simp)
  unique _ h := nomatch h
  current _ h := nomatch h

/-- A token that is not stored is in no chain. -/
theorem Agrees.not_mem (h : Agrees chains owned live) (hfresh : ∀ owner, ¬ owned owner token)
    (hchain : chain ∈ chains) :
    token ∉ chain.tokens := by
  intro htoken
  exact hfresh chain.owner ((h.grouped chain.owner token).mpr ⟨chain, hchain, htoken, rfl⟩)

/-- A new chain. -/
theorem Agrees.start (h : Agrees chains owned live) (hfresh : ∀ owner, ¬ owned owner token)
    (howned : ∀ o t, owned' o t ↔ owned o t ∨ o = owner ∧ t = token) (hlive : ∀ t, live' t ↔ live t ∨ t = token) :
    Agrees (⟨owner, [token], true⟩ :: chains) owned' live' where
  grouped o t := by
    simp only [howned, h.grouped, List.exists_mem_cons_iff, List.mem_singleton]
    rw [or_comm, and_comm]
    simp only [eq_comm]
  unique c hc c' hc' t ht ht' := by
    rcases List.mem_cons.mp hc with rfl | hold
    · rcases List.mem_cons.mp hc' with rfl | hold'
      · rfl
      · obtain rfl := List.mem_singleton.mp ht
        exact absurd ht' (h.not_mem hfresh hold')
    · rcases List.mem_cons.mp hc' with rfl | hold'
      · obtain rfl := List.mem_singleton.mp ht'
        exact absurd ht (h.not_mem hfresh hold)
      · exact h.unique c hold c' hold' t ht ht'
  current c hc t ht := by
    rw [hlive]
    rcases List.mem_cons.mp hc with rfl | hold
    · obtain rfl := List.mem_singleton.mp ht
      exact iff_of_true (Or.inr rfl) rfl
    · have hne : t ≠ token := by
        intro heq
        subst heq
        exact h.not_mem hfresh hold ht
      rw [h.current c hold t ht]
      simp [hne]

section Token

variable [DecidableEq Token]

/-- A new token at the head of the chain of the presented one. -/
def Chain.extend (presented token : Token) (chain : Chain Owner Token) : Chain Owner Token :=
  if presented ∈ chain.tokens then { chain with tokens := token :: chain.tokens, alive := true } else chain

/-- The chain after one of its tokens was closed: only closing the newest one matters. -/
def Chain.close (token : Token) (chain : Chain Owner Token) : Chain Owner Token :=
  if chain.tokens.head? = some token then { chain with alive := false } else chain

/-- A chain keeps its owner when it is extended. -/
@[simp] theorem owner_extend : (chain.extend presented token).owner = chain.owner := by
  rw [Chain.extend]
  split <;> rfl

/-- A chain keeps its owner when it is closed. -/
@[simp] theorem close_owner : (chain.close token).owner = chain.owner := by
  rw [Chain.close]
  split <;> rfl

/-- A chain keeps its tokens when it is closed. -/
@[simp] theorem close_tokens : (chain.close token).tokens = chain.tokens := by
  rw [Chain.close]
  split <;> rfl

/-- The tokens of an extended chain. -/
theorem mem_extend {t : Token} : t ∈ (chain.extend presented token).tokens ↔
    t ∈ chain.tokens ∨ t = token ∧ presented ∈ chain.tokens := by
  rw [Chain.extend]
  split
  · rename_i hpresented
    simp [hpresented, or_comm]
  · rename_i hpresented
    simp [hpresented]

/-- Closing a token leaves the other current tokens. -/
theorem current_close {t : Token} :
    (chain.close token).current? = some t ↔ chain.current? = some t ∧ t ≠ token := by
  simp only [Chain.close, Chain.current?]
  split
  · rename_i hhead
    split
    · rename_i hopen
      cases hopen
    · simp only [reduceCtorEq, false_iff, not_and, ne_eq, not_not]
      intro hcurrent
      split at hcurrent
      · exact Option.some.inj (hcurrent.symm.trans hhead)
      · cases hcurrent
  · rename_i hhead
    split
    · rw [iff_self_and]
      intro hcurrent heq
      subst heq
      exact hhead hcurrent
    · simp

/-- A token replaces the live one it was given for. -/
theorem Agrees.extend (h : Agrees chains owned live) (hpresented : owned owner presented)
    (hcurrent : live presented) (hfresh : ∀ owner, ¬ owned owner token)
    (howned : ∀ o t, owned' o t ↔ owned o t ∨ o = owner ∧ t = token)
    (hlive : ∀ t, live' t ↔ live t ∧ t ≠ presented ∨ t = token) :
    Agrees (chains.map (Chain.extend presented token)) owned' live' where
  grouped o t := by
    obtain ⟨chain, hchain, hmem, rfl⟩ := (h.grouped owner presented).mp hpresented
    simp only [howned, h.grouped, List.mem_map, exists_exists_and_eq_and, mem_extend, owner_extend]
    constructor
    · rintro (⟨c, hc, ht, rfl⟩ | ⟨rfl, rfl⟩)
      · exact ⟨c, hc, Or.inl ht, rfl⟩
      · exact ⟨chain, hchain, Or.inr ⟨rfl, hmem⟩, rfl⟩
    · rintro ⟨c, hc, ht | ⟨rfl, hin⟩, rfl⟩
      · exact Or.inl ⟨c, hc, ht, rfl⟩
      · rw [h.unique c hc chain hchain presented hin hmem]
        exact Or.inr ⟨rfl, rfl⟩
  unique c hc c' hc' t ht ht' := by
    obtain ⟨c, hold, rfl⟩ := List.mem_map.mp hc
    obtain ⟨c', hold', rfl⟩ := List.mem_map.mp hc'
    rcases mem_extend.mp ht with hmem | ⟨rfl, hin⟩
    · rcases mem_extend.mp ht' with hmem' | ⟨rfl, -⟩
      · rw [h.unique c hold c' hold' t hmem hmem']
      · exact absurd hmem (h.not_mem hfresh hold)
    · rcases mem_extend.mp ht' with hmem' | ⟨-, hin'⟩
      · exact absurd hmem' (h.not_mem hfresh hold')
      · rw [h.unique c hold c' hold' presented hin hin']
  current c hc t ht := by
    obtain ⟨c, hold, rfl⟩ := List.mem_map.mp hc
    rw [hlive]
    by_cases hin : presented ∈ c.tokens
    · have hpresentedCurrent := (h.current c hold presented hin).mp hcurrent
      have hafter : (c.extend presented token).current? = some token := by
        rw [Chain.extend, if_pos hin]
        rfl
      rw [hafter]
      constructor
      · rintro (⟨halive, hne⟩ | rfl)
        · rcases mem_extend.mp ht with hmem | ⟨rfl, -⟩
          · have hcurrent' := (h.current c hold t hmem).mp halive
            exact absurd (Option.some.inj (hcurrent'.symm.trans hpresentedCurrent)) hne
          · rfl
        · rfl
      · intro heq
        exact Or.inr (Option.some.inj heq).symm
    · have hmem : t ∈ c.tokens := by
        rcases mem_extend.mp ht with hmem | ⟨-, hin'⟩
        · exact hmem
        · exact absurd hin' hin
      have hne : t ≠ token := by
        intro heq
        subst heq
        exact h.not_mem hfresh hold hmem
      have hne' : t ≠ presented := by
        intro heq
        subst heq
        exact hin hmem
      rw [Chain.extend, if_neg hin, ← h.current c hold t hmem]
      simp [hne, hne']

/-- A token is closed. -/
theorem Agrees.close (h : Agrees chains owned live) (howned : ∀ o t, owned' o t ↔ owned o t)
    (hlive : ∀ t, live' t ↔ live t ∧ t ≠ token) : Agrees (chains.map (Chain.close token)) owned' live' where
  grouped o t := by
    simp only [howned, h.grouped, List.mem_map, exists_exists_and_eq_and, close_tokens, close_owner]
  unique c hc c' hc' t ht ht' := by
    obtain ⟨c, hold, rfl⟩ := List.mem_map.mp hc
    obtain ⟨c', hold', rfl⟩ := List.mem_map.mp hc'
    rw [close_tokens] at ht ht'
    rw [h.unique c hold c' hold' t ht ht']
  current c hc t ht := by
    obtain ⟨c, hold, rfl⟩ := List.mem_map.mp hc
    rw [close_tokens] at ht
    rw [hlive, current_close, h.current c hold t ht]

end Token

section Owner

variable [DecidableEq Owner]

/-- The chain after all chains of an owner were ended. -/
def Chain.endAll (owner : Owner) (chain : Chain Owner Token) : Chain Owner Token :=
  if chain.owner = owner then { chain with alive := false } else chain

/-- A chain keeps its owner when the sessions of a user end. -/
@[simp] theorem endAll_owner : (chain.endAll owner).owner = chain.owner := by
  rw [Chain.endAll]
  split <;> rfl

/-- A chain keeps its tokens when the sessions of a user end. -/
@[simp] theorem endAll_tokens : (chain.endAll owner).tokens = chain.tokens := by
  rw [Chain.endAll]
  split <;> rfl

/-- Ending the chains of an owner leaves the current tokens of the others. -/
theorem current_endAll {t : Token} :
    (chain.endAll owner).current? = some t ↔ chain.current? = some t ∧ chain.owner ≠ owner := by
  simp only [Chain.endAll, Chain.current?]
  split
  · rename_i howner
    simp [howner]
  · rename_i howner
    simp [howner]

/-- All chains of an owner are ended. -/
theorem Agrees.endAll (h : Agrees chains owned live) (howned : ∀ o t, owned' o t ↔ owned o t)
    (hlive : ∀ t, live' t ↔ live t ∧ ¬ owned owner t) : Agrees (chains.map (Chain.endAll owner)) owned' live' where
  grouped o t := by
    simp only [howned, h.grouped, List.mem_map, exists_exists_and_eq_and, endAll_tokens, endAll_owner]
  unique c hc c' hc' t ht ht' := by
    obtain ⟨c, hold, rfl⟩ := List.mem_map.mp hc
    obtain ⟨c', hold', rfl⟩ := List.mem_map.mp hc'
    rw [endAll_tokens] at ht ht'
    rw [h.unique c hold c' hold' t ht ht']
  current c hc t ht := by
    obtain ⟨c, hold, rfl⟩ := List.mem_map.mp hc
    rw [endAll_tokens] at ht
    have howner : owned owner t ↔ c.owner = owner := by
      rw [h.grouped]
      constructor
      · rintro ⟨c', hc', ht', rfl⟩
        rw [h.unique c hold c' hc' t ht ht']
      · intro heq
        exact ⟨c, hold, ht, heq⟩
    rw [hlive, current_endAll, h.current c hold t ht, howner]

end Owner

variable [DecidableEq Owner] [DecidableEq Token]

/-- The chains after an event. -/
def Event.apply (chains : List (Chain Owner Token)) : Event Owner Token → List (Chain Owner Token)
  | .start owner token => ⟨owner, [token], true⟩ :: chains
  | .extend presented token => chains.map (Chain.extend presented token)
  | .close token => chains.map (Chain.close token)
  | .endAll owner => chains.map (Chain.endAll owner)
  | .pass => chains

/-- The chains of a history. -/
def replay : List (Event Owner Token) → List (Chain Owner Token)
  | [] => []
  | e :: past => e.apply (replay past)

end Chains
