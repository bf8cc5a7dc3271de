import Mathlib.Data.List.Nodup

/-!
# Tickets that can be redeemed once

Owners are issued tickets; a new ticket replaces the open one of its owner, and redeeming
a ticket closes it. The history of an office is the list of these events, most recent
first. In an orderly history, where no ticket is issued twice and only open tickets are
redeemed, the open ticket of an owner is the one issued last, if it was not redeemed.
-/

namespace Tickets

variable {Owner Ticket : Type}

/-- What happens at an office. -/
inductive Event (Owner Ticket : Type) where
  | issue (owner : Owner) (ticket : Ticket)
  | redeem (ticket : Ticket)
  | pass
deriving DecidableEq

/-- The tickets that were issued, each with its owner. -/
def issues : List (Event Owner Ticket) → List (Owner × Ticket)
  | [] => []
  | .issue owner ticket :: past => (owner, ticket) :: issues past
  | .redeem _ :: past | .pass :: past => issues past

/-- The tickets that were redeemed. -/
def redeemed : List (Event Owner Ticket) → List Ticket
  | [] => []
  | .redeem ticket :: past => ticket :: redeemed past
  | .issue _ _ :: past | .pass :: past => redeemed past

section Decidable

variable [DecidableEq Owner]

/-- The ticket that was issued last to an owner. -/
def latest? (owner : Owner) : List (Event Owner Ticket) → Option Ticket
  | [] => none
  | .issue o ticket :: past => if o = owner then some ticket else latest? owner past
  | .redeem _ :: past | .pass :: past => latest? owner past

variable {past : List (Event Owner Ticket)} {owner owner' : Owner} {ticket : Ticket}

/-- The ticket issued last was issued. -/
theorem mem_issues_of_latest (h : latest? owner past = some ticket) : (owner, ticket) ∈ issues past := by
  induction past with
  | nil => cases h
  | cons e past ih =>
    cases e with
    | issue o t =>
      rw [latest?] at h
      split at h
      · rename_i hown
        rw [hown, Option.some.inj h]
        exact List.mem_cons_self
      · exact List.mem_cons_of_mem _ (ih h)
    | redeem t => exact ih h
    | pass => exact ih h

variable [DecidableEq Ticket]

/-- The open ticket of an owner. -/
def open? (owner : Owner) : List (Event Owner Ticket) → Option Ticket
  | [] => none
  | .issue o ticket :: past => if o = owner then some ticket else open? owner past
  | .redeem ticket :: past => if open? owner past = some ticket then none else open? owner past
  | .pass :: past => open? owner past

/-- No ticket is issued twice, and only open tickets are redeemed. -/
def Orderly : List (Event Owner Ticket) → Prop
  | [] => True
  | .issue _ ticket :: past => ticket ∉ (issues past).map Prod.snd ∧ Orderly past
  | .redeem ticket :: past => (∃ owner, open? owner past = some ticket) ∧ Orderly past
  | .pass :: past => Orderly past

/-- An open ticket is the one issued last. -/
theorem latest_of_open (h : open? owner past = some ticket) : latest? owner past = some ticket := by
  induction past with
  | nil => cases h
  | cons e past ih =>
    cases e with
    | issue o t =>
      rw [open?] at h
      rw [latest?]
      split at h
      · rename_i hown
        rw [if_pos hown, h]
      · rename_i hown
        rw [if_neg hown]
        exact ih h
    | redeem t =>
      rw [open?] at h
      split at h
      · cases h
      · exact ih h
    | pass => exact ih h

/-- Only issued tickets are redeemed. -/
theorem issued_of_redeemed (horderly : Orderly past) (h : ticket ∈ redeemed past) :
    ticket ∈ (issues past).map Prod.snd := by
  induction past with
  | nil => cases h
  | cons e past ih =>
    cases e with
    | issue o t => exact List.mem_cons_of_mem _ (ih horderly.2 h)
    | redeem t =>
      rcases List.mem_cons.mp h with heq | hold
      · obtain ⟨o, hopen⟩ := horderly.1
        rw [heq]
        exact List.mem_map_of_mem (mem_issues_of_latest (latest_of_open hopen))
      · exact ih horderly.2 hold
    | pass => exact ih horderly h

/-- A redeemed ticket is not open. -/
theorem not_redeemed_of_open (horderly : Orderly past) (h : open? owner past = some ticket) :
    ticket ∉ redeemed past := by
  induction past with
  | nil => cases h
  | cons e past ih =>
    cases e with
    | issue o t =>
      rw [open?] at h
      split at h
      · obtain rfl := Option.some.inj h
        intro hredeemed
        exact horderly.1 (issued_of_redeemed horderly.2 hredeemed)
      · exact ih horderly.2 h
    | redeem t =>
      rw [open?] at h
      split at h
      · cases h
      · rename_i hother
        intro hredeemed
        rcases List.mem_cons.mp hredeemed with heq | hold
        · rw [heq] at h
          exact hother h
        · exact ih horderly.2 h hold
    | pass => exact ih horderly h

/-- The ticket issued last is open until it is redeemed. -/
theorem open_of_latest (h : latest? owner past = some ticket) (hredeemed : ticket ∉ redeemed past) :
    open? owner past = some ticket := by
  induction past with
  | nil => cases h
  | cons e past ih =>
    cases e with
    | issue o t =>
      rw [latest?] at h
      rw [open?]
      split at h
      · rename_i hown
        rw [if_pos hown, h]
      · rename_i hown
        rw [if_neg hown]
        exact ih h hredeemed
    | redeem t =>
      have hopen := ih h fun hold => hredeemed (List.mem_cons_of_mem _ hold)
      have hne : t ≠ ticket := fun heq => hredeemed (heq ▸ List.mem_cons_self)
      rw [open?, if_neg]
      · exact hopen
      · rw [hopen]
        intro heq
        exact hne (Option.some.inj heq).symm
    | pass => exact ih h hredeemed

/-- The open ticket of an owner is the one issued last, if it was not redeemed. -/
theorem open_iff (horderly : Orderly past) :
    open? owner past = some ticket ↔ latest? owner past = some ticket ∧ ticket ∉ redeemed past := by
  constructor
  · intro h
    exact ⟨latest_of_open h, not_redeemed_of_open horderly h⟩
  · intro h
    exact open_of_latest h.1 h.2

end Decidable

end Tickets
