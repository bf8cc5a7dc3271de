import RustPressAuth.CallProtocol
import RustPressAuth.Effects
import RustPressAuth.Reference

/-!
# One live token for each user

A call that issues a one-time token first marks the unused tokens of the user used and
then, in a second statement, stores the new one; no unique index stands behind the two.
Two calls that both clear the table before either stores its token leave two live
tokens. A user has at most one in every run in which nothing is stored for the user
between the two statements of such a call.
-/

namespace RustPressAuth

open Atomic Program Machine Relational

/-- No user has two unused tokens. -/
def OneLive (table : OneTimeTokens) : Prop :=
  ∀ t ∈ table, ∀ t' ∈ table, t.usedAt = none → t'.usedAt = none → t.userId = t'.userId → t = t'

/-- The user has no unused token. -/
def NoneLive (userId : Uuid) (table : OneTimeTokens) : Prop :=
  ∀ t ∈ table, t.userId = userId → t.usedAt.isSome = true

/-- The table and the user whose unused tokens were marked used. -/
def clearedFor? : Entry → Option (Purpose × Uuid)
  | ⟨.sql (.invalidateTokens purpose userId), .ok _⟩ => some (purpose, userId)
  | _ => none

/-- The table and the user a token was stored for. -/
def storedFor? : Entry → Option (Purpose × Uuid)
  | ⟨.sql (.insertOneTimeToken purpose userId _ _), .ok _⟩ => some (purpose, userId)
  | _ => none

/-- A token was stored under the key after call `i` last cleared it. -/
def storedSince (i : ℕ) (key : Purpose × Uuid) : List LogEvent → Bool
  | [] => false
  | e :: older =>
    if e.caller = i ∧ clearedFor? e.entry = some key then false
    else decide (storedFor? e.entry = some key) || storedSince i key older

/-- An event with which the call clears nothing stored nothing under a key under which nothing is stored
since, and nothing was stored before it. -/
theorem storedSince_cons {i : ℕ} {key : Purpose × Uuid} {e : LogEvent} {older : List LogEvent}
    (hclears : ¬ (e.caller = i ∧ clearedFor? e.entry = some key)) (h : storedSince i key (e :: older) = false) :
    storedFor? e.entry ≠ some key ∧ storedSince i key older = false := by
  rw [storedSince, if_neg hclears, Bool.or_eq_false_iff] at h
  exact ⟨of_decide_eq_false h.1, h.2⟩

/-- When a call stores a token, no token was stored for the user since the call cleared the earlier ones. -/
def issuesApart : Rule ℕ Action Action.Reply Failure Response World :=
  .ofEvent fun c e => ∀ key ∈ storedFor? e.entry, storedSince e.caller key c.log = false

/-- The row a statement adds to a table of one-time tokens, if any. -/
def Statement.newToken? (fresh : Uuid) (now : Instant) (purpose : Purpose) : Statement → Option OneTimeToken
  | .insertOneTimeToken p userId tokenHash expiresAt =>
    if p = purpose then some (newOneTimeToken fresh now userId ((varchar 255 tokenHash).getD tokenHash) expiresAt)
    else none
  | _ => none

section Rows

variable {fresh userId : Uuid} {now : Instant} {db db' : Db} {purpose : Purpose} {t : OneTimeToken}

/-- A row after tokens were marked used was there before. -/
theorem later_of_mem_markUsed {p : Purpose} {f : OneTimeToken → Bool}
    (ht : t ∈ (db.markUsed p f now).oneTimeTokens purpose) :
    ∃ q ∈ db.oneTimeTokens purpose, q.Later t := by
  by_cases hp : purpose = p
  · subst hp
    obtain ⟨q, hq, rfl⟩ := Db.mem_markUsed.mp ht
    refine ⟨q, hq, ?_⟩
    split
    · exact Db.later_usedRow now q
    · exact OneTimeToken.Later.refl q
  · simp only [Db.markUsed, Function.update_of_ne hp] at ht
    exact ⟨t, ht, OneTimeToken.Later.refl t⟩

/-- A row of a token table was there before, or the statement added it. -/
theorem Statement.run_oneTimeTokens {s : Statement} {v : s.Row} (h : s.run fresh now db = .ok (v, db'))
    (ht : t ∈ db'.oneTimeTokens purpose) :
    (∃ q ∈ db.oneTimeTokens purpose, q.Later t) ∨ s.newToken? fresh now purpose = some t := by
  by_cases hwrites : s.writesOneTimeTokens = true
  · cases s with
    | invalidateTokens p u => cases h; exact Or.inl (later_of_mem_markUsed ht)
    | markTokenUsed p id => cases h; exact Or.inl (later_of_mem_markUsed ht)
    | insertOneTimeToken p u tokenHash expiresAt =>
      simp only [Statement.run, except_bind_eq_ok, orError_eq_ok] at h
      obtain ⟨hash, hhash, db₁, hinsert, heq⟩ := h
      cases heq
      obtain ⟨-, -, htable, hothers⟩ := Db.insertOneTimeToken?_spec hinsert
      by_cases hp : p = purpose
      · subst hp
        rcases (Table.mem_insert? htable).mp ht with hold | rfl
        · exact Or.inl ⟨t, hold, OneTimeToken.Later.refl t⟩
        · exact Or.inr (by simp [newToken?, hhash])
      · rw [hothers purpose (Ne.symm hp)] at ht
        exact Or.inl ⟨t, ht, OneTimeToken.Later.refl t⟩
    | _ => cases hwrites
  · rw [(Statement.run_frame h).2 (Bool.eq_false_iff.mpr hwrites)] at ht
    exact Or.inl ⟨t, ht, OneTimeToken.Later.refl t⟩

/-- What is unused now was unused before. -/
theorem OneTimeToken.Later.unused {t t' : OneTimeToken} (h : t.Later t') (hunused : t'.usedAt = none) :
    t.usedAt = none := by
  cases hused : t.usedAt with
  | none => rfl
  | some at' =>
    have hlater := h.used (by rw [hused]; rfl)
    rw [hunused] at hlater
    cases hlater

/-- Tokens are cleared for as long as none is stored. -/
theorem NoneLive.run {s : Statement} {v : s.Row} (hnone : NoneLive userId (db.oneTimeTokens purpose))
    (h : s.run fresh now db = .ok (v, db'))
    (hnew : ∀ new, s.newToken? fresh now purpose = some new → new.userId ≠ userId) :
    NoneLive userId (db'.oneTimeTokens purpose) := by
  intro t ht huser
  rcases Statement.run_oneTimeTokens h ht with ⟨q, hq, hlater⟩ | hadded
  · exact hlater.used (hnone q hq (hlater.userId.symm.trans huser))
  · exact absurd huser (hnew t hadded)

/-- Where a token is stored for a user without live ones, no user has two. -/
theorem OneLive.run {s : Statement} {v : s.Row} (hone : OneLive (db.oneTimeTokens purpose))
    (h : s.run fresh now db = .ok (v, db'))
    (hnew : ∀ new, s.newToken? fresh now purpose = some new → NoneLive new.userId (db.oneTimeTokens purpose)) :
    OneLive (db'.oneTimeTokens purpose) := by
  have hold (t new : OneTimeToken) (hq : ∃ q ∈ db.oneTimeTokens purpose, q.Later t) (hunused : t.usedAt = none)
      (hadded : s.newToken? fresh now purpose = some new) (huser : t.userId = new.userId) : False := by
    obtain ⟨q, hq, hlater⟩ := hq
    have hused := hnew new hadded q hq (hlater.userId.symm.trans huser)
    rw [hlater.unused hunused] at hused
    cases hused
  intro t ht t' ht' hunused hunused' huser
  rcases Statement.run_oneTimeTokens h ht with hq | hadded
  · rcases Statement.run_oneTimeTokens h ht' with hq' | hadded'
    · obtain ⟨q, hq, hlater⟩ := hq
      obtain ⟨q', hq', hlater'⟩ := hq'
      have hsame : q = q' := hone q hq q' hq' (hlater.unused hunused) (hlater'.unused hunused')
        (hlater.userId.symm.trans (huser.trans hlater'.userId))
      exact Table.eq_of_pk ht ht' (hlater.id.trans ((congrArg OneTimeToken.id hsame).trans hlater'.id.symm))
    · exact (hold t t' hq hunused hadded' huser).elim
  · rcases Statement.run_oneTimeTokens h ht' with hq' | hadded'
    · exact (hold t' t hq' hunused' hadded huser.symm).elim
    · exact Option.some.inj (hadded.symm.trans hadded')

/-- After the unused tokens of a user were marked used there are none. -/
theorem noneLive_invalidateTokens {v : ℕ}
    (h : (Statement.invalidateTokens purpose userId).run fresh now db = .ok (v, db')) :
    NoneLive userId (db'.oneTimeTokens purpose) := by
  obtain rfl : db.markUsed purpose (fun t => t.userId = userId ∧ t.usedAt = none) now = db' :=
    (Prod.mk.inj (Except.ok.inj h)).2
  intro t ht huser
  obtain ⟨q, hq, rfl⟩ := Db.mem_markUsed.mp ht
  split
  · rfl
  · rename_i hkept
    rw [if_neg hkept] at huser
    cases hused : q.usedAt with
    | none => exact absurd (decide_eq_true ⟨huser, hused⟩) hkept
    | some at' => rfl

/-- A statement that makes a new token stores it for its user. -/
theorem storedFor?_of_newToken? {s : Statement} {v : s.Row} {new : OneTimeToken}
    (h : s.newToken? fresh now purpose = some new) : storedFor? (executed s v) = some (purpose, new.userId) := by
  unfold Statement.newToken? at h
  split at h
  · split at h
    · rename_i hp
      obtain rfl := Option.some.inj h
      subst hp
      rfl
    · cases h
  · cases h

end Rows

section Run

variable {svc : AuthService} {req : ℕ → Request} {w : World} {d : System}

/-- What a run under the rule keeps: no user has two live tokens, and a call that cleared the tokens
of a user finds none, as long as none was stored since. -/
structure Cleared (c : System) : Prop where
  one : ∀ purpose, OneLive (c.shared.db.oneTimeTokens purpose)
  none : ∀ i key, (ownHistory i c.log).any (fun x => clearedFor? x = some key) = true →
    storedSince i key c.log = false → NoneLive key.2 (c.shared.db.oneTimeTokens key.1)

/-- A call that is about to store a token has cleared the earlier ones of its user. -/
theorem cleared_of_guard {request : Request} {h : Trace} {purpose : Purpose} {userId : Uuid} {tokenHash : String}
    {expiresAt : Instant}
    (hguard : StatementGuard svc request h (.insertOneTimeToken purpose userId tokenHash expiresAt)) :
    h.any (fun x => clearedFor? x = some (purpose, userId)) = true := by
  obtain ⟨bytes, now, ⟨h', n, -, rfl⟩, -⟩ := hguard
  simp [clearedFor?]

/-- An action that stores no token under a key leaves a cleared key cleared. -/
theorem NoneLive.perform {a : Action} {r : a.Reply} {v v' : World} {key : Purpose × Uuid}
    (hnone : NoneLive key.2 (v.db.oneTimeTokens key.1)) (hperform : svc.machine.perform a v r v')
    (hstored : storedFor? ⟨a, r⟩ ≠ some key) : NoneLive key.2 (v'.db.oneTimeTokens key.1) := by
  cases a with
  | sql s =>
    rcases AuthService.perform_sql hperform with ⟨e, -, rfl⟩ | ⟨rows, fresh, db, rfl, hrun, rfl⟩
    · exact hnone
    · apply hnone.run hrun
      intro new hnew huser
      apply hstored
      rw [storedFor?_of_newToken? hnew, huser]
  | _ => exact AuthService.perform_local hperform (by simp) ▸ hnone

/-- An action under the rule keeps that no user has two live tokens. -/
theorem Cleared.one_perform {c : System} {i : ℕ} {a : Action} {r : a.Reply} {v' : World} (hc : Cleared c)
    (hguard : ActionGuard svc (req i) (ownHistory i c.log) a) (hperform : svc.machine.perform a c.shared r v')
    (hrule : ∀ key ∈ storedFor? ⟨a, r⟩, storedSince i key c.log = false) (purpose : Purpose) :
    OneLive (v'.db.oneTimeTokens purpose) := by
  cases a with
  | sql s =>
    rcases AuthService.perform_sql hperform with ⟨e, -, rfl⟩ | ⟨rows, fresh, db, rfl, hrun, rfl⟩
    · exact hc.one purpose
    · apply (hc.one purpose).run hrun
      intro new hnew
      have hstored := storedFor?_of_newToken? (v := rows) hnew
      have hcleared : (ownHistory i c.log).any (fun x => clearedFor? x = some (purpose, new.userId)) = true := by
        cases s with
        | insertOneTimeToken p userId tokenHash expiresAt =>
          obtain ⟨rfl, rfl⟩ := Prod.mk.inj (Option.some.inj hstored)
          exact cleared_of_guard hguard
        | _ => cases hstored
      exact hc.none i (purpose, new.userId) hcleared (hrule _ hstored)
  | _ => exact AuthService.perform_local hperform (by simp) ▸ hc.one purpose

/-- After an action under the rule, what was cleared and not stored since is still cleared. -/
theorem Cleared.none_perform {c : System} {j : ℕ} {a : Action} {r : a.Reply} {v' : World} (hc : Cleared c)
    (hperform : svc.machine.perform a c.shared r v') {i : ℕ} {key : Purpose × Uuid}
    (hcleared : (ownHistory i (⟨j, c.shared, a, r⟩ :: c.log)).any (fun x => clearedFor? x = some key) = true)
    (hsince : storedSince i key (⟨j, c.shared, a, r⟩ :: c.log) = false) :
    NoneLive key.2 (v'.db.oneTimeTokens key.1) := by
  by_cases hclears : j = i ∧ clearedFor? ⟨a, r⟩ = some key
  · obtain ⟨-, hentry⟩ := hclears
    unfold clearedFor? at hentry
    split at hentry
    · rename_i purpose userId n heq
      cases heq
      obtain rfl := Option.some.inj hentry
      obtain ⟨fresh, db, hrun, rfl⟩ := AuthService.perform_ok hperform
      exact noneLive_invalidateTokens hrun
    · cases hentry
  · obtain ⟨hstored, hsince⟩ := storedSince_cons hclears hsince
    have hown : (ownHistory i c.log).any (fun x => clearedFor? x = some key) = true := by
      rw [ownHistory_cons] at hcleared
      by_cases hji : j = i
      · have hother : ¬ clearedFor? ⟨a, r⟩ = some key := fun h => hclears ⟨hji, h⟩
        simpa [hji, hother] using hcleared
      · simpa [hji] using hcleared
    exact (hc.none i key hown hsince).perform hperform hstored

/-- Every run under the rule keeps both. -/
theorem cleared_of_run (hone : ∀ purpose, OneLive (w.db.oneTimeTokens purpose))
    (hrun : svc.machine.Reaches issuesApart.Keeps (svc.start w req) d) : Cleared d := by
  have hind : Machine.Inductive svc.machine issuesApart.Keeps (fun i => svc.protocol (req i)) Cleared := by
    constructor
    · intro c i a next r s hc _ hguard _ hperform hkeeps
      have hrule : ∀ key ∈ storedFor? ⟨a, r⟩, storedSince i key c.log = false :=
        hkeeps.event ⟨i, c.shared, a, r⟩ rfl
      exact ⟨hc.one_perform hguard hperform hrule, fun j key => hc.none_perform hperform⟩
    · intro c s hc hidle _
      obtain ⟨m, rfl⟩ := hidle
      cases m with
      | tick elapsed => exact ⟨hc.one, hc.none⟩
      | setStatus id status => exact ⟨hc.one, hc.none⟩
  apply hrun.invariant hind start_obeys
  exact ⟨hone, fun i key hcleared => absurd hcleared (by simp [AuthService.start, Config.start])⟩

end Run

/-- In every run in which no token is stored for a user between the two statements of a call that
issues one, no user ever has two live tokens, in either table. -/
theorem one_live_token (svc : AuthService) (w : World) (hone : ∀ purpose, OneLive (w.db.oneTimeTokens purpose))
    (req : ℕ → Request) (d : System) (hrun : svc.machine.Reaches issuesApart.Keeps (svc.start w req) d) :
    ∀ purpose, OneLive (d.shared.db.oneTimeTokens purpose) :=
  (cleared_of_run hone hrun).one

section Runs

open Reference

instance (c : System) (e : LogEvent) : Decidable (issuesApart.event c e) :=
  inferInstanceAs (Decidable (∀ key ∈ storedFor? e.entry, _))

instance (table : OneTimeTokens) : Decidable (OneLive table) :=
  inferInstanceAs (Decidable (∀ t ∈ table.rows, ∀ t' ∈ table.rows, _))

/-- A user registers, and asks twice for a reset token and twice for a verification token. -/
def issueRequests : ℕ → Request
  | 0 => .register ⟨"a@b.c", "Abcdefg1", "Abcdefg1", "A"⟩
  | 1 => .forgotPassword "a@b.c"
  | 2 => .forgotPassword "a@b.c"
  | 3 => .createEmailVerification 1
  | _ => .createEmailVerification 1

/-- The calls one after the other. -/
def issuesInOrder : List (Machine.Move ℕ Choice EnvMove) :=
  moves 0 3 1 ++ moves 1 5 2 ++ moves 2 5 3 ++ moves 3 4 4 ++ moves 4 4 5

/-- Both calls clear the table before either of them stores its token. -/
def issuesRacing : List (Machine.Move ℕ Choice EnvMove) :=
  moves 0 3 1 ++ moves 1 4 2 ++ moves 2 4 3 ++ moves 1 1 2 ++ moves 2 1 3 ++
    moves 3 3 4 ++ moves 4 3 5 ++ moves 3 1 4 ++ moves 4 1 5

/-- Tokens are issued one call after the other, and each user has one. -/
theorem one_live_token_in_order :
    OneLive ((service.executor.play issuesInOrder (service.start world issueRequests)).shared.db.oneTimeTokens
        .passwordReset) ∧
      OneLive ((service.executor.play issuesInOrder (service.start world issueRequests)).shared.db.oneTimeTokens
        .emailVerification) := by
  have hone (purpose : Purpose) : OneLive (world.db.oneTimeTokens purpose) :=
    fun t ht => absurd ht (Table.not_mem_empty t)
  have hallows : service.executor.Allows issuesApart (fun _ => True) issuesInOrder
    (service.start world issueRequests) := by
    decide +kernel
  have hlive := one_live_token service world hone issueRequests _ (hallows.reaches fun _ _ _ => trivial)
  exact ⟨hlive .passwordReset, hlive .emailVerification⟩

/-- Two calls that race leave two live tokens of the user, in either table. -/
theorem two_live_tokens : ∃ d, service.machine.Reaches (fun _ _ => True) (service.start world issueRequests) d ∧
    ∀ purpose, ¬ OneLive (d.shared.db.oneTimeTokens purpose) := by
  refine ⟨_, service.executor.play_reaches issuesRacing _, fun purpose => ?_⟩
  cases purpose with
  | passwordReset => decide +kernel
  | emailVerification => decide +kernel

end Runs

end RustPressAuth
