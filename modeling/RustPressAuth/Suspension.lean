import RustPressAuth.Reference
import RustPressAuth.UserRows

/-!
# Suspended and deleted users

No operation but one changes the status of an existing user: verifying an email sets it
to active, whatever it was before. A suspended or deleted user with an outstanding
verification token can lift the suspension alone and then log in. In every run in which
no such verification is executed, the status stays and no access token is issued.
-/

namespace RustPressAuth

open Atomic Program Relational

/-- The user exists and has this status. -/
def HasStatus (u : Uuid) (status : UserStatus) (db : Db) : Prop :=
  ∃ row ∈ db.users, row.id = u ∧ row.status = status

/-- An access token for `u` was signed. -/
def IssuesAccess (u : Uuid) (x : Entry) : Prop :=
  ∃ claims : AccessTokenClaims, claims.sub = u ∧ ∃ jwt, x = did (.sign claims.toPayload) jwt

/-- The user keeps the status, and no access token was issued to the user. -/
structure StaysBarred (u : Uuid) (status : UserStatus) (d : System) : Prop where
  kept : HasStatus u status d.shared.db
  tokenless : ∀ e ∈ d.log, ¬ IssuesAccess u e.entry

/-- The email of `u` was set to verified. -/
def verifiesEmail (u : Uuid) : Entry → Bool
  | ⟨.sql (.verifyUserEmail id), .ok _⟩ => id == u
  | _ => false

/-- The email of `u` is not set to verified while `u` is suspended or deleted, and only operations
of the service touch the row of `u`. -/
def noBarredVerification (u : Uuid) : Rule ℕ Action Action.Reply Failure Response World where
  event c e := verifiesEmail u e.entry = true →
    ∀ row ∈ c.shared.db.users.rows, row.id = u → row.status ≠ .suspended ∧ row.status ≠ .deleted
  idle w w' := ∀ row ∈ w.db.users, row.id = u → row ∈ w'.db.users

section Run

variable {svc : AuthService} {u : Uuid} {status : UserStatus} {w w' : World}

/-- A statement that does not verify the email of `u` keeps the status of `u`. -/
theorem HasStatus.run {fresh : Uuid} {now : Instant} {db db' : Db} {s : Statement} {v : s.Row}
    (h : HasStatus u status db) (hrun : s.run fresh now db = .ok (v, db')) (hs : s ≠ .verifyUserEmail u) :
    HasStatus u status db' := by
  obtain ⟨row, hrow, rfl, hstatus⟩ := h
  have hnew : s.onUser now row ∈ db'.users := (Statement.run_users hrun).mpr (Or.inl ⟨row, hrow, rfl⟩)
  exact ⟨s.onUser now row, hnew, s.onUser_id now row, (Statement.onUser_verification now hs).1.trans hstatus⟩

/-- An action that does not verify the email of `u` keeps the status of `u`. -/
theorem HasStatus.perform {a : Action} {r : a.Reply} (h : HasStatus u status w.db)
    (hperform : svc.machine.perform a w r w') (hverifies : verifiesEmail u ⟨a, r⟩ = false) :
    HasStatus u status w'.db := by
  cases a with
  | sql s =>
    rcases AuthService.perform_sql hperform with ⟨e, -, rfl⟩ | ⟨v, fresh, db, rfl, hrun, rfl⟩
    · exact h
    · apply h.run hrun
      intro heq
      subst heq
      simp [verifiesEmail] at hverifies
  | _ => exact AuthService.perform_local hperform (by simp) ▸ h

variable {req : ℕ → Request} {d : System}

/-- Under the rule, the status of a suspended or deleted user is kept along the run. -/
theorem HasStatus.reaches (hbarred : status = .suspended ∨ status = .deleted) (h : HasStatus u status w.db)
    (hrun : svc.machine.Reaches (noBarredVerification u).Keeps (svc.start w req) d) :
    HasStatus u status d.shared.db := by
  have hind : Machine.Inductive svc.machine (noBarredVerification u).Keeps (fun i => svc.protocol (req i))
      (fun c => HasStatus u status c.shared.db) := by
    constructor
    · intro c i a next r s hinv _ _ _ hperform hkeeps
      apply hinv.perform hperform
      by_contra hverifies
      obtain ⟨row, hrow, hid, hstatus⟩ := hinv
      have hfree := hkeeps.event _ rfl (by simpa using hverifies) row hrow hid
      rw [hstatus] at hfree
      rcases hbarred with rfl | rfl
      · exact hfree.1 rfl
      · exact hfree.2 rfl
    · intro c s hinv _ hkeeps
      obtain ⟨row, hrow, hid, hstatus⟩ := hinv
      exact ⟨row, hkeeps.idle rfl row hrow hid, hid, hstatus⟩
  exact hrun.invariant hind start_obeys h

/-- An access token is signed for a user the call read as active. -/
theorem read_of_issuesAccess {ok : System → System → Prop} (hrun : svc.machine.Reaches ok (svc.start w req) d)
    {e : LogEvent} {older : List LogEvent} (he : (e :: older) <:+ d.log) (hissues : IssuesAccess u e.entry) :
    ∃ user f older', (f :: older') <:+ older ∧ readUser? f.entry = some user ∧ user.id = u ∧
      user.status = .active := by
  obtain ⟨claims, hsub, jwt, hentry⟩ := hissues
  have hguard := guard_of_run hrun he
  obtain ⟨i, s, a, r⟩ := e
  cases hentry
  rcases hguard with ⟨claims', ⟨user, now, jti, h', hauth, rfl, htrace⟩, hpayload⟩ | ⟨user, _, _, _, _, -, hpayload⟩
  · obtain ⟨⟨x, h'', hx, hread⟩, hactive, -⟩ := hauth.read
    have hsuffix : (x :: h'') <:+ ownHistory i older := by
      rw [htrace]
      exact hx.trans ⟨[_, _], rfl⟩
    obtain ⟨f, older', hf, -, hfentry, -⟩ := exists_event_of_suffix hsuffix
    have hid : claims.sub = user.id := Option.some.inj (congrArg Payload.sub hpayload)
    exact ⟨user, f, older', hf, hfentry ▸ hread, hid.symm.trans hsub, hactive⟩
  · have hjti : some claims.jti = none := congrArg Payload.jti hpayload
    cases hjti

end Run

/-- In every run in which the email of `u` is not verified while `u` is suspended or deleted, `u`
keeps that status and is issued no access token. -/
theorem barred_user_stays_barred (svc : AuthService) (w : World) (req : ℕ → Request) (u : Uuid)
    (status : UserStatus) (d : System) (hstatus : status = .suspended ∨ status = .deleted)
    (hbarred : HasStatus u status w.db)
    (hrun : svc.machine.Reaches (noBarredVerification u).Keeps (svc.start w req) d) : StaysBarred u status d := by
  refine ⟨hbarred.reaches hstatus hrun, fun e he hissues => ?_⟩
  obtain ⟨older, hsuffix⟩ := exists_suffix_of_mem he
  obtain ⟨user, f, older', hf, hread, hid, hactive⟩ := read_of_issuesAccess hrun hsuffix hissues
  obtain ⟨mid, next, s, hat, -⟩ := hrun.performedAt rfl ((hf.trans (List.suffix_cons _ _)).trans hsuffix)
  obtain ⟨row, hrow, hrowId, hrowStatus⟩ := hbarred.reaches hstatus hat.run
  rw [hat.before] at hrow
  have huser : user ∈ f.before.db.users := readUser?_row hat.perform hread
  obtain rfl := Table.eq_of_pk huser hrow (hid.trans hrowId.symm)
  rw [hactive] at hrowStatus
  rcases hstatus with rfl | rfl <;> cases hrowStatus

section Runs

open Reference

instance (u : Uuid) (c : System) (e : LogEvent) : Decidable ((noBarredVerification u).event c e) :=
  inferInstanceAs (Decidable (_ → ∀ row ∈ c.shared.db.users.rows, _ → _ ∧ _))

instance (u : Uuid) (status : UserStatus) (db : Db) : Decidable (HasStatus u status db) :=
  inferInstanceAs (Decidable (∃ row ∈ db.users.rows, _))

/-- A user has registered and asked for an email verification, and was then suspended. -/
def suspendedWorld : World :=
  (service.executor.play (moves 0 3 1 ++ moves 1 4 2 ++ [.env (.setStatus 1 .suspended)])
    (service.start world fun
      | 0 => .register ⟨"a@b.c", "Abcdefg1", "Abcdefg1", "A"⟩
      | _ => .createEmailVerification 1)).shared

/-- The suspended user verifies the email, and logs in. -/
def liftRequests : ℕ → Request
  | 0 => .verifyEmail (base64UrlEncode (choice 2).bytes.toList)
  | 1 => .login ⟨"a@b.c", "Abcdefg1"⟩ none none
  | _ => .verifyEmail ""

/-- A suspended user stays suspended through a login. -/
theorem barred_user_stays_barred_login : StaysBarred 1 .suspended
    (service.executor.play (moves 1 12 3) (service.start suspendedWorld liftRequests)) := by
  have hfacts : HasStatus 1 .suspended suspendedWorld.db ∧ service.executor.Allows (noBarredVerification 1)
      (fun _ => False) (moves 1 12 3) (service.start suspendedWorld liftRequests) := by decide +kernel
  obtain ⟨hbarred, hallows⟩ := hfacts
  exact barred_user_stays_barred service suspendedWorld liftRequests 1 .suspended _ (Or.inl rfl) hbarred
    (hallows.reaches fun _ _ h => h.elim)

/-- A suspended user that holds a verification token lifts the suspension and logs in. -/
theorem suspension_lifted : HasStatus 1 .suspended suspendedWorld.db ∧
    ∃ d, service.machine.Reaches (Rule.mk (fun _ _ => True) (noBarredVerification 1).idle).Keeps
      (service.start suspendedWorld liftRequests) d ∧
      ¬ StaysBarred 1 .suspended d ∧ (d.calls 1).succeeded = true := by
  have hfacts : HasStatus 1 .suspended suspendedWorld.db ∧
      service.executor.Allows (Rule.mk (fun _ _ => True) (noBarredVerification 1).idle) (fun _ => False)
        (moves 0 3 3 ++ moves 1 12 4) (service.start suspendedWorld liftRequests) ∧
      ¬ HasStatus 1 .suspended (service.executor.play (moves 0 3 3 ++ moves 1 12 4)
        (service.start suspendedWorld liftRequests)).shared.db ∧
      ((service.executor.play (moves 0 3 3 ++ moves 1 12 4)
        (service.start suspendedWorld liftRequests)).calls 1).succeeded =
        true := by decide +kernel
  obtain ⟨hbarred, hallows, hlifted, hsucceeded⟩ := hfacts
  exact ⟨hbarred, _, hallows.reaches fun _ _ h => h.elim, fun hstays => hlifted hstays.kept, hsucceeded⟩

end Runs

end RustPressAuth
