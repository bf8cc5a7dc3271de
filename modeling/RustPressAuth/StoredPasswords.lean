import RustPressAuth.OneTimeLaw

/-!
# The password hashes that are stored

A registration, a reset and a change store a password hash. Each of them hashes a
password the policy accepted before it executes its statement, and no other statement
writes the column. So in every run each stored hash was made from an accepted password,
and a password that is compared with a stored hash is compared without an error.
-/

namespace RustPressAuth

open Atomic Program Machine Relational

/-- What Argon2 returns is a PHC string: it parses, and there is no space in it. -/
structure Primitives.PhcHashes (prims : Primitives) : Prop where
  parses : ∀ m t p salt password hash, prims.argon2Hash m t p salt password = some hash →
    prims.passwordHashParses hash = true
  spaceless : ∀ m t p salt password hash, prims.argon2Hash m t p salt password = some hash → ' ' ∉ hash.toList

/-- The hash of a password that the policy accepts. -/
def AuthService.StrongHash (svc : AuthService) (hash : String) : Prop :=
  ∃ password salt, svc.passwordAccepted password = true ∧ svc.argon2 salt password = some hash

/-- A text without spaces is not cut by a column. -/
theorem varchar_getD {s : String} (h : ' ' ∉ s.toList) (n : ℕ) : (varchar n s).getD s = s := by
  unfold varchar
  split
  · rfl
  · split
    · rename_i hlong hspaces
      have hcut : 0 < (s.toList.drop n).length := by
        rw [List.length_drop, String.length_toList]
        omega
      have hspace := List.all_eq_true.mp hspaces _ (List.getElem_mem hcut)
      have hmem : (s.toList.drop n)[0] ∈ s.toList := List.mem_of_mem_drop (List.getElem_mem hcut)
      rw [of_decide_eq_true hspace] at hmem
      exact absurd hmem h
    · rfl

section Statements

variable {svc : AuthService} {request : Request} {h h' : Trace} {password hash : String}

/-- A password that was accepted and hashed is stored as it was hashed. -/
theorem PasswordHashed.strongHash (hphc : svc.prims.PhcHashes) (haccepts : svc.acceptsCosts = true)
    (hhashed : PasswordHashed svc password hash h h') : svc.StrongHash ((varchar 255 hash).getD hash) := by
  obtain ⟨salt, haccepted, hargon, -⟩ := hhashed
  rw [varchar_getD (hphc.spaceless _ _ _ _ _ _ hargon)]
  refine ⟨password, salt, haccepted, ?_⟩
  rw [AuthService.acceptsCosts] at haccepts
  rw [AuthService.argon2, if_pos haccepts]
  exact hargon

/-- Every statement of a call keeps stored hashes strong. -/
theorem StatementGuard.strongHash {s : Statement} (hphc : svc.prims.PhcHashes) (haccepts : svc.acceptsCosts = true)
    (hguard : StatementGuard svc request h s) {fresh : Uuid} {now : Instant} {db db' : Db} {v : s.Row}
    (hrun : s.run fresh now db = .ok (v, db')) (hall : ∀ user ∈ db.users, svc.StrongHash user.passwordHash) :
    ∀ user ∈ db'.users, svc.StrongHash user.passwordHash := by
  intro user huser
  rcases (Statement.run_users hrun).mp huser with ⟨row, hrow, rfl⟩ | hnew
  · have hold := hall row hrow
    cases s with
    | updatePassword passwordHash id =>
      simp only [Statement.onUser]
      split
      · rcases hguard with ⟨r, tokenId, -, h', -, hhashed⟩ | ⟨r, -, user, h', -, hhashed⟩
        · exact hhashed.strongHash hphc haccepts
        · exact hhashed.strongHash hphc haccepts
      · exact hold
    | incrementFailedAttempts | recordSuccessfulLogin | verifyUserEmail =>
      simp only [Statement.onUser]
      split
      · exact hold
      · exact hold
    | _ => exact hold
  · cases s with
    | insertUser email passwordHash name =>
      obtain rfl := Option.some.inj hnew
      obtain ⟨r, h', -, -, -, -, hhashed⟩ := hguard
      exact hhashed.strongHash hphc haccepts
    | _ => cases hnew

/-- A strong hash parses. -/
theorem AuthService.StrongHash.parses (hphc : svc.prims.PhcHashes) (hstrong : svc.StrongHash hash) :
    svc.prims.passwordHashParses hash = true := by
  obtain ⟨password, salt, -, hargon⟩ := hstrong
  unfold AuthService.argon2 at hargon
  split at hargon
  · exact hphc.parses _ _ _ _ _ _ hargon
  · cases hargon

/-- Comparing a password with a strong hash does not fail. -/
theorem AuthService.StrongHash.compares (hphc : svc.prims.PhcHashes) (hstrong : svc.StrongHash hash)
    (haccepts : svc.acceptsCosts = true) (password : String) : svc.comparePassword password hash ≠ none := by
  rw [AuthService.acceptsCosts] at haccepts
  simp [AuthService.comparePassword, hstrong.parses hphc, haccepts]

end Statements

variable {svc : AuthService} {req : ℕ → Request} {w : World} {d : System}

/-- In every run from an empty database the stored hashes are strong. -/
theorem strongHash_of_run {ok : System → System → Prop} (hphc : svc.prims.PhcHashes)
    (haccepts : svc.acceptsCosts = true) (hempty : w.db = Db.empty)
    (hrun : svc.machine.Reaches ok (svc.start w req) d) :
    ∀ user ∈ d.shared.db.users, svc.StrongHash user.passwordHash := by
  have hind : Machine.Inductive svc.machine ok (fun i => svc.protocol (req i))
      (fun c => ∀ user ∈ c.shared.db.users, svc.StrongHash user.passwordHash) := by
    constructor
    · intro c i a next r s hinv _ hguard _ hperform _
      cases a with
      | sql statement =>
        rcases AuthService.perform_sql hperform with ⟨e, -, rfl⟩ | ⟨v, fresh, db, -, hexec, rfl⟩
        · exact hinv
        · exact StatementGuard.strongHash hphc haccepts hguard hexec hinv
      | _ => exact AuthService.perform_local hperform (by simp) ▸ hinv
    · intro c s hinv hidle _
      obtain ⟨m, rfl⟩ := hidle
      cases m with
      | tick elapsed => exact hinv
      | setStatus id status =>
        intro user huser
        obtain ⟨row, hrow, rfl⟩ :=
          (Db.mem_updateUser (f := fun u => { u with status := status }) (fun _ => rfl) (fun _ => rfl)).mp huser
        split
        · exact hinv row hrow
        · exact hinv row hrow
  apply hrun.invariant hind start_obeys
  intro user huser
  have hrow : user ∈ w.db.users := huser
  rw [hempty] at hrow
  exact absurd hrow (Table.not_mem_empty user)

/-- A hash that a password is compared with was read from a row of `users`. -/
theorem stored_of_compared {ok : System → System → Prop} (hrun : svc.machine.Reaches ok (svc.start w req) d)
    {e : LogEvent} {older : List LogEvent} (he : (e :: older) <:+ d.log) {password hash : String}
    {result : Option Bool} (hentry : e.entry = did (.verifyPassword password hash) result) :
    ∃ mid, svc.machine.Reaches ok (svc.start w req) mid ∧
    ∃ user ∈ mid.shared.db.users, user.passwordHash = hash := by
  have hguard := guard_of_run hrun he
  obtain ⟨i, s, a, r⟩ := e
  cases hentry
  have hread (x : Entry) (h : Trace) (user : User) (hx : readUser? x = some user)
      (hsuffix : (x :: h) <:+ ownHistory i older) : ∃ mid, svc.machine.Reaches ok (svc.start w req) mid ∧
        ∃ user' ∈ mid.shared.db.users, user'.passwordHash = user.passwordHash := by
    obtain ⟨f, olderF, hf, -, hfentry, -⟩ := exists_event_of_suffix hsuffix
    obtain ⟨mid, next, s', hat, -⟩ := hrun.performedAt rfl ((hf.trans (List.suffix_cons _ _)).trans he)
    have hmem := readUser?_row hat.perform (hfentry ▸ hx)
    rw [← hat.before] at hmem
    exact ⟨mid, hat.run, user, hmem, rfl⟩
  rcases hguard with ⟨login, ip, ua, user, now, -, hchecked, -, rfl⟩ | ⟨id, change, user, -, -, rfl, htrace⟩
  · have htrace := hchecked.trace
    exact hread (executed (.selectUserByEmail login.email) (some user)) [] user rfl (htrace ▸ ⟨[_], rfl⟩)
  · exact hread (executed (.selectUserById id) (some user)) [] user rfl (htrace ▸ List.suffix_refl _)

/-- In every run from an empty database, with Argon2 parameters that are accepted, every stored
hash is the hash of a password the policy accepts, it parses, and no comparison fails. -/
theorem stored_hashes_strong (svc : AuthService) (haccepts : svc.acceptsCosts = true)
    (hphc : svc.prims.PhcHashes) (w : World) (hempty : w.db = Db.empty) (req : ℕ → Request) (d : System)
    (hrun : svc.machine.Reaches (fun _ _ => True) (svc.start w req) d) :
    (∀ user ∈ d.shared.db.users, svc.StrongHash user.passwordHash ∧
      svc.prims.passwordHashParses user.passwordHash = true ∧
      ∀ password, svc.comparePassword password user.passwordHash ≠ none) ∧
    ∀ e ∈ d.log, ∀ password hash result, e.entry = did (.verifyPassword password hash) result → result ≠ none := by
  constructor
  · intro user huser
    have hstrong := strongHash_of_run hphc haccepts hempty hrun user huser
    exact ⟨hstrong, hstrong.parses hphc, hstrong.compares hphc haccepts⟩
  · intro e he password hash result hentry
    obtain ⟨older, hsuffix⟩ := exists_suffix_of_mem he
    obtain ⟨mid, hmid, user, huser, rfl⟩ := stored_of_compared hrun hsuffix hentry
    have hstrong := strongHash_of_run hphc haccepts hempty hmid user huser
    obtain ⟨s, hperform, -⟩ := hrun.event_monotone svc.machine_monotone rfl he
    obtain ⟨choice, hexec⟩ := perform_of_entry hentry hperform
    rw [← (Prod.mk.inj hexec).1]
    exact hstrong.compares hphc haccepts password

section Runs

open Reference Serial

/-- The reference hashes are texts of the PHC form. -/
theorem Reference.phcHashes : primitives.PhcHashes where
  parses m t p salt password hash h := by
    obtain rfl : argon2Hash salt password = hash := Option.some.inj h
    simp [primitives, argon2Hash]
  spaceless m t p salt password hash h := by
    obtain rfl : argon2Hash salt password = hash := Option.some.inj h
    have hfront : ' ' ∉ hashPrefix := by decide
    have hback :=
      not_mem_render (c := ' ') (by decide) (by decide) ((Codec.string.pair Codec.string).encode (salt, password))
    rw [argon2Hash, String.toList_ofList, List.mem_append]
    exact fun hmem => hmem.elim hfront hback

/-- A user registers and logs in with a wrong password, and another one fails to register. -/
def passwordRequests : ℕ → Request
  | 0 => .register ⟨"a@b.c", "Abcdefg1", "Abcdefg1", "A"⟩
  | 1 => .login ⟨"a@b.c", "Hijklmn2"⟩ none none
  | _ => .register ⟨"b@b.c", "abcdefgh", "abcdefgh", "B"⟩

/-- The calls one after the other. -/
def passwordRun : System :=
  service.executor.play (moves 0 3 1 ++ moves 1 4 2 ++ moves 2 3 3) (service.start world passwordRequests)

/-- The action that compares a password with a stored hash. -/
def isComparison : Action → Bool
  | .verifyPassword .. => true
  | _ => false

/-- The hash that a registration stores is strong, and a login compares a password with it. -/
theorem stored_hashes_strong_login : (∃ user ∈ passwordRun.shared.db.users, service.StrongHash user.passwordHash) ∧
    ∃ e ∈ passwordRun.log, ∃ password hash verified, e.entry =
      did (.verifyPassword password hash) (some verified) := by
  obtain ⟨hstored, hcompared⟩ :=
    stored_hashes_strong service (by decide) phcHashes world rfl passwordRequests passwordRun
    (service.executor.play_reaches _ _)
  constructor
  · have hrow : ∃ user ∈ passwordRun.shared.db.users.rows, user.email = "a@b.c" := by decide +kernel
    obtain ⟨user, huser, -⟩ := hrow
    exact ⟨user, huser, (hstored user huser).1⟩
  · have hevent : ∃ e ∈ passwordRun.log, isComparison e.action = true := by decide +kernel
    obtain ⟨⟨i, s, a, r⟩, he, haction⟩ := hevent
    cases a with
    | verifyPassword password hash =>
      obtain ⟨verified, rfl⟩ := Option.ne_none_iff_exists'.mp (hcompared _ he password hash r rfl)
      exact ⟨_, he, password, hash, verified, rfl⟩
    | _ => cases haction

end Runs

end RustPressAuth
