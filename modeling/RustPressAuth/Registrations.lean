import RustPressAuth.AccountOutcomes
import RustPressAuth.StoredPasswords

/-!
# Registering one email many times

A registration looks its email up, hashes the password and inserts the row: three steps,
and other calls may come in between. The table refuses a second row with the email, but
that refusal is an error of the database, not the answer that the email is taken.

So the calls end as they should where the email is looked up only while no other
registration is between its lookup and its end. In every other run that completes, some
call ends with an error of the database.
-/

namespace RustPressAuth

open Atomic Program Machine Relational

namespace AuthService

variable (svc : AuthService)

/-- What is left of a registration that has found its email free. -/
def hashing (r : RegisterRequest) : AuthM Response :=
  answer .user do
    let passwordHash ← svc.hashPassword r.password
    insertUser r.email passwordHash r.name

/-- What is left of a registration that has hashed its password. -/
def inserting (r : RegisterRequest) (passwordHash : String) : AuthM Response :=
  answer .user (insertUser r.email passwordHash r.name)

end AuthService

/-- Where a registration stands. -/
inductive RegisterStage where
  | waiting
  | hashing
  | inserting (passwordHash : String)
  | ended (result : Except Failure Response)

namespace RegisterStage

/-- What is left of the call. -/
def program (svc : AuthService) (r : RegisterRequest) : RegisterStage → AuthM Response
  | waiting => svc.serve (.register r)
  | hashing => svc.hashing r
  | inserting passwordHash => AuthService.inserting r passwordHash
  | ended result => .done result

/-- The registration has found its email free and has not ended. -/
def between : RegisterStage → Bool
  | hashing | inserting _ => true
  | waiting | ended _ => false

/-- The registration has found its email free, so it cannot be told any more that it is taken. -/
def pastCheck : RegisterStage → Bool
  | hashing | inserting _ => true
  | waiting | ended (.error (.err .emailExists)) => false
  | ended _ => true

/-- A registration between its check and its INSERT is past its check. -/
theorem pastCheck_of_between {stage : RegisterStage} (h : stage.between = true) : stage.pastCheck = true := by
  cases stage with
  | hashing | inserting => rfl
  | waiting | ended => cases h

/-- One action of a registration: the stage after it, and the world. -/
inductive Move (svc : AuthService) (r : RegisterRequest) (w : World) :
    RegisterStage → Entry → RegisterStage → World → Prop
  | free {found : Option Uuid} (hnone : w.db.userByEmail? r.email = none) :
      Move svc r w waiting (executed (.selectUserIdByEmail r.email) found) hashing w
  | taken {found : Option Uuid} (hsome : w.db.userByEmail? r.email ≠ none) :
      Move svc r w waiting (executed (.selectUserIdByEmail r.email) found) (ended (.error (.err .emailExists))) w
  | hashed {salt passwordHash : String} (hhashed : svc.argon2 salt r.password = some passwordHash) :
      Move svc r w hashing (did .salt salt) (inserting passwordHash) w
  | unhashed {salt : String} (hnone : svc.argon2 salt r.password = none) :
      Move svc r w hashing (did .salt salt) (ended (.error (.err .internal))) w
  | inserted {passwordHash : String} {fresh : Uuid} {user : User} {db : Db}
      (hrun : (Statement.insertUser r.email passwordHash r.name).run fresh w.now w.db = .ok (user, db)) :
      Move svc r w (inserting passwordHash) (executed (.insertUser r.email passwordHash r.name) user)
        (ended (.ok (.user user))) ⟨db, w.clock⟩
  | uncheckable {e : DbError} :
      Move svc r w waiting ⟨.sql (.selectUserIdByEmail r.email), .error e⟩ (ended (.error (.err (.database e)))) w
  | uninserted {passwordHash : String} {e : DbError} :
      Move svc r w (inserting passwordHash) ⟨.sql (.insertUser r.email passwordHash r.name), .error e⟩
        (ended (.error (.err (.database e)))) w

end RegisterStage

section Moves

variable {svc : AuthService} {r : RegisterRequest} {w w' : World} {a : Action} {next : a.Reply → AuthM Response}
  {reply : a.Reply}

/-- The action leads to a stage from which the rest of the call goes on. -/
def Advances (svc : AuthService) (r : RegisterRequest) (w : World) (stage : RegisterStage) (x : Entry)
    (rest : AuthM Response) (w' : World) : Prop :=
  ∃ stage', RegisterStage.Move svc r w stage x stage' w' ∧ rest = stage'.program svc r

/-- A registration with an accepted password begins with the lookup of its email. -/
theorem advances_waiting (haccepted : svc.passwordAccepted r.password = true)
    (hcall : svc.serve (.register r) = .act a next) (h : svc.machine.perform a w reply w') :
    Advances svc r w .waiting ⟨a, reply⟩ (next reply) w' := by
  simp only [AuthService.serve, AuthService.register, AuthService.validatePassword, haccepted,
    Bool.not_true] at hcall
  cases hcall
  cases reply with
  | error e =>
    rcases AuthService.perform_sql h with ⟨e', -, rfl⟩ | ⟨_, _, _, hok, -⟩
    · exact ⟨_, .uncheckable, rfl⟩
    · cases hok
  | ok found =>
    obtain ⟨fresh, db, hrun, rfl⟩ := AuthService.perform_ok h
    obtain ⟨hfound, rfl⟩ := Prod.mk.inj (Except.ok.inj hrun)
    cases hlookup : w.db.userByEmail? r.email with
    | none =>
      rw [hlookup] at hfound
      subst hfound
      exact ⟨_, .free hlookup, rfl⟩
    | some user =>
      have htaken : w.db.userByEmail? r.email ≠ none := by simp [hlookup]
      rw [hlookup] at hfound
      subst hfound
      exact ⟨_, .taken htaken, rfl⟩

/-- Hashing draws a salt; where Argon2 refuses, the call ends. -/
theorem hashing_eq : svc.hashing r = .act .salt fun salt =>
    (svc.argon2 salt r.password).elim (.done (.error (.err .internal))) (AuthService.inserting r) := by
  refine congrArg (Program.act Action.salt) (funext fun salt => ?_)
  simp only [Program.bind, AuthService.argon2]
  cases svc.prims.argon2Params svc.config.argon2MemoryCost svc.config.argon2TimeCost
    svc.config.argon2Parallelism with
  | false => rfl
  | true =>
    rw [if_pos rfl]
    cases svc.prims.argon2Hash svc.config.argon2MemoryCost svc.config.argon2TimeCost
      svc.config.argon2Parallelism salt r.password with
    | none => rfl
    | some passwordHash => rfl

/-- Then the password is hashed. -/
theorem advances_hashing (hcall : svc.hashing r = .act a next) (h : svc.machine.perform a w reply w') :
    Advances svc r w .hashing ⟨a, reply⟩ (next reply) w' := by
  rw [hashing_eq] at hcall
  obtain rfl := AuthService.perform_local h (by cases hcall; simp)
  cases hcall
  cases hargon : svc.argon2 reply r.password with
  | none => exact ⟨_, .unhashed hargon, by simp only [hargon]; rfl⟩
  | some passwordHash => exact ⟨_, .hashed hargon, by simp only [hargon]; rfl⟩

/-- Then the row is inserted. -/
theorem advances_inserting {passwordHash : String} (hcall : AuthService.inserting r passwordHash = .act a next)
    (h : svc.machine.perform a w reply w') :
    Advances svc r w (.inserting passwordHash) ⟨a, reply⟩ (next reply) w' := by
  cases hcall
  cases reply with
  | error e =>
    rcases AuthService.perform_sql h with ⟨e', -, rfl⟩ | ⟨_, _, _, hok, -⟩
    · exact ⟨_, .uninserted, rfl⟩
    · cases hok
  | ok user =>
    obtain ⟨fresh, db, hrun, rfl⟩ := AuthService.perform_ok h
    exact ⟨_, .inserted hrun, rfl⟩

/-- Every action of a registration with an accepted password is such a move. -/
theorem advances_of_perform {stage : RegisterStage} (haccepted : svc.passwordAccepted r.password = true)
    (hcall : stage.program svc r = .act a next) (h : svc.machine.perform a w reply w') :
    Advances svc r w stage ⟨a, reply⟩ (next reply) w' := by
  cases stage with
  | waiting => exact advances_waiting haccepted hcall h
  | hashing => exact advances_hashing hcall h
  | inserting passwordHash => exact advances_inserting hcall h
  | ended result => cases hcall

/-- A call has ended when its stage says so. -/
theorem program_eq_done {stage : RegisterStage} {res : Except Failure Response}
    (haccepted : svc.passwordAccepted r.password = true) :
    stage.program svc r = .done res ↔ stage = .ended res := by
  constructor
  · intro h
    cases stage with
    | waiting =>
      simp only [RegisterStage.program, AuthService.serve, AuthService.register,
        AuthService.validatePassword, haccepted, Bool.not_true] at h
      cases h
    | hashing => cases h
    | inserting passwordHash => cases h
    | ended result =>
      cases h
      rfl
  · rintro rfl
    rfl

/-- A registration that has found its email free stays so. -/
theorem RegisterStage.Move.pastCheck {stage stage' : RegisterStage} {x : Entry}
    (h : RegisterStage.Move svc r w stage x stage' w') (hstage : stage.pastCheck = true) :
    stage'.pastCheck = true := by
  cases h with
  | free | taken | uncheckable => cases hstage
  | hashed | unhashed | inserted | uninserted => rfl

/-- A call that has moved has begun. -/
theorem RegisterStage.Move.ne_waiting {stage stage' : RegisterStage} {x : Entry}
    (h : RegisterStage.Move svc r w stage x stage' w') : stage' ≠ .waiting := by
  cases h <;> simp

/-- A call begins with the lookup of its email. -/
theorem RegisterStage.Move.lookup {stage : RegisterStage} {x : Entry}
    (h : RegisterStage.Move svc r w .waiting x stage w') :
    x.1 = .sql (.selectUserIdByEmail r.email) := by
  cases h <;> rfl

/-- No other move is a lookup. -/
theorem RegisterStage.Move.waiting {stage stage' : RegisterStage} {x : Entry} {email : String}
    (h : RegisterStage.Move svc r w stage x stage' w') (hlookup : x.1 = .sql (.selectUserIdByEmail email)) :
    stage = .waiting := by
  cases h with
  | free | taken | uncheckable => rfl
  | hashed | unhashed | inserted | uninserted => cases hlookup

/-- A lookup that does not fail finds a free email free. -/
theorem RegisterStage.Move.finds_free {stage : RegisterStage} {x : Entry}
    (h : RegisterStage.Move svc r w .waiting x stage w') (hnone : w.db.userByEmail? r.email = none)
    (hdone : ∀ s e, x ≠ ⟨.sql s, .error e⟩) : stage = .hashing := by
  cases h with
  | free => rfl
  | taken hsome => exact absurd hnone hsome
  | uncheckable => exact absurd rfl (hdone _ _)

/-- What is inserted was hashed from the password. -/
theorem RegisterStage.Move.argon2 {stage : RegisterStage} {x : Entry} {passwordHash : String}
    (h : RegisterStage.Move svc r w stage x (.inserting passwordHash) w') :
    ∃ salt, x = did .salt salt ∧ svc.argon2 salt r.password = some passwordHash := by
  cases h with
  | hashed hhashed => exact ⟨_, rfl, hhashed⟩

end Moves

/-- A user with the email is registered. -/
def EmailTaken (email : String) (db : Db) : Prop := ∃ row ∈ db.users, row.email = email

/-- The email and the name of a registration fit their columns. -/
structure RegisterRequest.Fits (r : RegisterRequest) : Prop where
  email : r.email.length ≤ 255
  name : ∃ name, varchar 100 r.name = some name

section Rows

variable {svc : AuthService} {r : RegisterRequest} {email : String} {db db' : Db}

/-- An email is taken exactly if a user is found under it. -/
theorem emailTaken_iff : EmailTaken email db ↔ db.userByEmail? email ≠ none := by
  constructor
  · rintro ⟨row, hrow, hemail⟩ hnone
    have hother := Table.find?_none hnone hrow
    simp [hemail] at hother
  · intro hsome
    obtain ⟨row, hfound⟩ := Option.ne_none_iff_exists'.mp hsome
    obtain ⟨hrow, hemail⟩ := Table.find?_some hfound
    exact ⟨row, hrow, of_decide_eq_true hemail⟩

/-- An inserted row has the email. -/
theorem emailTaken_of_insert {passwordHash : String} {fresh : Uuid} {now : Instant} {user : User}
    (hfits : r.Fits)
    (hrun : (Statement.insertUser r.email passwordHash r.name).run fresh now db = .ok (user, db')) :
    EmailTaken r.email db' := by
  simp only [Statement.run, except_bind_eq_ok, orError_eq_ok] at hrun
  obtain ⟨email, hemail, hash, -, name, -, db₁, hinsert, heq⟩ := hrun
  obtain ⟨-, rfl⟩ := Prod.mk.inj (Except.ok.inj heq)
  rw [varchar, if_pos hfits.email] at hemail
  obtain rfl := Option.some.inj hemail
  exact ⟨_, (Table.mem_insert? (Db.insertUser?_spec hinsert).1).mpr (Or.inr rfl), rfl⟩

/-- A row with keys of its own can be inserted. -/
theorem Db.exists_insertUser (user : User) (hfree : ∀ row ∈ db.users, row.id ≠ user.id ∧ row.email ≠ user.email) :
    ∃ db', db.insertUser? user = some db' := by
  have hinsert := Table.exists_insert hfree
  rw [Db.insertUser?]
  split
  · rename_i hnone
    rw [hnone] at hinsert
    cases hinsert
  · exact ⟨_, rfl⟩

/-- With a free email and a free id the row is inserted. -/
theorem insertUser_succeeds {passwordHash stored : String} {fresh : Uuid} (now : Instant) (hfits : r.Fits)
    (hstored : varchar 255 passwordHash = some stored) (hemail : ¬ EmailTaken r.email db)
    (hid : ∀ row ∈ db.users, row.id ≠ fresh) :
    ∃ user db', (Statement.insertUser r.email passwordHash r.name).run fresh now db = .ok (user, db') := by
  obtain ⟨name, hname⟩ := hfits.name
  have hfree : ∀ row ∈ db.users, row.id ≠ fresh ∧ row.email ≠ r.email := fun row hrow =>
    ⟨hid row hrow, fun heq => hemail ⟨row, hrow, heq⟩⟩
  obtain ⟨db', hinsert⟩ := Db.exists_insertUser (newUser fresh now r.email stored name) hfree
  refine ⟨newUser fresh now r.email stored name, db', ?_⟩
  simp only [Statement.run, except_bind_eq_ok, orError_eq_ok]
  exact ⟨r.email, by rw [varchar, if_pos hfits.email], stored, hstored, name, hname, db', hinsert, rfl⟩

/-- A registered email stays registered. -/
theorem EmailTaken.later {w w' : World} (h : EmailTaken email w.db) (hprecedes : w.Precedes w') :
    EmailTaken email w'.db := by
  obtain ⟨row, hrow, hemail⟩ := h
  obtain ⟨row', hrow', hlater⟩ := hprecedes.db.users row hrow
  exact ⟨row', hrow', hlater.email.trans hemail⟩

/-- A move of the environment registers nobody. -/
theorem emailTaken_idle {w w' : World} (hidle : svc.machine.idle w w') :
    EmailTaken email w'.db ↔ EmailTaken email w.db := by
  refine ⟨fun htaken => ?_, fun htaken => htaken.later (svc.machine_monotone.idle _ _ hidle)⟩
  obtain ⟨m, rfl⟩ := hidle
  cases m with
  | tick elapsed => exact htaken
  | setStatus id status =>
    obtain ⟨row, hrow, hemail⟩ := htaken
    obtain ⟨old, hold, rfl⟩ := (Db.mem_updateUser _ _).mp hrow
    refine ⟨old, hold, ?_⟩
    split at hemail
    · exact hemail
    · exact hemail

end Rows

/-- No statement fails by itself: one that fails does so with an id that is not taken as well. And Argon2 hashes the
password with the salt that is drawn, to a hash that fits its column. -/
structure Undisturbed (svc : AuthService) (r : RegisterRequest) (w : World) (x : Entry) : Prop where
  failed : ∀ s e, x = ⟨.sql s, .error e⟩ →
    ∃ fresh, (∀ row ∈ w.db.users, row.id ≠ fresh) ∧ s.run fresh w.now w.db = .error e
  hashed : ∀ salt, x = did .salt salt →
    ∃ passwordHash stored, svc.argon2 salt r.password = some passwordHash ∧ varchar 255 passwordHash = some stored

/-- No call is disturbed. -/
def undisturbed (svc : AuthService) (req : ℕ → RegisterRequest) :
    Rule ℕ Action Action.Reply Failure Response World :=
  Rule.ofEvent fun c e => Undisturbed svc (req e.caller) c.shared e.entry

/-- The email is looked up only while no other call has begun and not ended. -/
def LooksUpInTurn (email : String) (c : System) (e : LogEvent) : Prop :=
  e.action = .sql (.selectUserIdByEmail email) → ∀ f ∈ c.log, ¬ c.Running f.caller

/-- No call is disturbed, and the email is looked up in turn. -/
def registersInTurn (svc : AuthService) (email : String) (req : ℕ → RegisterRequest) :
    Rule ℕ Action Action.Reply Failure Response World :=
  Rule.ofEvent fun c e => Undisturbed svc (req e.caller) c.shared e.entry ∧ LooksUpInTurn email c e

/-- Every call that has ended has registered the user or was told that the email is taken; once one has ended,
one call has registered the user, and there is one row with the email. -/
structure OneRegistered (email : String) (d : System) : Prop where
  results : ∀ i res, d.calls i = .done res → (∃ user, res = .ok (.user user)) ∨ res = .error (.err .emailExists)
  one : (∃ i, (d.calls i).Ended) → (∃! i, ∃ user, d.calls i = .done (.ok (.user user))) ∧
    ∃! row, row ∈ d.shared.db.users ∧ row.email = email

section Run

variable {svc : AuthService} {req : ℕ → RegisterRequest} {email : String} {c d : System} {stage : ℕ → RegisterStage}

/-- The calls stand at these stages. -/
structure StandsAt (svc : AuthService) (req : ℕ → RegisterRequest) (stage : ℕ → RegisterStage)
    (c : System) : Prop where
  calls : ∀ i, c.calls i = (stage i).program svc (req i)
  begun : ∀ i, stage i = .waiting ↔ ownHistory i c.log = []

/-- Where the email is free, at most one registration is past its lookup, and none has ended; where it is
taken, none is past its lookup, and one has registered it. -/
inductive TurnState (email : String) (db : Db) (stage : ℕ → RegisterStage) : Prop
  | free (hfree : ¬ EmailTaken email db) (hone : ∀ i j, (stage i).between = true → (stage j).between = true → i = j)
      (hopen : ∀ i res, stage i ≠ .ended res)
  | taken (htaken : EmailTaken email db) (hnone : ∀ i, (stage i).between = false)
      (hone : ∃! i, ∃ user, stage i = .ended (.ok (.user user)))
      (hresults : ∀ i res, stage i = .ended res → (∃ user, res = .ok (.user user)) ∨
        res = .error (.err .emailExists))

/-- At the start every registration is waiting. -/
theorem standsAt_start {w : World} :
    StandsAt svc req (fun _ => .waiting) (svc.start w fun i => .register (req i)) where
  calls _ := rfl
  begun _ := iff_of_true rfl rfl

/-- A step moves the stage of one call. -/
theorem StandsAt.advance (h : StandsAt svc req stage c)
    (haccepted : ∀ i, svc.passwordAccepted (req i).password = true) {i : ℕ} {a : Action}
    {next : a.Reply → AuthM Response} {r : a.Reply} {s : World} (hcall : c.calls i = .act a next)
    (hperform : svc.machine.perform a c.shared r s) : ∃ stage',
      RegisterStage.Move svc (req i) c.shared (stage i) ⟨a, r⟩ stage' s ∧
      StandsAt svc req (Function.update stage i stage') (c.advance i a r s (next r)) := by
  obtain ⟨stage', hmove, hrest⟩ := advances_of_perform (haccepted i) ((h.calls i).symm.trans hcall) hperform
  refine ⟨stage', hmove, ?_, ?_⟩
  · intro j
    by_cases hj : j = i
    · subst hj
      simpa only [Config.advance, Function.update_self] using hrest
    · simpa only [Config.advance, Function.update_of_ne hj] using h.calls j
  · intro j
    by_cases hj : j = i
    · subst hj
      simp only [Config.advance, Function.update_self, ownHistory_cons, if_true]
      exact iff_of_false hmove.ne_waiting (List.cons_ne_nil _ _)
    · simpa only [Config.advance, Function.update_of_ne hj, ownHistory_cons, if_neg (Ne.symm hj)] using h.begun j

/-- A registration between its lookup and its end is running, and has an event in the log. -/
theorem StandsAt.running (h : StandsAt svc req stage c) {j : ℕ} (hj : (stage j).between = true) :
    c.Running j ∧ ∃ f ∈ c.log, f.caller = j := by
  have hhistory : ownHistory j c.log ≠ [] := by
    intro hnil
    rw [(h.begun j).mpr hnil] at hj
    cases hj
  have hopen : ¬ (c.calls j).Ended := by
    rintro ⟨res, hres⟩
    rw [h.calls j] at hres
    cases hstage : stage j with
    | waiting => rw [hstage] at hj; cases hj
    | ended result => rw [hstage] at hj; cases hj
    | hashing => rw [hstage] at hres; cases hres
    | inserting passwordHash => rw [hstage] at hres; cases hres
  obtain ⟨x, hx⟩ := List.exists_mem_of_ne_nil _ hhistory
  obtain ⟨f, hf, hcaller, -⟩ := mem_ownHistory.mp hx
  exact ⟨⟨hhistory, hopen⟩, f, hf, hcaller⟩

/-- A running registration is between its lookup and its end. -/
theorem StandsAt.between (h : StandsAt svc req stage c) {j : ℕ} (hj : c.Running j) : (stage j).between = true := by
  cases hstage : stage j with
  | waiting => exact absurd ((h.begun j).mp hstage) hj.1
  | hashing => rfl
  | inserting passwordHash => rfl
  | ended result =>
    have hcall := h.calls j
    rw [hstage] at hcall
    exact absurd ⟨result, hcall⟩ hj.2

section Step

variable {r : RegisterRequest} {w w' : World} {x : Entry} {before after : RegisterStage} {i : ℕ}

/-- While a call is between its lookup and its end, the email is free and no other call is. -/
theorem TurnState.of_between (h : TurnState email w.db stage) (hi : (stage i).between = true) :
    ¬ EmailTaken email w.db ∧ (∀ j, (stage j).between = true → j = i) ∧ ∀ j res, stage j ≠ .ended res := by
  cases h with
  | free hfree hone hopen => exact ⟨hfree, fun j hj => hone j i hj hi, hopen⟩
  | taken _ hnone =>
    rw [hnone i] at hi
    cases hi

/-- A call that has found the email free goes on as the only one between its lookup and its end. -/
theorem TurnState.goOn (hfree : ¬ EmailTaken email w.db) (h : TurnState email w.db stage)
    (halone : ∀ j, (stage j).between = true → j = i) (hafter : ∀ res, after ≠ .ended res) :
    TurnState email w.db (Function.update stage i after) := by
  have hother (j : ℕ) (hj : (Function.update stage i after j).between = true) : j = i := by
    by_contra hne
    rw [Function.update_of_ne hne] at hj
    exact hne (halone j hj)
  refine .free hfree (fun j k hj hk => (hother j hj).trans (hother k hk).symm) fun j res => ?_
  by_cases hj : j = i
  · subst hj
    rw [Function.update_self]
    exact hafter res
  · rw [Function.update_of_ne hj]
    cases h with
    | free _ _ hopen => exact hopen j res
    | taken htaken => exact absurd htaken hfree

/-- A call that is told that the email is taken changes nothing for the others. -/
theorem TurnState.refuse (htaken : EmailTaken email w.db) (h : TurnState email w.db stage)
    (hi : stage i = .waiting) :
    TurnState email w.db (Function.update stage i (.ended (.error (.err .emailExists)))) := by
  cases h with
  | free hfree => exact absurd htaken hfree
  | taken _ hnone hone hresults =>
    obtain ⟨winner, ⟨user, hwinner⟩, honly⟩ := hone
    have hne : winner ≠ i := by
      rintro rfl
      rw [hi] at hwinner
      cases hwinner
    refine .taken htaken (fun j => ?_) ⟨winner, ⟨user, by rw [Function.update_of_ne hne, hwinner]⟩, fun j hj => ?_⟩
      fun j res hj => ?_
    · by_cases hj : j = i
      · subst hj
        rw [Function.update_self]
        rfl
      · rw [Function.update_of_ne hj]
        exact hnone j
    · obtain ⟨user', hj⟩ := hj
      by_cases heq : j = i
      · subst heq
        rw [Function.update_self] at hj
        cases hj
      · rw [Function.update_of_ne heq] at hj
        exact honly j ⟨user', hj⟩
    · by_cases heq : j = i
      · subst heq
        rw [Function.update_self] at hj
        exact Or.inr (RegisterStage.ended.inj hj).symm
      · rw [Function.update_of_ne heq] at hj
        exact hresults j res hj

/-- The only call between its lookup and its end registers the user. -/
theorem TurnState.register {user : User} (htaken : EmailTaken email w'.db) (h : TurnState email w.db stage)
    (hi : (stage i).between = true) :
    TurnState email w'.db (Function.update stage i (.ended (.ok (.user user)))) := by
  obtain ⟨-, hone, hopen⟩ := h.of_between hi
  have hended (j : ℕ) (res : Except Failure Response)
      (hj : Function.update stage i (.ended (.ok (.user user))) j = .ended res) : j = i ∧
      res = .ok (.user user) := by
    by_cases heq : j = i
    · subst heq
      rw [Function.update_self] at hj
      exact ⟨rfl, (RegisterStage.ended.inj hj).symm⟩
    · rw [Function.update_of_ne heq] at hj
      exact absurd hj (hopen j res)
  refine .taken htaken (fun j => ?_) ⟨i, ⟨user, Function.update_self _ _ _⟩, fun j hj => ?_⟩ fun j res hj => ?_
  · by_cases heq : j = i
    · subst heq
      rw [Function.update_self]
      rfl
    · rw [Function.update_of_ne heq, ← Bool.not_eq_true]
      exact fun hj => heq (hone j hj)
  · obtain ⟨user', hj⟩ := hj
    exact (hended j _ hj).1
  · exact Or.inl ⟨user, (hended j res hj).2⟩

/-- A step of a call leads from one such state to another, when the email is looked up in turn. -/
theorem TurnState.move (h : TurnState email w.db stage) (hemail : r.email = email) (hfits : r.Fits)
    (hstorable : ∀ passwordHash, before = .inserting passwordHash →
      ∃ stored, varchar 255 passwordHash = some stored)
    (hbefore : stage i = before) (hmove : RegisterStage.Move svc r w before x after w')
    (hundisturbed : Undisturbed svc r w x) (hturn : before = .waiting → ∀ j, (stage j).between = false) :
    TurnState email w'.db (Function.update stage i after) := by
  subst hemail
  cases hmove with
  | free hnone =>
    have hfree : ¬ EmailTaken r.email w.db := fun htaken => emailTaken_iff.mp htaken hnone
    refine .goOn hfree h (fun j hj => ?_) (by simp)
    rw [hturn rfl j] at hj
    cases hj
  | taken hsome => exact .refuse (emailTaken_iff.mpr hsome) h hbefore
  | hashed hsalt =>
    obtain ⟨hfree, hone, -⟩ := h.of_between (i := i) (by rw [hbefore]; rfl)
    exact .goOn hfree h hone (by simp)
  | unhashed hnone =>
    obtain ⟨passwordHash, stored, hhash, -⟩ := hundisturbed.hashed _ rfl
    rw [hnone] at hhash
    cases hhash
  | inserted hrun => exact .register (emailTaken_of_insert hfits hrun) h (by rw [hbefore]; rfl)
  | uncheckable =>
    obtain ⟨fresh, -, hrun⟩ := hundisturbed.failed _ _ rfl
    cases hrun
  | uninserted =>
    obtain ⟨hfree, -, -⟩ := h.of_between (i := i) (by rw [hbefore]; rfl)
    obtain ⟨fresh, hid, hrun⟩ := hundisturbed.failed _ _ rfl
    obtain ⟨stored, hstored⟩ := hstorable _ rfl
    obtain ⟨user, db', hok⟩ := insertUser_succeeds w.now hfits hstored hfree hid
    rw [hrun] at hok
    cases hok

end Step

/-- Registrations of one email, with accepted passwords, and with names and an email that fit their columns. -/
structure AuthService.RegistersOne (svc : AuthService) (email : String) (req : ℕ → RegisterRequest) : Prop where
  email : ∀ i, (req i).email = email
  accepted : ∀ i, svc.passwordAccepted (req i).password = true
  fits : ∀ i, (req i).Fits

/-- The stages of the calls and the state of the table belong together, and every hash fits its column. -/
def InTurn (svc : AuthService) (email : String) (req : ℕ → RegisterRequest) (c : System) : Prop :=
  ∃ stage, StandsAt svc req stage c ∧ TurnState email c.shared.db stage ∧
    ∀ i passwordHash, stage i = .inserting passwordHash → ∃ stored, varchar 255 passwordHash = some stored

/-- Two calls have found the email free. -/
def TwicePast (svc : AuthService) (req : ℕ → RegisterRequest) (c : System) : Prop :=
  ∃ stage, StandsAt svc req stage c ∧ ∃ i j, i ≠ j ∧ (stage i).pastCheck = true ∧ (stage j).pastCheck = true

/-- A step that looks the email up in turn. -/
theorem InTurn.step (hone : svc.RegistersOne email req) (h : InTurn svc email req c) (hstep : svc.machine.Step c d)
    (hkeeps : (registersInTurn svc email req).Keeps c d) : InTurn svc email req d := by
  obtain ⟨stage, hstands, hturn, hstorable⟩ := h
  cases hstep with
  | idle hidle =>
    refine ⟨stage, { hstands with }, ?_, hstorable⟩
    cases hturn with
    | free hfree hsingle hopen =>
        exact .free (fun htaken => hfree ((emailTaken_idle hidle).mp htaken)) hsingle hopen
    | taken htaken hnone hsingle hresults =>
        exact .taken ((emailTaken_idle hidle).mpr htaken) hnone hsingle hresults
  | @call i a next r s hcall hperform =>
    obtain ⟨hundisturbed, hlookup⟩ := hkeeps.event _ rfl
    obtain ⟨stage', hmove, hstands'⟩ := hstands.advance hone.accepted hcall hperform
    refine ⟨_, hstands', hturn.move (hone.email i) (hone.fits i) (hstorable i) rfl hmove hundisturbed ?_, ?_⟩
    · intro hwaiting j
      rw [← Bool.not_eq_true]
      intro hj
      obtain ⟨hrunning, f, hf, hcaller⟩ := hstands.running hj
      rw [hwaiting] at hmove
      have haction : a = .sql (.selectUserIdByEmail email) := hone.email i ▸ hmove.lookup
      exact hlookup haction f hf (hcaller ▸ hrunning)
    · intro j passwordHash hstage
      by_cases hj : j = i
      · subst hj
        rw [Function.update_self] at hstage
        subst hstage
        obtain ⟨salt, hentry, hhashed⟩ := hmove.argon2
        obtain ⟨passwordHash', stored, hhashed', hstored⟩ := hundisturbed.hashed salt hentry
        obtain rfl := Option.some.inj (hhashed.symm.trans hhashed')
        exact ⟨stored, hstored⟩
      · rw [Function.update_of_ne hj] at hstage
        exact hstorable j passwordHash hstage

/-- In every run that looks the email up in turn. -/
theorem inTurn_of_run (hone : svc.RegistersOne email req) {w : World} (hfree : ¬ EmailTaken email w.db)
    (hrun : svc.machine.Reaches (registersInTurn svc email req).Keeps (svc.start w fun i => .register (req i)) d) :
    InTurn svc email req d := by
  induction hrun with
  | refl =>
    refine ⟨_, standsAt_start, .free hfree ?_ ?_, ?_⟩
    · intro i j hi
      cases hi
    · simp
    · intro i passwordHash hstage
      cases hstage
  | tail _ hstep ih => exact ih.step hone hstep.1 hstep.2

/-- Then the calls end as they should. -/
theorem InTurn.oneRegistered (hone : svc.RegistersOne email req) (h : InTurn svc email req d) :
    OneRegistered email d := by
  obtain ⟨stage, hstands, hturn, -⟩ := h
  have hended (i : ℕ) (res : Except Failure Response) : d.calls i = .done res ↔ stage i = .ended res := by
    rw [hstands.calls i, program_eq_done (hone.accepted i)]
  cases hturn with
  | free hfree hsingle hopen =>
    refine ⟨fun i res hi => absurd ((hended i res).mp hi) (hopen i res), ?_⟩
    rintro ⟨i, res, hi⟩
    exact absurd ((hended i res).mp hi) (hopen i res)
  | taken htaken hnone hsingle hresults =>
    refine ⟨fun i res hi => hresults i res ((hended i res).mp hi), fun _ => ⟨?_, ?_⟩⟩
    · simpa only [hended] using hsingle
    · obtain ⟨row, hrow, hemail⟩ := htaken
      exact ⟨row, ⟨hrow, hemail⟩, fun other hother => Table.eq_of_unique hother.1 hrow (hother.2.trans hemail.symm)⟩

/-- Two calls that have found the email free have found it free for good. -/
theorem TwicePast.step (haccepted : ∀ i, svc.passwordAccepted (req i).password = true) (h : TwicePast svc req c)
    (hstep : svc.machine.Step c d) : TwicePast svc req d := by
  obtain ⟨stage, hstands, i, j, hne, hi, hj⟩ := h
  cases hstep with
  | idle hidle => exact ⟨stage, { hstands with }, i, j, hne, hi, hj⟩
  | @call k a next r s hcall hperform =>
    obtain ⟨stage', hmove, hstands'⟩ := hstands.advance haccepted hcall hperform
    have hkept (l : ℕ) (hl : (stage l).pastCheck = true) : (Function.update stage k stage' l).pastCheck = true := by
      by_cases heq : l = k
      · subst heq
        rw [Function.update_self]
        exact hmove.pastCheck hl
      · rw [Function.update_of_ne heq]
        exact hl
    exact ⟨_, hstands', i, j, hne, hkept i hi, hkept j hj⟩

/-- A lookup out of turn lets a second call find the email free. -/
theorem twicePast_of_lookup (hone : svc.RegistersOne email req) (h : InTurn svc email req c) {i : ℕ} {a : Action}
    {next : a.Reply → AuthM Response} {r : a.Reply} {s : World} (hcall : c.calls i = .act a next)
    (hperform : svc.machine.perform a c.shared r s) (hundisturbed : Undisturbed svc (req i) c.shared ⟨a, r⟩)
    (haction : a = .sql (.selectUserIdByEmail email)) {j : ℕ} (hrunning : c.Running j) :
    TwicePast svc req (c.advance i a r s (next r)) := by
  obtain ⟨stage, hstands, hturn, -⟩ := h
  obtain ⟨stage', hmove, hstands'⟩ := hstands.advance hone.accepted hcall hperform
  have hj := hstands.between hrunning
  obtain ⟨hfree, -, -⟩ := hturn.of_between hj
  have hwaiting : stage i = .waiting := hmove.waiting haction
  have hne : i ≠ j := by
    rintro rfl
    rw [hwaiting] at hj
    cases hj
  rw [hwaiting] at hmove
  have hnone : c.shared.db.userByEmail? (req i).email = none := by
    rw [hone.email i]
    exact Classical.byContradiction fun hsome => hfree (emailTaken_iff.mpr hsome)
  have hdone : ∀ s e, (⟨a, r⟩ : Entry) ≠ ⟨.sql s, .error e⟩ := by
    intro s e hentry
    obtain ⟨fresh, -, hrun⟩ := hundisturbed.failed s e hentry
    obtain rfl : s = .selectUserIdByEmail email := Action.sql.inj ((congrArg Sigma.fst hentry).symm.trans haction)
    cases hrun
  obtain rfl := hmove.finds_free hnone hdone
  refine ⟨_, hstands', i, j, hne, ?_, ?_⟩
  · rw [Function.update_self]
    rfl
  · rw [Function.update_of_ne (Ne.symm hne)]
    exact RegisterStage.pastCheck_of_between hj

/-- A run in which no statement fails by itself looks the email up in turn, or lets two calls find it free. -/
theorem inTurn_or_twicePast (hone : svc.RegistersOne email req) {w : World} (hfree : ¬ EmailTaken email w.db)
    (hrun : svc.machine.Reaches (undisturbed svc req).Keeps (svc.start w fun i => .register (req i)) d) :
    svc.machine.Reaches (registersInTurn svc email req).Keeps (svc.start w fun i => .register (req i)) d ∨
    TwicePast svc req d := by
  induction hrun with
  | refl => exact Or.inl .refl
  | @tail c d hpast hstep ih =>
    obtain ⟨hmoves, hkeeps⟩ := hstep
    rcases ih with hinTurn | htwice
    · have hstate := inTurn_of_run hone hfree hinTurn
      cases hmoves with
      | idle hidle =>
        refine Or.inl (hinTurn.tail ⟨.idle hidle, fun e he => ?_, fun _ => trivial⟩)
        exact absurd he.symm (List.cons_ne_self _ _)
      | @call i a next r s hcall hperform =>
        have hundisturbed : Undisturbed svc (req i) c.shared ⟨a, r⟩ := hkeeps.event _ rfl
        by_cases hturn : LooksUpInTurn email c ⟨i, c.shared, a, r⟩
        · refine Or.inl (hinTurn.tail ⟨.call hcall hperform, fun e he => ?_, fun _ => trivial⟩)
          obtain ⟨rfl, -⟩ := List.cons.inj he
          exact ⟨hundisturbed, hturn⟩
        · obtain ⟨haction, hother⟩ := Classical.not_imp.mp hturn
          obtain ⟨f, hf⟩ := Classical.not_forall.mp hother
          obtain ⟨-, hrunning⟩ := Classical.not_imp.mp hf
          exact Or.inr (twicePast_of_lookup hone hstate hcall hperform hundisturbed haction
            (Classical.not_not.mp hrunning))
    · exact Or.inr (htwice.step hone.accepted hmoves)

/-- Where two calls have found the email free, not both end as they should. -/
theorem TwicePast.not_oneRegistered (h : TwicePast svc req d) (hcomplete : ∀ i, ¬ d.Running i) :
    ¬ OneRegistered email d := by
  intro hregistered
  obtain ⟨stage, hstands, i, j, hne, hi, hj⟩ := h
  have hwon (k : ℕ) (hk : (stage k).pastCheck = true) : ∃ user, d.calls k = .done (.ok (.user user)) := by
    cases hstage : stage k with
    | waiting => rw [hstage] at hk; cases hk
    | hashing => exact absurd (hstands.running (by rw [hstage]; rfl)).1 (hcomplete k)
    | inserting passwordHash => exact absurd (hstands.running (by rw [hstage]; rfl)).1 (hcomplete k)
    | ended result =>
      have hcall := hstands.calls k
      rw [hstage] at hcall hk
      rcases hregistered.results k result hcall with ⟨user, rfl⟩ | rfl
      · exact ⟨user, hcall⟩
      · cases hk
  obtain ⟨user, hended⟩ := hwon i hi
  obtain ⟨hunique, -⟩ := hregistered.one ⟨i, _, hended⟩
  exact hne (hunique.unique (hwon i hi) (hwon j hj))

end Run

/-- Registrations of a free email end as they should, with one user and the others told that the email is
taken, if the email is looked up only while no other call has begun and not ended; and a run that has ended
and in which no statement failed by itself does so only if it is such a run. -/
theorem one_registration (svc : AuthService) (email : String) (req : ℕ → RegisterRequest)
    (hone : svc.RegistersOne email req) (w : World) (hfree : w.db.userByEmail? email = none) :
    (∀ d, svc.machine.Reaches (registersInTurn svc email req).Keeps (svc.start w fun i => .register (req i)) d →
      OneRegistered email d) ∧
    ∀ d, svc.machine.Reaches (undisturbed svc req).Keeps (svc.start w fun i => .register (req i)) d →
    (∀ i, ¬ d.Running i) →
      (OneRegistered email d ↔
        svc.machine.Reaches (registersInTurn svc email req).Keeps (svc.start w fun i => .register (req i)) d) := by
  have hfree' : ¬ EmailTaken email w.db := fun htaken => emailTaken_iff.mp htaken hfree
  have hinTurn (d : System)
      (hrun : svc.machine.Reaches (registersInTurn svc email req).Keeps
        (svc.start w fun i => .register (req i)) d) :
      OneRegistered email d := (inTurn_of_run hone hfree' hrun).oneRegistered hone
  refine ⟨hinTurn, fun d hrun hcomplete => ⟨fun hregistered => ?_, hinTurn d⟩⟩
  rcases inTurn_or_twicePast hone hfree' hrun with hkept | htwice
  · exact hkept
  · exact absurd hregistered (htwice.not_oneRegistered hcomplete)

section Runs

open Reference

/-- A registration. -/
def someRegistration : RegisterRequest := ⟨"a@b.c", "Abcdefg1", "Abcdefg1", "A"⟩

/-- All requests are registrations of the one email that get past the checks. -/
theorem registersOne_someRegistration : service.RegistersOne "a@b.c" fun _ => someRegistration where
  email _ := rfl
  accepted _ := (by decide +kernel : service.passwordAccepted someRegistration.password = true)
  fits _ :=
    ⟨(by decide : someRegistration.email.length ≤ 255), "A",
      (by decide : varchar 100 someRegistration.name = some "A")⟩

/-- The entry is no failure for which there is no cause, and the salt is always the same. -/
def explained (w : World) : Entry → Bool
  | ⟨.sql s, .error e⟩ =>
    w.db.users.rows.all (fun row => row.id ≠ 7) &&
      match s.run 7 w.now w.db with
      | .error e' => e = e'
      | .ok _ => false
  | ⟨.salt, salt⟩ => (salt : String) = "salt"
  | _ => true

/-- An entry that is explained is undisturbed. -/
theorem undisturbed_of_explained {w : World} {x : Entry} (h : explained w x = true) :
    Undisturbed service someRegistration w x := by
  constructor
  · intro s e hx
    subst hx
    obtain ⟨hids, hrun⟩ := Bool.and_eq_true_iff.mp h
    refine ⟨7, fun row hrow => of_decide_eq_true (List.all_eq_true.mp hids row hrow), ?_⟩
    cases hres : s.run 7 w.now w.db with
    | ok out =>
      rw [hres] at hrun
      cases hrun
    | error e' =>
      rw [hres] at hrun
      rw [of_decide_eq_true hrun]
  · intro salt hx
    subst hx
    obtain rfl : salt = "salt" := of_decide_eq_true h
    have hargon : service.argon2 "salt" someRegistration.password = some (argon2Hash "salt" "Abcdefg1") := by
      decide +kernel
    have hfits : varchar 255 (argon2Hash "salt" "Abcdefg1") = some (argon2Hash "salt" "Abcdefg1") := by
      decide +kernel
    exact ⟨_, _, hargon, hfits⟩

/-- Every failure has a cause, and the email is looked up in turn. -/
def explainedInTurn : Rule ℕ Action Action.Reply Failure Response World :=
  Rule.ofEvent fun c e => explained c.shared e.entry = true ∧ LooksUpInTurn "a@b.c" c e

instance (c : System) (e : LogEvent) : Decidable (explainedInTurn.event c e) :=
  inferInstanceAs (Decidable (_ ∧ (_ → _)))

/-- The state after a schedule of registrations. -/
def registeredBy (schedule : List (Machine.Move ℕ Choice EnvMove)) : System :=
  service.executor.play schedule (service.start world fun _ => .register someRegistration)

/-- Two registrations come one after the other, and the second one finds the email taken. -/
theorem one_registration_in_turn :
    (registeredBy (moves 0 3 1 ++ moves 1 1 2)).calls 1 = .done (.error (.err .emailExists)) ∧
    OneRegistered "a@b.c" (registeredBy (moves 0 3 1 ++ moves 1 1 2)) := by
  have hallows : service.executor.Allows explainedInTurn (fun _ => True) (moves 0 3 1 ++ moves 1 1 2)
      (service.start world fun _ => .register someRegistration) := by decide +kernel
  have hended : ((registeredBy (moves 0 3 1 ++ moves 1 1 2)).calls 1).result? = some
    (.error (.err .emailExists)) := by
    decide +kernel
  have hkept (c d : System) (hkeeps : explainedInTurn.Keeps c d) :
      (registersInTurn service "a@b.c" fun _ => someRegistration).Keeps c d := by
    refine ⟨fun e he => ?_, fun _ => trivial⟩
    obtain ⟨hexplained, hturn⟩ := hkeeps.event e he
    exact ⟨undisturbed_of_explained hexplained, hturn⟩
  have hrun := (hallows.reaches fun _ _ _ => trivial).mono hkept
  exact ⟨result?_eq_some.mp hended,
    (one_registration service "a@b.c" _ registersOne_someRegistration world rfl).1 _ hrun⟩

/-- Two registrations look the email up before either inserts the row: the second insertion is an error of the
database. -/
theorem registration_lost : ∃ d e, service.machine.Reaches (fun _ _ => True)
      (service.start world fun _ => .register someRegistration) d ∧
    (d.calls 0).succeeded = true ∧ d.calls 1 = .done (.error (.err (.database e))) ∧ ¬ OneRegistered "a@b.c" d := by
  refine ⟨registeredBy (moves 0 1 1 ++ moves 1 1 2 ++ moves 0 2 1 ++ moves 1 2 2),
    databaseError "duplicate key value violates unique constraint", service.executor.play_reaches _ _, ?_⟩
  have hfacts :
      ((registeredBy (moves 0 1 1 ++ moves 1 1 2 ++ moves 0 2 1 ++ moves 1 2 2)).calls 0).succeeded = true ∧
      ((registeredBy (moves 0 1 1 ++ moves 1 1 2 ++ moves 0 2 1 ++ moves 1 2 2)).calls 1).result? =
        some (.error (.err (.database (databaseError "duplicate key value violates unique constraint")))) := by
        decide +kernel
  obtain ⟨hsucceeded, hfailed⟩ := hfacts
  have hdone := result?_eq_some.mp hfailed
  refine ⟨hsucceeded, hdone, fun hregistered => ?_⟩
  rcases hregistered.results 1 _ hdone with ⟨user, hok⟩ | hexists
  · cases hok
  · cases hexists

end Runs

end RustPressAuth
