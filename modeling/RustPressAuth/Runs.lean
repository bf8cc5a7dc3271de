import RustPressAuth.Atomic.Schedule
import RustPressAuth.Persistence
import RustPressAuth.Service

/-!
# Runs of the service

The shared state of all calls is the database and the clock. A schedule entry resolves
what the code leaves open: random values, and whether a statement fails. Between
actions time may pass, and an administrator may set the status of a user.
-/

namespace RustPressAuth

open Atomic

/-- The database and the one clock, in microseconds since the Unix epoch. -/
structure World where
  db : Db
  clock : ℕ

/-- The instant the clock shows. -/
def World.now (w : World) : Instant := w.clock

/-- What an action leaves open: the random values drawn, and the error of a failing statement. -/
structure Choice where
  uuid : Uuid := 0
  bytes : Vector UInt8 32 := Vector.replicate 32 0
  salt : String := ""
  fault : Option DbError := none

/-- A move of the environment. -/
inductive EnvMove where
  /-- Time passes. -/
  | tick (elapsed : ℕ)
  /-- An administrator sets the status of a user. -/
  | setStatus (id : Uuid) (status : UserStatus)

/-- The world after a move of the environment. -/
def EnvMove.apply (w : World) : EnvMove → World
  | .tick elapsed => { w with clock := w.clock + elapsed }
  | .setStatus id status =>
    { w with db := w.db.updateUser id (fun u => { u with status := status }) (fun _ => rfl) (fun _ => rfl) }

namespace AuthService

variable (svc : AuthService)

/-- The reply to an action and the world it leaves. -/
def exec (w : World) (choice : Choice) : (a : Action) → a.Reply × World
  | .now => (w.now, w)
  | .uuid => (choice.uuid, w)
  | .randomBytes => (choice.bytes, w)
  | .salt => (choice.salt, w)
  | .sign payload => (svc.prims.jwtEncode svc.config.jwtSecret payload, w)
  | .verifyPassword password hash => (svc.comparePassword password hash, w)
  | .sql s =>
    match choice.fault.or s.refusal? with
    | some e => (.error e, w)
    | none =>
      match s.run choice.uuid w.now w.db with
      | .error e => (.error e, w)
      | .ok (rows, db) => (.ok rows, { w with db := db })

/-- All a service can do, and all that can happen around it. -/
def machine : Machine Action Action.Reply World where
  perform a w r w' := ∃ choice, svc.exec w choice a = (r, w')
  idle w w' := ∃ m : EnvMove, m.apply w = w'

/-- The machine driven by choices. -/
def executor : Machine.Executor svc.machine Choice EnvMove where
  exec a choice w := svc.exec w choice a
  env m w := m.apply w
  exec_sound _ choice _ := ⟨choice, rfl⟩
  env_sound m _ := ⟨m, rfl⟩

end AuthService

/-- A call of an operation of the plugin. -/
inductive Request where
  | register (req : RegisterRequest)
  | login (req : LoginRequest) (ipAddress userAgent : Option String)
  | logout (refreshToken : String)
  | refreshTokens (refreshToken : String) (ipAddress userAgent : Option String)
  | forgotPassword (email : String)
  | resetPassword (req : ResetPasswordRequest)
  | changePassword (userId : Uuid) (req : ChangePasswordRequest)
  | createEmailVerification (userId : Uuid)
  | resendVerification (userId : Uuid)
  | verifyEmail (token : String)
deriving DecidableEq, Repr

/-- What a successful call returns. -/
inductive Response where
  | unit
  | user (user : User)
  | session (response : AuthResponse)
  | tokens (response : TokenResponse)
  | token (token : String)
  | verification (token : Option String)
deriving DecidableEq, Repr

/-- Tag the value of a computation. -/
def answer {α : Type} (tag : α → Response) (p : AuthM α) : AuthM Response := do
  let v ← p
  pure (tag v)

/-- The computation a request starts. -/
def AuthService.serve (svc : AuthService) : Request → AuthM Response
  | .register req => answer .user (svc.register req)
  | .login req ipAddress userAgent => answer .session (svc.login req ipAddress userAgent)
  | .logout refreshToken => answer (fun _ => .unit) (svc.logout refreshToken)
  | .refreshTokens refreshToken ipAddress userAgent =>
    answer .tokens (svc.refreshTokens refreshToken ipAddress userAgent)
  | .forgotPassword email => answer .token (svc.forgotPassword email)
  | .resetPassword req => answer (fun _ => .unit) (svc.resetPassword req)
  | .changePassword userId req => answer (fun _ => .unit) (svc.changePassword userId req)
  | .createEmailVerification userId => answer .token (svc.createEmailVerification userId)
  | .resendVerification userId => answer .verification (svc.resendVerification userId)
  | .verifyEmail token => answer .user (svc.verifyEmail token)

/-- A state of the whole system: the world, the calls and the log. -/
abbrev System := Config ℕ Action Action.Reply Failure Response World

/-- An event of a run of the system. -/
abbrev LogEvent := Event ℕ Action Action.Reply World

/-- The calls a run is about, none of them begun. -/
def AuthService.start (svc : AuthService) (w : World) (req : ℕ → Request) : System :=
  Config.start w fun i => svc.serve (req i)

/-- The worlds a run moves through: rows persist and the clock does not go back. -/
structure World.Precedes (w w' : World) : Prop where
  db : w.db.Evolves w'.db
  clock : w.clock ≤ w'.clock

/-- A world precedes itself. -/
theorem World.Precedes.refl (w : World) : w.Precedes w := ⟨Db.Evolves.refl _, Nat.le_refl _⟩

/-- What precedes an earlier world precedes a later one. -/
theorem World.Precedes.trans (u v w : World) (h₁ : u.Precedes v) (h₂ : v.Precedes w) :
    u.Precedes w := ⟨h₁.db.trans h₂.db, Nat.le_trans h₁.clock h₂.clock⟩

/-- The clock does not go back. -/
theorem World.Precedes.now_le {w w' : World} (h : w.Precedes w') : w.now ≤ w'.now := Int.ofNat_le.mpr h.clock

/-- What one action may do, by its kind: only statements touch the database. -/
theorem AuthService.perform_sql {svc : AuthService} {s : Statement} {w w' : World}
    {r : Except DbError s.Row} (h : svc.machine.perform (.sql s) w r w') :
    (∃ e, r = .error e ∧ w' = w) ∨
      ∃ rows fresh db, r = .ok rows ∧ s.run fresh w.now w.db = .ok (rows, db) ∧ w' = { w with db := db } := by
  obtain ⟨choice, hexec⟩ := h
  simp only [exec] at hexec
  split at hexec
  · cases hexec
    exact Or.inl ⟨_, rfl, rfl⟩
  · split at hexec
    · cases hexec
      exact Or.inl ⟨_, rfl, rfl⟩
    · rename_i rows db hrun
      cases hexec
      exact Or.inr ⟨rows, _, db, rfl, hrun, rfl⟩

/-- A statement that did not fail ran on the database. -/
theorem AuthService.perform_ok {svc : AuthService} {s : Statement} {w w' : World} {rows : s.Row}
    (h : svc.machine.perform (.sql s) w (.ok rows) w') :
    ∃ fresh db, s.run fresh w.now w.db = .ok (rows, db) ∧ w' = { w with db := db } := by
  rcases perform_sql h with ⟨e, herror, -⟩ | ⟨rows', fresh, db, hok, hrun, hw⟩
  · cases herror
  · cases hok
    exact ⟨fresh, db, hrun, hw⟩

/-- The server accepted the parameters of a statement that did not fail. -/
theorem AuthService.perform_accepted {svc : AuthService} {s : Statement} {w w' : World} {rows : s.Row}
    (h : svc.machine.perform (.sql s) w (.ok rows) w') : s.refusal? = none := by
  obtain ⟨choice, hexec⟩ := h
  simp only [exec] at hexec
  split at hexec
  · cases hexec
  · rename_i haccepted
    exact (Option.or_eq_none_iff.mp haccepted).2

/-- Actions other than statements leave the world as it is. -/
theorem AuthService.perform_local {svc : AuthService} {a : Action} {w w' : World} {r : a.Reply}
    (h : svc.machine.perform a w r w') (hlocal : ∀ s, a ≠ .sql s) : w' = w := by
  obtain ⟨choice, hexec⟩ := h
  cases a with
  | sql s => exact absurd rfl (hlocal s)
  | _ => cases hexec; rfl

/-- Rows persist and the clock does not go back, whatever happens. -/
theorem AuthService.machine_monotone (svc : AuthService) : svc.machine.Monotone World.Precedes where
  refl := World.Precedes.refl
  trans := World.Precedes.trans
  perform a w r w' h := by
    by_cases hsql : ∃ s, a = .sql s
    · obtain ⟨s, rfl⟩ := hsql
      rcases perform_sql h with ⟨e, -, rfl⟩ | ⟨rows, fresh, db, -, hrun, rfl⟩
      · exact World.Precedes.refl w'
      · exact ⟨Statement.run_evolves hrun, Nat.le_refl _⟩
    · rw [perform_local h fun s hs => hsql ⟨s, hs⟩]
      exact World.Precedes.refl w
  idle w w' h := by
    obtain ⟨m, rfl⟩ := h
    cases m with
    | tick elapsed => exact ⟨Db.Evolves.refl _, Nat.le_add_right _ _⟩
    | setStatus id status =>
      exact ⟨Db.evolves_updateUsers _ fun _ _ => ⟨rfl, rfl, rfl, rfl, fun hv => hv⟩, Nat.le_refl _⟩

end RustPressAuth
