import RustPressAuth.Atomic.Representation
import RustPressAuth.EmailVerification
import RustPressAuth.SqlStatements

/-!
# Runs on SQL tables

The requests can be run on the SQL tables themselves, each statement executing its text.
These runs are the runs on the database, and the tables agree with the migrated schema all
the time. So whatever holds of the requests on the database holds of them on the tables.
-/

namespace RustPressAuth

open Atomic Sql

/-- The tables and the one clock. -/
structure SqlWorld where
  tables : SqlTables
  clock : ℕ

/-- The instant the clock shows. -/
def SqlWorld.now (w : SqlWorld) : Instant := w.clock

/-- The world with its database as SQL tables. -/
def World.stored (w : World) : SqlWorld := ⟨w.db.tables, w.clock⟩

/-- `UPDATE users SET status = $2 WHERE id = $1`, by which an administrator sets the status of a user. -/
def setStatusCommand : Command TableName ColumnName :=
  .update .users [(.status, .param 2)] (.eq (.column .id) (.param 1))

/-- The tables after a move of the environment. -/
def EnvMove.applyToTables (w : SqlWorld) : EnvMove → SqlWorld
  | .tick elapsed => { w with clock := w.clock + elapsed }
  | .setStatus id status =>
    match authSchema.exec ⟨[some (.uuid id), some (.text status.label)], w.now, 0⟩ w.tables setStatusCommand with
    | .ok (_, tables) => { w with tables := tables }
    | .error _ => w

namespace AuthService

variable (svc : AuthService)

/-- The reply to an action and the tables it leaves. -/
def execOnTables (w : SqlWorld) (choice : Choice) : (a : Action) → a.Reply × SqlWorld
  | .now => (w.now, w)
  | .uuid => (choice.uuid, w)
  | .randomBytes => (choice.bytes, w)
  | .salt => (choice.salt, w)
  | .sign payload => (svc.prims.jwtEncode svc.config.jwtSecret payload, w)
  | .verifyPassword password hash => (svc.comparePassword password hash, w)
  | .sql s =>
    match choice.fault with
    | some e => (.error e, w)
    | none =>
      let (reply, tables) := s.execute choice.uuid w.now w.tables
      (reply, { w with tables := tables })

/-- The service on SQL tables. -/
def tableMachine : Machine Action Action.Reply SqlWorld where
  perform a w r w' := ∃ choice, svc.execOnTables w choice a = (r, w')
  idle w w' := ∃ m : EnvMove, m.applyToTables w = w'

/-- The service on SQL tables, driven by choices. -/
def tableExecutor : Machine.Executor svc.tableMachine Choice EnvMove where
  exec a choice w := svc.execOnTables w choice a
  env m w := m.applyToTables w
  exec_sound _ choice _ := ⟨choice, rfl⟩
  env_sound m _ := ⟨m, rfl⟩

end AuthService

/-- A state of all requests on SQL tables. -/
abbrev TableSystem := Config ℕ Action Action.Reply Failure HttpReply SqlWorld

/-- The requests of a run on SQL tables, none of them begun. -/
def Http.startOnTables (http : Http) (svc : AuthService) (w : SqlWorld) (req : ℕ → HttpRequest) : TableSystem :=
  Config.start w fun i => http.createRoutes svc (req i)

variable {svc : AuthService} {w : World}

/-- An action does to the tables what it does to the database. -/
theorem AuthService.execOnTables_stored (hconforms : w.db.Conforms) (choice : Choice) (a : Action) :
    svc.execOnTables w.stored choice a = ((svc.exec w choice a).1, (svc.exec w choice a).2.stored) := by
  cases a with
  | sql s =>
    simp only [execOnTables, exec]
    cases choice.fault with
    | some e => rfl
    | none =>
      have htext := s.execute_eq hconforms choice.uuid w.now
      simp only [World.stored, SqlWorld.now, World.now, Option.none_or] at htext ⊢
      rw [htext]
      cases s.refusal? with
      | some e => rfl
      | none =>
        cases s.run choice.uuid w.clock w.db with
        | ok outcome => rfl
        | error e => rfl
  | _ => rfl

/-- An action keeps the tables in agreement with the schema. -/
theorem AuthService.exec_conforms (hconforms : w.db.Conforms) (choice : Choice) (a : Action) :
    (svc.exec w choice a).2.db.Conforms := by
  cases a with
  | sql s =>
    simp only [exec]
    cases choice.fault.or s.refusal? with
    | some e => exact hconforms
    | none =>
      cases hrun : s.run choice.uuid w.now w.db with
      | ok outcome => exact Statement.run_conforms hconforms hrun
      | error e => exact hconforms
  | _ => exact hconforms

/-- The command of an administrator on the tables of a database. -/
theorem exec_setStatus {db : Db} (hconforms : db.Conforms) (now : Instant) (id : Uuid) (status : UserStatus) :
    ∃ rows, authSchema.exec ⟨[some (.uuid id), some (.text status.label)], now, 0⟩ db.tables setStatusCommand =
      .ok (rows,
        (db.updateUser id (fun u => { u with status := status }) (fun _ => rfl) (fun _ => rfl)).tables) := by
  refine ⟨_, Statement.exec_updateUser hconforms (f := fun u => { u with status := status }) (fun _ => rfl)
    (fun _ => rfl) rfl (by decide) fun u _ _ =>
      ⟨[(.status, some (.label status.label))], by cases status <;> rfl, ?_⟩⟩
  funext c
  cases c <;> rfl

/-- A move of the environment does to the tables what it does to the database. -/
theorem EnvMove.applyToTables_stored (hconforms : w.db.Conforms) (m : EnvMove) :
    m.applyToTables w.stored = (m.apply w).stored ∧ (m.apply w).db.Conforms := by
  cases m with
  | tick elapsed => exact ⟨rfl, hconforms⟩
  | setStatus id status =>
    obtain ⟨rows, hexec⟩ := exec_setStatus hconforms w.now id status
    refine ⟨?_, Catalog.exec_valid hconforms hexec⟩
    simp only [applyToTables, World.stored, SqlWorld.now, World.now] at hexec ⊢
    rw [hexec]
    rfl

/-- The service on SQL tables is the service on the database, represented. -/
theorem AuthService.tableMachine_represents (svc : AuthService) :
    svc.tableMachine.Represents svc.machine World.stored fun w => w.db.Conforms where
  perform a w r w' hconforms := by
    constructor
    · rintro ⟨choice, hexec⟩
      rw [execOnTables_stored hconforms] at hexec
      obtain ⟨rfl, rfl⟩ := Prod.mk.inj hexec
      exact ⟨_, ⟨choice, rfl⟩, rfl⟩
    · rintro ⟨t, ⟨choice, hexec⟩, rfl⟩
      exact ⟨choice, by rw [execOnTables_stored hconforms, hexec]⟩
  idle w w' hconforms := by
    constructor
    · rintro ⟨m, rfl⟩
      exact ⟨_, ⟨m, rfl⟩, (m.applyToTables_stored hconforms).1.symm⟩
    · rintro ⟨t, ⟨m, rfl⟩, rfl⟩
      exact ⟨m, (m.applyToTables_stored hconforms).1⟩
  performGood a w r t hconforms hperform := by
    obtain ⟨choice, hexec⟩ := hperform
    have hgood : (svc.exec w choice a).2.db.Conforms := exec_conforms hconforms choice a
    rw [hexec] at hgood
    exact hgood
  idleGood w t hconforms hidle := by
    obtain ⟨m, rfl⟩ := hidle
    exact (m.applyToTables_stored hconforms).2

section Runs

open Reference

/-- Two requests to register one email, on the tables as the migrations leave them. -/
def registeredOnTables : TableSystem :=
  verifyingService.tableExecutor.play (moves 0 7 1 ++ moves 1 1 2)
    (verifyingHttp.startOnTables verifyingService world.stored registrations)

end Runs

end RustPressAuth
