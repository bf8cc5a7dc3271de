import RustPressAuth.Atomic.Schedule
import RustPressAuth.Cells.Writers
import RustPressAuth.Reference

/-!
# The lifecycle of the plugin

Activation stores the database pool, the configuration, the service and the state, each
behind a lock of its own, so in four writes; deactivation clears them in four writes, in
another order. Between the writes of one call those of another one may come in, and then
the plugin can be left with fields of both.

It is not where no write is stale: a call that has begun to write does not overwrite, with
another value, a field that the call which was the last to begin has written. Then, whenever
no call is in progress, the plugin is either active, with a service built from the stored
pool and the stored valid configuration, or inactive and empty.
-/

namespace RustPressAuth

open Atomic Program Machine Cells

/-- Plugin state enumeration. -/
inductive PluginState where
  | inactive
  | active
  | error
deriving DecidableEq, Repr

/-- A service together with the database pool it was built with. -/
structure PoolService (Pool : Type) where
  db : Pool
  service : AuthService

/-- `AuthService::new`. -/
def PoolService.new {Pool : Type} (prims : Primitives) (db : Pool) (config : AuthConfig) : PoolService Pool :=
  ⟨db, ⟨config, prims⟩⟩

/-- The fields of the plugin that a lock guards. -/
inductive PluginField where
  | state
  | config
  | authService
  | db
deriving DecidableEq, Repr

/-- What a field holds. -/
def PluginField.Contents (Pool : Type) : PluginField → Type
  | state => PluginState
  | config => Option AuthConfig
  | authService => Option (PoolService Pool)
  | db => Option Pool

/-- The plugin, with the contents of its locks. -/
structure AuthPlugin (Pool : Type) where
  state : PluginState
  config : Option AuthConfig
  authService : Option (PoolService Pool)
  db : Option Pool

namespace AuthPlugin

variable {Pool : Type}

/-- A new plugin instance. -/
def new : AuthPlugin Pool := ⟨.inactive, none, none, none⟩

/-- A plugin as an activation leaves it. -/
def activated (prims : Primitives) (db : Pool) (config : AuthConfig) : AuthPlugin Pool :=
  ⟨.active, some config, some (.new prims db config), some db⟩

/-- What a field holds. -/
def contents (p : AuthPlugin Pool) : (f : PluginField) → f.Contents Pool
  | .state => p.state
  | .config => p.config
  | .authService => p.authService
  | .db => p.db

/-- The plugin after a write to one field. -/
def store (p : AuthPlugin Pool) : (f : PluginField) → f.Contents Pool → AuthPlugin Pool
  | .state, state => { p with state := state }
  | .config, config => { p with config := config }
  | .authService, authService => { p with authService := authService }
  | .db, db => { p with db := db }

/-- Storing a field changes its contents and no others. -/
theorem contents_store (p : AuthPlugin Pool) (f : PluginField) (value : f.Contents Pool) :
    (p.store f value).contents = Function.update p.contents f value := by
  funext g
  cases f <;> cases g <;> rfl

/-- Plugins with the same contents are the same. -/
theorem contents_inj {p q : AuthPlugin Pool} (h : p.contents = q.contents) : p = q := by
  obtain ⟨state, config, authService, db⟩ := p
  obtain rfl : state = q.state := congrFun h .state
  obtain rfl : config = q.config := congrFun h .config
  obtain rfl : authService = q.authService := congrFun h .authService
  obtain rfl : db = q.db := congrFun h .db
  rfl

end AuthPlugin

/-- What a call of the lifecycle does in one step; the statements of the migrations touch no field. -/
inductive PluginAction (Pool : Type) where
  | runMigrations (db : Pool)
  | fromEnv
  | write (f : PluginField) (value : f.Contents Pool)

/-- The reply to an action. -/
def PluginAction.Reply {Pool : Type} : PluginAction Pool → Type
  | runMigrations _ => Except DbError Unit
  | fromEnv => Option AuthConfig
  | write _ _ => Unit

/-- How a call fails. -/
inductive LifecycleError where
  | failed (e : AuthError)
  | panicked
deriving DecidableEq, Repr

/-- A call of the lifecycle. -/
abbrev PluginM (Pool : Type) := Program (PluginAction Pool) PluginAction.Reply LifecycleError

namespace PluginM

variable {Pool : Type}

/-- Write a field. -/
def write (f : PluginField) (value : f.Contents Pool) : PluginM Pool Unit :=
  Program.perform (PluginAction.write f value)

/-- `run_migrations`, with an error of the database. -/
def runMigrations (db : Pool) : PluginM Pool Unit := do
  let reply ← Program.perform (PluginAction.runMigrations db)
  match (reply : Except DbError Unit) with
  | .ok () => pure ()
  | .error e => Program.fail (.failed (.database e))

/-- `AuthConfig::from_env`, which panics without a secret. -/
def fromEnv : PluginM Pool AuthConfig := do
  let loaded ← Program.perform (PluginAction.fromEnv : PluginAction Pool)
  match (loaded : Option AuthConfig) with
  | some config => pure config
  | none => Program.fail .panicked

/-- Validate the configuration. -/
def validate (config : AuthConfig) : PluginM Pool Unit :=
  match config.validate with
  | .ok () => pure ()
  | .error e => Program.fail (.failed e)

/-- Activate the plugin. -/
def activate (prims : Primitives) (db : Pool) : PluginM Pool Unit := do
  let _ ← runMigrations db
  let config ← fromEnv
  let _ ← validate config
  let authService := PoolService.new prims db config
  let _ ← write .db (some db)
  let _ ← write .config (some config)
  let _ ← write .authService (some authService)
  write .state .active

/-- Deactivate the plugin. -/
def deactivate : PluginM Pool Unit := do
  let _ ← write .authService none
  let _ ← write .config none
  let _ ← write .db none
  write .state .inactive

end PluginM

/-- A call of the lifecycle. -/
inductive PluginRequest (Pool : Type) where
  | activate (db : Pool)
  | deactivate

/-- The computation a request starts. -/
def PluginRequest.serve {Pool : Type} (prims : Primitives) : PluginRequest Pool → PluginM Pool Unit
  | activate db => PluginM.activate prims db
  | deactivate => PluginM.deactivate

/-- The plugin, and the environment of the process. -/
structure Host (Pool : Type) where
  plugin : AuthPlugin Pool
  env : Environment

/-- The reply to an action and the host it leaves; whether the migrations fail is left open. -/
def PluginAction.exec {Pool : Type} (migrated : Except DbError Unit) (s : Host Pool) :
    (a : PluginAction Pool) → a.Reply × Host Pool
  | runMigrations _ => (migrated, s)
  | fromEnv => (AuthConfig.fromEnv s.env, s)
  | write f value => ((), { s with plugin := s.plugin.store f value })

/-- Each write is one step, and the environment may change at any time. -/
def lifecycle (Pool : Type) : Machine (PluginAction Pool) PluginAction.Reply (Host Pool) where
  perform a s r s' := ∃ migrated, a.exec migrated s = (r, s')
  idle s s' := ∃ env, s' = { s with env := env }

/-- A state of the whole system of calls. -/
abbrev PluginSystem (Pool : Type) := Config ℕ (PluginAction Pool) PluginAction.Reply LifecycleError Unit (Host Pool)

/-- The calls a run is about, none of them begun. -/
def PluginRequest.start {Pool : Type} (prims : Primitives) (s : Host Pool) (req : ℕ → PluginRequest Pool) :
    PluginSystem Pool :=
  Config.start s fun i => (req i).serve prims

/-- The plugin is active with everything stored, or inactive with nothing; and the service of an active one
was built from the stored pool and the stored configuration, which is valid. -/
structure AuthPlugin.Consistent {Pool : Type} (prims : Primitives) (p : AuthPlugin Pool) : Prop where
  active : p.state = .active ↔ p.db.isSome = true ∧ p.config.isSome = true ∧ p.authService.isSome = true
  inactive : p.state = .inactive ↔ p.db = none ∧ p.config = none ∧ p.authService = none
  built : p.state = .active → ∃ db config, p.db = some db ∧ p.config = some config ∧
    p.authService = some (.new prims db config) ∧ config.validate = .ok ()

/-- What one call leaves when it runs alone. -/
def AuthPlugin.LeftByOne {Pool : Type} (prims : Primitives) (p : AuthPlugin Pool) : Prop :=
  p = .new ∨ ∃ db config, config.validate = .ok () ∧ p = .activated prims db config

/-- What one call leaves is consistent. -/
theorem AuthPlugin.LeftByOne.consistent {Pool : Type} {prims : Primitives} {p : AuthPlugin Pool}
    (h : p.LeftByOne prims) :
    p.Consistent prims := by
  rcases h with rfl | ⟨db, config, hvalid, rfl⟩
  · exact ⟨by simp [AuthPlugin.new], by simp [AuthPlugin.new], fun h => by cases h⟩
  · refine ⟨by simp [AuthPlugin.activated], by simp [AuthPlugin.activated], fun _ => ?_⟩
    exact ⟨db, config, rfl, rfl, rfl, hvalid⟩

/-- The action writes a field. -/
def PluginAction.isWrite {Pool : Type} : PluginAction Pool → Bool
  | write _ _ => true
  | _ => false

/-- Where a call stands. -/
inductive LifecycleStage (Pool : Type) where
  | migrating (db : Pool)
  | loading (db : Pool)
  | writing (target : AuthPlugin Pool) (rest : List PluginField)
  | failed (e : LifecycleError)

namespace LifecycleStage

variable {Pool : Type}

/-- The writes of these fields. -/
def writeAll (target : AuthPlugin Pool) : List PluginField → PluginM Pool Unit
  | [] => pure ()
  | f :: rest => do
    let _ ← PluginM.write f (target.contents f)
    writeAll target rest

/-- What is left of the call. -/
def program (prims : Primitives) : LifecycleStage Pool → PluginM Pool Unit
  | migrating db => PluginM.activate prims db
  | loading db => do
    let config ← PluginM.fromEnv
    let _ ← PluginM.validate config
    writeAll (.activated prims db config) [.db, .config, .authService, .state]
  | writing target rest => writeAll target rest
  | failed e => Program.fail e

/-- A call that writes leaves what a call running alone would, and has written all fields but the rest. -/
def Fits (prims : Primitives) (h : History (PluginAction Pool) PluginAction.Reply) : LifecycleStage Pool → Prop
  | writing target rest => target.LeftByOne prims ∧ ∀ f, f ∉ rest → ⟨.write f (target.contents f), ()⟩ ∈ h
  | _ => True

end LifecycleStage

section Stages

variable {Pool : Type} {prims : Primitives} {stage : LifecycleStage Pool} {a : PluginAction Pool}
  {next : a.Reply → PluginM Pool Unit} {h : History (PluginAction Pool) PluginAction.Reply}

open LifecycleStage

/-- A call writes its next field. -/
theorem LifecycleStage.fits_write {target : AuthPlugin Pool} {f : PluginField} {rest : List PluginField}
    (hfits : (writing target (f :: rest)).Fits prims h) :
    (writing target rest).Fits prims (⟨.write f (target.contents f), ()⟩ :: h) := by
  refine ⟨hfits.1, fun g hg => ?_⟩
  by_cases heq : g = f
  · subst heq
    exact List.mem_cons_self
  · apply List.mem_cons_of_mem
    apply hfits.2
    rw [List.mem_cons, not_or]
    exact ⟨heq, hg⟩

/-- One more action takes a call to another stage. -/
theorem LifecycleStage.exists_next (hcall : stage.program prims = .act a next) (hfits : stage.Fits prims h)
    (r : a.Reply) :
    ∃ stage' : LifecycleStage Pool, next r = stage'.program prims ∧ stage'.Fits prims (⟨a, r⟩ :: h) := by
  cases stage with
  | migrating db =>
    cases hcall
    cases r with
    | ok done => exact ⟨.loading db, rfl, trivial⟩
    | error e => exact ⟨.failed (.failed (.database e)), rfl, trivial⟩
  | loading db =>
    cases hcall
    cases r with
    | none => exact ⟨.failed .panicked, rfl, trivial⟩
    | some config =>
      cases hvalid : config.validate with
      | ok done =>
        refine ⟨.writing (.activated prims db config) [.db, .config, .authService, .state], ?_,
          Or.inr ⟨db, config, hvalid, rfl⟩, ?_⟩
        · change (PluginM.validate config >>= fun _ => writeAll _ _) = _
          rw [PluginM.validate, hvalid]
          rfl
        · intro f hf
          cases f <;> simp at hf
      | error e =>
        refine ⟨.failed (.failed e), ?_, trivial⟩
        change (PluginM.validate config >>= fun _ => writeAll _ _) = _
        rw [PluginM.validate, hvalid]
        rfl
  | writing target rest =>
    cases rest with
    | nil => cases hcall
    | cons f rest =>
      cases hcall
      exact ⟨.writing target rest, rfl, fits_write hfits⟩
  | failed e => cases hcall

/-- Only a call that is to write a field does so. -/
theorem LifecycleStage.eq_writing (hcall : stage.program prims = .act a next) (ha : a.isWrite = true) :
    ∃ target f rest, stage = writing target (f :: rest) := by
  cases stage with
  | migrating db => cases hcall; cases ha
  | loading db => cases hcall; cases ha
  | writing target rest =>
    cases rest with
    | nil => cases hcall
    | cons f rest => exact ⟨target, f, rest, rfl⟩
  | failed e => cases hcall

/-- Every call stands somewhere, whatever it has done. -/
theorem PluginRequest.exists_stage {req : PluginRequest Pool} {p : PluginM Pool Unit}
    (hleads : (req.serve prims).LeadsTo h p) :
    ∃ stage : LifecycleStage Pool, p = stage.program prims ∧ stage.Fits prims h := by
  induction hleads with
  | start =>
    cases req with
    | activate db => exact ⟨.migrating db, rfl, trivial⟩
    | deactivate =>
      refine ⟨.writing .new [.authService, .config, .db, .state], rfl, Or.inl rfl, ?_⟩
      intro f hf
      cases f <;> simp at hf
  | act hact ih =>
    obtain ⟨stage, hcall, hfits⟩ := ih
    exact stage.exists_next hcall.symm hfits _

end Stages

/-- An event of a call of the lifecycle. -/
abbrev PluginEvent (Pool : Type) := Event ℕ (PluginAction Pool) PluginAction.Reply (Host Pool)

section Begun

variable {Pool : Type} {i : ℕ} {e : PluginEvent Pool} {log : List (PluginEvent Pool)}

/-- The call has written a field. -/
def HasWritten (i : ℕ) (log : List (PluginEvent Pool)) : Prop := ∃ e ∈ log, e.caller = i ∧ e.action.isWrite = true

instance (i : ℕ) (log : List (PluginEvent Pool)) : Decidable (HasWritten i log) :=
  inferInstanceAs (Decidable (∃ e ∈ log, e.caller = i ∧ e.action.isWrite = true))

/-- The call that was the last to begin to write. -/
def lastToBegin : List (PluginEvent Pool) → Option ℕ
  | [] => none
  | e :: log => if e.action.isWrite = true ∧ ¬ HasWritten e.caller log then some e.caller else lastToBegin log

/-- Another action than a write begins nothing. -/
theorem lastToBegin_of_not_write (he : e.action.isWrite = false) : lastToBegin (e :: log) = lastToBegin log := by
  rw [lastToBegin, if_neg]
  rintro ⟨hwrite, -⟩
  rw [he] at hwrite
  cases hwrite

/-- Nor does a later write. -/
theorem lastToBegin_of_hasWritten (he : HasWritten e.caller log) : lastToBegin (e :: log) = lastToBegin log := by
  rw [lastToBegin, if_neg]
  rintro ⟨-, hfirst⟩
  exact hfirst he

/-- A call that writes for the first time is the last to begin. -/
theorem lastToBegin_of_first (hwrite : e.action.isWrite = true) (hfirst : ¬ HasWritten e.caller log) :
    lastToBegin (e :: log) = some e.caller := by
  rw [lastToBegin, if_pos ⟨hwrite, hfirst⟩]

/-- The last call to begin has written a field. -/
theorem hasWritten_of_lastToBegin (h : lastToBegin log = some i) : HasWritten i log := by
  induction log with
  | nil => cases h
  | cons e log ih =>
    rw [lastToBegin] at h
    split at h
    · next hbegins =>
      cases h
      exact ⟨e, List.mem_cons_self, rfl, hbegins.1⟩
    · obtain ⟨f, hf, hwritten⟩ := ih h
      exact ⟨f, List.mem_cons_of_mem _ hf, hwritten⟩

/-- Once a call has written, some call was the last to begin. -/
theorem exists_lastToBegin (h : HasWritten i log) : ∃ j, lastToBegin log = some j := by
  induction log with
  | nil =>
    obtain ⟨e, he, -⟩ := h
    exact absurd he List.not_mem_nil
  | cons e log ih =>
    rw [lastToBegin]
    split
    · exact ⟨_, rfl⟩
    · next hlater =>
      obtain ⟨f, hf, hcaller, hwrite⟩ := h
      rcases List.mem_cons.mp hf with rfl | hold
      · rw [not_and, not_not] at hlater
        exact ih (hcaller ▸ hlater hwrite)
      · exact ih ⟨f, hold, hcaller, hwrite⟩

end Begun

/-- A call that has begun does not overwrite, with another value, a field that the last call to begin has
written. -/
def NotStale {Pool : Type} (c : PluginSystem Pool) (e : PluginEvent Pool) : Prop :=
  HasWritten e.caller c.log → ∀ i, lastToBegin c.log = some i → i ≠ e.caller → ∀ f value written,
    e.entry = ⟨.write f value, ()⟩ → ⟨.write f written, ()⟩ ∈ ownHistory i c.log → value = written

/-- Nothing is restricted but stale writes. -/
def noStaleWrites (Pool : Type) : Rule ℕ (PluginAction Pool) PluginAction.Reply LifecycleError Unit (Host Pool) :=
  Rule.ofEvent NotStale

/-- The plugin holds what the last call to begin has written, of what that call is to leave. -/
structure FollowsLast {Pool : Type} (prims : Primitives) (c : PluginSystem Pool) (target : AuthPlugin Pool)
    (rest : List PluginField) : Prop where
  leftByOne : target.LeftByOne prims
  follows : Follows c.shared.plugin.contents ⟨target.contents, rest⟩
  unbegun : lastToBegin c.log = none → rest = []
  calls : ∀ i, lastToBegin c.log = some i → c.calls i = LifecycleStage.writeAll target rest
  written : ∀ i, lastToBegin c.log = some i → ∀ f, f ∉ rest →
    ⟨.write f (target.contents f), ()⟩ ∈ ownHistory i c.log

section Runs

variable {Pool : Type} {prims : Primitives} {c d : PluginSystem Pool} {target : AuthPlugin Pool} {f : PluginField}
  {rest : List PluginField} {i : ℕ} {a : PluginAction Pool} {next : a.Reply → PluginM Pool Unit} {r : a.Reply}
  {s : Host Pool}

open LifecycleStage

/-- An action that is no write leaves the plugin as it is. -/
theorem plugin_of_not_write (hperform : (lifecycle Pool).perform a c.shared r s) (ha : a.isWrite = false) :
    s.plugin = c.shared.plugin := by
  obtain ⟨migrated, hexec⟩ := hperform
  cases a with
  | runMigrations db => cases hexec; rfl
  | fromEnv => cases hexec; rfl
  | write f value => cases ha

/-- A step of another call, after which the plugin still holds what the last call to begin has written. -/
theorem FollowsLast.other (h : FollowsLast prims c target rest) {p : PluginM Pool Unit}
    (hlast : lastToBegin (⟨i, c.shared, a, r⟩ :: c.log) = lastToBegin c.log)
    (hne : ∀ j, lastToBegin c.log = some j → i ≠ j)
    (hfollows : Follows s.plugin.contents ⟨target.contents, rest⟩) :
    FollowsLast prims (c.advance i a r s p) target rest where
  leftByOne := h.leftByOne
  follows := hfollows
  unbegun hnone := h.unbegun (hlast.symm.trans hnone)
  calls j hj := by
    have hold := hlast.symm.trans hj
    rw [← h.calls j hold]
    exact Function.update_of_ne (Ne.symm (hne j hold)) _ _
  written j hj g hg := by
    have hold := hlast.symm.trans hj
    rw [Config.advance, ownHistory_cons, if_neg (hne j hold)]
    exact h.written j hold g hg

/-- A write of the call that is now the last to have begun. -/
theorem followsLast_write (hfits : (writing target (f :: rest)).Fits prims (ownHistory i c.log))
    (hlast : lastToBegin (⟨i, c.shared, .write f (target.contents f), ()⟩ :: c.log) = some i)
    (hfollows : Follows (c.shared.plugin.store f (target.contents f)).contents ⟨target.contents, rest⟩) :
    FollowsLast prims (c.advance i (.write f (target.contents f)) ()
      { c.shared with plugin :=
        c.shared.plugin.store f (target.contents f) } (writeAll target rest)) target rest where
  leftByOne := hfits.1
  follows := hfollows
  unbegun hnone := by cases hlast.symm.trans hnone
  calls j hj := by
    obtain rfl : i = j := Option.some.inj (hlast.symm.trans hj)
    exact Function.update_self _ _ _
  written j hj := by
    obtain rfl : i = j := Option.some.inj (hlast.symm.trans hj)
    simp only [Config.advance, ownHistory_cons, if_true]
    exact (fits_write hfits).2

/-- The last call to begin goes on to write. -/
theorem FollowsLast.goOn (h : FollowsLast prims c target rest) (hi : lastToBegin c.log = some i)
    (hcall : c.calls i = .act a next) (hperform : (lifecycle Pool).perform a c.shared r s) :
    ∃ rest', FollowsLast prims (c.advance i a r s (next r)) target rest' := by
  have hwrites := (h.calls i hi).symm.trans hcall
  cases rest with
  | nil => cases hwrites
  | cons f rest =>
    cases hwrites
    obtain ⟨migrated, hexec⟩ := hperform
    cases hexec
    have hlast : lastToBegin (⟨i, c.shared, .write f (target.contents f), ()⟩ :: c.log) = some i :=
      (lastToBegin_of_hasWritten (hasWritten_of_lastToBegin hi)).trans hi
    refine ⟨rest, followsLast_write ⟨h.leftByOne, h.written i hi⟩ hlast ?_⟩
    rw [AuthPlugin.contents_store]
    exact h.follows.write

/-- A step that keeps the rule. -/
theorem FollowsLast.step (h : FollowsLast prims c target rest) {stage : LifecycleStage Pool}
    (hstage : c.calls i = stage.program prims) (hfits : stage.Fits prims (ownHistory i c.log))
    (hcall : c.calls i = .act a next) (hperform : (lifecycle Pool).perform a c.shared r s)
    (hkeeps : NotStale c ⟨i, c.shared, a, r⟩) :
    ∃ target' rest', FollowsLast prims (c.advance i a r s (next r)) target' rest' := by
  by_cases hlast : lastToBegin c.log = some i
  · exact ⟨target, h.goOn hlast hcall hperform⟩
  have hne (j : ℕ) (hj : lastToBegin c.log = some j) : i ≠ j := by
    rintro rfl
    exact hlast hj
  cases ha : a.isWrite with
  | false =>
    refine ⟨target, rest, h.other (lastToBegin_of_not_write ha) hne ?_⟩
    rw [plugin_of_not_write hperform ha]
    exact h.follows
  | true =>
    have hprogram := hstage.symm.trans hcall
    obtain ⟨own, f, fields, rfl⟩ := eq_writing hprogram ha
    cases hprogram
    obtain ⟨migrated, hexec⟩ := hperform
    cases hexec
    by_cases hwritten : HasWritten i c.log
    · refine ⟨target, rest, h.other (lastToBegin_of_hasWritten hwritten) hne ?_⟩
      rw [AuthPlugin.contents_store]
      apply h.follows.other
      intro hf
      obtain ⟨j, hj⟩ := exists_lastToBegin hwritten
      exact hkeeps hwritten j hj (Ne.symm (hne j hj)) f _ _ rfl (h.written j hj f hf)
    · have hall (g : PluginField) : g ∈ f :: fields := by
        by_contra hg
        obtain ⟨e, he, hcaller, hentry⟩ := mem_ownHistory.mp (hfits.2 g hg)
        exact hwritten ⟨e, he, hcaller, congrArg (fun x => x.1.isWrite) hentry⟩
      refine ⟨own, fields, followsLast_write hfits (lastToBegin_of_first rfl hwritten) ?_⟩
      rw [AuthPlugin.contents_store]
      exact follows_begin hall

/-- Throughout a run without stale writes the plugin holds what the last call to begin has written. -/
theorem followsLast_of_run {req : ℕ → PluginRequest Pool} {env : Environment}
    (hrun : (lifecycle Pool).Reaches (noStaleWrites Pool).Keeps (PluginRequest.start prims ⟨.new, env⟩ req) d) :
    ∃ target rest, FollowsLast prims d target rest := by
  induction hrun with
  | refl =>
    refine ⟨.new, [], Or.inl rfl, fun f _ => rfl, fun _ => rfl, fun i hi => ?_, fun i hi => ?_⟩
    · cases hi
    · cases hi
  | @tail c d hpast hstep ih =>
    obtain ⟨target, rest, hfollows⟩ := ih
    obtain ⟨hmoves, hkeeps⟩ := hstep
    cases hmoves with
    | idle hidle =>
      obtain ⟨env, rfl⟩ := hidle
      exact ⟨target, rest, { hfollows with follows := hfollows.follows }⟩
    | @call i a next r s hcall hperform =>
      obtain ⟨stage, hstage, hfits⟩ := PluginRequest.exists_stage (Machine.Reaches.leadsTo hpast rfl i)
      exact hfollows.step hstage hfits hcall hperform (hkeeps.event _ rfl)

/-- At rest, the plugin is what the last call to begin has left. -/
theorem FollowsLast.at_rest (h : FollowsLast prims c target rest) (hrest : ∀ i, ¬ c.Running i) :
    c.shared.plugin.LeftByOne prims := by
  have hall : rest = [] := by
    cases hlast : lastToBegin c.log with
    | none => exact h.unbegun hlast
    | some i =>
      obtain ⟨e, he, rfl, -⟩ := hasWritten_of_lastToBegin hlast
      obtain ⟨result, hended⟩ := Config.ended_of_not_running he (hrest _)
      rw [h.calls _ hlast] at hended
      cases rest with
      | nil => rfl
      | cons f rest => cases hended
  subst hall
  rw [AuthPlugin.contents_inj h.follows.eq_target]
  exact h.leftByOne

end Runs

/-- Whatever calls are made, with whatever migrations and configurations failing: when no write of the run was
stale and no call is in progress, the plugin is consistent. -/
theorem consistent_at_rest {Pool : Type} (prims : Primitives) (req : ℕ → PluginRequest Pool) (env : Environment)
    (d : PluginSystem Pool)
    (hrun : (lifecycle Pool).Reaches (noStaleWrites Pool).Keeps (PluginRequest.start prims ⟨.new, env⟩ req) d)
    (hrest : ∀ i, ¬ d.Running i) : d.shared.plugin.Consistent prims := by
  obtain ⟨target, rest, hfollows⟩ := followsLast_of_run hrun
  exact (hfollows.at_rest hrest).consistent

section Examples

open Reference

/-- The lifecycle carried out by schedules that say whether migrations fail. -/
def lifecycleExecutor (Pool : Type) : Executor (lifecycle Pool) (Except DbError Unit) Environment where
  exec a migrated s := a.exec migrated s
  env env s := { s with env := env }
  exec_sound _ migrated _ := ⟨migrated, rfl⟩
  env_sound env _ := ⟨env, rfl⟩

/-- An environment with a secret and nothing else. -/
def secretEnv : Environment := fun name => if name = "JWT_SECRET" then some config.jwtSecret else none

/-- The call with the number 1 deactivates, the others activate with a pool of their own. -/
def lifecycleRequest (i : ℕ) : PluginRequest ℕ := if i = 1 then .deactivate else .activate i

/-- The state after a schedule of activations and deactivations. -/
def lifecycleBy (schedule : List (Machine.Move ℕ (Except DbError Unit) Environment)) : PluginSystem ℕ :=
  (lifecycleExecutor ℕ).play schedule (PluginRequest.start primitives ⟨.new, secretEnv⟩ lifecycleRequest)

/-- Schedule entries: call `i` moves `n` times, its migrations succeed. -/
def steps (i n : ℕ) : List (Machine.Move ℕ (Except DbError Unit) Environment) := List.replicate n (.call i (.ok ()))

/-- A call goes on to write only while no other one has begun to write since. -/
def writesInTurn : Rule ℕ (PluginAction ℕ) PluginAction.Reply LifecycleError Unit (Host ℕ) :=
  Rule.ofEvent fun c e => HasWritten e.caller c.log → lastToBegin c.log = some e.caller

instance (c : PluginSystem ℕ) (e : PluginEvent ℕ) : Decidable (writesInTurn.event c e) :=
  inferInstanceAs (Decidable (_ → _))

/-- An activation, a deactivation, an activation without a secret and one whose migrations fail, while another
activation goes on. -/
def lifecycleSchedule : List (Machine.Move ℕ (Except DbError Unit) Environment) :=
  steps 0 6 ++ steps 1 4 ++ steps 2 2 ++ [.call 3 (.error "timeout")] ++ [.env fun _ => none] ++
    steps 4 2 ++ steps 2 4

/-- Where the calls write one after the other, the plugin is active and consistent when they have ended. -/
theorem consistent_at_rest_in_turn : (lifecycleBy lifecycleSchedule).shared.plugin.state = .active ∧
    (lifecycleBy lifecycleSchedule).shared.plugin.Consistent primitives := by
  have hallows : (lifecycleExecutor ℕ).Allows writesInTurn (fun _ => True) lifecycleSchedule
      (PluginRequest.start primitives ⟨.new, secretEnv⟩ lifecycleRequest) := by decide +kernel
  have hended : ∀ e ∈ (lifecycleBy lifecycleSchedule).log,
    ((lifecycleBy lifecycleSchedule).calls e.caller).Ended := by
    decide +kernel
  have hkept (c d : PluginSystem ℕ) (hkeeps : writesInTurn.Keeps c d) : (noStaleWrites ℕ).Keeps c d := by
    refine ⟨fun e he hwritten i hi hne => ?_, fun _ => trivial⟩
    exact absurd (Option.some.inj (hi.symm.trans (hkeeps.event e he hwritten))) hne
  have hrun := (hallows.reaches fun _ _ _ => trivial).mono hkept
  exact ⟨by decide +kernel,
    consistent_at_rest primitives lifecycleRequest secretEnv _ hrun (Config.not_running_of_ended hended)⟩

/-- A deactivation that comes in before the last write of an activation leaves an active plugin that is empty. -/
theorem active_without_service : ∃ d, (lifecycle ℕ).Reaches (fun _ _ => True)
      (PluginRequest.start primitives ⟨.new, secretEnv⟩ lifecycleRequest) d ∧
    (∀ i, ¬ d.Running i) ∧ d.calls 0 = .done (.ok ()) ∧ d.calls 1 = .done (.ok ()) ∧
    d.shared.plugin = ⟨.active, none, none, none⟩ ∧ ¬ d.shared.plugin.Consistent primitives := by
  refine ⟨lifecycleBy (steps 0 5 ++ steps 1 4 ++ steps 0 1), Executor.play_reaches _ _ _, ?_, rfl, rfl, rfl, ?_⟩
  · apply Config.not_running_of_ended
    decide +kernel
  · intro hconsistent
    have hplugin : (lifecycleBy (steps 0 5 ++ steps 1 4 ++ steps 0 1)).shared.plugin =
      ⟨.active, none, none, none⟩ := rfl
    rw [hplugin] at hconsistent
    cases (hconsistent.active.mp rfl).1

end Examples

end RustPressAuth
