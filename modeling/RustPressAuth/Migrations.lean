import RustPressAuth.Atomic.Schedule
import RustPressAuth.Sql.Definition
import RustPressAuth.Statements

/-!
# The migrations

An activation of the plugin defines its schema, in ten statements that stand outside any
transaction: two enumerated types, four tables and four indexes. Each statement creates
its object only where there is none, so an activation can come after another one, or after
one that failed half-way, or run beside it.
-/

namespace RustPressAuth

open Atomic Program Machine Sql

/-- The tables. -/
inductive TableName where
  | users
  | refreshTokens
  | oneTimeTokens (purpose : Purpose)
deriving DecidableEq, Repr

/-- The columns of all tables. -/
inductive ColumnName where
  | id
  | email
  | passwordHash
  | name
  | role
  | status
  | avatar
  | bio
  | website
  | emailVerifiedAt
  | lastLoginAt
  | lastLoginIp
  | failedLoginAttempts
  | lockedUntil
  | passwordChangedAt
  | createdAt
  | updatedAt
  | userId
  | tokenHash
  | expiresAt
  | issuedAt
  | revokedAt
  | replacedBy
  | userAgent
  | ipAddress
  | usedAt
deriving DecidableEq, Repr

/-- The enumerated types. -/
inductive EnumName where
  | userRole
  | userStatus
deriving DecidableEq, Repr

/-- The indexes. -/
inductive IndexName where
  | usersEmail
  | usersStatus
  | refreshTokensUser
  | refreshTokensExpires
deriving DecidableEq, Repr

/-- A column of the plugin's tables. -/
abbrev AuthColumn := Column TableName ColumnName EnumName

/-- A definition of the plugin's migrations. -/
abbrev AuthDefinition := Definition TableName ColumnName EnumName IndexName

/-- A schema of the plugin's tables. -/
abbrev AuthSchema := Sql.Schema TableName ColumnName EnumName IndexName

/-- `id UUID PRIMARY KEY DEFAULT gen_random_uuid()`. -/
def idColumn : AuthColumn :=
  { name := .id, type := .uuid, notNull := true, unique := true, default := .randomUuid }

/-- `user_id UUID NOT NULL REFERENCES users(id) ON DELETE CASCADE`; no user is ever deleted. -/
def userIdColumn : AuthColumn :=
  { name := .userId, type := .uuid, notNull := true, references := some (.users, .id) }

/-- `token_hash VARCHAR(255) NOT NULL UNIQUE`. -/
def tokenHashColumn : AuthColumn := { name := .tokenHash, type := .varchar 255, notNull := true, unique := true }

/-- `expires_at TIMESTAMPTZ NOT NULL`. -/
def expiresAtColumn : AuthColumn := { name := .expiresAt, type := .timestamptz, notNull := true }

/-- `created_at TIMESTAMPTZ DEFAULT NOW()`. -/
def createdAtColumn : AuthColumn := { name := .createdAt, type := .timestamptz, default := .now }

/-- The columns of `users`. -/
def usersColumns : List AuthColumn :=
  [idColumn,
    { name := .email, type := .varchar 255, notNull := true, unique := true },
    { name := .passwordHash, type := .varchar 255, notNull := true },
    { name := .name, type := .varchar 100, notNull := true },
    { name := .role, type := .enum .userRole, default := .literal (.text "user") },
    { name := .status, type := .enum .userStatus, default := .literal (.text "pending") },
    { name := .avatar, type := .varchar 500 },
    { name := .bio, type := .text },
    { name := .website, type := .varchar 500 },
    { name := .emailVerifiedAt, type := .timestamptz },
    { name := .lastLoginAt, type := .timestamptz },
    { name := .lastLoginIp, type := .varchar 45 },
    { name := .failedLoginAttempts, type := .integer, default := .literal (.integer 0) },
    { name := .lockedUntil, type := .timestamptz },
    { name := .passwordChangedAt, type := .timestamptz, default := .now },
    createdAtColumn,
    { name := .updatedAt, type := .timestamptz, default := .now }]

/-- The columns of `refresh_tokens`. -/
def refreshTokensColumns : List AuthColumn :=
  [idColumn,
    userIdColumn,
    tokenHashColumn,
    expiresAtColumn,
    { name := .issuedAt, type := .timestamptz, default := .now },
    { name := .revokedAt, type := .timestamptz },
    { name := .replacedBy, type := .uuid, references := some (.refreshTokens, .id) },
    { name := .userAgent, type := .text },
    { name := .ipAddress, type := .varchar 45 },
    createdAtColumn]

/-- The columns of both tables of one-time tokens. -/
def oneTimeTokensColumns : List AuthColumn :=
  [idColumn,
    userIdColumn,
    tokenHashColumn,
    expiresAtColumn,
    { name := .usedAt, type := .timestamptz },
    createdAtColumn]

/-- The labels of `user_role`. -/
def userRoleLabels : List String := ["user", "author", "editor", "admin"]

/-- The labels of `user_status`. -/
def userStatusLabels : List String := ["pending", "active", "suspended", "deleted"]

/-- The statements of `run_migrations`, in their order. -/
def migrations : List AuthDefinition :=
  [.createType .userRole userRoleLabels,
    .createType .userStatus userStatusLabels,
    .createTable .users usersColumns,
    .createIndex .usersEmail .users .email,
    .createIndex .usersStatus .users .status,
    .createTable .refreshTokens refreshTokensColumns,
    .createIndex .refreshTokensUser .refreshTokens .userId,
    .createIndex .refreshTokensExpires .refreshTokens .expiresAt,
    .createTable (.oneTimeTokens .passwordReset) oneTimeTokensColumns,
    .createTable (.oneTimeTokens .emailVerification) oneTimeTokensColumns]

/-- The schema they define. -/
def authSchema : AuthSchema where
  enums := [(.userRole, userRoleLabels), (.userStatus, userStatusLabels)]
  tables := [(.users, usersColumns), (.refreshTokens, refreshTokensColumns),
    (.oneTimeTokens .passwordReset, oneTimeTokensColumns),
    (.oneTimeTokens .emailVerification, oneTimeTokensColumns)]
  indexes := [(.usersEmail, .users, .email), (.usersStatus, .users, .status),
    (.refreshTokensUser, .refreshTokens, .userId), (.refreshTokensExpires, .refreshTokens, .expiresAt)]

/-- The migrations make the complete schema of the empty one. -/
theorem defineAll_migrations : (Sql.Schema.empty : AuthSchema).defineAll migrations = .ok authSchema := rfl

/-- The reply to a statement. -/
@[reducible] def MigrationReply (_ : AuthDefinition) : Type := Except DbError Unit

/-- Execute statements one after the other, up to the first error. -/
def runStatements : List AuthDefinition → Program AuthDefinition MigrationReply AuthError Unit
  | [] => pure ()
  | statement :: rest => .act statement fun reply =>
    match reply with
    | .ok () => runStatements rest
    | .error e => Program.fail (.database e)

/-- Run database migrations. -/
def runMigrations : Program AuthDefinition MigrationReply AuthError Unit := runStatements migrations

/-- A statement may fail for reasons of its own, such as a lost connection. -/
def executeDefinition (schema : AuthSchema) (fault : Option DbError) (statement : AuthDefinition) :
    Except DbError Unit × AuthSchema :=
  match fault with
  | some e => (.error e, schema)
  | none =>
    match schema.define statement with
    | .ok schema' => (.ok (), schema')
    | .error _ => (.error "undefined object", schema)

/-- The migrations of all activations, on one database. -/
def migrating : Machine AuthDefinition MigrationReply AuthSchema where
  perform statement schema reply schema' := ∃ fault, executeDefinition schema fault statement = (reply, schema')
  idle _ _ := False

/-- A state of all activations. -/
abbrev MigrationSystem := Config ℕ AuthDefinition MigrationReply AuthError Unit AuthSchema

/-- Activations that have not begun. -/
def startMigrations (schema : AuthSchema) : MigrationSystem := Config.start schema fun _ => runMigrations

/-- The schema that the first statements define. -/
def BuiltBy (n : ℕ) (schema : AuthSchema) : Prop :=
  (Sql.Schema.empty : AuthSchema).defineAll (migrations.take n) = .ok schema

/-- A schema built by all migrations is the complete one. -/
theorem BuiltBy.complete {n : ℕ} {schema : AuthSchema} (h : BuiltBy n schema) (hn : migrations.length ≤ n) :
    schema = authSchema := by
  rw [BuiltBy, List.take_of_length_le hn, defineAll_migrations] at h
  exact (Except.ok.inj h).symm

/-- Where the activations stand: none has executed more statements than the schema was built by. -/
structure Migrated (first n : ℕ) (c : MigrationSystem) : Prop where
  since : first ≤ n
  built : BuiltBy n c.shared
  calls : ∀ i, (∃ k ≤ n, c.calls i = runStatements (migrations.drop k)) ∨ ∃ e, c.calls i = .done (.error e)
  defined : ∀ e ∈ c.log, ∃ schema, e.before.define e.action = .ok schema

/-- A step of an activation leaves a schema that a first part of the migrations has built. -/
theorem Migrated.step {first n : ℕ} {c d : MigrationSystem} (h : Migrated first n c) (hstep : migrating.Step c d) :
    ∃ m, Migrated first m d := by
  cases hstep with
  | idle hidle => exact hidle.elim
  | @call i a next r s hcall hperform =>
    obtain ⟨fault, hexec⟩ := hperform
    rcases h.calls i with ⟨k, hk, hprogram⟩ | ⟨e, hfailed⟩
    · rw [hcall] at hprogram
      cases hrest : migrations.drop k with
      | nil =>
        rw [hrest] at hprogram
        cases hprogram
      | cons statement rest =>
        rw [hrest] at hprogram
        obtain ⟨rfl, hnext⟩ := Program.act.inj hprogram
        have hnext := eq_of_heq hnext
        have hdue : migrations[k]? = some a := by
          rw [← List.head?_drop, hrest]
          rfl
        have hdrop : migrations.drop (k + 1) = rest := by
          rw [← List.tail_drop, hrest]
          rfl
        obtain ⟨schema, m, hdefine, hbuilt, hnm, hkm⟩ :=
          Sql.Schema.define_at_stage defineAll_migrations hdue hk h.built
        have hlog : ∀ e ∈ (c.advance i a r s (next r)).log, ∃ schema, e.before.define e.action = .ok schema := by
          intro e he
          rcases List.mem_cons.mp he with rfl | hold
          · exact ⟨schema, hdefine⟩
          · exact h.defined e hold
        have hothers (j : ℕ) (hj : j ≠ i) : (c.advance i a r s (next r)).calls j = c.calls j :=
          Function.update_of_ne hj _ _
        have hself : (c.advance i a r s (next r)).calls i = next r := Function.update_self _ _ _
        cases fault with
        | some e =>
          obtain ⟨rfl, rfl⟩ := Prod.mk.inj hexec
          refine ⟨n, h.since, h.built, fun j => ?_, hlog⟩
          by_cases hj : j = i
          · subst hj
            exact Or.inr ⟨.database e, hself.trans (congrFun hnext _)⟩
          · rw [hothers j hj]
            exact h.calls j
        | none =>
          simp only [executeDefinition, hdefine] at hexec
          obtain ⟨rfl, rfl⟩ := Prod.mk.inj hexec
          refine ⟨m, Nat.le_trans h.since hnm, hbuilt, fun j => ?_, hlog⟩
          by_cases hj : j = i
          · subst hj
            exact Or.inl ⟨k + 1, hkm, hself.trans ((congrFun hnext _).trans (by rw [hdrop]))⟩
          · rw [hothers j hj]
            rcases h.calls j with ⟨k', hk', hprogram'⟩ | hfailed
            · exact Or.inl ⟨k', Nat.le_trans hk' hnm, hprogram'⟩
            · exact Or.inr hfailed
    · rw [hcall] at hfailed
      cases hfailed

/-- However activations interleave and wherever they fail, the schema is what the first statements of the migrations
define, and no fewer than before; a statement never fails for want of what it refers to; and when an activation has
completed its migrations, the schema is complete, and so it stays. -/
theorem migrations_converge (n : ℕ) (schema : AuthSchema) (hbuilt : BuiltBy n schema) (d : MigrationSystem)
    (hrun : migrating.Reaches (fun _ _ => True) (startMigrations schema) d) :
    (∃ m, n ≤ m ∧ BuiltBy m d.shared) ∧
      (∀ e ∈ d.log, ∃ schema', e.before.define e.action = .ok schema') ∧
      ∀ i, d.calls i = .done (.ok ()) → d.shared = authSchema := by
  have hmigrated : ∃ m, Migrated n m d := by
    induction hrun with
    | refl =>
      refine ⟨n, Nat.le_refl n, hbuilt, fun i => Or.inl ⟨0, Nat.zero_le n, rfl⟩, fun e he => ?_⟩
      cases he
    | tail _ hstep ih =>
      obtain ⟨m, h⟩ := ih
      exact h.step hstep.1
  obtain ⟨m, h⟩ := hmigrated
  refine ⟨⟨m, h.since, h.built⟩, h.defined, fun i hdone => ?_⟩
  rcases h.calls i with ⟨k, hk, hprogram⟩ | ⟨e, hfailed⟩
  · rw [hdone] at hprogram
    cases hrest : migrations.drop k with
    | nil => exact h.built.complete (Nat.le_trans (List.drop_eq_nil_iff.mp hrest) hk)
    | cons statement rest =>
      rw [hrest] at hprogram
      cases hprogram
  · rw [hdone] at hfailed
    cases hfailed

/-- Activations run from a schedule that says which statements fail. -/
def migratingExecutor : Executor migrating (Option DbError) Empty where
  exec statement fault schema := executeDefinition schema fault statement
  env e _ := e.elim
  exec_sound _ fault _ := ⟨fault, rfl⟩
  env_sound e _ := e.elim

/-- Activation 0 makes four statements, the next one is lost; activation 1 begins in between and completes. -/
def resumedMigrations : MigrationSystem :=
  migratingExecutor.play
    (List.replicate 3 (.call 0 none) ++ List.replicate 2 (.call 1 none) ++
      [.call 0 none, .call 0 (some "connection reset by peer")] ++ List.replicate 8 (.call 1 none))
    (startMigrations Sql.Schema.empty)

/-- An activation that was cut off is resumed by another, and the schema is complete. -/
theorem migrations_converge_resumed :
    resumedMigrations.calls 0 = .done (.error (.database "connection reset by peer")) ∧
      resumedMigrations.calls 1 = .done (.ok ()) ∧ resumedMigrations.shared = authSchema :=
  ⟨rfl, rfl,
    (migrations_converge 0 Sql.Schema.empty rfl resumedMigrations (migratingExecutor.play_reaches _ _)).2.2 1 rfl⟩

end RustPressAuth
