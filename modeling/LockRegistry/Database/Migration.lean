import LockRegistry.Error

/-! Migrations are applied in the order of their versions, each once, and none after a fault in the
history that the server has recorded. -/

namespace LockRegistry.Database

structure Migration where
  version : Int
  description : String
  lines : List String
deriving DecidableEq, Repr

def Migration.sql (m : Migration) : String := String.join (m.lines.map (· ++ "\n"))

def Migration.createLocks : Migration where
  version := 20260301000001
  description := "create project locks"
  lines := [
    "-- Exclusive locks on (office, project, application) tuples.",
    "--",
    "-- A row exists only while the lock is held: release and revoke delete it.",
    "-- The unique key is what makes acquisition atomic",
    "-- (INSERT ... ON CONFLICT DO NOTHING).",
    "",
    "CREATE TABLE project_locks (",
    "    lock_id             TEXT        PRIMARY KEY,",
    "    office_id           TEXT        NOT NULL,",
    "    project_id          TEXT        NOT NULL,",
    "    application_id      TEXT        NOT NULL,",
    "    acquire_time        TIMESTAMPTZ NOT NULL DEFAULT NOW(),",
    "    session_user_name   TEXT,",
    "    os_user             TEXT,",
    "    session_program     TEXT,",
    "    session_machine     TEXT,",
    "    revoke_requested_by TEXT,",
    "    revoke_requested_at TIMESTAMPTZ,",
    "",
    "    CONSTRAINT uq_project_locks_key UNIQUE (office_id, project_id, application_id),",
    "    CONSTRAINT ck_project_locks_lock_id CHECK (lock_id ~ '^[0-9a-f]\x7b32\x7d$'),",
    "    CONSTRAINT ck_project_locks_revoke_pair CHECK (",
    "        (revoke_requested_by IS NULL) = (revoke_requested_at IS NULL)",
    "    )",
    ");",
    "",
    "CREATE INDEX idx_project_locks_office_id ON project_locks (office_id);"]

def Migration.createGrants : Migration where
  version := 20260301000002
  description := "create lock revoker rights"
  lines := [
    "-- Grants allowing a user to revoke locks held by other sessions.",
    "--",
    "-- Absence of a matching row means \"not allowed\"; there is no deny marker.",
    "-- project_mask and application_mask are glob patterns ('*', '?').",
    "",
    "CREATE TABLE lock_revoker_rights (",
    "    id               BIGSERIAL   PRIMARY KEY,",
    "    office_id        TEXT        NOT NULL,",
    "    office_mask      TEXT        NOT NULL,",
    "    user_id          TEXT        NOT NULL,",
    "    project_mask     TEXT        NOT NULL,",
    "    application_mask TEXT        NOT NULL,",
    "    created_at       TIMESTAMPTZ NOT NULL DEFAULT NOW(),",
    "    updated_at       TIMESTAMPTZ NOT NULL DEFAULT NOW(),",
    "",
    "    CONSTRAINT uq_lock_revoker_rights_key",
    "        UNIQUE (office_id, user_id, project_mask, application_mask)",
    ");",
    "",
    "CREATE INDEX idx_lock_revoker_rights_user_id ON lock_revoker_rights (user_id);"]

def Migration.all : List Migration := [.createLocks, .createGrants]

structure MigrationHistory where
  applied : List (Int × Bool) := []
  dirty : Option Int := none
  refused : Option (Int × String) := none
deriving DecidableEq, Repr, Inhabited

inductive MigrationStep where
  | lock
  | ensureTable
  | checkDirty
  | listApplied
  | begin
  | run (m : Migration)
  | record (m : Migration)
  | commit
  | time (m : Migration)
  | unlock
deriving DecidableEq, Repr

inductive MigrateError where
  | dirty (version : Int)
  | missing (version : Int)
  | modified (version : Int)
  | failed (version : Int) (cause : DatabaseError)
  | database (cause : DatabaseError)
deriving DecidableEq, Repr

namespace MigrateError

def message : MigrateError → String
  | dirty v =>
    s!"migration {v} is partially applied; fix and remove row from `_sqlx_migrations` table"
  | missing v => s!"migration {v} was previously applied but is missing in the resolved migrations"
  | modified v => s!"migration {v} was previously applied but has been modified"
  | failed v cause => s!"while executing migration {v}: {cause.message}"
  | database cause => s!"while executing migrations: {cause.message}"

def chain (e : MigrateError) : List String :=
  e.message :: match e with
    | failed _ cause => cause.chain
    | database cause => cause.chain
    | _ => []

end MigrateError

namespace MigrationHistory

def unknown? (h : MigrationHistory) : Option Int :=
  (h.applied.map (·.1)).find? fun v => Migration.all.all fun m => m.version != v

def refusal? (h : MigrationHistory) (m : Migration) : Option String :=
  h.refused.bind fun r => if r.1 = m.version then some r.2 else none

def apply (h : MigrationHistory) (m : Migration) : List MigrationStep × Except MigrateError Unit :=
  match h.applied.lookup m.version with
  | some true => ([], .ok ())
  | some false => ([], .error (.modified m.version))
  | none =>
    match h.refusal? m with
    | some reason => ([.begin, .run m], .error (.failed m.version (.refused reason)))
    | none => ([.begin, .run m, .record m, .commit, .time m], .ok ())

def applyAll (h : MigrationHistory) : List Migration → List MigrationStep × Except MigrateError Unit
  | [] => ([.unlock], .ok ())
  | m :: rest =>
    match h.apply m with
    | (steps, .ok ()) =>
      let (more, result) := h.applyAll rest
      (steps ++ more, result)
    | (steps, .error e) => (steps, .error e)

def migrate (h : MigrationHistory) : List MigrationStep × Except MigrateError Unit :=
  match h.dirty with
  | some v => ([.lock, .ensureTable, .checkDirty], .error (.dirty v))
  | none =>
    let first := [.lock, .ensureTable, .checkDirty, .listApplied]
    match h.unknown? with
    | some v => (first, .error (.missing v))
    | none =>
      let (steps, result) := h.applyAll Migration.all
      (first ++ steps, result)

end MigrationHistory

end LockRegistry.Database
