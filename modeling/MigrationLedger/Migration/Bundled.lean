/-
# Bundled migrations

The scripts that come with the program: they create the tracking table and the
tables of a job store.
-/

import MigrationLedger.Migration

namespace MigrationLedger.Bundled

/-- The tracking table. -/
def createMigrationsTable : Migration where
  name := ⟨"v000__create_migrations_table.sql", by decide⟩
  script :=
    "CREATE TABLE jobrunr_migrations\n" ++
    "(\n" ++
    "    id          VARCHAR(36) PRIMARY KEY,\n" ++
    "    script_name VARCHAR(64) NOT NULL,\n" ++
    "    applied_at  VARCHAR(29) NOT NULL\n" ++
    ");\n"

/-- The table of jobs. -/
def createJobTable : Migration where
  name := ⟨"v001__create_job_table.sql", by decide⟩
  script :=
    "CREATE TABLE jobrunr_jobs\n" ++
    "(\n" ++
    "    id            VARCHAR(36)  NOT NULL,\n" ++
    "    version       INTEGER      NOT NULL,\n" ++
    "    job_as_json   TEXT         NOT NULL,\n" ++
    "    job_signature VARCHAR(512) NOT NULL,\n" ++
    "    state         VARCHAR(36)  NOT NULL,\n" ++
    "    created_at    TIMESTAMP    NOT NULL,\n" ++
    "    updated_at    TIMESTAMP    NOT NULL,\n" ++
    "    scheduled_at  TIMESTAMP\n" ++
    ");\n"

/-- The table of recurring jobs. -/
def createRecurringJobTable : Migration where
  name := ⟨"v002__create_recurring_job_table.sql", by decide⟩
  script :=
    "CREATE TABLE jobrunr_recurring_jobs\n" ++
    "(\n" ++
    "    id          VARCHAR(128) PRIMARY KEY,\n" ++
    "    version     INTEGER      NOT NULL,\n" ++
    "    job_as_json TEXT         NOT NULL\n" ++
    ");\n"

/-- The table of servers. -/
def createServerTable : Migration where
  name := ⟨"v003__create_background_job_servers_table.sql", by decide⟩
  script :=
    "CREATE TABLE jobrunr_backgroundjobservers\n" ++
    "(\n" ++
    "    id                       VARCHAR(36) PRIMARY KEY,\n" ++
    "    worker_pool_size         INTEGER     NOT NULL,\n" ++
    "    poll_interval_in_seconds INTEGER     NOT NULL,\n" ++
    "    first_heartbeat          TIMESTAMP   NOT NULL,\n" ++
    "    last_heartbeat           TIMESTAMP   NOT NULL,\n" ++
    "    running                  BOOLEAN     NOT NULL,\n" ++
    "    system_total_memory      BIGINT,\n" ++
    "    system_free_memory       BIGINT,\n" ++
    "    system_cpu_load          DOUBLE,\n" ++
    "    process_max_memory       BIGINT,\n" ++
    "    process_free_memory      BIGINT,\n" ++
    "    process_allocated_memory BIGINT,\n" ++
    "    process_cpu_load         DOUBLE\n" ++
    ");\n"

/-- The table of metadata, with its first row. -/
def createMetadataTable : Migration where
  name := ⟨"v004__create_metadata_table.sql", by decide⟩
  script :=
    "CREATE TABLE jobrunr_metadata\n" ++
    "(\n" ++
    "    id             VARCHAR(156) PRIMARY KEY,\n" ++
    "    name           VARCHAR(92)  NOT NULL,\n" ++
    "    owner          VARCHAR(64)  NOT NULL,\n" ++
    "    metadata_value TEXT         NOT NULL,\n" ++
    "    created_at     TIMESTAMPTZ  NOT NULL,\n" ++
    "    updated_at     TIMESTAMPTZ  NOT NULL\n" ++
    ");\n" ++
    "\n" ++
    "INSERT INTO jobrunr_metadata\n" ++
    "VALUES ('succeeded-jobs-counter-cluster', 'succeeded-jobs-counter', 'cluster', '0', CURRENT_TIMESTAMP, CURRENT_TIMESTAMP);\n"

/-- Jobs know the recurring job they come from. -/
def addRecurringJobId : Migration where
  name := ⟨"v005__add_recurring_job_id.sql", by decide⟩
  script :=
    "ALTER TABLE jobrunr_jobs ADD COLUMN recurring_job_id VARCHAR(128);\n"

/-- An index over the states of jobs. -/
def createJobStateIndex : Migration where
  name := ⟨"v006__create_job_state_index.sql", by decide⟩
  script :=
    "CREATE INDEX jobrunr_job_state_idx ON jobrunr_jobs (state, updated_at);\n"

/-- All bundled migrations in order of application. -/
def migrations : List Migration :=
  [createMigrationsTable,
    createJobTable,
    createRecurringJobTable,
    createServerTable,
    createMetadataTable,
    addRecurringJobId,
    createJobStateIndex]

end MigrationLedger.Bundled
