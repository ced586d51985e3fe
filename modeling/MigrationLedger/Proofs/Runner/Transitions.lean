/-
# Only legal changes of what is remembered

A runner stores the state of a migration without looking at the one before. That every
change is legal all the same follows from what is remembered and what is recorded taken
together: whatever is remembered as applied has a committed row, so the check of a later
run finds it, and between operations nothing is remembered as applying.

The link between the two is lost when somebody removes rows, or when a count is refused
for want of a table that holds the row. Otherwise calls may be refused at will, as long as
a rollback is not.
-/

import MigrationLedger.Proofs.Runner.AtRest
import MigrationLedger.Proofs.Runner.Success

namespace MigrationLedger

namespace RunStates

/-- One name changes its state, and the new state may follow the old one. A name that
nothing is remembered of is pending. -/
def Advances (before after : RunStates) : Prop :=
  ∃ name state, ((before.state? name).getD .pending).canBecome state = true ∧
    after = before.set name state

/-- Legal changes one after another: what is remembered at first, after each change, and
in the end. -/
inductive Path : RunStates → List RunStates → RunStates → Prop
  | nil (states : RunStates) : Path states [] states
  | cons {states next final : RunStates} {later : List RunStates} (step : states.Advances next)
      (rest : Path next later final) : Path states (next :: later) final

variable {states next final : RunStates} {first second : List RunStates}

theorem Path.append (before : Path states first next) (after : Path next second final) :
    Path states (first ++ second) final := by
  induction before with
  | nil _ => exact after
  | cons step _ ih => exact .cons step (ih after)

/-- What was applied stays applied. -/
def KeepsApplied (before after : RunStates) : Prop :=
  ∀ name, before.state? name = some .applied → after.state? name = some .applied

/-- Nothing may follow the state of an applied migration. -/
theorem Advances.keepsApplied (step : states.Advances next) : states.KeepsApplied next := by
  intro name applied
  obtain ⟨changed, state, legal, rfl⟩ := step
  by_cases same : name = changed
  · subst same
    rw [applied] at legal
    cases state <;> cases legal
  · rwa [state?_set_of_ne _ _ same]

theorem Path.keepsApplied (path : Path states first final) :
    ∀ later ∈ first, states.KeepsApplied later := by
  induction path with
  | nil _ => simp
  | cons step _ ih =>
      rw [List.forall_mem_cons]
      exact ⟨step.keepsApplied, fun later member name applied =>
        ih later member name (step.keepsApplied name applied)⟩

theorem Path.pairwise_keepsApplied (path : Path states first final) :
    first.Pairwise KeepsApplied := by
  induction path with
  | nil _ => exact .nil
  | cons _ rest ih => exact .cons rest.keepsApplied ih

end RunStates

/-- Rows may come, and nothing else changes that the database holds. -/
def Recording.Gains (f : Recording → Recording) : Prop :=
  ∀ (db : Recording) (rows : List RecordedRow), db.Holds rows [] false →
    ∃ added, (f db).Holds (rows ++ added) [] false

theorem Recording.gains_insertCommitted (name : String) :
    Recording.Gains fun db => db.insertCommitted name := by
  rintro db rows ⟨rfl, clean, idle⟩
  exact ⟨[db.freshRow name], rfl, clean, idle⟩

namespace Runner

open Recording (Leads Holds)
open RunStates (Path)

variable {runner : Runner} {states : RunStates} {rows added : List RecordedRow}
  {name : MigrationName} {refusals : Refusals} {before after db : Recording}
  {migrations : List Migration} {entries : List Entry} {course : Course}
  {ignored : List MigrationName}

/-! ## What is remembered and what is recorded -/

/-- What is remembered between operations: how attempts have ended, and only what has a
row as applied. -/
structure Backed (states : RunStates) (rows : List RecordedRow) : Prop where
  settled : states.Settled
  recorded_of_applied : ∀ name, states.state? name = some .applied → recorded rows name = true

namespace Backed

theorem nil (rows : List RecordedRow) : Backed [] rows where
  settled := by simp [RunStates.Settled]
  recorded_of_applied name applied := by cases applied

theorem append (backed : Backed states rows) (added : List RecordedRow) :
    Backed states (rows ++ added) where
  settled := backed.settled
  recorded_of_applied name applied := by
    rw [recorded_append, backed.recorded_of_applied name applied, Bool.true_or]

/-- What has no row can be taken up. -/
theorem advances (backed : Backed states rows) (fresh : recorded rows name = false) :
    states.Advances (states.set name .applying) := by
  refine ⟨name, .applying, ?_, rfl⟩
  cases remembered : states.state? name with
  | none => rfl
  | some state =>
      cases state with
      | pending | failed => rfl
      | applying => exact absurd remembered (backed.settled.state?_ne_applying name)
      | applied =>
          rw [backed.recorded_of_applied name remembered] at fresh
          cases fresh

theorem applied (backed : Backed states rows) {row : RecordedRow} (named : row.name = name.text) :
    Backed (Course.attempted states name .applied) (rows ++ [row]) where
  settled := settled_attempted backed.settled name (.inl rfl)
  recorded_of_applied other applied := by
    by_cases same : other = name
    · subst same
      exact recorded_iff.mpr ⟨row, by simp, named⟩
    · rw [state?_attempted_of_ne _ _ same] at applied
      exact (backed.append [row]).recorded_of_applied other applied

theorem failed (backed : Backed states rows) (name : MigrationName) :
    Backed (Course.attempted states name .failed) rows where
  settled := settled_attempted backed.settled name (.inr rfl)
  recorded_of_applied other applied := by
    by_cases same : other = name
    · subst same
      rw [state?_attempted_self] at applied
      cases applied
    · rw [state?_attempted_of_ne _ _ same] at applied
      exact backed.recorded_of_applied other applied

end Backed

/-- An attempt that was begun can end either way. -/
theorem advances_attempted (states : RunStates) (name : MigrationName) {state : MigrationState}
    (ends : MigrationState.applying.canBecome state = true) :
    (states.set name .applying).Advances (Course.attempted states name state) := by
  refine ⟨name, state, ?_, rfl⟩
  rwa [RunStates.state?_set_self]

/-- A run makes legal changes only, and what it remembers is backed by the rows that it
leaves. -/
theorem Staging.exists_path (spares : refusals.SparesRollback)
    (promise : refusals.MissesOnlyUnrecorded)
    (staging : runner.Staging states migrations entries course)
    (leads : Leads refusals before (Entry.exchanges entries) after)
    (h : before.Holds rows [] false) (backed : Backed states rows) :
    ∃ added, after.Holds (rows ++ added) [] false ∧
      Path states (Entry.announcements entries) (course.remembered states) ∧
      Backed (course.remembered states) (rows ++ added) := by
  induction staging generalizing before rows with
  | finished =>
      cases leads
      exact ⟨[], by rwa [List.append_nil], .nil _, backed.append []⟩
  | skipped check _ ih =>
      rw [Entry.exchanges_said_append] at leads
      obtain ⟨middle, toMiddle, fromMiddle⟩ := Recording.leads_append_iff.mp leads
      rw [Entry.announcements_said_append]
      exact ih fromMiddle (toMiddle.holds_of_reads check.reads h) backed
  | applied check attempt _ ih =>
      rw [Entry.exchanges_said_append, Entry.exchanges, Entry.exchanges_said_append,
        Entry.exchanges] at leads
      obtain ⟨asked, toAsked, fromAsked⟩ := Recording.leads_append_iff.mp leads
      obtain ⟨tried, toTried, fromTried⟩ := Recording.leads_append_iff.mp fromAsked
      -- The check saw no row, so by the invariant nothing applied is taken up again.
      have fresh := ((recorded_of_check check toAsked h).2 promise).symm
      rcases holds_of_attempt (.inl rfl) attempt toTried (toAsked.holds_of_reads check.reads h) with
        ⟨_, row, named, holds⟩ | ⟨⟨_, same⟩, _⟩
      · obtain ⟨added, holds, path, remembered⟩ := ih fromTried holds (backed.applied named)
        rw [List.append_assoc] at holds remembered
        rw [Entry.announcements_said_append, Entry.announcements,
          Entry.announcements_said_append, Entry.announcements]
        exact ⟨[row] ++ added, holds,
          .cons (backed.advances fresh) (.cons (advances_attempted _ _ rfl) path), remembered⟩
      · cases same
  | unchecked check =>
      rw [Entry.exchanges_said] at leads
      rw [Entry.announcements_said]
      exact ⟨[], by simpa using leads.holds_of_reads check.reads h, .nil _, backed.append []⟩
  | @failed states migration rest checked attempted failure check attempt =>
      rw [Entry.exchanges_said_append, Entry.exchanges, Entry.exchanges_said_append,
        Entry.exchanges, Entry.exchanges, List.append_nil] at leads
      obtain ⟨asked, toAsked, fromAsked⟩ := Recording.leads_append_iff.mp leads
      have fresh := ((recorded_of_check check toAsked h).2 promise).symm
      have unchanged := toAsked.holds_of_reads check.reads h
      have path : Path states [states.set migration.name .applying,
          Course.attempted states migration.name .failed]
          (Course.attempted states migration.name .failed) :=
        .cons (backed.advances fresh) (.cons (advances_attempted _ _ rfl) (.nil _))
      have remembered := backed.failed migration.name
      rw [Entry.announcements_said_append, Entry.announcements,
        Entry.announcements_said_append, Entry.announcements, Entry.announcements]
      -- A script that ends its transaction may have left a row; the invariant does not mind.
      rcases holds_of_attempt (.inr spares) attempt fromAsked unchanged with
        ⟨_, row, _, holds⟩ | ⟨_, _, holds⟩
      · exact ⟨[row], holds, path, remembered.append _⟩
      · exact ⟨[], by rwa [List.append_nil], path, remembered.append _⟩

end Runner

namespace History

open Recording (Holds)
open Runner (Backed asking noteName scriptName single)
open RunStates (Path)

variable {world : World Recording} {event : Event Recording} {rows : List RecordedRow}

/-- What keeps the records: uses of the runner that may be refused anything but rollbacks
and, of the counts, what is recorded; and rows that others commit. -/
inductive Event.KeepsRecords : Event Recording → Prop
  | use (runner : Runner) (operation : Runner.Operation) {refusals : Refusals}
      (spares : refusals.SparesRollback) (promise : refusals.MissesOnlyUnrecorded) :
      KeepsRecords (.use runner operation (Recording.answering refusals))
  | change {f : Recording → Recording} (gains : Recording.Gains f) : KeepsRecords (.change f)

theorem Event.KeepsRecords.exists_path (keeps : event.KeepsRecords)
    (h : world.database.Holds rows [] false) (backed : Backed world.states rows) :
    ∃ added, (event.after world).database.Holds (rows ++ added) [] false ∧
      Path world.states (event.announcements world) (event.after world).states ∧
      Backed (event.after world).states (rows ++ added) := by
  cases keeps with
  | change gains =>
      obtain ⟨added, holds⟩ := gains world.database rows h
      exact ⟨added, holds, .nil _, backed.append added⟩
  | @use runner operation refusals spares promise =>
      by_cases runs : operation.Runs
      · obtain ⟨entries, transcript, exchanged, announced, _⟩ :=
          Session.exists_transcript (Recording.answering refusals) (runner.run world.states)
            world.states world.database
        have leads : Recording.Leads refusals world.database _ _ :=
          Recording.leads_exchanges (runner.run world.states) world.states world.database
        rw [exchanged] at leads
        rw [after_of_runs runs, announcements_of_runs runs, announced]
        generalize ((runner.run world.states).hold (Recording.answering refusals) world.states
          world.database).2 = after at leads ⊢
        cases recognized : runner.recognized with
        | error failure =>
            obtain ⟨rfl, returned⟩ :=
              Runner.entries_eq_nil_of_unrecognized recognized transcript
            rw [returned]
            cases leads
            exact ⟨[], by rwa [List.append_nil], .nil _, backed.append []⟩
        | ok found =>
            obtain ⟨course, staging, returned⟩ :=
              Runner.exists_staging_of_run recognized transcript
            rw [returned]
            exact staging.exists_path spares promise leads h backed
      · have unchanged : ((Event.use runner operation (Recording.answering refusals)).after
            world).database.Holds rows [] false := Runner.holds_of_perform runs spares h
        rw [announcements_of_reading runs, states_after_of_reading runs]
        exact ⟨[], by rwa [List.append_nil], .nil _, backed.append []⟩

theorem exists_path_of_keepsRecords {events : List (Event Recording)}
    (keeps : ∀ event ∈ events, event.KeepsRecords) (h : world.database.Holds rows [] false)
    (backed : Backed world.states rows) :
    ∃ added, (after world events).database.Holds (rows ++ added) [] false ∧
      Path world.states (announcements world events) (after world events).states ∧
      Backed (after world events).states (rows ++ added) := by
  induction events generalizing world rows with
  | nil => exact ⟨[], by rwa [List.append_nil], .nil _, backed.append []⟩
  | cons event later ih =>
      rw [List.forall_mem_cons] at keeps
      obtain ⟨first, holds, path, remembered⟩ := keeps.1.exists_path h backed
      obtain ⟨second, holds, onward, remembered⟩ := ih keeps.2 holds remembered
      rw [List.append_assoc] at holds remembered
      exact ⟨first ++ second, holds, path.append onward, remembered⟩

/-- **Only legal changes.** Take any events of a runner that remembers nothing at first,
with a recording database without an open transaction and with nothing uncommitted. Rows
may be added by others but are never removed. Any calls but rollbacks may be refused, and
a count is refused for want of the table only while no committed row bears the name. Then
the states that the runner comes to remember are a path of legal changes, from nothing to
what it remembers in the end, and what was applied stays applied. -/
theorem path_of_announcements (db : Recording) (events : List (Event Recording))
    (idle : db.inTransaction = false) (clean : db.uncommitted = [])
    (keeps : ∀ event ∈ events, event.KeepsRecords) :
    Path [] (announcements ⟨[], db⟩ events) (after ⟨[], db⟩ events).states ∧
      (announcements ⟨[], db⟩ events).Pairwise RunStates.KeepsApplied := by
  have start : (World.mk [] db).database.Holds db.committed [] false := ⟨rfl, clean, idle⟩
  obtain ⟨_, _, path, _⟩ := exists_path_of_keepsRecords keeps start (.nil db.committed)
  exact ⟨path, path.pairwise_keepsApplied⟩

/-- A run whose commit is refused, a row that somebody else commits, a run that succeeds,
and one that skips. -/
def persistence : List (Event Recording) :=
  [.use (single asking) .run (Recording.answering .commits),
    .change fun db => db.insertCommitted noteName.text,
    .use (single asking) .run (Recording.answering .none),
    .use (single asking) (.prepare .create) (Recording.answering .none)]

/-- The first attempt fails, the second one succeeds, and there is no third. -/
theorem path_of_announcements_persistence :
    (∀ event ∈ persistence, event.KeepsRecords) ∧
      announcements ⟨[], {}⟩ persistence =
        [[(scriptName, .applying)], [(scriptName, .failed)], [(scriptName, .applying)],
          [(scriptName, .applied)]] ∧
      Path [] (announcements ⟨[], {}⟩ persistence) [(scriptName, .applied)] := by
  have known : (single asking).recognized = .ok ([asking], []) := Runner.recognized_single _
  have keeps : ∀ event ∈ persistence, event.KeepsRecords := by
    have failing := Event.KeepsRecords.use (single asking) .run Refusals.commits_sparesRollback
      Refusals.commits_neverMisses.missesOnlyUnrecorded
    have passing (operation : Runner.Operation) :=
      Event.KeepsRecords.use (single asking) operation Refusals.none_sparesRollback
        Refusals.none_neverMisses.missesOnlyUnrecorded
    have gains := Event.KeepsRecords.change (Recording.gains_insertCommitted noteName.text)
    simp [persistence, failing, passing, gains]
  have announced : announcements ⟨[], {}⟩ persistence =
      [[(scriptName, .applying)], [(scriptName, .failed)], [(scriptName, .applying)],
        [(scriptName, .applied)]] := by
    simp only [announcements, persistence, Event.announcements, Event.after, Runner.perform,
      Runner.prepare, Runner.run, known]
    decide +kernel
  have final : (after ⟨[], {}⟩ persistence).states = [(scriptName, .applied)] := by
    simp only [after, List.foldl, persistence, Event.after, Runner.perform, Runner.prepare,
      Runner.run, known]
    decide +kernel
  obtain ⟨path, _⟩ := path_of_announcements {} persistence rfl rfl keeps
  rw [final] at path
  exact ⟨keeps, announced, path⟩

end History

end MigrationLedger
