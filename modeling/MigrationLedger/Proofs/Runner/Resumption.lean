/-
# Failed runs can be resumed

When no script ends a transaction by itself, a run adds rows for the unrecorded
migrations in front of the one it fails at and for no other. So it does not change
which names the rows end up with once every migration is taken up. The list of these
names is the quantity that all runs preserve, however they fail, and a run that
succeeds ends with exactly this list.

A run without refusals can fail only at a statement that cannot be qualified. If one
run succeeds, the statements of every unrecorded migration can be qualified, so no
later run without refusals fails either.
-/

import MigrationLedger.Proofs.Runner.Progress

namespace MigrationLedger

namespace Runner

open Recording (Leads Holds)

variable {runner : Runner} {migration : Migration} {name : MigrationName}
  {refusals : Refusals} {before after db : Recording} {exchanged : List Exchange}
  {migrations settled rest : List Migration} {ignored : List MigrationName} {course : Course}
  {rows added leaked : List RecordedRow} {honest : Prop}

/-! ## What runs preserve -/

/-- The names that the rows bear once every migration is taken up. -/
def finalNames (rows : List RecordedRow) (migrations : List Migration) : List String :=
  rows.map RecordedRow.name ++ (unrecorded rows migrations).map fun migration => migration.name.text

theorem unrecorded_append (rows : List RecordedRow) (first second : List Migration) :
    unrecorded rows (first ++ second) = unrecorded rows first ++ unrecorded rows second :=
  List.filter_append first second

/-- More rows leave fewer migrations unrecorded. -/
theorem unrecorded_of_unrecorded_append
    (member : migration ∈ unrecorded (rows ++ added) migrations) :
    migration ∈ unrecorded rows migrations := by
  obtain ⟨member, fresh⟩ := mem_unrecorded_iff.mp member
  rw [recorded_append, Bool.or_eq_false_iff] at fresh
  exact mem_unrecorded_iff.mpr ⟨member, fresh.1⟩

/-- Rows for migrations in front bear none of the later names. -/
theorem recorded_eq_false_of_settled (ascending : (settled ++ rest).Pairwise Migration.Before)
    (names : added.map RecordedRow.name =
      (unrecorded rows settled).map fun migration => migration.name.text)
    (member : migration ∈ rest) : recorded added migration.name = false := by
  by_contra present
  obtain ⟨row, present, same⟩ := recorded_iff.mp (Bool.eq_true_of_not_eq_false present)
  have named : row.name ∈ added.map RecordedRow.name := List.mem_map_of_mem present
  rw [names] at named
  obtain ⟨earlier, pending, text⟩ := List.mem_map.mp named
  have before := (List.pairwise_append.mp ascending).2.2 earlier (mem_unrecorded_iff.mp pending).1
    migration member
  exact ne_of_lt before (text.trans same)

/-- With a row for each unrecorded migration in front, only the rest can be
unrecorded. -/
theorem unrecorded_of_settled (ascending : (settled ++ rest).Pairwise Migration.Before)
    (names : added.map RecordedRow.name =
      (unrecorded rows settled).map fun migration => migration.name.text) :
    unrecorded (rows ++ added) (settled ++ rest) = unrecorded rows rest := by
  have front : unrecorded (rows ++ added) settled = [] := by
    refine List.filter_eq_nil_iff.mpr fun migration member => ?_
    rw [recorded_append]
    cases known : recorded rows migration.name with
    | true => simp
    | false =>
        have pending := mem_unrecorded_iff.mpr ⟨member, known⟩
        have named : migration.name.text ∈ added.map RecordedRow.name := by
          rw [names]
          exact List.mem_map_of_mem pending
        simp [recorded_iff.mpr (List.mem_map.mp named)]
  have back : unrecorded (rows ++ added) rest = unrecorded rows rest := by
    refine List.filter_congr fun migration member => ?_
    rw [recorded_append, recorded_eq_false_of_settled ascending names member, Bool.or_false]
  rw [unrecorded_append, front, back, List.nil_append]

namespace Progress

/-- A run leaves no row for the migration it fails at if no script ends a
transaction. -/
theorem leaked_eq_nil (promise : honest)
    (progress : Progress runner honest rows course settled rest added leaked)
    (plain : ∀ migration ∈ unrecorded rows (settled ++ rest), runner.EndsNoTransaction migration) :
    leaked = [] := by
  rcases progress.leaked_cases with none | ⟨failing, later, _, rfl, records, _, fresh⟩
  · exact none
  · have pending : failing ∈ unrecorded rows (settled ++ failing :: later) :=
      mem_unrecorded_iff.mpr ⟨by simp, fresh promise⟩
    have ended := (records_error_iff.mp records).2
    rw [(plain failing pending).leavesOpen] at ended
    cases ended

/-- A run preserves the names that the rows end up with. -/
theorem finalNames_eq (promise : honest)
    (progress : Progress runner honest rows course settled rest added leaked)
    (ascending : (settled ++ rest).Pairwise Migration.Before) :
    finalNames (rows ++ added) (settled ++ rest) = finalNames rows (settled ++ rest) := by
  have names := progress.names_eq promise
  rw [finalNames, finalNames, unrecorded_of_settled ascending names, unrecorded_append,
    List.map_append, List.map_append, names, List.append_assoc]

/-- A run that ends has reached these names. -/
theorem names_eq_finalNames (promise : honest)
    (progress : Progress runner honest rows course settled rest added leaked)
    (ended : course.stop = none) :
    (rows ++ (added ++ leaked)).map RecordedRow.name = finalNames rows (settled ++ rest) := by
  obtain ⟨rfl, rfl⟩ := progress.finished ended
  rw [List.append_nil, List.append_nil, List.map_append, progress.names_eq promise]
  rfl

end Progress

/-! ## Runs without refusals -/

/-- Every statement of the migration can be qualified. -/
def Qualifies (runner : Runner) (migration : Migration) : Prop :=
  ∀ statement ∈ runner.ownStatements migration,
    ∃ sql, runner.qualify statement = .ok sql

/-- Nothing that was exchanged is a refusal. -/
def AllAccepted (exchanged : List Exchange) : Prop :=
  ∀ (call : Call) (error : DbError), (⟨call, .error error⟩ : Exchange) ∉ exchanged

theorem allAccepted_append_iff {first second : List Exchange} :
    AllAccepted (first ++ second) ↔ AllAccepted first ∧ AllAccepted second := by
  simp only [AllAccepted, List.mem_append, not_or]
  exact ⟨fun both => ⟨fun call error => (both call error).1, fun call error => (both call error).2⟩,
    fun both call error => ⟨both.1 call error, both.2 call error⟩⟩

theorem allAccepted_nil : AllAccepted [] := fun _ _ => List.not_mem_nil

/-- An accepted call is no refusal. -/
theorem allAccepted_ok_cons_iff {call : Call} {reply : call.Reply} {later : List Exchange} :
    AllAccepted (⟨call, .ok reply⟩ :: later) ↔ AllAccepted later := by
  constructor
  · intro accepted other error member
    exact accepted other error (List.mem_cons_of_mem _ member)
  · intro accepted other error member
    rcases List.mem_cons.mp member with same | member
    · cases same
    · exact accepted other error member

theorem AllAccepted.ne_refused (accepted : AllAccepted exchanged) {call : Call} {error : DbError}
    {front back : List Exchange} : exchanged ≠ front ++ ⟨call, .error error⟩ :: back := by
  rintro rfl
  exact accepted call error (by simp)

/-- A database that refuses nothing accepts every call. -/
theorem allAccepted_of_leads (leads : Leads Refusals.none before exchanged after) :
    AllAccepted exchanged := by
  induction leads with
  | nil db => exact fun _ _ => List.not_mem_nil
  | @cons db after call later rest ih =>
      intro other error member
      rcases List.mem_cons.mp member with same | member
      · rw [Recording.respond_of_accepted rfl] at same
        cases same
      · exact ih other error member

/-- A check fails at a refusal only. -/
theorem Check.not_allAccepted {failure : Failure}
    (check : runner.Check name exchanged (.error failure)) : ¬ AllAccepted exchanged := by
  generalize ended : Except.error failure = outcome at check
  intro accepted
  cases check with
  | unconnected error => exact accepted .connect error List.mem_cons_self
  | counted count => cases ended
  | untracked error missing => cases ended
  | refused error present => exact accepted (runner.countCall name) error (by simp)

/-- Statements that are all carried out can all be qualified. -/
theorem qualified_of_carried {statements : List String} {number : Nat}
    (carried : Carried ((statements.zipIdx number).map (runner.statementStep name))
      exchanged (.ok ())) :
    ∀ statement ∈ statements, ∃ sql, runner.qualify statement = .ok sql := by
  induction statements generalizing number exchanged with
  | nil => simp
  | cons statement rest ih =>
      rw [List.forall_mem_cons]
      rcases carried_statements_cons_iff.mp carried with
        ⟨_, _, _, same⟩ | ⟨sql, qualified, ⟨_, _, same⟩ | ⟨_, _, carriedRest⟩⟩
      · cases same
      · cases same
      · exact ⟨⟨sql, qualified⟩, ih carriedRest⟩

/-- Accepted statements fail at one that cannot be qualified. -/
theorem not_qualified_of_carried {statements : List String} {number : Nat} {failure : Failure}
    (carried : Carried ((statements.zipIdx number).map (runner.statementStep name))
      exchanged (.error failure)) (accepted : AllAccepted exchanged) :
    ¬ ∀ statement ∈ statements, ∃ sql, runner.qualify statement = .ok sql := by
  induction statements generalizing number exchanged with
  | nil => cases carried
  | cons statement rest ih =>
      rw [List.forall_mem_cons]
      rintro ⟨⟨sql, qualified⟩, others⟩
      rcases carried_statements_cons_iff.mp carried with
        ⟨_, unfit, _⟩ | ⟨_, _, ⟨error, rfl, _⟩ | ⟨later, rfl, carriedRest⟩⟩
      · rw [qualified] at unfit
        cases unfit
      · exact accepted _ error List.mem_cons_self
      · refine ih carriedRest (fun call error member => ?_) others
        exact accepted call error (List.mem_cons_of_mem _ member)

theorem qualifies_of_attempt (attempt : runner.Attempt migration exchanged (.ok ())) :
    runner.Qualifies migration := by
  cases attempt with
  | completed carried =>
      rcases carried_append_iff.mp carried with ⟨_, same, _⟩ | ⟨_, _, _, _, worked⟩
      · cases same
      · rcases carried_append_iff.mp worked with ⟨_, same, _⟩ | ⟨_, _, _, done, _⟩
        · cases same
        · exact qualified_of_carried done

/-- An accepted attempt fails at a statement that cannot be qualified. -/
theorem not_qualifies_of_attempt {failure : Failure}
    (attempt : runner.Attempt migration exchanged (.error failure))
    (accepted : AllAccepted exchanged) : ¬ runner.Qualifies migration := by
  cases attempt with
  | unopened carried =>
      rcases carried_opening_error_iff.mp carried with ⟨error, rfl, _⟩ | ⟨error, rfl, _⟩
      · exact absurd List.mem_cons_self (accepted .connect error)
      · exact absurd (by simp) (accepted (.batch "BEGIN TRANSACTION") error)
  | undone _ failed _ =>
      rw [allAccepted_append_iff, allAccepted_append_iff] at accepted
      obtain ⟨⟨_, worked⟩, _⟩ := accepted
      rcases carried_work_iff.mp failed with
        ⟨_, _, carried | ⟨_, _, _, rfl, _⟩⟩ | ⟨_, _, _, _, rfl, closed⟩
      · exact not_qualified_of_carried carried worked
      · exact absurd rfl worked.ne_refused
      · obtain ⟨error, rfl, _⟩ := carried_commit_error_iff.mp closed
        rw [List.append_cons] at worked
        exact absurd rfl worked.ne_refused

/-- What was applied could be qualified. -/
theorem Round.qualifies_of_applied (round : runner.Round migrations exchanged course)
    (applied : name ∈ course.applied) :
    ∃ migration ∈ migrations, migration.name = name ∧ runner.Qualifies migration := by
  induction round with
  | finished | unchecked | failed => cases applied
  | skipped _ _ ih =>
      obtain ⟨migration, member, found⟩ := ih applied
      exact ⟨migration, List.mem_cons_of_mem _ member, found⟩
  | applied _ attempt _ ih =>
      rcases List.mem_cons.mp applied with rfl | applied
      · exact ⟨_, List.mem_cons_self, rfl, qualifies_of_attempt attempt⟩
      · obtain ⟨migration, member, found⟩ := ih applied
        exact ⟨migration, List.mem_cons_of_mem _ member, found⟩

/-- Without refusals a run stops only at a migration that cannot be qualified, once
it has taken it up. -/
theorem Round.not_qualifies_of_stop (round : runner.Round migrations exchanged course)
    (accepted : AllAccepted exchanged) {stop : Stop} (stopped : course.stop = some stop) :
    stop.attempted = true ∧
      ∃ migration ∈ migrations, migration.name = stop.name ∧ ¬ runner.Qualifies migration := by
  induction round with
  | finished => cases stopped
  | skipped _ _ ih =>
      obtain ⟨attempted, migration, member, found⟩ :=
        ih (allAccepted_append_iff.mp accepted).2 stopped
      exact ⟨attempted, migration, List.mem_cons_of_mem _ member, found⟩
  | applied _ _ _ ih =>
      obtain ⟨attempted, migration, member, found⟩ :=
        ih (allAccepted_append_iff.mp accepted).2 stopped
      exact ⟨attempted, migration, List.mem_cons_of_mem _ member, found⟩
  | unchecked check => exact absurd accepted check.not_allAccepted
  | failed _ attempt =>
      cases stopped
      exact ⟨rfl, _, List.mem_cons_self, rfl,
        not_qualifies_of_attempt attempt (allAccepted_append_iff.mp accepted).2⟩

/-! ## Many runs -/

/-- One run of many: what the runner remembers at its beginning, and which calls are
refused in it. A new runner remembers nothing. -/
structure Trial where
  states : RunStates
  refusals : Refusals

/-- The recording database after runs, one after another. -/
def afterTrials (runner : Runner) (trials : List Trial) (db : Recording) : Recording :=
  trials.foldl (fun db trial => runner.afterRun trial.refusals trial.states db) db

/-- What any number of runs leave: more rows, and the names that they end up with
unchanged. -/
structure Underway (migrations : List Migration) (rows : List RecordedRow) (db : Recording) :
    Prop where
  holds : db.Holds db.committed [] false
  grown : ∃ added, db.committed = rows ++ added
  finalNames_eq : finalNames db.committed migrations = finalNames rows migrations

theorem Underway.unrecorded_subset (underway : Underway migrations rows db)
    (member : migration ∈ unrecorded db.committed migrations) :
    migration ∈ unrecorded rows migrations := by
  obtain ⟨added, grown⟩ := underway.grown
  rw [grown] at member
  exact unrecorded_of_unrecorded_append member

section Underway

-- The migrations are known, and no statement of those without a row ends a
-- transaction.
variable (known : runner.recognized = .ok (migrations, ignored))
  (plain : ∀ migration ∈ unrecorded rows migrations, runner.EndsNoTransaction migration)

include known plain

/-- One more run: the course that it takes, what it adds and what it preserves. -/
theorem Underway.exists_course (spares : refusals.SparesRollback)
    (finds : refusals.NeverMisses) (states : RunStates)
    (underway : Underway migrations rows db) :
    ∃ course settled rest added,
      runner.Round migrations (runner.saidOn refusals states db) course ∧
        runner.resultOn refusals states db = course.result ignored ∧
        Leads refusals db (runner.saidOn refusals states db) (runner.afterRun refusals states db) ∧
        migrations = settled ++ rest ∧
        (runner.afterRun refusals states db).Holds (db.committed ++ added) [] false ∧
        Progress runner refusals.MissesOnlyUnrecorded db.committed course settled rest added [] ∧
        Underway migrations rows (runner.afterRun refusals states db) := by
  obtain ⟨course, settled, rest, added, leaked, round, returned, leads, rfl, holds, progress⟩ :=
    Runner.exists_course known spares states underway.holds
  have promise := finds.missesOnlyUnrecorded
  obtain rfl := progress.leaked_eq_nil promise fun migration member =>
    plain migration (underway.unrecorded_subset member)
  rw [List.append_nil] at holds
  refine ⟨course, settled, rest, added, round, returned, leads, rfl, holds, progress, ?_, ?_, ?_⟩
  · rw [holds.committed_eq]
    exact holds
  · obtain ⟨before, grown⟩ := underway.grown
    rw [holds.committed_eq, grown]
    exact ⟨before ++ added, List.append_assoc _ _ _⟩
  · rw [holds.committed_eq,
      progress.finalNames_eq promise (pairwise_before_of_recognized known), underway.finalNames_eq]

/-- Any number of runs, however they fail. -/
theorem Underway.afterTrials {trials : List Trial}
    (spares : ∀ trial ∈ trials, trial.refusals.SparesRollback)
    (finds : ∀ trial ∈ trials, trial.refusals.NeverMisses)
    (underway : Underway migrations rows db) :
    Underway migrations rows (runner.afterTrials trials db) := by
  induction trials generalizing db with
  | nil => exact underway
  | cons trial later ih =>
      rw [List.forall_mem_cons] at spares finds
      obtain ⟨_, _, _, _, _, _, _, _, _, _, next⟩ :=
        underway.exists_course known plain spares.1 finds.1 trial.states
      exact ih spares.2 finds.2 next

/-- A run that ends has brought the rows to their final names. -/
theorem Underway.names_of_result (spares : refusals.SparesRollback)
    (finds : refusals.NeverMisses) {states : RunStates}
    (underway : Underway migrations rows db) {report : Report}
    (succeeds : runner.resultOn refusals states db = .ok report) :
    (runner.afterRun refusals states db).committed.map RecordedRow.name =
      finalNames rows migrations := by
  obtain ⟨course, settled, rest, added, _, returned, _, rfl, holds, progress, _⟩ :=
    underway.exists_course known plain spares finds states
  have ended := stop_eq_none_of_result (returned.symm.trans succeeds)
  have names := progress.names_eq_finalNames finds.missesOnlyUnrecorded ended
  rw [List.append_nil] at names
  rw [holds.committed_eq, names, underway.finalNames_eq]

/-- After a run that succeeds, the statements of every migration that was unrecorded
before it are known to be qualified. -/
theorem Underway.qualifies_of_result (spares : refusals.SparesRollback)
    (finds : refusals.NeverMisses) {states : RunStates}
    (underway : Underway migrations rows db) {report : Report}
    (succeeds : runner.resultOn refusals states db = .ok report)
    (member : migration ∈ unrecorded db.committed migrations) : runner.Qualifies migration := by
  obtain ⟨course, settled, rest, added, round, returned, _, split, _, progress, _⟩ :=
    underway.exists_course known plain spares finds states
  obtain ⟨none, _⟩ := progress.finished (stop_eq_none_of_result (returned.symm.trans succeeds))
  rw [none, List.append_nil] at split
  subst split
  have applied : migration.name ∈ course.applied := by
    rw [progress.applied_eq finds.missesOnlyUnrecorded]
    exact List.mem_map_of_mem member
  obtain ⟨same, present, named, qualifies⟩ := round.qualifies_of_applied applied
  rwa [← Migration.eq_of_name_eq (pairwise_before_of_recognized known) present
    (mem_unrecorded_iff.mp member).1 named]

/-- A run without refusals succeeds when every unrecorded migration can be
qualified. -/
theorem Underway.exists_report
    (qualifies : ∀ migration ∈ unrecorded rows migrations, runner.Qualifies migration)
    (underway : Underway migrations rows db) (states : RunStates) :
    ∃ report, runner.resultOn .none states db = .ok report := by
  obtain ⟨course, settled, rest, added, round, returned, leads, rfl, _, progress, _⟩ :=
    underway.exists_course known plain Refusals.none_sparesRollback Refusals.none_neverMisses states
  rw [returned]
  cases stopped : course.stop with
  | none => exact ⟨_, by rw [Course.result, stopped]⟩
  | some stop =>
      obtain ⟨attempted, failing, present, named, unfit⟩ :=
        round.not_qualifies_of_stop (allAccepted_of_leads leads) stopped
      obtain ⟨migration, later, rfl, same, fresh, _⟩ := progress.stopped stop stopped
      obtain rfl := Migration.eq_of_name_eq (pairwise_before_of_recognized known) present
        (by simp : migration ∈ _) (named.trans same)
      have pending : failing ∈ unrecorded db.committed (settled ++ failing :: later) :=
        mem_unrecorded_iff.mpr
          ⟨present, fresh attempted Refusals.none_neverMisses.missesOnlyUnrecorded⟩
      exact absurd (qualifies failing (underway.unrecorded_subset pending)) unfit

end Underway

/-! ## Resumption -/

/-- **Failed runs leave a clean prefix and can be resumed.** Take any number of runs
on a database without an open transaction, any calls of which may be refused, except
that a rollback never is and a count never for want of a table. No statement of an
unrecorded migration ends a transaction. Then a run that fails adds a row for each
unrecorded migration in front of the one it fails at, in the order of their names,
and no other row. If a run without refusals would have succeeded at the beginning,
one succeeds after all of these runs too, and the rows end up with the same names. -/
theorem runs_resumable (known : runner.recognized = .ok (migrations, ignored))
    (idle : db.inTransaction = false) (clean : db.uncommitted = [])
    (plain : ∀ migration ∈ unrecorded db.committed migrations,
      runner.EndsNoTransaction migration)
    (trials : List Trial) (spares : ∀ trial ∈ trials, trial.refusals.SparesRollback)
    (finds : ∀ trial ∈ trials, trial.refusals.NeverMisses) :
    migrations.Pairwise Migration.Before ∧
      (∀ earlier last later failure, trials = earlier ++ last :: later →
        runner.resultOn last.refusals last.states (runner.afterTrials earlier db) =
          .error failure →
        ∃ settled failing rest added, migrations = settled ++ failing :: rest ∧
          failure.subject? = some failing.name ∧
          (runner.afterTrials (earlier ++ [last]) db).Holds
            ((runner.afterTrials earlier db).committed ++ added) [] false ∧
          added.map RecordedRow.name =
            (unrecorded (runner.afterTrials earlier db).committed settled).map
              (fun migration => migration.name.text) ∧
          ∀ other ∈ failing :: rest, recorded added other.name = false) ∧
      ∀ states states' report, runner.resultOn .none states db = .ok report →
        (∃ report', runner.resultOn .none states' (runner.afterTrials trials db) = .ok report') ∧
          (runner.afterRun .none states' (runner.afterTrials trials db)).committed.map
              RecordedRow.name =
            (runner.afterRun .none states db).committed.map RecordedRow.name := by
  have ascending := pairwise_before_of_recognized known
  have start : Underway migrations db.committed db :=
    ⟨⟨rfl, clean, idle⟩, ⟨[], (List.append_nil _).symm⟩, rfl⟩
  refine ⟨ascending, ?_, ?_⟩
  · rintro earlier last later failure rfl failed
    rw [List.forall_mem_append, List.forall_mem_cons] at spares finds
    have before := start.afterTrials known plain spares.1 finds.1
    obtain ⟨course, settled, rest, added, round, returned, _, rfl, holds, progress, _⟩ :=
      before.exists_course known plain spares.2.1 finds.2.1 last.states
    obtain ⟨stop, stopped, rfl⟩ := exists_stop_of_result (returned.symm.trans failed)
    obtain ⟨failing, others, rfl, same, _⟩ := progress.stopped stop stopped
    have names := progress.names_eq finds.2.1.missesOnlyUnrecorded
    refine ⟨settled, failing, others, added, rfl, ?_, ?_, names,
      fun other member => recorded_eq_false_of_settled ascending names member⟩
    · rw [← same]
      exact round.subject? stopped
    · rw [afterTrials, List.foldl_append]
      exact holds
  · intro states states' report succeeds
    have now := start.afterTrials known plain spares finds
    have qualifies : ∀ migration ∈ unrecorded db.committed migrations,
        runner.Qualifies migration := fun migration member =>
      start.qualifies_of_result known plain Refusals.none_sparesRollback
        Refusals.none_neverMisses succeeds member
    obtain ⟨report', again⟩ := now.exists_report known plain qualifies states'
    refine ⟨⟨report', again⟩, ?_⟩
    rw [now.names_of_result known plain Refusals.none_sparesRollback Refusals.none_neverMisses
        again,
      start.names_of_result known plain Refusals.none_sparesRollback Refusals.none_neverMisses
        succeeds]

/-- A run whose commit is refused, then one without refusals. -/
theorem resumed_asking :
    (single asking).resultOn .commits [] {} =
        .error (.transaction asking.name (Transaction.commitError (.execution "refused"))) ∧
      (∃ report, (single asking).resultOn .none []
        ((single asking).afterTrials [⟨[], .commits⟩] {}) = .ok report) ∧
      ((single asking).afterRun .none []
          ((single asking).afterTrials [⟨[], .commits⟩] {})).committed.map RecordedRow.name =
        [asking.name.text] := by
  have known : (single asking).recognized = .ok ([asking], []) := recognized_single _
  have failed : (single asking).resultOn .commits [] {} =
      .error (.transaction asking.name (Transaction.commitError (.execution "refused"))) := by
    rw [resultOn, run, known]
    simp only [takeUp, apply, statementsOf_asking]
    rfl
  have first : (single asking).resultOn .none [] {} = .ok ⟨[asking.name], [], []⟩ ∧
      ((single asking).afterRun .none [] {}).committed.map RecordedRow.name =
        [asking.name.text] := by
    rw [resultOn, afterRun, run, known]
    simp only [takeUp, apply, statementsOf_asking]
    exact ⟨rfl, rfl⟩
  obtain ⟨report, names⟩ := (runs_resumable known rfl rfl
    (fun migration member => by
      obtain rfl := List.mem_singleton.mp (mem_unrecorded_iff.mp member).1
      exact endsNoTransaction_asking)
    [⟨[], .commits⟩] (by simp [Refusals.commits_sparesRollback])
    (by simp [Refusals.commits_neverMisses])).2.2 [] [] _ first.1
  exact ⟨failed, report, names.trans first.2⟩

end Runner

end MigrationLedger
