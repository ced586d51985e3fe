/-
# What a runner remembers under way

While a run talks to its database, what it remembers can be looked at during any call.
Each call stands at a known place: the migrations in front are settled, the next one is
being checked or attempted, and the others are untouched. A migration is remembered as
applying exactly during the calls of its attempt, so a status that is asked for in the
middle of a run shows at most this one as applying.

Nothing is assumed about the databases, neither about the one that the run talks to nor
about the one that the status reads. What was remembered before the run comes from any
history of the runner.
-/

import MigrationLedger.Proofs.Runner.AtRest
import MigrationLedger.Proofs.Runner.Atomicity
import MigrationLedger.Proofs.Runner.Breakdown
import MigrationLedger.Proofs.Runner.Forecast
import MigrationLedger.Proofs.Runner.Repetition

namespace MigrationLedger

/-- The rows that an exchange has read. -/
def Exchange.rowsRead : Exchange → List (List String)
  | ⟨.rows _ _, .ok rows⟩ => rows
  | _ => []

namespace Runner

variable {runner : Runner} {states : RunStates} {migrations rest front : List Migration}
  {migration : Migration} {name : MigrationName} {entries : List Entry} {course : Course}
  {earlier later : List Moment} {moment : Moment} {checked attempted said : List Exchange}
  {ignored : List MigrationName}

/-! ## Where a run stands -/

/-- What a run does with a migration while a call is under way: what was said about the
migration before, the call with its answer, and the name that is applying, if any. -/
inductive Phase (runner : Runner) (migration : Migration) :
    List Exchange → Exchange → Option MigrationName → Prop
  | /-- It asks whether the migration was applied. -/
    checking {said rest : List Exchange} {exchange : Exchange} {outcome : Except Failure Bool}
      (check : runner.Check migration.name (said ++ exchange :: rest) outcome) :
      Phase runner migration said exchange none
  | /-- The migration was not applied, and is attempted. -/
    attempting {checked said rest : List Exchange} {exchange : Exchange}
      {outcome : Except Failure Unit} (check : runner.Check migration.name checked (.ok false))
      (attempt : runner.Attempt migration (said ++ exchange :: rest) outcome) :
      Phase runner migration (checked ++ said) exchange (some migration.name)

/-- What is remembered while a migration is applying, if one is. -/
def whileApplying (states : RunStates) : Option MigrationName → RunStates
  | none => states
  | some name => states.set name .applying

/-- Where a run stands while a call is under way, given what it remembered at first and
what it has said before. -/
structure Standing (runner : Runner) (states : RunStates) (migrations : List Migration)
    (earlier : List Exchange) (moment : Moment) where
  /-- The migrations that are settled. -/
  front : List Migration
  /-- The migration that the call is about. -/
  migration : Migration
  /-- The migrations that are still to be taken up. -/
  back : List Migration
  /-- What became of the settled migrations. -/
  course : Course
  settled : List Exchange
  said : List Exchange
  applying : Option MigrationName
  migrations_eq : migrations = front ++ migration :: back
  earlier_eq : earlier = settled ++ said
  round : runner.Round front settled course
  onward : course.stop = none
  phase : runner.Phase migration said moment.exchange applying
  states_eq : moment.states = whileApplying (course.remembered states) applying

/-- A place among exchanges during which the same is remembered. -/
theorem exchanges_of_split
    (split : said.map (Moment.mk states) = earlier ++ moment :: later) :
    said = earlier.map Moment.exchange ++ moment.exchange :: later.map Moment.exchange ∧
      moment.states = states := by
  constructor
  · have exchanged := congrArg (List.map Moment.exchange) split
    simpa [Function.comp_def] using exchanged
  · have member : moment ∈ said.map (Moment.mk states) := by simp [split]
    obtain ⟨_, _, rfl⟩ := List.mem_map.mp member
    rfl

namespace Standing

/-- The run checks its first migration. -/
def ofCheck {outcome : Except Failure Bool}
    (check : runner.Check migration.name checked outcome)
    (split : checked.map (Moment.mk states) = earlier ++ moment :: later) :
    runner.Standing states (migration :: rest) (earlier.map Moment.exchange) moment where
  front := []
  migration := migration
  back := rest
  course := {}
  settled := []
  said := earlier.map Moment.exchange
  applying := none
  migrations_eq := rfl
  earlier_eq := rfl
  round := .finished
  onward := rfl
  phase := .checking (by rwa [(exchanges_of_split split).1] at check)
  states_eq := (exchanges_of_split split).2

/-- The run attempts its first migration. -/
def ofAttempt {outcome : Except Failure Unit}
    (check : runner.Check migration.name checked (.ok false))
    (attempt : runner.Attempt migration attempted outcome)
    (split : attempted.map (Moment.mk (states.set migration.name .applying)) =
      earlier ++ moment :: later) :
    runner.Standing states (migration :: rest) (checked ++ earlier.map Moment.exchange)
      moment where
  front := []
  migration := migration
  back := rest
  course := {}
  settled := []
  said := checked ++ earlier.map Moment.exchange
  applying := some migration.name
  migrations_eq := rfl
  earlier_eq := rfl
  round := .finished
  onward := rfl
  phase := .attempting check (by rwa [(exchanges_of_split split).1] at attempt)
  states_eq := (exchanges_of_split split).2

variable {exchanged : List Exchange}

/-- The run has skipped one more migration before. -/
def skip (check : runner.Check migration.name checked (.ok true))
    (standing : runner.Standing states rest exchanged moment) :
    runner.Standing states (migration :: rest) (checked ++ exchanged) moment where
  front := migration :: standing.front
  migration := standing.migration
  back := standing.back
  course := standing.course.skip migration.name
  settled := checked ++ standing.settled
  said := standing.said
  applying := standing.applying
  migrations_eq := congrArg (migration :: ·) standing.migrations_eq
  earlier_eq :=
    (congrArg (checked ++ ·) standing.earlier_eq).trans (List.append_assoc _ _ _).symm
  round := .skipped check standing.round
  onward := standing.onward
  phase := standing.phase
  states_eq := standing.states_eq

/-- The run has applied one more migration before. -/
def apply (check : runner.Check migration.name checked (.ok false))
    (attempt : runner.Attempt migration attempted (.ok ()))
    (standing : runner.Standing (Course.attempted states migration.name .applied) rest exchanged
      moment) :
    runner.Standing states (migration :: rest) (checked ++ attempted ++ exchanged) moment where
  front := migration :: standing.front
  migration := standing.migration
  back := standing.back
  course := standing.course.apply migration.name
  settled := checked ++ attempted ++ standing.settled
  said := standing.said
  applying := standing.applying
  migrations_eq := congrArg (migration :: ·) standing.migrations_eq
  earlier_eq :=
    (congrArg (checked ++ attempted ++ ·) standing.earlier_eq).trans
      (List.append_assoc _ _ _).symm
  round := .applied check attempt standing.round
  onward := standing.onward
  phase := standing.phase
  states_eq := standing.states_eq

end Standing

theorem exchanges_append_said (said : List Exchange) (states : RunStates) (later : List Moment) :
    (said.map (Moment.mk states) ++ later).map Moment.exchange =
      said ++ later.map Moment.exchange := by
  simp [Function.comp_def]

/-- At each of its calls a run stands somewhere. -/
theorem Staging.nonempty_standing (staging : runner.Staging states migrations entries course)
    (split : Entry.moments states entries = earlier ++ moment :: later) :
    Nonempty (runner.Standing states migrations (earlier.map Moment.exchange) moment) := by
  induction staging generalizing earlier with
  | finished => simp [Entry.moments] at split
  | skipped check _ ih =>
      rw [Entry.moments_said_append] at split
      rcases split_append split with ⟨_, during, _⟩ | ⟨_, rfl, behind⟩
      · exact ⟨.ofCheck check during⟩
      · obtain ⟨standing⟩ := ih behind
        rw [exchanges_append_said]
        exact ⟨standing.skip check⟩
  | applied check attempt _ ih =>
      -- The call belongs to the check, to the attempt, or to what comes after both.
      rw [Entry.moments_said_append, Entry.moments, Entry.moments_said_append,
        Entry.moments] at split
      rcases split_append split with ⟨_, during, _⟩ | ⟨_, rfl, onward⟩
      · exact ⟨.ofCheck check during⟩
      · rw [exchanges_append_said]
        rcases split_append onward with ⟨_, during, _⟩ | ⟨_, rfl, behind⟩
        · exact ⟨.ofAttempt check attempt during⟩
        · obtain ⟨standing⟩ := ih behind
          rw [exchanges_append_said, ← List.append_assoc]
          exact ⟨standing.apply check attempt⟩
  | unchecked check =>
      rw [Entry.moments_said] at split
      exact ⟨.ofCheck check split⟩
  | failed check attempt =>
      rw [Entry.moments_said_append, Entry.moments, Entry.moments_said_append, Entry.moments,
        Entry.moments, List.append_nil] at split
      rcases split_append split with ⟨_, during, _⟩ | ⟨_, rfl, behind⟩
      · exact ⟨.ofCheck check during⟩
      · rw [exchanges_append_said]
        exact ⟨.ofAttempt check attempt behind⟩

/-- Whatever the database answers, a run that makes a call knows its migrations and stands
at one of them. -/
theorem exists_standing_of_run {σ : Type} (answering : Answering σ) (database : σ)
    (split : (runner.run states).moments answering states database = earlier ++ moment :: later) :
    ∃ migrations ignored, runner.recognized = .ok (migrations, ignored) ∧
      Nonempty (runner.Standing states migrations (earlier.map Moment.exchange) moment) := by
  obtain ⟨entries, transcript, _, _, moments⟩ :=
    Session.exists_transcript answering (runner.run states) states database
  rw [moments] at split
  cases recognized : runner.recognized with
  | error failure =>
      obtain ⟨rfl, _⟩ := entries_eq_nil_of_unrecognized recognized transcript
      simp [Entry.moments] at split
  | ok found =>
      obtain ⟨course, staging, _⟩ := exists_staging_of_run recognized transcript
      exact ⟨found.1, found.2, rfl, staging.nonempty_standing split⟩

/-! ## What is remembered there -/

/-- A run that has not stopped has applied or skipped what it has taken up. -/
theorem Round.mem_applied_or_mem_skipped (round : runner.Round migrations said course)
    (onward : course.stop = none) (member : migration ∈ migrations) :
    migration.name ∈ course.applied ∨ migration.name ∈ course.skipped := by
  induction round with
  | finished => cases member
  | skipped _ _ ih =>
      rcases List.mem_cons.mp member with rfl | member
      · exact .inr List.mem_cons_self
      · exact (ih onward member).imp_right (List.mem_cons_of_mem _)
  | applied _ _ _ ih =>
      rcases List.mem_cons.mp member with rfl | member
      · exact .inl List.mem_cons_self
      · exact (ih onward member).imp_left (List.mem_cons_of_mem _)
  | unchecked | failed => cases onward

theorem Phase.eq_of_applying {exchange : Exchange}
    (phase : runner.Phase migration said exchange (some name)) : name = migration.name := by
  cases phase
  rfl

theorem state?_whileApplying_of_ne (states : RunStates) {applying : Option MigrationName}
    (different : applying ≠ some name) :
    (whileApplying states applying).state? name = states.state? name := by
  cases applying with
  | none => rfl
  | some other =>
      exact RunStates.state?_set_of_ne _ _ fun same => different (congrArg some same.symm)

theorem state?_whileApplying_eq_applying_iff (settled : states.Settled)
    (applying : Option MigrationName) (name : MigrationName) :
    (whileApplying states applying).state? name = some .applying ↔ applying = some name := by
  by_cases same : applying = some name
  · subst same
    simp [whileApplying]
  · rw [state?_whileApplying_of_ne states same]
    simp [same, settled.state?_ne_applying]

theorem lookup_map_ok (names : List MigrationName) (name : MigrationName) :
    (names.map fun name => (name, Except.ok ()) : List Tried).lookup name =
      if name ∈ names then some (.ok ()) else none := by
  induction names with
  | nil => rfl
  | cons other rest ih =>
      rw [List.map_cons, List.lookup_cons, ih]
      by_cases same : name = other
      · simp [same]
      · simp [same, beq_false_of_ne same]

/-- A course without a stop leaves the migrations that it applies as applied, and the
others as they were. -/
theorem state?_remembered_of_onward (onward : course.stop = none) (states : RunStates)
    (name : MigrationName) :
    (course.remembered states).state? name =
      if name ∈ course.applied then some .applied else states.state? name := by
  rw [Course.remembered_eq, state?_remember, Course.tried, onward, List.append_nil,
    ← List.map_reverse, lookup_map_ok]
  by_cases applied : name ∈ course.applied
  · simp [applied, stateAfter]
  · simp [applied]

namespace Standing

variable {exchanged : List Exchange}

/-- The migration of the call is applying, or none is. -/
theorem ne_applying (ascending : migrations.Pairwise Migration.Before)
    (standing : runner.Standing states migrations exchanged moment)
    (member : migration ∈ standing.front ∨ migration ∈ standing.back) :
    standing.applying ≠ some migration.name := by
  intro applying
  have phase := standing.phase
  rw [applying] at phase
  have same := congrArg MigrationName.text phase.eq_of_applying
  rw [standing.migrations_eq] at ascending
  obtain ⟨_, later, before⟩ := List.pairwise_append.mp ascending
  rcases member with inFront | inBack
  · exact ne_of_lt (before migration inFront _ List.mem_cons_self) same
  · exact ne_of_gt ((List.pairwise_cons.mp later).1 migration inBack) same

/-- Exactly the migration of an attempt is remembered as applying. -/
theorem state?_eq_applying_iff (settled : states.Settled)
    (standing : runner.Standing states migrations exchanged moment) (name : MigrationName) :
    moment.states.state? name = some .applying ↔ standing.applying = some name := by
  rw [standing.states_eq, Course.remembered_eq]
  exact state?_whileApplying_eq_applying_iff (settled_remember settled _) _ _

/-- What stands in front was skipped, or is remembered as applied. -/
theorem state?_of_mem_front (ascending : migrations.Pairwise Migration.Before)
    (standing : runner.Standing states migrations exchanged moment)
    (member : migration ∈ standing.front) :
    migration.name ∈ standing.course.skipped ∨
      moment.states.state? migration.name = some .applied := by
  rcases standing.round.mem_applied_or_mem_skipped standing.onward member with applied | skipped
  · right
    rw [standing.states_eq,
      state?_whileApplying_of_ne _ (standing.ne_applying ascending (.inl member)),
      state?_remembered_of_onward standing.onward, if_pos applied]
  · exact .inl skipped

/-- What stands behind is untouched. -/
theorem state?_of_mem_back (ascending : migrations.Pairwise Migration.Before)
    (standing : runner.Standing states migrations exchanged moment)
    (member : migration ∈ standing.back) :
    moment.states.state? migration.name = states.state? migration.name := by
  have untouched : migration.name ∉ standing.course.applied := by
    intro applied
    obtain ⟨other, inFront, same⟩ :=
      List.mem_map.mp (standing.round.sublists.1.subset applied)
    rw [standing.migrations_eq] at ascending
    obtain ⟨_, _, before⟩ := List.pairwise_append.mp ascending
    exact ne_of_lt (before other inFront migration (List.mem_cons_of_mem _ member))
      (congrArg MigrationName.text same)
  rw [standing.states_eq,
    state?_whileApplying_of_ne _ (standing.ne_applying ascending (.inr member)),
    state?_remembered_of_onward standing.onward, if_neg untouched]

end Standing

/-! ## A status in the middle -/

/-- The records in the rows that were read. -/
def recordsRead (exchanged : List Exchange) : List MigrationRecord :=
  (exchanged.flatMap Exchange.rowsRead).filterMap Tracker.recordOfRow?

theorem records_of_listing {table : String} {exchanged : List Exchange}
    {records : List MigrationRecord}
    (listing : Tracker.Listing table exchanged (.ok records)) :
    records = recordsRead exchanged := by
  generalize listed : Except.ok records = outcome at listing
  cases listing with
  | unconnected | refused => cases listed
  | listed rows =>
      cases listed
      simp [recordsRead, Exchange.rowsRead, Tracker.listCall]
  | untracked error missing =>
      cases listed
      simp [recordsRead, Exchange.rowsRead, Tracker.listCall]

/-- A status that succeeds reports every migration, with the records that it has read. -/
theorem statuses_of_status (known : runner.recognized = .ok (migrations, ignored))
    {exchanged : List Exchange} {statuses : List MigrationStatus}
    (dialogue : (runner.status states).Dialogue exchanged (.ok statuses)) :
    statuses = migrations.map fun migration =>
      statusOf (recordsRead exchanged) states migration.name := by
  obtain ⟨outcome, listing, same⟩ := (dialogue_status_iff known).mp dialogue
  cases outcome with
  | error failure => cases same
  | ok records =>
      rw [← records_of_listing listing]
      exact Except.ok.inj same

/-- A status calls a migration applying exactly when it is remembered so and no record
has its name. -/
theorem state_statusOf_eq_applying_iff {records : List MigrationRecord} :
    (statusOf records states name).state = .applying ↔
      states.state? name = some .applying ∧ ∀ record ∈ records, record.name ≠ name := by
  have unlisted : (∀ record ∈ records, record.name ≠ name) ↔ appliedAt? records name = none := by
    simp [appliedAt?]
  rw [unlisted, statusOf]
  cases appliedAt? records name with
  | some appliedAt => simp
  | none =>
      cases states.state? name with
      | none => simp
      | some state => cases state <;> simp

/-- A status in the middle of a run shows at most the migration of an attempt as applying,
and that one unless a record has its name. -/
theorem Standing.applying_of_status (settled : states.Settled)
    (known : runner.recognized = .ok (migrations, ignored)) {exchanged : List Exchange}
    (standing : runner.Standing states migrations exchanged moment) {read : List Exchange}
    {statuses : List MigrationStatus}
    (dialogue : (runner.status moment.states).Dialogue read (.ok statuses)) :
    statuses.map MigrationStatus.name = migrations.map Migration.name ∧
      ∀ status ∈ statuses, status.state = .applying ↔ standing.applying = some status.name ∧
        ∀ record ∈ recordsRead read, record.name ≠ status.name := by
  obtain rfl := statuses_of_status known dialogue
  constructor
  · simp [name_statusOf]
  · intro status member
    obtain ⟨migration, _, rfl⟩ := List.mem_map.mp member
    rw [state_statusOf_eq_applying_iff, name_statusOf, standing.state?_eq_applying_iff settled]

end Runner

namespace History

open Runner (Standing recordsRead stateAfter mixed startedDatabase scriptName laterName
  recognized_mixed)

/-- **What a runner remembers, at rest and under way.** Take any events of a runner that
remembers nothing at first, with a database that answers calls in any way. Between the
events only outcomes are remembered, and of each migration that of the last attempt. When
a run follows, take any of its calls. Its migrations are known, and it stands at one of
them: what is in front was skipped or is remembered as applied, what is behind is
remembered as before the run, and a name is remembered as applying exactly when it is that
of the migration whose check was answered with no and whose attempt the call belongs to.
A status that succeeds at this moment, whatever it reads, reports every migration, and
calls one applying exactly when it is this one and no record that was read has its name. -/
theorem states_throughout {σ : Type} (database : σ) (events : List (Event σ)) :
    let world := after ⟨[], database⟩ events
    ∃ tried, Tries ⟨[], database⟩ events tried ∧ world.states.Settled ∧
      (∀ name, world.states.state? name = (tried.reverse.lookup name).map stateAfter) ∧
      ∀ (runner : Runner) (answering : Answering σ) (earlier : List Moment) (moment : Moment)
        (later : List Moment),
        (runner.run world.states).moments answering world.states world.database =
          earlier ++ moment :: later →
        ∃ (migrations : List Migration) (ignored : List MigrationName)
          (standing : runner.Standing world.states migrations (earlier.map Moment.exchange)
            moment),
          runner.recognized = .ok (migrations, ignored) ∧
          (∀ name, moment.states.state? name = some .applying ↔ standing.applying = some name) ∧
          (∀ migration ∈ standing.front, migration.name ∈ standing.course.skipped ∨
            moment.states.state? migration.name = some .applied) ∧
          (∀ migration ∈ standing.back,
            moment.states.state? migration.name = world.states.state? migration.name) ∧
          ∀ (τ : Type) (watching : Answering τ) (watched : τ) (statuses : List MigrationStatus),
            ((runner.status moment.states).hold watching moment.states watched).1 =
              .ok statuses →
            statuses.map MigrationStatus.name = migrations.map Migration.name ∧
              ∀ status ∈ statuses, status.state = .applying ↔
                standing.applying = some status.name ∧
                  ∀ record ∈ recordsRead
                      ((runner.status moment.states).exchanges watching moment.states watched),
                    record.name ≠ status.name := by
  intro world
  obtain ⟨tried, tries, remembered⟩ := exists_tries ⟨[], database⟩ events
  have nothing : RunStates.Settled [] := by simp [RunStates.Settled]
  have settled : world.states.Settled := by
    change (after ⟨[], database⟩ events).states.Settled
    rw [remembered]
    exact Runner.settled_remember nothing tried
  refine ⟨tried, tries, settled, fun name => ?_, ?_⟩
  · change (after ⟨[], database⟩ events).states.state? name = _
    rw [remembered, Runner.state?_remember]
    exact Option.or_none
  · intro runner answering earlier moment later split
    obtain ⟨migrations, ignored, known, ⟨standing⟩⟩ :=
      Runner.exists_standing_of_run answering world.database split
    have ascending := Runner.pairwise_before_of_recognized known
    refine ⟨migrations, ignored, standing, known, standing.state?_eq_applying_iff settled,
      fun _ => standing.state?_of_mem_front ascending,
      fun _ => standing.state?_of_mem_back ascending, ?_⟩
    intro τ watching watched statuses reported
    have dialogue := Session.dialogue_exchanges watching (runner.status moment.states)
      moment.states watched
    rw [reported] at dialogue
    exact standing.applying_of_status settled known dialogue

/-- After a run that could not record the second script, the statement of the next attempt
at it is under way. -/
theorem states_throughout_mixed :
    let world := after ⟨[], startedDatabase⟩
      [.use mixed .run (Recording.answering .insertions)]
    world.states.state? laterName = some .failed ∧
      ∃ (earlier : List Moment) (moment : Moment) (later : List Moment),
        (mixed.run world.states).moments (Recording.answering .none) world.states
            world.database = earlier ++ moment :: later ∧
          moment.exchange = ⟨.batch "SELECT 1", .ok ()⟩ ∧
          ∃ statuses, mixed.statusOn .none moment.states startedDatabase = .ok statuses ∧
            statuses.map MigrationStatus.name = [scriptName, laterName] ∧
            ∀ status ∈ statuses, status.state = .applying → status.name = laterName := by
  intro world
  let moments := (mixed.run world.states).moments (Recording.answering .none) world.states
    world.database
  let moment : Moment := ⟨[(laterName, .applying)], .batch "SELECT 1", .ok ()⟩
  have failed : world.states.state? laterName = some .failed := by
    simp only [world, after, List.foldl, Event.after, Runner.perform, Runner.run, recognized_mixed]
    decide +kernel
  have split : moments = moments.take 6 ++ moment :: moments.drop 7 := by
    have said : ∀ name, mixed.statementsOf ⟨name, "SELECT 1"⟩ = ["SELECT 1"] :=
      fun _ => Runner.statementsOf_asking
    simp only [moments, world, after, List.foldl, Event.after, Runner.perform, Runner.run,
      recognized_mixed, Runner.takeUp, Runner.apply, said]
    rfl
  have reported : mixed.statusOn .none moment.states startedDatabase =
      .ok [⟨scriptName, .applied, some "2024-01-31T12:00:00.001"⟩,
        ⟨laterName, .applying, none⟩] := by
    rw [Runner.statusOn, Runner.status, recognized_mixed]
    decide +kernel
  obtain ⟨_, _, _, _, during⟩ := states_throughout startedDatabase
    [.use mixed .run (Recording.answering .insertions)]
  obtain ⟨_, _, standing, _, applying, _, _, watched⟩ :=
    during mixed (Recording.answering .none) _ _ _ split
  refine ⟨failed, _, moment, _, split, rfl, _, reported, rfl, ?_⟩
  intro status member isApplying
  obtain ⟨_, shown⟩ := watched Recording (Recording.answering .none) startedDatabase _ reported
  have same := (applying laterName).mp rfl
  rw [((shown status member).mp isApplying).1] at same
  exact Option.some.inj same

end History

end MigrationLedger
