/-
# Duplicates are found before the database is touched

An operation that works through the migrations of a source sorts them out first. Two
scripts of the same name stop it there: the first name that repeats an earlier one is
reported with both places, counted among the scripts in the order of the source. No call
has been made by then, and nothing has been remembered.

No other failure of such an operation looks like this one. Once the source has been sorted
out, whatever goes wrong stems from the database or from a statement that cannot be
qualified.
-/

import MigrationLedger.Proofs.Runner.Breakdown
import MigrationLedger.Proofs.Runner.History

namespace MigrationLedger

namespace Runner

variable {runner : Runner} {states : RunStates} {operation : Operation} {failure : Failure}
  {names seen : List MigrationName} {name : MigrationName} {first second : Nat}

/-! ## The first repetition -/

/-- The name stands at both places, and no name before the second place is repeated. Places
are counted from zero. -/
structure FirstRepeat (names : List MigrationName) (name : MigrationName)
    (first second : Nat) : Prop where
  earlier : names[first]? = some name
  again : names[second]? = some name
  before : first < second
  distinct : (names.take second).Nodup

/-- What is found is the first repetition, if none was among the names seen before. -/
theorem firstRepeat_of_eq_some (distinct : seen.Nodup)
    (found : firstRepeat? seen names = some (name, first, second)) :
    FirstRepeat (seen.reverse ++ names) name first second := by
  induction names generalizing seen with
  | nil => cases found
  | cons other rest ih =>
      rw [firstRepeat?] at found
      cases position : seen.reverse.idxOf? other with
      | some earlier =>
          rw [position] at found
          cases found
          obtain ⟨inside, stands, -⟩ := List.idxOf?_eq_some_iff.mp position
          have within : first < seen.length := by rwa [List.length_reverse] at inside
          refine ⟨?_, ?_, within, ?_⟩
          · rw [List.getElem?_append_left inside, List.getElem?_eq_getElem inside, stands]
          · simp
          · rw [← List.length_reverse, List.take_left]
            exact List.nodup_reverse.mpr distinct
      | none =>
          rw [position] at found
          have fresh : other ∉ seen := by
            rw [← List.mem_reverse]
            exact List.idxOf?_eq_none_iff.mp position
          have longer := ih (List.nodup_cons.mpr ⟨fresh, distinct⟩) found
          rwa [List.reverse_cons, List.append_assoc, List.singleton_append] at longer

variable {entries : List Migration} {migrations : List Migration} {ignored : List MigrationName}
  {exchanged : List Exchange} {outcome : Runner.Outcome}

/-- A source that can be read is sorted out unless two of its scripts have the same name. -/
theorem exists_recognized_eq_ok_iff (offered : runner.offer = .ok entries) :
    (∃ migrations ignored, runner.recognized = .ok (migrations, ignored)) ↔
      ((runner.scripts entries).map Migration.name).Nodup := by
  constructor
  · rintro ⟨migrations, ignored, known⟩
    obtain ⟨others, offered', distinct, -⟩ := recognized_eq_ok_iff.mp known
    obtain rfl := Except.ok.inj (offered.symm.trans offered')
    exact distinct
  · intro distinct
    exact ⟨_, _, recognized_eq_ok_iff.mpr ⟨entries, offered, distinct, rfl, rfl⟩⟩

/-- Otherwise the first repetition is reported. -/
theorem exists_firstRepeat_of_unrecognized (offered : runner.offer = .ok entries)
    (unknown : runner.recognized = .error failure) :
    ∃ name first second,
      FirstRepeat ((runner.scripts entries).map Migration.name) name first second ∧
        failure = .duplicate name ("entry " ++ toString (first + 1))
          ("entry " ++ toString (second + 1)) := by
  rw [recognized_of_offer offered] at unknown
  cases found : firstRepeat? [] ((runner.scripts entries).map Migration.name) with
  | none =>
      rw [found] at unknown
      cases unknown
  | some repeated =>
      obtain ⟨name, first, second⟩ := repeated
      rw [found] at unknown
      cases unknown
      exact ⟨name, first, second, firstRepeat_of_eq_some List.nodup_nil found, rfl⟩

/-! ## Operations that sort out their source -/

/-- The operation works through the migrations of the source. -/
def Operation.Sorts : Operation → Prop
  | .run | .prepare .create | .status => True
  | .prepare .skipCreate | .validate | .isApplied _ | .appliedRecords => False

/-- Why an operation has failed, if it has. -/
def Outcome.failure? : Outcome → Option Failure
  | .ran (.error failure) | .reported (.error failure) | .validated (.error failure)
  | .checked (.error failure) | .listed (.error failure) => some failure
  | .ran (.ok _) | .reported (.ok _) | .validated (.ok _) | .checked (.ok _)
  | .listed (.ok _) => none

theorem Operation.Sorts.cases (sorts : operation.Sorts) :
    operation.Runs ∨ operation = .status := by
  cases operation with
  | run => exact .inl trivial
  | status => exact .inr rfl
  | validate | isApplied | appliedRecords => exact sorts.elim
  | prepare preparation =>
      cases preparation with
      | create => exact .inl trivial
      | skipCreate => exact sorts.elim

/-- Such an operation does nothing but report why its source could not be sorted out. -/
theorem exists_perform_of_unrecognized (sorts : operation.Sorts) (states : RunStates)
    (unknown : runner.recognized = .error failure) :
    ∃ outcome, runner.perform states operation = pure (states, outcome) ∧
      outcome.failure? = some failure := by
  rcases sorts.cases with runs | rfl
  · refine ⟨.ran (.error failure), ?_, rfl⟩
    rw [perform_of_runs runs, run, unknown]
    rfl
  · refine ⟨.reported (.error failure), ?_, rfl⟩
    rw [perform, status, unknown]
    rfl

/-- A listing fails because of the database. -/
theorem directCause?_of_listing {table : String}
    (listing : Tracker.Listing table exchanged (.error failure)) :
    failure.directCause?.isSome = true := by
  generalize failed : Except.error failure = outcome at listing
  cases listing with
  | listed | untracked => cases failed
  | unconnected | refused =>
      cases failed
      rfl

/-- Once the source has been sorted out, whatever goes wrong has a cause in the database or
in a statement. -/
theorem directCause?_of_perform (sorts : operation.Sorts)
    (known : runner.recognized = .ok (migrations, ignored)) {value : RunStates × Outcome}
    (dialogue : (runner.perform states operation).Dialogue exchanged value)
    (fails : value.2.failure? = some failure) : failure.directCause?.isSome = true := by
  rcases sorts.cases with runs | rfl
  · rw [perform_of_runs runs] at dialogue
    obtain ⟨_, _, _, rfl, ran, returned⟩ := Session.dialogue_bind_iff.mp dialogue
    obtain ⟨-, rfl⟩ := Session.dialogue_pure_iff.mp returned
    obtain ⟨course, round, rfl⟩ := (dialogue_run_iff known).mp ran
    cases result : course.result ignored with
    | ok report =>
        rw [result] at fails
        cases fails
    | error other =>
        rw [result] at fails
        cases fails
        obtain ⟨stop, stopped, rfl⟩ := exists_stop_of_result result
        obtain ⟨_, _, _, _, _, _, _, _, _, _, breakdown⟩ := round.exists_breakdown stopped
        rw [breakdown.directCause?]
        rfl
  · obtain ⟨_, _, _, rfl, reported, returned⟩ := Session.dialogue_bind_iff.mp dialogue
    obtain ⟨-, rfl⟩ := Session.dialogue_pure_iff.mp returned
    obtain ⟨listed, listing, rfl⟩ := (dialogue_status_iff known).mp reported
    cases listed with
    | ok records => cases fails
    | error other =>
        cases fails
        exact directCause?_of_listing listing

end Runner

namespace History

open Runner (FirstRepeat Operation mixed noteName scriptName laterName startedDatabase)

variable {σ : Type} {runner : Runner} {operation : Operation} {entries migrations : List Migration}
  {ignored : List MigrationName} {answering : Answering σ} {world : World σ}

namespace Event

/-- Why an operation has failed, if it has. -/
def failure? (world : World σ) (event : Event σ) : Option Failure :=
  (event.outcome? world).bind Runner.Outcome.failure?

/-- An operation that only returns something makes no call and changes nothing. -/
theorem quiet_of_pure {outcome : Runner.Outcome}
    (returns : runner.perform world.states operation = pure (world.states, outcome)) :
    let use := Event.use runner operation answering
    use.outcome? world = some outcome ∧
      (runner.perform world.states operation).exchanges answering world.states
        world.database = [] ∧
      use.announcements world = [] ∧ use.after world = world := by
  intro use
  refine ⟨?_, ?_, ?_, ?_⟩
  · rw [outcome?, returns]
    rfl
  · rw [returns]
    rfl
  · rw [announcements, returns]
    rfl
  · rw [after, returns]
    rfl

/-- A source that could be sorted out is no reason to report a duplicate. -/
theorem failure?_ne_duplicate (sorts : operation.Sorts)
    (known : runner.recognized = .ok (migrations, ignored)) (name : MigrationName)
    (first second : String) :
    (Event.use runner operation answering).failure? world ≠
      some (.duplicate name first second) := by
  intro fails
  have dialogue := Session.dialogue_exchanges answering
    (runner.perform world.states operation) world.states world.database
  have caused := Runner.directCause?_of_perform sorts known dialogue fails
  cases caused

end Event

/-- **Duplicates are found first.** Take a source that can be read, any settings, and a
runner that remembers anything and has any database. A run, a preparation that creates
tables and a status fail for a duplicate exactly when two scripts of the source have the
same name; other entries may repeat. The failure then tells the first name that repeats
an earlier one, with both places among the scripts, counted from one. No call is made,
nothing comes to be remembered, and database and memory are what they were. -/
theorem duplicates_found_first (offered : runner.offer = .ok entries) (sorts : operation.Sorts)
    (answering : Answering σ) (world : World σ) :
    let names := (runner.scripts entries).map Migration.name
    let use := Event.use runner operation answering
    ((∃ name first second, use.failure? world = some (.duplicate name first second)) ↔
      ¬ names.Nodup) ∧
      ∀ name first second, use.failure? world = some (.duplicate name first second) →
        (∃ earlier again, FirstRepeat names name earlier again ∧
          first = "entry " ++ toString (earlier + 1) ∧
          second = "entry " ++ toString (again + 1)) ∧
        (runner.perform world.states operation).exchanges answering world.states
          world.database = [] ∧
        use.announcements world = [] ∧ use.after world = world := by
  intro names use
  have distinct_iff := Runner.exists_recognized_eq_ok_iff offered
  cases recognized : runner.recognized with
  | ok found =>
      have never (name : MigrationName) (first second : String) :
          use.failure? world ≠ some (.duplicate name first second) :=
        Event.failure?_ne_duplicate sorts recognized name first second
      refine ⟨iff_of_false ?_ (not_not.mpr (distinct_iff.mp ⟨_, _, recognized⟩)),
        fun name first second fails => absurd fails (never name first second)⟩
      rintro ⟨name, first, second, fails⟩
      exact never name first second fails
  | error failure =>
      obtain ⟨name, earlier, again, repeats, rfl⟩ :=
        Runner.exists_firstRepeat_of_unrecognized offered recognized
      obtain ⟨outcome, performed, failed⟩ :=
        Runner.exists_perform_of_unrecognized sorts world.states recognized
      obtain ⟨returned, quiet⟩ := Event.quiet_of_pure performed
      have fails : use.failure? world = some (.duplicate name
          ("entry " ++ toString (earlier + 1)) ("entry " ++ toString (again + 1))) := by
        rw [Event.failure?, returned]
        exact failed
      have repeated : ¬ names.Nodup := by
        rw [← distinct_iff]
        rintro ⟨migrations, ignored, known⟩
        rw [recognized] at known
        cases known
      refine ⟨iff_of_true ⟨_, _, _, fails⟩ repeated, fun other one two reported => ?_⟩
      rw [fails] at reported
      cases reported
      exact ⟨⟨earlier, again, repeats, rfl, rfl⟩, quiet⟩

/-- Five entries, two notes and three scripts among them, the last of which repeats the
name of the first. -/
def crowdedEntries : List Migration :=
  [⟨noteName, ""⟩, ⟨scriptName, "SELECT 1"⟩, ⟨laterName, "SELECT 1"⟩,
    ⟨noteName, ""⟩, ⟨scriptName, "SELECT 2"⟩]

/-- A preparation is refused by name, although the notes have one name as well. -/
theorem duplicates_found_first_crowded :
    let runner := { mixed with offer := .ok crowdedEntries }
    let use := Event.use runner (.prepare .create) (Recording.answering .none)
    let world : World Recording := ⟨[(laterName, .failed)], startedDatabase⟩
    runner.offer = .ok crowdedEntries ∧ (Operation.prepare .create).Sorts ∧
      use.failure? world = some (.duplicate scriptName "entry 1" "entry 3") ∧
      use.after world = world := by
  intro runner use world
  have fails : use.failure? world = some (.duplicate scriptName "entry 1" "entry 3") := by
    decide +kernel
  have sorts : (Operation.prepare .create).Sorts := trivial
  have offered : runner.offer = .ok crowdedEntries := rfl
  have law := duplicates_found_first offered sorts (Recording.answering .none) world
  exact ⟨offered, sorts, fails, (law.2 _ _ _ fails).2.2.2⟩

end History

end MigrationLedger
