/-
# What listing the tracking records says

The tracking records are read with one query on a connection of its own. The module lists
what may be exchanged for it and what comes of it, and shows that a status is such a
listing, followed by nothing but the reports on the migrations. A status that knows its
migrations therefore fails only where the listing does.
-/

import MigrationLedger.Proofs.Recording.Refusal
import MigrationLedger.Proofs.Runner.Recognition

namespace MigrationLedger

namespace Tracker

variable {table : String} {exchanged : List Exchange}
  {outcome : Except Failure (List MigrationRecord)}

/-- The query for all records, as a call. -/
def listCall (table : String) : Call :=
  .rows ("SELECT id, script_name, applied_at FROM " ++ table ++ " ORDER BY script_name") []

/-- What is exchanged when the records are listed, and what comes of it. -/
inductive Listing (table : String) :
    List Exchange → Except Failure (List MigrationRecord) → Prop
  | /-- There is no connection to ask on. -/
    unconnected (error : DbError) :
      Listing table [⟨.connect, .error error⟩] (.error (.connection .listing error))
  | /-- The records are those that the rows hold. -/
    listed (rows : List (List String)) :
      Listing table [⟨.connect, .ok ()⟩, ⟨listCall table, .ok rows⟩]
        (.ok (rows.filterMap recordOfRow?))
  | /-- While the tracking table is missing there are no records. -/
    untracked (error : DbError) (missing : error.isNotFound = true) :
      Listing table [⟨.connect, .ok ()⟩, ⟨listCall table, .error error⟩] (.ok [])
  | /-- Any other refusal is reported. -/
    refused (error : DbError) (present : error.isNotFound = false) :
      Listing table [⟨.connect, .ok ()⟩, ⟨listCall table, .error error⟩]
        (.error (.trackingList error))

theorem dialogue_appliedRecords_iff :
    (appliedRecords table).Dialogue exchanged outcome ↔ Listing table exchanged outcome := by
  rw [appliedRecords, Session.dialogue_call_bind_iff]
  constructor
  · rintro ⟨error | _, later, rfl, asked⟩
    · obtain ⟨rfl, rfl⟩ := Session.dialogue_pure_iff.mp asked
      exact .unconnected error
    · obtain ⟨error | rows, later, rfl, ended⟩ := Session.dialogue_call_bind_iff.mp asked
      · cases missing : error.isNotFound with
        | true =>
            simp only [missing, if_true] at ended
            obtain ⟨rfl, rfl⟩ := Session.dialogue_pure_iff.mp ended
            exact .untracked error missing
        | false =>
            simp only [missing, Bool.false_eq_true, if_false] at ended
            obtain ⟨rfl, rfl⟩ := Session.dialogue_pure_iff.mp ended
            exact .refused error missing
      · obtain ⟨rfl, rfl⟩ := Session.dialogue_pure_iff.mp ended
        exact .listed rows
  · intro listing
    cases listing with
    | unconnected error => exact ⟨.error error, [], rfl, Session.dialogue_pure_iff.mpr ⟨rfl, rfl⟩⟩
    | listed rows =>
        refine ⟨.ok (), _, rfl, Session.dialogue_call_bind_iff.mpr ⟨.ok rows, [], rfl, ?_⟩⟩
        exact Session.dialogue_pure_iff.mpr ⟨rfl, rfl⟩
    | untracked error missing =>
        refine ⟨.ok (), _, rfl, Session.dialogue_call_bind_iff.mpr ⟨.error error, [], rfl, ?_⟩⟩
        simp [missing]
    | refused error present =>
        refine ⟨.ok (), _, rfl, Session.dialogue_call_bind_iff.mpr ⟨.error error, [], rfl, ?_⟩⟩
        simp [present]

theorem Listing.reads (listing : Listing table exchanged outcome) :
    ∀ exchange ∈ exchanged, exchange.call.Reads := by
  cases listing <;> simp [listCall, Call.Reads]

theorem reads_of_appliedRecords (dialogue : (appliedRecords table).Dialogue exchanged outcome) :
    ∀ exchange ∈ exchanged, exchange.call.Reads :=
  (dialogue_appliedRecords_iff.mp dialogue).reads

end Tracker

namespace Runner

variable {runner : Runner} {states : RunStates} {migrations : List Migration}
  {ignored : List MigrationName} {exchanged : List Exchange}
  {outcome : Except Failure (List MigrationStatus)}

/-- A status of migrations that are not known says nothing. -/
theorem dialogue_status_of_unrecognized {failure : Failure}
    (unknown : runner.recognized = .error failure) :
    (runner.status states).Dialogue exchanged outcome ↔
      exchanged = [] ∧ outcome = .error failure := by
  rw [status, unknown]
  exact Session.dialogue_pure_iff

/-- Any other status lists the records and reports on every migration. -/
theorem dialogue_status_iff (known : runner.recognized = .ok (migrations, ignored)) :
    (runner.status states).Dialogue exchanged outcome ↔
      ∃ listed, Tracker.Listing runner.settings.tracking exchanged listed ∧
        outcome = listed.map fun records =>
          migrations.map fun migration => statusOf records states migration.name := by
  rw [status, known]
  change (Tracker.appliedRecords runner.settings.tracking >>= _).Dialogue exchanged outcome ↔ _
  rw [Session.dialogue_bind_iff]
  constructor
  · rintro ⟨listing, later, listed, rfl, said, ended⟩
    refine ⟨listed, ?_⟩
    cases listed with
    | error failure =>
        obtain ⟨rfl, rfl⟩ := Session.dialogue_pure_iff.mp ended
        exact ⟨by rwa [List.append_nil, ← Tracker.dialogue_appliedRecords_iff], rfl⟩
    | ok records =>
        obtain ⟨rfl, rfl⟩ := Session.dialogue_pure_iff.mp ended
        exact ⟨by rwa [List.append_nil, ← Tracker.dialogue_appliedRecords_iff], rfl⟩
  · rintro ⟨listed, listing, rfl⟩
    refine ⟨exchanged, [], listed, (List.append_nil _).symm,
      Tracker.dialogue_appliedRecords_iff.mpr listing, ?_⟩
    cases listed with
    | error failure => exact Session.dialogue_pure_iff.mpr ⟨rfl, rfl⟩
    | ok records => exact Session.dialogue_pure_iff.mpr ⟨rfl, rfl⟩

/-- A status only reads. -/
theorem reads_of_status (dialogue : (runner.status states).Dialogue exchanged outcome) :
    ∀ exchange ∈ exchanged, exchange.call.Reads := by
  cases recognized : runner.recognized with
  | error failure =>
      obtain ⟨rfl, -⟩ := (dialogue_status_of_unrecognized recognized).mp dialogue
      simp
  | ok found =>
      obtain ⟨listed, listing, -⟩ := (dialogue_status_iff recognized).mp dialogue
      exact listing.reads

end Runner

end MigrationLedger
