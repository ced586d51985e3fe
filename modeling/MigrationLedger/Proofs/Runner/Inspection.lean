/-
# What validating tables says to its database

The required tables are asked for their numbers of rows in one transaction, in order and
up to the first that does not answer. The transaction is committed however that went, and
rolled back only when the commit is refused. The module lists the possible inspections,
each with its verdict, and shows that these are the dialogues of a validation.

Refusals of three kinds come to the same verdict, and which one it was can only be read
off the calls. A refused connection alone has a verdict of its own.
-/

import MigrationLedger.Proofs.Settings.Identifiers
import MigrationLedger.Proofs.Transaction.Ending
import MigrationLedger.Sql.DuckDb
import MigrationLedger.Runner

namespace MigrationLedger

namespace Exchange

theorem accepted_ok (call : Call) (reply : call.Reply) : Accepted ⟨call, .ok reply⟩ := rfl

theorem not_accepted_error (call : Call) (error : DbError) :
    ¬ Accepted ⟨call, .error error⟩ := by
  simp [Accepted, Except.isOk, Except.toBool]

/-- A refused call is one that was not accepted. -/
theorem not_forall_accepted {exchanged : List Exchange} {call : Call} {error : DbError}
    (refused : ⟨call, .error error⟩ ∈ exchanged) :
    ¬ ∀ exchange ∈ exchanged, exchange.Accepted :=
  fun accepted => not_accepted_error call error (accepted _ refused)

/-- An accepted call was answered with a reply. -/
theorem Accepted.exists_eq {exchange : Exchange} (accepted : exchange.Accepted) {call : Call}
    (made : exchange.call = call) : ∃ reply, exchange = ⟨call, .ok reply⟩ := by
  obtain ⟨_, error | reply⟩ := exchange
  · exact absurd accepted (not_accepted_error _ error)
  · cases made
    exact ⟨reply, rfl⟩

end Exchange

namespace Validation

variable {tables : List String} {table : String} {exchanged : List Exchange} {answers : Bool}
  {outcome : Except Failure Unit}

/-! ## Asking tables in turn -/

/-- The question for the number of rows of a table, as a call. -/
def question (table : String) : Call := .count ("SELECT COUNT(*) FROM " ++ table) []

/-- What is exchanged when some tables are asked in turn, and whether every one has
answered. -/
inductive Asking : List String → List Exchange → Bool → Prop
  | /-- Every table is asked, and answers. -/
    answered {tables : List String} {exchanged : List Exchange}
      (asked : exchanged.map Exchange.call = tables.map question)
      (accepted : ∀ exchange ∈ exchanged, exchange.Accepted) : Asking tables exchanged true
  | /-- Some tables answer, the next one does not, and no other is asked. -/
    refused {front back : List String} {exchanged : List Exchange}
      (asked : exchanged.map Exchange.call = front.map question)
      (accepted : ∀ exchange ∈ exchanged, exchange.Accepted) (table : String) (error : DbError) :
      Asking (front ++ table :: back) (exchanged ++ [⟨question table, .error error⟩]) false

/-- A table that answers before the others are asked. -/
theorem Asking.cons (asking : Asking tables exchanged answers) (table : String) (count : Int) :
    Asking (table :: tables) (⟨question table, .ok count⟩ :: exchanged) answers := by
  have here : Exchange.Accepted ⟨question table, .ok count⟩ := Exchange.accepted_ok _ _
  cases asking with
  | answered asked accepted =>
      exact .answered (congrArg (question table :: ·) asked)
        (List.forall_mem_cons.mpr ⟨here, accepted⟩)
  | @refused front back said asked accepted last error =>
      have longer : (⟨question table, .ok count⟩ :: said).map Exchange.call =
          (table :: front).map question := congrArg (question table :: ·) asked
      exact .refused longer (List.forall_mem_cons.mpr ⟨here, accepted⟩) last error

theorem asking_nil_iff : Asking [] exchanged answers ↔ exchanged = [] ∧ answers = true := by
  constructor
  · intro asking
    generalize nothing : ([] : List String) = tables at asking
    cases asking with
    | answered asked accepted =>
        subst nothing
        exact ⟨List.map_eq_nil_iff.mp asked, rfl⟩
    | refused asked accepted table error => simp at nothing
  · rintro ⟨rfl, rfl⟩
    exact .answered rfl (by simp)

/-- The first of some tables does not answer, or it does and the others are asked. -/
theorem asking_cons_iff : Asking (table :: tables) exchanged answers ↔
    (∃ error, exchanged = [⟨question table, .error error⟩] ∧ answers = false) ∨
      ∃ count later, exchanged = ⟨question table, .ok count⟩ :: later ∧
        Asking tables later answers := by
  constructor
  · intro asking
    generalize split : table :: tables = all at asking
    cases asking with
    | @answered _ exchanged asked accepted =>
        subst split
        obtain ⟨first, later, rfl, made, others⟩ := List.map_eq_cons_iff.mp asked
        rw [List.forall_mem_cons] at accepted
        obtain ⟨count, rfl⟩ := accepted.1.exists_eq made
        exact .inr ⟨count, later, rfl, .answered others accepted.2⟩
    | @refused front back exchanged asked accepted last error =>
        rcases List.cons_eq_append_iff.mp split with ⟨rfl, same⟩ | ⟨front, rfl, rfl⟩
        · obtain ⟨rfl, rfl⟩ := List.cons.inj same
          rw [List.map_eq_nil_iff.mp asked]
          exact .inl ⟨error, rfl, rfl⟩
        · obtain ⟨first, later, rfl, made, others⟩ := List.map_eq_cons_iff.mp asked
          rw [List.forall_mem_cons] at accepted
          obtain ⟨count, rfl⟩ := accepted.1.exists_eq made
          exact .inr ⟨count, _, rfl, .refused others accepted.2 last error⟩
  · rintro (⟨error, rfl, rfl⟩ | ⟨count, later, rfl, asking⟩)
    · exact @Asking.refused [] tables [] rfl (by simp) table error
    · exact asking.cons table count

theorem dialogue_allAnswer_iff :
    (allAnswer tables).Dialogue exchanged answers ↔ Asking tables exchanged answers := by
  induction tables generalizing exchanged with
  | nil => rw [allAnswer, Session.dialogue_pure_iff, asking_nil_iff]
  | cons table rest ih =>
      rw [allAnswer, Session.dialogue_call_bind_iff, asking_cons_iff]
      constructor
      · rintro ⟨error | count, later, rfl, said⟩
        · obtain ⟨rfl, rfl⟩ := Session.dialogue_pure_iff.mp said
          exact .inl ⟨error, rfl, rfl⟩
        · exact .inr ⟨count, later, rfl, ih.mp said⟩
      · rintro (⟨error, rfl, rfl⟩ | ⟨count, later, rfl, asking⟩)
        · exact ⟨.error error, [], rfl, Session.dialogue_pure_iff.mpr ⟨rfl, rfl⟩⟩
        · exact ⟨.ok count, later, rfl, ih.mpr asking⟩

/-- Every table has answered exactly when no question was refused. -/
theorem Asking.eq_true_iff (asking : Asking tables exchanged answers) :
    answers = true ↔ ∀ exchange ∈ exchanged, exchange.Accepted := by
  cases asking with
  | answered _ accepted => exact iff_of_true rfl accepted
  | refused _ _ table error =>
      exact iff_of_false (by decide)
        (Exchange.not_forall_accepted (List.mem_append_right _ List.mem_cons_self))

/-! ## Inspections -/

/-- What is said of tables once the connection and the transaction have been served. -/
def verdict : Bool → Except Failure Unit
  | true => .ok ()
  | false => .error .tablesMissing

/-- What is exchanged when tables are validated, and what comes of it. -/
inductive Inspection (tables : List String) : List Exchange → Except Failure Unit → Prop
  | /-- No connection is opened. -/
    unconnected (error : DbError) :
      Inspection tables [⟨.connect, .error error⟩] (.error (.connection .validating error))
  | /-- No transaction is opened. -/
    unopened (error : DbError) :
      Inspection tables
        [⟨.connect, .ok ()⟩, ⟨.batch "BEGIN TRANSACTION", .error error⟩] (.error .tablesMissing)
  | /-- The tables are asked, and the commit is accepted. -/
    committed {asked : List Exchange} {answers : Bool} (asking : Asking tables asked answers) :
      Inspection tables
        (⟨.connect, .ok ()⟩ :: ⟨.batch "BEGIN TRANSACTION", .ok ()⟩ ::
          (asked ++ [⟨.batch "COMMIT", .ok ()⟩]))
        (verdict answers)
  | /-- The tables are asked, and the commit is refused. -/
    uncommitted {asked : List Exchange} {answers : Bool} (asking : Asking tables asked answers)
      (error : DbError) (answer : (Call.batch "ROLLBACK").Answer) :
      Inspection tables
        (⟨.connect, .ok ()⟩ :: ⟨.batch "BEGIN TRANSACTION", .ok ()⟩ ::
          (asked ++ [⟨.batch "COMMIT", .error error⟩, ⟨.batch "ROLLBACK", answer⟩]))
        (.error .tablesMissing)

/-- The body of the transaction, which never fails: it says whether all tables answer. -/
theorem dialogue_body_iff {inner : Except Failure Bool} :
    (do return .ok (← allAnswer tables) : Session (Except Failure Bool)).Dialogue exchanged inner ↔
      ∃ answers, Asking tables exchanged answers ∧ inner = .ok answers := by
  rw [Session.dialogue_bind_iff]
  constructor
  · rintro ⟨first, second, answers, rfl, asked, ended⟩
    obtain ⟨rfl, rfl⟩ := Session.dialogue_pure_iff.mp ended
    exact ⟨answers, by rwa [List.append_nil, ← dialogue_allAnswer_iff], rfl⟩
  · rintro ⟨answers, asking, rfl⟩
    exact ⟨exchanged, [], answers, (List.append_nil _).symm, dialogue_allAnswer_iff.mpr asking,
      Session.dialogue_pure_iff.mpr ⟨rfl, rfl⟩⟩

/-- A transaction in which tables are asked. -/
theorem dialogue_scope_of_asking {closing : List Exchange} {found : Except Failure Bool}
    (asking : Asking tables exchanged answers)
    (closed : Transaction.Closing (fun _ => Failure.tablesMissing) .commit (.ok answers) closing
      found) :
    (Transaction.scope (fun _ => Failure.tablesMissing) .commit do
        return .ok (← allAnswer tables)).Dialogue
      (⟨.batch "BEGIN TRANSACTION", .ok ()⟩ :: (exchanged ++ closing)) found :=
  Transaction.dialogue_scope_iff.mpr (.inr
    ⟨exchanged, closing, .ok answers, rfl, dialogue_body_iff.mpr ⟨answers, asking, rfl⟩, closed⟩)

/-- The dialogues of a validation are the inspections. -/
theorem dialogue_validate_iff :
    (validate tables).Dialogue exchanged outcome ↔ Inspection tables exchanged outcome := by
  rw [validate, Session.dialogue_call_bind_iff]
  constructor
  · rintro ⟨error | _, later, rfl, said⟩
    · obtain ⟨rfl, rfl⟩ := Session.dialogue_pure_iff.mp said
      exact .unconnected error
    · obtain ⟨within, rest, found, rfl, inside, ended⟩ := Session.dialogue_bind_iff.mp said
      rcases Transaction.dialogue_scope_iff.mp inside with
        ⟨error, rfl, rfl⟩ | ⟨asked, closing, inner, rfl, body, closed⟩
      · obtain ⟨rfl, rfl⟩ := Session.dialogue_pure_iff.mp ended
        exact .unopened error
      · obtain ⟨answers, asking, rfl⟩ := dialogue_body_iff.mp body
        cases closed with
        | committed =>
            cases answers with
            | false | true =>
                obtain ⟨rfl, rfl⟩ := Session.dialogue_pure_iff.mp ended
                rw [List.append_nil]
                exact .committed asking
        | refused _ error answer =>
            obtain ⟨rfl, rfl⟩ := Session.dialogue_pure_iff.mp ended
            rw [List.append_nil]
            exact .uncommitted asking error answer
  · intro inspection
    cases inspection with
    | unconnected error =>
        exact ⟨.error error, [], rfl, Session.dialogue_pure_iff.mpr ⟨rfl, rfl⟩⟩
    | unopened error =>
        exact ⟨.ok (), _, rfl, Session.dialogue_bind_iff.mpr ⟨_, [], .error .tablesMissing, rfl,
          Transaction.dialogue_scope_iff.mpr (.inl ⟨error, rfl, rfl⟩),
          Session.dialogue_pure_iff.mpr ⟨rfl, rfl⟩⟩⟩
    | @committed asked answers asking =>
        refine ⟨.ok (), _, rfl, Session.dialogue_bind_iff.mpr
          ⟨_, [], .ok answers, (List.append_nil _).symm,
            dialogue_scope_of_asking asking (.committed answers), ?_⟩⟩
        cases answers with
        | false | true => exact Session.dialogue_pure_iff.mpr ⟨rfl, rfl⟩
    | @uncommitted asked answers asking error answer =>
        exact ⟨.ok (), _, rfl, Session.dialogue_bind_iff.mpr
          ⟨_, [], .error .tablesMissing, (List.append_nil _).symm,
            dialogue_scope_of_asking asking (.refused answers error answer),
            Session.dialogue_pure_iff.mpr ⟨rfl, rfl⟩⟩⟩

namespace Inspection

/-- The tables are there exactly when no call was refused. -/
theorem eq_ok_iff (inspection : Inspection tables exchanged outcome) :
    outcome = .ok () ↔ ∀ exchange ∈ exchanged, exchange.Accepted := by
  cases inspection with
  | unconnected error =>
      exact iff_of_false (by simp) (Exchange.not_forall_accepted List.mem_cons_self)
  | unopened error =>
      exact iff_of_false (by simp)
        (Exchange.not_forall_accepted (List.mem_cons_of_mem _ List.mem_cons_self))
  | @uncommitted asked _ asking error answer =>
      have refused : (⟨.batch "COMMIT", .error error⟩ : Exchange) ∈
          asked ++ [⟨.batch "COMMIT", .error error⟩, ⟨.batch "ROLLBACK", answer⟩] :=
        List.mem_append_right _ List.mem_cons_self
      exact iff_of_false (by simp) (Exchange.not_forall_accepted
        (List.mem_cons_of_mem _ (List.mem_cons_of_mem _ refused)))
  | @committed asked answers asking =>
      have served : (∀ exchange ∈ (⟨.connect, .ok ()⟩ : Exchange) ::
          ⟨.batch "BEGIN TRANSACTION", .ok ()⟩ :: (asked ++ [⟨.batch "COMMIT", .ok ()⟩]),
          exchange.Accepted) ↔ ∀ exchange ∈ asked, exchange.Accepted := by
        rw [List.forall_mem_cons, List.forall_mem_cons, List.forall_mem_append,
          List.forall_mem_singleton]
        exact ⟨fun all => all.2.2.1, fun all => ⟨rfl, rfl, all, rfl⟩⟩
      rw [served, ← asking.eq_true_iff]
      cases answers with
      | true => exact iff_of_true rfl rfl
      | false => exact iff_of_false (by simp [verdict]) (by decide)

/-- Tables are missing exactly when there was a connection and some call was refused. -/
theorem eq_tablesMissing_iff (inspection : Inspection tables exchanged outcome) :
    outcome = .error .tablesMissing ↔
      (∃ later, exchanged = ⟨.connect, .ok ()⟩ :: later) ∧
        ∃ exchange ∈ exchanged, ¬ exchange.Accepted := by
  have refused : (∃ exchange ∈ exchanged, ¬ exchange.Accepted) ↔ outcome ≠ .ok () := by
    rw [ne_eq, inspection.eq_ok_iff]
    push Not
    rfl
  rw [refused]
  cases inspection with
  | unconnected error => simp
  | unopened | uncommitted => simp
  | @committed asked answers asking => cases answers <;> simp [verdict]

/-- Only a refused connection is reported as such, and then nothing else is asked. -/
theorem eq_connection_iff (inspection : Inspection tables exchanged outcome) {error : DbError} :
    outcome = .error (.connection .validating error) ↔
      exchanged = [⟨.connect, .error error⟩] := by
  cases inspection with
  | unconnected refused => simp
  | unopened | uncommitted => simp
  | @committed asked answers asking => cases answers <;> simp [verdict]

end Inspection

end Validation

namespace Runner

open Validation (Inspection)

/-- **Validating the required tables.** With whatever database, a validation asks for a
connection, opens a transaction, asks for the rows of the required tables in order, each
with the schema in front if there is one, up to the first that does not answer, and commits
in either case; only a refused commit is followed by a rollback. A refused connection or a
refused opening is the last call. Every such inspection takes place with some database. The
tables are there exactly when no call was refused. They are reported as missing when one
was, unless it was the connection, which is reported as refused. -/
theorem inspections_of_validate (runner : Runner) (states : RunStates) :
    (∀ (exchanged : List Exchange) (outcome : Except Failure Unit),
      (∃ (σ : Type) (answering : Answering σ) (database : σ),
        runner.validate.exchanges answering states database = exchanged ∧
          (runner.validate.hold answering states database).1 = outcome) ↔
        Inspection (runner.settings.requiredTables.map runner.settings.fullName) exchanged
          outcome) ∧
    ∀ (σ : Type) (answering : Answering σ) (database : σ),
      let said := runner.validate.exchanges answering states database
      let outcome := (runner.validate.hold answering states database).1
      (outcome = .ok () ↔ ∀ exchange ∈ said, exchange.Accepted) ∧
        (outcome = .error .tablesMissing ↔
          (∃ later, said = ⟨.connect, .ok ()⟩ :: later) ∧ ∃ exchange ∈ said, ¬ exchange.Accepted) ∧
        ∀ error, outcome = .error (.connection .validating error) ↔
          said = [⟨.connect, .error error⟩] := by
  constructor
  · intro exchanged outcome
    rw [← Session.dialogue_iff_exists_database, validate,
      Settings.required_eq_fullName runner.usable]
    exact Validation.dialogue_validate_iff
  · intro σ answering database said outcome
    have inspection : Inspection runner.settings.required said outcome :=
      Validation.dialogue_validate_iff.mp
        (Session.dialogue_exchanges answering runner.validate states database)
    exact ⟨inspection.eq_ok_iff, inspection.eq_tablesMissing_iff,
      fun _ => inspection.eq_connection_iff⟩

/-- A runner that requires two tables of a schema. -/
def requiringTwo : Runner where
  dialect := .duckDb
  settings := { Settings.inSchema with
    requiredTables := [⟨"jobrunr_tasks", by decide⟩, ⟨"servers", by decide⟩] }
  usable := by decide +kernel
  offer := .ok []

/-- The first table answers and the second does not, and the transaction is committed. -/
theorem inspections_of_requiringTwo :
    ∃ (σ : Type) (answering : Answering σ) (database : σ),
      requiringTwo.validate.exchanges answering [] database =
          [⟨.connect, .ok ()⟩, ⟨.batch "BEGIN TRANSACTION", .ok ()⟩,
            ⟨.count "SELECT COUNT(*) FROM app.jobrunr_tasks" [], .ok 3⟩,
            ⟨.count "SELECT COUNT(*) FROM app.servers" [], .error (.execution "locked")⟩,
            ⟨.batch "COMMIT", .ok ()⟩] ∧
        (requiringTwo.validate.hold answering [] database).1 = .error .tablesMissing := by
  have tables : requiringTwo.settings.requiredTables.map requiringTwo.settings.fullName =
      ["app.jobrunr_tasks", "app.servers"] := by decide +kernel
  have law := (inspections_of_validate requiringTwo []).1
  rw [tables] at law
  let first : Exchange := ⟨.count "SELECT COUNT(*) FROM app.jobrunr_tasks" [], .ok (3 : Int)⟩
  have accepted : ∀ exchange ∈ [first], exchange.Accepted := List.forall_mem_singleton.mpr rfl
  have asking := @Validation.Asking.refused ["app.jobrunr_tasks"] [] [first] rfl accepted
    "app.servers" (.execution "locked")
  exact (law _ _).mpr (.committed asking)

end Runner

end MigrationLedger
