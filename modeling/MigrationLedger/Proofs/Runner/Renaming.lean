/-
# Names of migrations do not show

A name of a migration is bound to a placeholder wherever it is sent. So two runners with the
same dialect and settings, whose sources hold the same scripts in the same order under other
names, send the same texts: whatever the one is answered, the same answers lead the other
through the same texts. The failures that they return may differ, since failures carry names,
but the one succeeds where the other does.

The main statement puts this together with the list of all texts that a runner sends.
-/

import MigrationLedger.Proofs.Runner.SentTexts
import MigrationLedger.Proofs.Runner.Sorting

namespace MigrationLedger

open Session (Mirrors SameTexts)

variable {α ε ε' : Type}

/-- Both succeed with the same value, or both fail. -/
inductive Agree : Except ε α → Except ε' α → Prop
  | ok (value : α) : Agree (.ok value) (.ok value)
  | error (failure : ε) (failure' : ε') : Agree (.error failure) (.error failure')

theorem Tracker.mirrors_isApplied (table : String) (name name' : MigrationName) :
    Mirrors Agree (isApplied table name) (isApplied table name') := by
  rw [isApplied, isApplied]
  refine (Session.mirrors_refl _).bind ?_
  rintro (error | _) _ rfl
  · exact Session.mirrors_pure (.error _ _)
  · refine (Session.mirrors_count _ _ _).bind ?_
    rintro (error | count) _ rfl
    · change Mirrors _ (if error.isNotFound then _ else _) (if error.isNotFound then _ else _)
      split
      · exact Session.mirrors_pure (.ok false)
      · exact Session.mirrors_pure (.error _ _)
    · exact Session.mirrors_pure (.ok _)

theorem Tracker.mirrors_recordApplied (table : String) (name name' : MigrationName) :
    Mirrors Agree (recordApplied table name) (recordApplied table name') := by
  rw [recordApplied, recordApplied]
  refine (Session.mirrors_execute _ _ _).bind ?_
  rintro (error | _) _ rfl
  · exact Session.mirrors_pure (.error _ _)
  · exact Session.mirrors_pure (.ok ())

/-- Transactions mirror each other when their bodies do. -/
theorem Transaction.mirrors_scope {failure : DbError → ε} {failure' : DbError → ε'}
    {ending : Ending} {body : Session (Except ε α)} {body' : Session (Except ε' α)}
    (inside : Mirrors Agree body body') :
    Mirrors Agree (scope failure ending body) (scope failure' ending body') := by
  rw [scope_eq, scope_eq]
  refine (Session.mirrors_refl begin).bind ?_
  rintro (error | _) _ rfl
  · exact Session.mirrors_pure (.error _ _)
  · refine inside.bind ?_
    rintro _ _ (value | ⟨error, error'⟩)
    · cases ending with
      | abandon =>
          exact (Session.mirrors_refl rollback).bind fun _ _ _ => Session.mirrors_pure (.ok value)
      | commit =>
          refine (Session.mirrors_refl commit).bind ?_
          rintro (error | _) _ rfl
          · exact Session.mirrors_pure (.error _ _)
          · exact Session.mirrors_pure (.ok value)
    · exact (Session.mirrors_refl rollback).bind fun _ _ _ => Session.mirrors_pure (.error _ _)

namespace Runner

variable {runner other : Runner} {migration : Migration} {migrations renamed : List Migration}
  {ignored : List MigrationName}

theorem mirrors_executeStatements (same : SameButSource runner other)
    (name name' : MigrationName) (statements : List String) (number : Nat) :
    Mirrors Agree (runner.executeStatements name number statements)
      (other.executeStatements name' number statements) := by
  induction statements generalizing number with
  | nil => exact Session.mirrors_pure (.ok ())
  | cons statement rest ih =>
      rw [executeStatements, executeStatements, ← qualify_congr same]
      split
      · exact Session.mirrors_pure (.error _ _)
      · refine (Session.mirrors_refl _).bind ?_
        rintro (error | _) _ rfl
        · exact Session.mirrors_pure (.error _ _)
        · exact ih (number + 1)

theorem mirrors_apply (same : SameButSource runner other) {renamed : Migration}
    (scripts : migration.script = renamed.script) :
    Mirrors Agree (runner.apply migration) (other.apply renamed) := by
  have statements : runner.statementsOf migration = other.statementsOf renamed := by
    rw [statementsOf, statementsOf, Migration.isEmpty, Migration.isEmpty, scripts, same.settings]
  rw [apply, apply]
  refine (Session.mirrors_refl _).bind ?_
  rintro (error | _) _ rfl
  · exact Session.mirrors_pure (.error _ _)
  · refine Transaction.mirrors_scope ?_
    rw [statements, same.settings]
    refine (mirrors_executeStatements same _ _ _ 1).bind ?_
    rintro _ _ (_ | ⟨failure, failure'⟩)
    · refine (Tracker.mirrors_recordApplied _ _ _).bind ?_
      rintro _ _ (_ | ⟨error, error'⟩)
      · exact Session.mirrors_pure (.ok ())
      · exact Session.mirrors_pure (.error _ _)
    · exact Session.mirrors_pure (.error _ _)

/-- The scripts are the same, one after another; their names need not be. -/
abbrev SameScripts (migrations renamed : List Migration) : Prop :=
  List.Forall₂ (fun migration other => migration.script = other.script) migrations renamed

theorem sameTexts_takeUp (same : SameButSource runner other)
    (scripts : SameScripts migrations renamed) (states states' : RunStates)
    (applied skipped applied' skipped' : List MigrationName) :
    SameTexts (runner.takeUp states applied skipped migrations)
      (other.takeUp states' applied' skipped' renamed) := by
  induction scripts generalizing states states' applied skipped applied' skipped' with
  | nil => exact Session.mirrors_pure trivial
  | cons script _ ih =>
      rw [takeUp, takeUp, same.settings]
      refine (Tracker.mirrors_isApplied _ _ _).bind ?_
      rintro _ _ (found | ⟨failure, failure'⟩)
      · cases found with
        | true => exact ih _ _ _ _ _ _
        | false =>
            refine Session.Mirrors.announce ((mirrors_apply same script).bind ?_)
            rintro _ _ (_ | ⟨failure, failure'⟩)
            · exact Session.Mirrors.announce (ih _ _ _ _ _ _)
            · exact Session.Mirrors.announce (Session.mirrors_pure trivial)
      · exact Session.mirrors_pure trivial

theorem sameTexts_run {ignored' : List MigrationName} (same : SameButSource runner other)
    (known : runner.recognized = .ok (migrations, ignored))
    (known' : other.recognized = .ok (renamed, ignored')) (scripts : SameScripts migrations renamed)
    (states states' : RunStates) : SameTexts (runner.run states) (other.run states') := by
  rw [run, known, run, known']
  refine (sameTexts_takeUp same scripts _ _ _ _ _ _).bind ?_
  rintro ⟨_, failure | ⟨applied, skipped⟩⟩ ⟨_, failure' | ⟨applied', skipped'⟩⟩ _
  all_goals exact Session.mirrors_pure trivial

/-- The same operation, but for the name that is asked for. -/
inductive Operation.Alike : Operation → Operation → Prop
  | same (operation : Operation) : Alike operation operation
  | isApplied (name name' : MigrationName) : Alike (.isApplied name) (.isApplied name')

theorem sameTexts_validate (same : SameButSource runner other) :
    SameTexts runner.validate other.validate := by
  rw [validate, validate, same.settings]
  exact (Session.mirrors_refl _).mono fun _ _ _ => trivial

theorem sameTexts_status {ignored' : List MigrationName} (same : SameButSource runner other)
    (known : runner.recognized = .ok (migrations, ignored))
    (known' : other.recognized = .ok (renamed, ignored')) (states states' : RunStates) :
    SameTexts (runner.status states) (other.status states') := by
  rw [status, known, status, known', same.settings]
  refine (Session.mirrors_refl _).bind ?_
  rintro (failure | records) _ rfl
  · exact Session.mirrors_pure trivial
  · exact Session.mirrors_pure trivial

theorem sameTexts_skipCreate (same : SameButSource runner other)
    (states states' : RunStates) :
    SameTexts (runner.prepare .skipCreate states) (other.prepare .skipCreate states') := by
  refine (sameTexts_validate same).bind ?_
  rintro (_ | _) (_ | _) _
  all_goals exact Session.mirrors_pure trivial

/-- The same operation sends the same texts, also if a check asks for another name. -/
theorem sameTexts_perform {ignored' : List MigrationName}
    (same : SameButSource runner other)
    (known : runner.recognized = .ok (migrations, ignored))
    (known' : other.recognized = .ok (renamed, ignored')) (scripts : SameScripts migrations renamed)
    {operation operation' : Operation} (alike : operation.Alike operation')
    (states states' : RunStates) :
    SameTexts (runner.perform states operation) (other.perform states' operation') := by
  have run := sameTexts_run same known known' scripts states states'
  cases alike with
  | isApplied name name' =>
      rw [perform, perform, same.settings]
      exact (Tracker.mirrors_isApplied _ _ _).bind_pure
  | same =>
      cases operation with
      | run => exact run.bind_pure
      | status => exact (sameTexts_status same known known' states states').bind_pure
      | validate => exact (sameTexts_validate same).bind_pure
      | isApplied name =>
          rw [perform, perform, same.settings]
          exact (Session.mirrors_refl _).bind_pure
      | appliedRecords =>
          rw [perform, perform, same.settings]
          exact (Session.mirrors_refl _).bind_pure
      | prepare preparation =>
          cases preparation with
          | create => exact run.bind_pure
          | skipCreate => exact (sameTexts_skipCreate same states states').bind_pure

/-! ## All texts -/

/-- **Settings and names inject nothing.** Take any dialect, and any settings that a runner
can be made of, such as those of any configuration that passes its check. Whatever the runner
is asked to do and however it is answered, each call is a routine call, with a text that is
fixed around the text of a table and with names bound to placeholders, or a statement of one
of its migrations. Under other names the same scripts lead to the same texts. And what
qualifying puts into a statement is an identifier with a point behind it. -/
theorem texts_of_runner {dialect : Sql.Dialect} {settings : Settings} {offer : Offer}
    (made : forDialect dialect settings offer = .ok runner) :
    (∀ config : Config, config.problem? = none →
      ∃ loaded, forDialect dialect (.ofConfig config) offer = .ok loaded) ∧
    (∀ (operation : Operation) (σ : Type) (answering : Answering σ) (states : RunStates)
      (database : σ),
      ∀ exchange ∈ (runner.perform states operation).exchanges answering states database,
        exchange.call.IsRoutine ∨ runner.OwnStatement exchange.call) ∧
    (∀ (otherOffer : Offer) (other : Runner) (migrations renamed : List Migration)
      (ignored ignored' : List MigrationName), forDialect dialect settings otherOffer = .ok other →
      runner.recognized = .ok (migrations, ignored) →
      other.recognized = .ok (renamed, ignored') → SameScripts migrations renamed →
      ∀ operation operation', operation.Alike operation' → ∀ states states',
        SameTexts (runner.perform states operation) (other.perform states' operation')) ∧
    ∀ statement rewritten : String,
      dialect.qualify settings.qualifier statement = .ok rewritten →
      rewritten = statement ∨ ∃ schema points, IsIdent schema ∧
        Sql.Spliced (schema ++ ".").toList statement.toList points rewritten.toList := by
  obtain ⟨rfl, rfl, -⟩ := forDialect_eq_ok_iff.mp made
  refine ⟨?_, ?_, ?_, ?_⟩
  · intro config sound
    exact ⟨⟨runner.dialect, .ofConfig config, Settings.problem?_ofConfig sound, offer⟩,
      forDialect_eq_ok_iff.mpr ⟨rfl, rfl, rfl⟩⟩
  · intro operation σ answering states database
    exact (runner.asks_perform states operation).of_dialogue
      (Session.dialogue_exchanges answering _ states database)
  · intro otherOffer other migrations renamed ignored ignored' made' known known' scripts
      operation operation' alike states states'
    have same := sameButSource_of_forDialect made made'
    exact sameTexts_perform same known known' scripts alike states states'
  · intro statement rewritten qualified
    exact Settings.spliced_of_qualify runner.usable qualified

/-- A migration whose name would end a statement if it were written into one. -/
def quoting : Migration := ⟨⟨"'); DROP TABLE jobs; --.sql", by decide⟩, asking.script⟩

/-- The same script under two names, with a schema. -/
theorem texts_of_quoting :
    ∃ runner other, forDialect .duckDb .inSchema (.ok [asking]) = .ok runner ∧
      forDialect .duckDb .inSchema (.ok [quoting]) = .ok other ∧
      (∀ exchange ∈ (other.perform [] .run).exchanges (Recording.answering .none) [] {},
        exchange.call.IsRoutine ∨ other.OwnStatement exchange.call) ∧
      SameTexts (other.perform [] .run) (runner.perform [] .run) := by
  have sound : Settings.inSchema.problem? = none := by decide +kernel
  let runner : Runner := ⟨.duckDb, .inSchema, sound, .ok [asking]⟩
  let other : Runner := ⟨.duckDb, .inSchema, sound, .ok [quoting]⟩
  have made : forDialect .duckDb .inSchema (.ok [asking]) = .ok runner :=
    forDialect_eq_ok_iff.mpr ⟨rfl, rfl, rfl⟩
  have made' : forDialect .duckDb .inSchema (.ok [quoting]) = .ok other :=
    forDialect_eq_ok_iff.mpr ⟨rfl, rfl, rfl⟩
  have kept : asking.name.hasExtension Settings.inSchema.extension = true := by decide +kernel
  have kept' : quoting.name.hasExtension Settings.inSchema.extension = true := by
    decide +kernel
  have known : runner.recognized = .ok ([asking], []) := recognized_of_alone rfl kept
  have known' : other.recognized = .ok ([quoting], []) := recognized_of_alone rfl kept'
  obtain ⟨-, texts, sameTexts, -⟩ := texts_of_runner made'
  refine ⟨runner, other, made, made', texts .run Recording _ [] {}, ?_⟩
  exact sameTexts _ _ _ _ _ _ made known' known (.cons rfl .nil) .run .run (.same _) [] []

end Runner

end MigrationLedger
