/-
# What an attempt at a migration says

An attempt follows a plan: a list of calls, each with the failure that its refusal
means, and with a stop where a statement cannot be qualified. The plan is carried
out in order up to the first refusal or stop. A plan that fails once its
transaction is open is followed by one rollback. The module reads the plan off the
script and the settings, and shows that what is said while a migration is applied
is exactly its plan, carried out as far as the answers allow. The question whether
a migration was applied already is treated in the same way.
-/

import MigrationLedger.Proofs.Settings.Identifiers
import MigrationLedger.Proofs.Transaction.Scope
import MigrationLedger.Runner

namespace MigrationLedger

/-- One step of an attempt. -/
inductive Step
  | /-- A call, and the failure that its refusal means. -/
    send (call : Call) (refused : DbError → Failure)
  | /-- Something that cannot be sent. -/
    stop (failure : Failure)

/-- How far steps are carried out: every call is accepted up to the first that is
refused or the first step that stops. -/
inductive Carried : List Step → List Exchange → Except Failure Unit → Prop
  | /-- No step is left. -/
    finished : Carried [] [] (.ok ())
  | /-- An accepted call, then the rest. -/
    accepted {call : Call} {meaning : DbError → Failure} (reply : call.Reply)
      {steps : List Step} {exchanges : List Exchange} {outcome : Except Failure Unit}
      (rest : Carried steps exchanges outcome) :
      Carried (.send call meaning :: steps) (⟨call, .ok reply⟩ :: exchanges) outcome
  | /-- A refused call is the last one. -/
    refused {call : Call} {meaning : DbError → Failure} {steps : List Step}
      (error : DbError) :
      Carried (.send call meaning :: steps) [⟨call, .error error⟩] (.error (meaning error))
  | /-- A stop comes before any further call. -/
    stopped {steps : List Step} (failure : Failure) :
      Carried (.stop failure :: steps) [] (.error failure)

section Carried

variable {exchanged : List Exchange} {outcome : Except Failure Unit}

@[simp]
theorem carried_nil_iff : Carried [] exchanged outcome ↔ exchanged = [] ∧ outcome = .ok () := by
  constructor
  · rintro ⟨⟩
    exact ⟨rfl, rfl⟩
  · rintro ⟨rfl, rfl⟩
    exact .finished

@[simp]
theorem carried_stop_iff {failure : Failure} {steps : List Step} :
    Carried (.stop failure :: steps) exchanged outcome ↔
      exchanged = [] ∧ outcome = .error failure := by
  constructor
  · rintro ⟨⟩
    exact ⟨rfl, rfl⟩
  · rintro ⟨rfl, rfl⟩
    exact .stopped failure

theorem carried_send_iff {call : Call} {meaning : DbError → Failure} {steps : List Step} :
    Carried (.send call meaning :: steps) exchanged outcome ↔
      (∃ error, exchanged = [⟨call, .error error⟩] ∧ outcome = .error (meaning error)) ∨
        ∃ reply later, exchanged = ⟨call, .ok reply⟩ :: later ∧
          Carried steps later outcome := by
  constructor
  · intro carried
    cases carried with
    | accepted reply rest => exact .inr ⟨reply, _, rfl, rest⟩
    | refused error => exact .inl ⟨error, rfl, rfl⟩
  · rintro (⟨error, rfl, rfl⟩ | ⟨reply, later, rfl, rest⟩)
    · exact .refused error
    · exact .accepted reply rest

/-- Steps in two parts: either the first part fails, or it is carried out and
decides nothing. -/
theorem carried_append_iff {first second : List Step} :
    Carried (first ++ second) exchanged outcome ↔
      (∃ failure, outcome = .error failure ∧ Carried first exchanged (.error failure)) ∨
        ∃ before after, exchanged = before ++ after ∧ Carried first before (.ok ()) ∧
          Carried second after outcome := by
  induction first generalizing exchanged with
  | nil =>
      constructor
      · exact fun carried => .inr ⟨[], exchanged, rfl, .finished, carried⟩
      · rintro (⟨_, _, ⟨⟩⟩ | ⟨_, _, rfl, ⟨⟩, carried⟩)
        exact carried
  | cons step first ih =>
      rw [List.cons_append]
      cases step with
      | stop failure =>
          rw [carried_stop_iff]
          constructor
          · rintro ⟨rfl, rfl⟩
            exact .inl ⟨failure, rfl, .stopped failure⟩
          · rintro (⟨_, rfl, ⟨⟩⟩ | ⟨_, _, _, ⟨⟩, _⟩)
            exact ⟨rfl, rfl⟩
      | send call meaning =>
          rw [carried_send_iff]
          constructor
          · rintro (⟨error, rfl, rfl⟩ | ⟨reply, later, rfl, rest⟩)
            · exact .inl ⟨_, rfl, .refused error⟩
            · rcases ih.mp rest with ⟨failure, rfl, failed⟩ | ⟨before, after, rfl, ok, next⟩
              · exact .inl ⟨failure, rfl, .accepted reply failed⟩
              · exact .inr ⟨_, after, rfl, .accepted reply ok, next⟩
          · rintro (⟨failure, rfl, failed⟩ | ⟨before, after, rfl, ok, next⟩)
            · rcases carried_send_iff.mp failed with
                ⟨error, rfl, same⟩ | ⟨reply, later, rfl, rest⟩
              · exact .inl ⟨error, rfl, same⟩
              · exact .inr ⟨reply, later, rfl, ih.mpr (.inl ⟨failure, rfl, rest⟩)⟩
            · rcases carried_send_iff.mp ok with ⟨_, _, same⟩ | ⟨reply, later, rfl, rest⟩
              · cases same
              · exact .inr ⟨reply, later ++ after, rfl,
                  ih.mpr (.inr ⟨later, after, rfl, rest, next⟩)⟩

/-- A session that makes a call and goes on with steps once it is accepted. -/
theorem dialogue_send_iff {call : Call} {meaning : DbError → Failure} {steps : List Step}
    {f : call.Answer → Session (Except Failure Unit)}
    (onRefusal : ∀ error, f (.error error) = pure (.error (meaning error)))
    (onReply : ∀ reply exchanged outcome,
      (f (.ok reply)).Dialogue exchanged outcome ↔ Carried steps exchanged outcome) :
    (Session.call call >>= f).Dialogue exchanged outcome ↔
      Carried (.send call meaning :: steps) exchanged outcome := by
  rw [Session.dialogue_call_bind_iff, carried_send_iff]
  constructor
  · rintro ⟨answer, later, rfl, rest⟩
    cases answer with
    | error error =>
        rw [onRefusal] at rest
        obtain ⟨rfl, rfl⟩ := Session.dialogue_pure_iff.mp rest
        exact .inl ⟨error, rfl, rfl⟩
    | ok reply => exact .inr ⟨reply, later, rfl, (onReply _ _ _).mp rest⟩
  · rintro (⟨error, rfl, rfl⟩ | ⟨reply, later, rfl, rest⟩)
    · refine ⟨.error error, [], rfl, ?_⟩
      rw [onRefusal]
      exact Session.dialogue_pure_iff.mpr ⟨rfl, rfl⟩
    · exact ⟨.ok reply, later, rfl, (onReply _ _ _).mpr rest⟩

/-- A session that carries out steps and, unless they fail, further steps. -/
theorem dialogue_steps_iff {first second : List Step} {session : Session (Except Failure Unit)}
    {f : Except Failure Unit → Session (Except Failure Unit)}
    (atFirst : ∀ exchanged outcome,
      session.Dialogue exchanged outcome ↔ Carried first exchanged outcome)
    (onFailure : ∀ failure, f (.error failure) = pure (.error failure))
    (onSuccess : ∀ exchanged outcome,
      (f (.ok ())).Dialogue exchanged outcome ↔ Carried second exchanged outcome) :
    (session >>= f).Dialogue exchanged outcome ↔
      Carried (first ++ second) exchanged outcome := by
  rw [Session.dialogue_bind_iff, carried_append_iff]
  constructor
  · rintro ⟨before, after, middle, rfl, said, rest⟩
    cases middle with
    | error failure =>
        rw [onFailure] at rest
        obtain ⟨rfl, rfl⟩ := Session.dialogue_pure_iff.mp rest
        rw [List.append_nil]
        exact .inl ⟨failure, rfl, (atFirst _ _).mp said⟩
    | ok _ =>
        exact .inr ⟨before, after, rfl, (atFirst _ _).mp said, (onSuccess _ _).mp rest⟩
  · rintro (⟨failure, rfl, failed⟩ | ⟨before, after, rfl, ok, next⟩)
    · refine ⟨exchanged, [], .error failure, (List.append_nil _).symm,
        (atFirst _ _).mpr failed, ?_⟩
      rw [onFailure]
      exact Session.dialogue_pure_iff.mpr ⟨rfl, rfl⟩
    · exact ⟨before, after, .ok (), rfl, (atFirst _ _).mpr ok, (onSuccess _ _).mpr next⟩

end Carried

namespace Runner

variable {runner : Runner} {migration : Migration} {name : MigrationName}
  {exchanged : List Exchange}

/-! ## The plan of an attempt -/

/-- Open a connection and a transaction. -/
def opening (name : MigrationName) : List Step :=
  [.send .connect (.connection (.applying name)),
    .send (.batch "BEGIN TRANSACTION") fun error =>
      .transaction name (Transaction.beginError error)]

/-- Send a statement with its number, if it can be qualified. -/
def statementStep (runner : Runner) (name : MigrationName) (statement : String × Nat) : Step :=
  match runner.qualify statement.1 with
  | .ok sql => .send (.batch sql) (.execution name statement.2)
  | .error cause => .stop (.qualify name statement.2 cause)

/-- The statements of a migration: those of its script, and none if the script begins with
the marker of empty migrations. -/
def ownStatements (runner : Runner) (migration : Migration) : List String :=
  if runner.settings.emptyMarker.toList <+: migration.script.toList then []
  else Sql.Script.statements migration.script runner.settings.delimiter

/-- Send the statements of a migration in order, counted from one. -/
def statementSteps (runner : Runner) (migration : Migration) : List Step :=
  ((runner.ownStatements migration).zipIdx 1).map (runner.statementStep migration.name)

/-- The full name of the tracking table. -/
def trackingTable (runner : Runner) : String :=
  runner.settings.fullName runner.settings.trackingTable

/-- The call that records a migration. -/
def insertCall (runner : Runner) (name : MigrationName) : Call :=
  .execute ("INSERT INTO " ++ runner.trackingTable ++
    " (id, script_name, applied_at) VALUES (?, ?, ?)") [.freshId, .text name.text, .now]

/-- Record a migration. -/
def recordStep (runner : Runner) (name : MigrationName) : Step :=
  .send (runner.insertCall name) (.recording name)

/-- Commit the transaction of a migration. -/
def commitStep (name : MigrationName) : Step :=
  .send (.batch "COMMIT") fun error => .transaction name (Transaction.commitError error)

/-- What is done within the transaction: the statements, the record, the commit. -/
def work (runner : Runner) (migration : Migration) : List Step :=
  runner.statementSteps migration ++
    [runner.recordStep migration.name, commitStep migration.name]

/-- An attempt at a migration: what is exchanged, and how it ends. -/
inductive Attempt (runner : Runner) (migration : Migration) :
    List Exchange → Except Failure Unit → Prop
  | /-- The whole plan was carried out. -/
    completed {exchanges : List Exchange}
      (carried : Carried (opening migration.name ++ runner.work migration) exchanges (.ok ())) :
      Attempt runner migration exchanges (.ok ())
  | /-- There is no transaction, so there is nothing to undo. -/
    unopened {exchanges : List Exchange} {failure : Failure}
      (carried : Carried (opening migration.name) exchanges (.error failure)) :
      Attempt runner migration exchanges (.error failure)
  | /-- The plan failed within the transaction, which is rolled back. -/
    undone {opened worked : List Exchange} {failure : Failure}
      (carried : Carried (opening migration.name) opened (.ok ()))
      (failed : Carried (runner.work migration) worked (.error failure))
      (answer : (Call.batch "ROLLBACK").Answer) :
      Attempt runner migration (opened ++ worked ++ [⟨.batch "ROLLBACK", answer⟩])
        (.error failure)

theorem statementsOf_eq (runner : Runner) (migration : Migration) :
    runner.statementsOf migration = runner.ownStatements migration := by
  simp only [statementsOf, ownStatements, Migration.isEmpty, Text.startsWith,
    List.isPrefixOf_iff_prefix]

theorem tracking_eq (runner : Runner) : runner.settings.tracking = runner.trackingTable :=
  Settings.tracking_eq_fullName runner.usable

theorem insertSql_tracking (runner : Runner) : Tracker.insertSql runner.settings.tracking =
    "INSERT INTO " ++ runner.trackingTable ++
      " (id, script_name, applied_at) VALUES (?, ?, ?)" := by
  rw [tracking_eq]
  rfl

theorem dialogue_executeStatements_iff (statements : List String) (number : Nat)
    {outcome : Except Failure Unit} :
    (runner.executeStatements name number statements).Dialogue exchanged outcome ↔
      Carried ((statements.zipIdx number).map (runner.statementStep name)) exchanged outcome := by
  induction statements generalizing number exchanged outcome with
  | nil => simp [executeStatements]
  | cons statement rest ih =>
      rw [List.zipIdx_cons, List.map_cons, executeStatements, statementStep]
      cases qualified : runner.qualify statement with
      | error cause => simp
      | ok sql =>
          refine dialogue_send_iff (fun _ => rfl) ?_
          rintro ⟨⟩ exchanged outcome
          exact ih (number + 1)

/-- The first of some statements cannot be qualified, is refused, or is accepted and
followed by the others. -/
theorem carried_statements_cons_iff {statement : String} {rest : List String} {number : Nat}
    {outcome : Except Failure Unit} :
    Carried (((statement :: rest).zipIdx number).map (runner.statementStep name))
        exchanged outcome ↔
      (∃ cause, runner.qualify statement = .error cause ∧ exchanged = [] ∧
          outcome = .error (.qualify name number cause)) ∨
        ∃ sql, runner.qualify statement = .ok sql ∧
          ((∃ error, exchanged = [⟨.batch sql, .error error⟩] ∧
              outcome = .error (.execution name number error)) ∨
            ∃ later, exchanged = ⟨.batch sql, .ok ()⟩ :: later ∧
              Carried ((rest.zipIdx (number + 1)).map (runner.statementStep name))
                later outcome) := by
  rw [List.zipIdx_cons, List.map_cons, statementStep]
  cases qualified : runner.qualify statement with
  | error cause => simp
  | ok sql =>
      simp only [carried_send_iff]
      constructor
      · rintro (refused | ⟨_, later, rfl, carried⟩)
        · exact .inr ⟨sql, rfl, .inl refused⟩
        · exact .inr ⟨sql, rfl, .inr ⟨later, rfl, carried⟩⟩
      · rintro (⟨_, ⟨⟩, _⟩ | ⟨_, same, accepted⟩)
        obtain rfl := Except.ok.inj same
        rcases accepted with refused | ⟨later, rfl, carried⟩
        · exact .inl refused
        · exact .inr ⟨(), later, rfl, carried⟩

/-- What an attempt does behind its statements: it records the migration unless one of them
failed. -/
def afterStatements (runner : Runner) (migration : Migration) :
    Except Failure Unit → Session (Except Failure Unit)
  | .error failure => return .error failure
  | .ok () => do
    match ← Tracker.recordApplied runner.settings.tracking migration.name with
    | .error cause => return .error (.recording migration.name cause)
    | .ok () => return .ok ()

/-- What an attempt does within its transaction: the statements, and the record. -/
def inside (runner : Runner) (migration : Migration) : Session (Except Failure Unit) :=
  runner.executeStatements migration.name 1 (runner.statementsOf migration) >>=
    runner.afterStatements migration

/-- What an attempt does within its transaction carries out the statements and records the
migration. -/
theorem dialogue_inside_iff {outcome : Except Failure Unit} :
    (runner.inside migration).Dialogue exchanged outcome ↔
      Carried (runner.statementSteps migration ++ [runner.recordStep migration.name])
        exchanged outcome := by
  rw [inside, statementsOf_eq]
  refine dialogue_steps_iff (fun _ _ => dialogue_executeStatements_iff _ _) (fun _ => rfl) ?_
  intro exchanged outcome
  have shape : runner.afterStatements migration (.ok ()) = (do
      match ← Session.call (runner.insertCall migration.name) with
      | .error cause => return .error (Failure.recording migration.name cause)
      | .ok _ => return .ok ()) := by
    rw [afterStatements, Tracker.recordApplied, insertSql_tracking]
    change Session.ask _ _ = Session.ask _ _
    congr 1
    funext answer
    cases answer <;> rfl
  rw [shape]
  exact dialogue_send_iff (fun _ => rfl) fun _ _ _ => by simp

theorem work_eq (runner : Runner) (migration : Migration) :
    runner.work migration =
      (runner.statementSteps migration ++ [runner.recordStep migration.name]) ++
        [commitStep migration.name] := by
  simp [work]

theorem carried_opening_ok_iff :
    Carried (opening name) exchanged (.ok ()) ↔
      exchanged = [⟨.connect, .ok ()⟩, ⟨.batch "BEGIN TRANSACTION", .ok ()⟩] := by
  constructor
  · rintro (_ | ⟨⟨⟩, _ | ⟨⟨⟩, ⟨⟩⟩⟩)
    rfl
  · rintro rfl
    exact .accepted _ (.accepted _ .finished)

theorem carried_opening_error_iff {failure : Failure} :
    Carried (opening name) exchanged (.error failure) ↔
      (∃ error, exchanged = [⟨.connect, .error error⟩] ∧
          failure = .connection (.applying name) error) ∨
        ∃ error,
          exchanged = [⟨.connect, .ok ()⟩, ⟨.batch "BEGIN TRANSACTION", .error error⟩] ∧
            failure = .transaction name (Transaction.beginError error) := by
  constructor
  · intro carried
    cases carried with
    | refused error => exact .inl ⟨error, rfl, rfl⟩
    | accepted reply rest =>
        cases rest with
        | refused error => exact .inr ⟨error, rfl, rfl⟩
        | accepted reply rest => cases rest
  · rintro (⟨error, rfl, rfl⟩ | ⟨error, rfl, rfl⟩)
    · exact .refused error
    · exact .accepted _ (.refused error)

theorem carried_commit_ok_iff :
    Carried [commitStep name] exchanged (.ok ()) ↔ exchanged = [⟨.batch "COMMIT", .ok ()⟩] := by
  constructor
  · rintro (_ | ⟨⟨⟩, ⟨⟩⟩)
    rfl
  · rintro rfl
    exact .accepted _ .finished

theorem carried_commit_error_iff {failure : Failure} :
    Carried [commitStep name] exchanged (.error failure) ↔
      ∃ error, exchanged = [⟨.batch "COMMIT", .error error⟩] ∧
        failure = .transaction name (Transaction.commitError error) := by
  constructor
  · intro carried
    cases carried with
    | refused error => exact ⟨error, rfl, rfl⟩
    | accepted reply rest => cases rest
  · rintro ⟨error, rfl, rfl⟩
    exact .refused error

/-- An attempt fails to open its transaction, or says the statements and the record
in it and closes it. -/
theorem attempt_iff {outcome : Except Failure Unit} :
    runner.Attempt migration exchanged outcome ↔
      (∃ failure, outcome = .error failure ∧
          Carried (opening migration.name) exchanged (.error failure)) ∨
        ∃ inside closing inner,
          exchanged = ⟨.connect, .ok ()⟩ :: ⟨.batch "BEGIN TRANSACTION", .ok ()⟩ ::
            (inside ++ closing) ∧
          Carried (runner.statementSteps migration ++ [runner.recordStep migration.name])
            inside inner ∧
          Transaction.Closing (Failure.transaction migration.name) .commit inner closing
            outcome := by
  have opened : Carried (opening migration.name)
      [⟨.connect, .ok ()⟩, ⟨.batch "BEGIN TRANSACTION", .ok ()⟩] (.ok ()) :=
    carried_opening_ok_iff.mpr rfl
  constructor
  · intro attempt
    cases attempt with
    | unopened carried => exact .inl ⟨_, rfl, carried⟩
    | completed carried =>
        rcases carried_append_iff.mp carried with ⟨_, same, _⟩ | ⟨_, _, rfl, opens, worked⟩
        · cases same
        · obtain rfl := carried_opening_ok_iff.mp opens
          rw [work_eq] at worked
          rcases carried_append_iff.mp worked with ⟨_, same, _⟩ | ⟨inside, _, rfl, body, closed⟩
          · cases same
          · obtain rfl := carried_commit_ok_iff.mp closed
            exact .inr ⟨inside, _, .ok (), rfl, body, .committed ()⟩
    | undone opens failed answer =>
        obtain rfl := carried_opening_ok_iff.mp opens
        rw [work_eq] at failed
        rcases carried_append_iff.mp failed with ⟨_, same, body⟩ | ⟨inside, _, rfl, body, closed⟩
        · cases same
          exact .inr ⟨_, _, .error _, by simp, body, .failed _ answer⟩
        · obtain ⟨error, rfl, rfl⟩ := carried_commit_error_iff.mp closed
          exact .inr ⟨inside, _, .ok (), by simp, body, .refused () error answer⟩
  · rintro (⟨failure, rfl, carried⟩ | ⟨inside, closing, inner, rfl, body, closed⟩)
    · exact .unopened carried
    · cases closed with
      | failed failure answer =>
          have failed : Carried (runner.work migration) inside (.error failure) := by
            rw [work_eq]
            exact carried_append_iff.mpr (.inl ⟨failure, rfl, body⟩)
          exact .undone opened failed answer
      | committed value =>
          have worked : Carried (runner.work migration)
              (inside ++ [⟨.batch "COMMIT", .ok ()⟩]) (.ok ()) := by
            rw [work_eq]
            exact carried_append_iff.mpr (.inr ⟨inside, _, rfl, body, .accepted _ .finished⟩)
          exact .completed (carried_append_iff.mpr (.inr ⟨_, _, rfl, opened, worked⟩))
      | refused value error answer =>
          have failed : Carried (runner.work migration)
              (inside ++ [⟨.batch "COMMIT", .error error⟩])
              (.error (.transaction migration.name (Transaction.commitError error))) := by
            rw [work_eq]
            exact carried_append_iff.mpr (.inr ⟨inside, _, rfl, body, .refused error⟩)
          have attempt := Attempt.undone opened failed answer
          simpa using attempt

theorem apply_eq (runner : Runner) (migration : Migration) :
    runner.apply migration = (do
      match ← Session.call .connect with
      | .error cause => return .error (.connection (.applying migration.name) cause)
      | .ok () =>
        Transaction.scope (Failure.transaction migration.name) .commit
          (runner.inside migration)) := rfl

/-- Applying a migration is an attempt at it, and every attempt can come about. -/
theorem dialogue_apply_iff {outcome : Except Failure Unit} :
    (runner.apply migration).Dialogue exchanged outcome ↔
      runner.Attempt migration exchanged outcome := by
  rw [apply, Session.dialogue_call_bind_iff, attempt_iff]
  constructor
  · rintro ⟨answer, later, rfl, rest⟩
    cases answer with
    | error error =>
        obtain ⟨rfl, rfl⟩ := Session.dialogue_pure_iff.mp rest
        exact .inl ⟨_, rfl, .refused error⟩
    | ok _ =>
        rcases Transaction.dialogue_scope_iff.mp rest with
          ⟨error, rfl, rfl⟩ | ⟨inside, closing, inner, rfl, said, closed⟩
        · exact .inl ⟨_, rfl, carried_opening_error_iff.mpr (.inr ⟨error, rfl, rfl⟩)⟩
        · exact .inr ⟨inside, closing, inner, rfl, dialogue_inside_iff.mp said, closed⟩
  · rintro (⟨failure, rfl, carried⟩ | ⟨inside, closing, inner, rfl, body, closed⟩)
    · rcases carried_opening_error_iff.mp carried with ⟨error, rfl, rfl⟩ | ⟨error, rfl, rfl⟩
      · exact ⟨.error error, [], rfl, Session.dialogue_pure_iff.mpr ⟨rfl, rfl⟩⟩
      · exact ⟨.ok (), _, rfl, Transaction.dialogue_scope_iff.mpr (.inl ⟨error, rfl, rfl⟩)⟩
    · exact ⟨.ok (), _, rfl, Transaction.dialogue_scope_iff.mpr
        (.inr ⟨inside, closing, inner, rfl, dialogue_inside_iff.mpr body, closed⟩)⟩

/-! ## The check before an attempt -/

/-- The call that counts the records of a migration. -/
def countCall (runner : Runner) (name : MigrationName) : Call :=
  .count ("SELECT COUNT(*) FROM " ++ runner.trackingTable ++ " WHERE script_name = ?")
    [.text name.text]

theorem countSql_tracking (runner : Runner) : Tracker.countSql runner.settings.tracking =
    "SELECT COUNT(*) FROM " ++ runner.trackingTable ++ " WHERE script_name = ?" := by
  rw [tracking_eq]
  rfl

/-- The question whether a migration was applied: what is exchanged, and what
comes of it. -/
inductive Check (runner : Runner) (name : MigrationName) :
    List Exchange → Except Failure Bool → Prop
  | /-- There is no connection to ask on. -/
    unconnected (error : DbError) :
      Check runner name [⟨.connect, .error error⟩] (.error (.connection (.checking name) error))
  | /-- A positive count means that the migration was applied. -/
    counted (count : Int) :
      Check runner name [⟨.connect, .ok ()⟩, ⟨runner.countCall name, .ok count⟩]
        (.ok (decide (0 < count)))
  | /-- While the tracking table is missing nothing was applied. -/
    untracked (error : DbError) (missing : error.isNotFound = true) :
      Check runner name [⟨.connect, .ok ()⟩, ⟨runner.countCall name, .error error⟩] (.ok false)
  | /-- Any other refusal decides nothing. -/
    refused (error : DbError) (present : error.isNotFound = false) :
      Check runner name [⟨.connect, .ok ()⟩, ⟨runner.countCall name, .error error⟩]
        (.error (.trackingQuery name error))

theorem dialogue_isApplied_iff {outcome : Except Failure Bool} :
    (Tracker.isApplied runner.settings.tracking name).Dialogue exchanged outcome ↔
      runner.Check name exchanged outcome := by
  rw [Tracker.isApplied, countSql_tracking, Session.dialogue_call_bind_iff]
  constructor
  · rintro ⟨connected, later, rfl, asked⟩
    cases connected with
    | error error =>
        obtain ⟨rfl, rfl⟩ := Session.dialogue_pure_iff.mp asked
        exact .unconnected error
    | ok _ =>
        obtain ⟨counted, later, rfl, rest⟩ := Session.dialogue_call_bind_iff.mp asked
        cases counted with
        | ok count =>
            obtain ⟨rfl, rfl⟩ := Session.dialogue_pure_iff.mp rest
            exact .counted count
        | error error =>
            cases missing : error.isNotFound with
            | true =>
                simp only [missing, if_true] at rest
                obtain ⟨rfl, rfl⟩ := Session.dialogue_pure_iff.mp rest
                exact .untracked error missing
            | false =>
                simp only [missing, Bool.false_eq_true, if_false] at rest
                obtain ⟨rfl, rfl⟩ := Session.dialogue_pure_iff.mp rest
                exact .refused error missing
  · intro check
    cases check with
    | unconnected error => exact ⟨.error error, [], rfl, Session.dialogue_pure_iff.mpr ⟨rfl, rfl⟩⟩
    | counted count =>
        refine ⟨.ok (), _, rfl, Session.dialogue_call_bind_iff.mpr ⟨.ok count, [], rfl, ?_⟩⟩
        exact Session.dialogue_pure_iff.mpr ⟨rfl, rfl⟩
    | untracked error missing =>
        refine ⟨.ok (), _, rfl, Session.dialogue_call_bind_iff.mpr ⟨.error error, [], rfl, ?_⟩⟩
        simp [missing]
    | refused error present =>
        refine ⟨.ok (), _, rfl, Session.dialogue_call_bind_iff.mpr ⟨.error error, [], rfl, ?_⟩⟩
        simp [present]

end Runner

end MigrationLedger
