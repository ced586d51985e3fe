/-
# What the words of the engine are taken for

The engine reports a failure in words, and a missing table or schema is recognised by
them. A classification is faithful to a message when it takes the message for a missing
relation only if the message says so. It is faithful to most messages, but three of its
patterns are the words in which the engine names a table or a view, whatever it says of
it. The main statement says for which messages the classification is faithful, and what
becomes of the message that something exists already, in which any name may stand. Nothing
is said about the failures for which the engine uses which words.
-/

import MigrationLedger.Engine.Error
import MigrationLedger.Proofs.Text.Occurrence

namespace MigrationLedger

open Text (Occurs contains_iff occurs_quoted_iff)

namespace DbError

/-- The message says that something is missing. -/
def SaysMissing (message : String) : Prop :=
  Occurs "does not exist" message ∨ Occurs "not found" message

/-- The message holds the words in which the engine names a table or a view. -/
def NamesRelation (message : String) : Prop :=
  Occurs "Table with name" message ∨ Occurs "View with name" message ∨
    Occurs "Table or view with name" message

/-- The message holds the words in which the engine says that a schema or a table of its
catalog is missing. -/
def SaysCatalogMisses (message : String) : Prop :=
  Occurs "Catalog Error" message ∧
    ((Occurs "Schema with name" message ∧ Occurs "does not exist" message) ∨
      (Occurs "Table" message ∧ Occurs "not found" message))

/-- The message is taken for a missing relation only if it says that something is
missing. -/
def Faithful (message : String) : Prop :=
  (ofEngineMessage message).isNotFound = true → SaysMissing message

instance (message : String) : Decidable (SaysMissing message) :=
  inferInstanceAs (Decidable (_ ∨ _))

instance (message : String) : Decidable (Faithful message) :=
  inferInstanceAs (Decidable (_ → _))

variable {message sql : String}

theorem speaksOfTable_iff :
    speaksOfTable message = true ↔ NamesRelation message ∨ SaysCatalogMisses message := by
  simp only [speaksOfTable, Bool.or_eq_true, Bool.and_eq_true, contains_iff, NamesRelation,
    SaysCatalogMisses]
  tauto

theorem isNotFound_ofEngineMessage_iff :
    (ofEngineMessage message).isNotFound = true ↔
      NamesRelation message ∨ SaysCatalogMisses message := by
  rw [← speaksOfTable_iff, ofEngineMessage]
  by_cases speaks : speaksOfTable message = true <;> simp [speaks, isNotFound]

theorem ofEngineMessage_eq_execution_iff :
    ofEngineMessage message = .execution message ↔
      ¬ (NamesRelation message ∨ SaysCatalogMisses message) := by
  rw [← speaksOfTable_iff, ofEngineMessage]
  by_cases speaks : speaksOfTable message = true <;> simp [speaks]

/-- The statement that is named in an error has no say in what the error is taken for. -/
theorem isNotFound_withStatement (error : DbError) :
    (error.withStatement sql).isNotFound = error.isNotFound := by
  cases error <;> rfl

theorem SaysCatalogMisses.saysMissing (misses : SaysCatalogMisses message) :
    SaysMissing message :=
  misses.2.imp And.right And.right

/-- Only the words that name a relation can mislead. -/
theorem faithful_iff_imp :
    Faithful message ↔ (NamesRelation message → SaysMissing message) := by
  rw [Faithful, isNotFound_ofEngineMessage_iff]
  exact ⟨fun holds names => holds (.inl names), fun holds taken =>
    taken.elim holds SaysCatalogMisses.saysMissing⟩

end DbError

namespace Engine.EngineError

open DbError

variable {part name : String} {kind : EntryKind}

/-- The words in front of the name of what exists already or is missing. -/
def beforeName (kind : EntryKind) : String :=
  "Catalog Error: " ++ kind.title ++ " with name "

/-- The words behind the name of what exists already. -/
def behindName : String := " already exists!"

/-- What occurs in the message that something exists already occurs in the name or in the
words around it. -/
theorem occurs_existing_iff (free : '"' ∉ part.toList) :
    Occurs part (existing kind name).message ↔
      Occurs part (beforeName kind) ∨ Occurs part name ∨ Occurs part behindName := by
  have before : " with name " ++ "\"" = " with name \"" := by decide
  have behind : "\"" ++ " already exists!" = "\" already exists!" := by decide
  have spelled : (existing kind name).message =
      beforeName kind ++ "\"" ++ name ++ "\"" ++ behindName := by
    have words : beforeName kind = "Catalog Error: " ++ kind.title ++ " with name " := rfl
    have words' : behindName = " already exists!" := rfl
    rw [words, words', @String.append_assoc _ " with name " "\"",
      @String.append_assoc _ "\"" " already exists!", before, behind]
    rfl
  rw [spelled, occurs_quoted_iff free]

/-- The message that something exists already names a relation when it is one, or when its
name holds such words. -/
theorem namesRelation_existing_iff :
    NamesRelation (existing kind name).message ↔
      kind = .table ∨ kind = .view ∨ NamesRelation name := by
  have table : Occurs "Table with name" (beforeName kind) ↔ kind = .table := by
    cases kind <;> decide +kernel
  have view : Occurs "View with name" (beforeName kind) ↔ kind = .view := by
    cases kind <;> decide +kernel
  have both : ¬ Occurs "Table or view with name" (beforeName kind) := by
    cases kind <;> decide +kernel
  have behind : ¬ Occurs "Table with name" behindName ∧ ¬ Occurs "View with name" behindName ∧
      ¬ Occurs "Table or view with name" behindName := by decide +kernel
  rw [NamesRelation, occurs_existing_iff (by decide), occurs_existing_iff (by decide),
    occurs_existing_iff (by decide)]
  simp only [table, view, both, behind, false_or, or_false, NamesRelation]
  tauto

/-- That something is missing it says only where the name does. -/
theorem occurs_missing_existing_iff :
    (Occurs "does not exist" (existing kind name).message ↔ Occurs "does not exist" name) ∧
      (Occurs "not found" (existing kind name).message ↔ Occurs "not found" name) := by
  have before : ¬ Occurs "does not exist" (beforeName kind) ∧
      ¬ Occurs "not found" (beforeName kind) := by
    cases kind <;> decide +kernel
  have behind : ¬ Occurs "does not exist" behindName ∧ ¬ Occurs "not found" behindName := by
    decide +kernel
  rw [occurs_existing_iff (by decide), occurs_existing_iff (by decide)]
  simp only [before, behind, false_or, or_false, and_self]

theorem saysMissing_existing_iff :
    SaysMissing (existing kind name).message ↔ SaysMissing name := by
  rw [SaysMissing, occurs_missing_existing_iff.1, occurs_missing_existing_iff.2, SaysMissing]

/-- Apart from tables it says that the catalog misses something when the name does, of
which the words of a catalog error and for a schema the words for it stand in front. -/
theorem saysCatalogMisses_existing_iff (other : kind ≠ .table) :
    SaysCatalogMisses (existing kind name).message ↔
      ((kind = .schema ∨ Occurs "Schema with name" name) ∧ Occurs "does not exist" name) ∨
        (Occurs "Table" name ∧ Occurs "not found" name) := by
  have catalog : Occurs "Catalog Error" (beforeName kind) := by
    cases kind <;> decide +kernel
  have schema : Occurs "Schema with name" (beforeName kind) ↔ kind = .schema := by
    cases kind <;> decide +kernel
  have table : Occurs "Table" (beforeName kind) ↔ kind = .table := by
    cases kind <;> decide +kernel
  have behind : ¬ Occurs "Schema with name" behindName ∧ ¬ Occurs "Table" behindName := by
    decide +kernel
  rw [SaysCatalogMisses, occurs_missing_existing_iff.1, occurs_missing_existing_iff.2,
    occurs_existing_iff (by decide), occurs_existing_iff (by decide),
    occurs_existing_iff (by decide)]
  simp only [catalog, schema, table, other, behind, true_or, false_or, or_false, true_and]

end Engine.EngineError

namespace DbError

open Engine Engine.EngineError

/-- **What the words of the engine are taken for.** A message is classified faithfully
exactly when it says that something is missing or does not hold the words in which a table
or a view is named, and the statement that is reported with it has no say. That a table or
a view exists already is taken for a missing one under every name, and of anything else
when its name holds the words for that; it is classified faithfully only by accident, when
the name itself says that something is missing. -/
theorem faithful_iff (message sql : String) :
    (Faithful message ↔ (NamesRelation message → SaysMissing message)) ∧
    ((ofEngineMessage message).withStatement sql).isNotFound =
      (ofEngineMessage message).isNotFound ∧
    ∀ kind name,
      (ofEngineMessage (existing kind name).message = .execution (existing kind name).message ↔
        kind ≠ .table ∧ kind ≠ .view ∧ ¬ NamesRelation name ∧
          ¬ ((kind = .schema ∨ Occurs "Schema with name" name) ∧
              Occurs "does not exist" name) ∧
          ¬ (Occurs "Table" name ∧ Occurs "not found" name)) ∧
      (Faithful (existing kind name).message ↔
        (kind = .table ∨ kind = .view ∨ NamesRelation name → SaysMissing name)) := by
  refine ⟨faithful_iff_imp, isNotFound_withStatement _, fun kind name => ⟨?_, ?_⟩⟩
  · rw [ofEngineMessage_eq_execution_iff, namesRelation_existing_iff]
    by_cases table : kind = .table
    · simp [table]
    · rw [saysCatalogMisses_existing_iff table]
      simp only [not_or, ne_eq, and_assoc]
  · rw [faithful_iff_imp, namesRelation_existing_iff, saysMissing_existing_iff]

/-- A table that exists already is reported as a missing one, and so is a view. -/
theorem not_faithful_existing_jobs :
    ¬ Faithful "Catalog Error: Table with name \"jobs\" already exists!" ∧
      ofEngineMessage "Catalog Error: Table with name \"jobs\" already exists!" ≠
        .execution "Catalog Error: Table with name \"jobs\" already exists!" ∧
      ofEngineMessage "Catalog Error: View with name \"jobs\" already exists!" ≠
        .execution "Catalog Error: View with name \"jobs\" already exists!" := by
  decide +kernel

end DbError

end MigrationLedger
