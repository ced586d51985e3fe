/-
# Which names get the schema

In a statement that is understood, a qualifier uses two things: the names of the tables
of the job store that the recognisers tell, and the words that are written like one of
these names. The second is asked of every word of the statement, whatever the word
stands for, and of the text between quotes as it was written.

So the schema goes to a word exactly when it is written like a table that is mentioned
in the statement. This holds for any dialect whose lexemes tile the statement, whatever the
dialect understands and mentions. Two things are wanted of this, and neither holds always.
Only names of tables should get the schema: this fails when something else is written like a
table of the same statement. Every name of a table should get it: this fails for tables that
are named in passing and nowhere else, and for names with doubled quotes. Both are proved to
hold up to exactly these exceptions.
-/

import MigrationLedger.Proofs.Sql.Qualification

namespace MigrationLedger.Sql

/-! ## Names with doubled quotes -/

namespace Word

end Word

/-! ## Statements that are understood -/

/-- The tokens of a statement and the names that are mentioned in it. -/
structure Reading (dialect : Dialect) (statement : String) where
  ls : List Lexeme
  read : dialect.lexemes statement = .ok ls
  mentions : List (Mention ls)
  understood : dialect.mentions? ls = some mentions

/-- The reading of a statement that is understood. -/
def Reading.of? (dialect : Dialect) (statement : String) : Option (Reading dialect statement) :=
  match read : dialect.lexemes statement with
  | .error _ => none
  | .ok ls =>
    match understood : dialect.mentions? ls with
    | none => none
    | some mentions => some ⟨ls, read, mentions, understood⟩

/-- The roles of names that stand for stored tables or views. -/
def Role.isStored (role : Role) : Bool :=
  match role with
  | .relation | .dropTarget | .foreignKey | .otherForeignKey | .aside => true
  | .column | .label => false

variable {dialect : Dialect} {statement : String} {q : Qualifier} {ls : List Lexeme}
  {mentions : List (Mention ls)} {name : String}

/-- A table of the job store is mentioned by this name: it begins with the prefix, it is a name
of one part, and it stands for a table that is used or dropped, or that a foreign key of a new
table refers to. -/
def MentionsTable (tablePrefix : String) (mentions : List (Mention ls)) (name : String) : Prop :=
  tablePrefix.toList <+: name.toList ∧ ∃ m ∈ mentions, m.first.name = name ∧ m.later = [] ∧
    (m.role = .relation ∨ m.role = .dropTarget ∨ m.role = .foreignKey)

instance (tablePrefix : String) (mentions : List (Mention ls)) (name : String) :
    Decidable (MentionsTable tablePrefix mentions name) :=
  inferInstanceAs (Decidable (_ ∧ ∃ m ∈ mentions, _))

/-! ## The words that get the schema -/

namespace Qualifier

theorem isTableRole_iff {role : Role} :
    isTableRole role = true ↔ role = .relation ∨ role = .dropTarget ∨ role = .foreignKey := by
  cases role <;> decide

/-- The names that words are compared with are those of the tables of the job store that are
mentioned. -/
theorem mem_tableNames_iff :
    name ∈ q.tableNames mentions ↔ MentionsTable q.tablePrefix mentions name := by
  rw [tableNames, List.mem_filterMap, MentionsTable, ← owns_iff, ← exists_and_left]
  refine exists_congr fun m => ?_
  rw [← isTableRole_iff]
  cases m.later with
  | nil =>
      simp only [Option.ite_none_right_eq_some, Bool.and_eq_true, Option.some.injEq]
      grind
  | cons part rest => simp

/-- In a statement that is understood, the words that get the schema are those written
like a table of the job store that the statement mentions. -/
theorem exists_points_of_reading {schema : String} (named : q.schema = some schema)
    (tiles : dialect.Tiles) (reading : Reading dialect statement) :
    ∃ points rewritten, dialect.insertionPoints q statement = .ok points ∧
      dialect.qualify q statement = .ok rewritten ∧
      Spliced (schema ++ ".").toList statement.toList points rewritten.toList ∧
      (∀ point ∈ points, ∃ here : LeadingWord reading.ls, here.offset = point) ∧
      ∀ here : LeadingWord reading.ls, here.offset ∈ points ↔
        MentionsTable q.tablePrefix reading.mentions here.word.value := by
  obtain ⟨points, rewritten, qualified, found, spliced, words⟩ :=
    exists_spliced named tiles reading.read
  have chosen (here : LeadingWord reading.ls) :
      dialect.chooses q reading.ls (namingFrom false here.before) here.word = true ↔
        MentionsTable q.tablePrefix reading.mentions here.word.value := by
    simp [Dialect.chooses, reading.understood, mem_tableNames_iff]
  refine ⟨points, rewritten, found, qualified, spliced, fun point member => ?_, fun here => ?_⟩
  · obtain ⟨here, -, at_point⟩ := (words point).mp member
    exact ⟨here, at_point⟩
  · rw [words]
    constructor
    · rintro ⟨there, marked, same⟩
      rw [← ((tiles reading.read).word_eq_of_offset_eq same).2]
      exact (chosen there).mp marked
    · intro member
      exact ⟨here, (chosen here).mpr member, rfl⟩

end Qualifier

namespace Reading

/-- A lexeme begins the name of a stored table, or of a column that is qualified with a
stored table of the same statement. -/
def InRelation (reading : Reading dialect statement) (lexeme : Lexeme) : Prop :=
  ∃ m ∈ reading.mentions, m.first.lexeme = lexeme ∧
    (m.role.isStored = true ∨
      m.role = .column ∧ m.later ≠ [] ∧
        ∃ table ∈ reading.mentions, table.role.isStored = true ∧ table.later = [] ∧
          table.first.name = m.first.name)

instance (reading : Reading dialect statement) (lexeme : Lexeme) :
    Decidable (reading.InRelation lexeme) :=
  inferInstanceAs (Decidable (∃ m ∈ reading.mentions, m.first.lexeme = lexeme ∧ (_ ∨ _)))

/-- Whatever is put in at these offsets stands in front of the name of a stored table. -/
def OnlyRelations (reading : Reading dialect statement) (points : List Nat) : Prop :=
  ∀ point ∈ points, ∃ here : LeadingWord reading.ls, here.offset = point ∧
    reading.InRelation here.lexeme

end Reading

namespace Qualifier

/-- **Names of tables, and what is written like them.** Take any dialect whose lexemes tile
the statements that they are read from, a statement that it understands, and a schema that is
not empty. The schema is put in front of the words, after no point, that are written like a
table of the job store mentioned in the statement. These words all begin names of stored
tables exactly when nothing else in the statement is written like such a table. -/
theorem onlyRelations_iff {dialect : Dialect} (tiles : dialect.Tiles)
    (schema tablePrefix : String) (named : schema ≠ "") (reading : Reading dialect statement) :
    ∃ points rewritten,
      dialect.insertionPoints (make (some schema) tablePrefix) statement = .ok points ∧
      dialect.qualify (make (some schema) tablePrefix) statement = .ok rewritten ∧
      Spliced (schema ++ ".").toList statement.toList points rewritten.toList ∧
      (∀ here : LeadingWord reading.ls, here.offset ∈ points ↔
        MentionsTable tablePrefix reading.mentions here.word.value) ∧
      (reading.OnlyRelations points ↔ ∀ here : LeadingWord reading.ls,
        MentionsTable tablePrefix reading.mentions here.word.value →
          reading.InRelation here.lexeme) := by
  obtain ⟨points, rewritten, found, qualified, spliced, begun, words⟩ :=
    exists_points_of_reading (schema_make tablePrefix named) tiles reading
  refine ⟨points, rewritten, found, qualified, spliced, words, ?_, ?_⟩
  · intro only here member
    obtain ⟨there, same, relation⟩ := only here.offset ((words here).mpr member)
    rwa [((tiles reading.read).word_eq_of_offset_eq same).1] at relation
  · intro all point member
    obtain ⟨here, rfl⟩ := begun point member
    exact ⟨here, rfl, all here ((words here).mp member)⟩

/-- A query of one table. -/
def tableQuery : Reading .duckDb "SELECT id FROM jobrunr_jobs" :=
  (Reading.of? _ _).get (by decide +kernel)

/-- In a query of one table, what is written like this table gets the schema. -/
theorem onlyRelations_tableQuery :
    Dialect.duckDb.Tiles ∧ ∃ points, Dialect.duckDb.insertionPoints
        (make (some "app") "jobrunr_") "SELECT id FROM jobrunr_jobs" = .ok points ∧
      ∀ here : LeadingWord tableQuery.ls,
        here.offset ∈ points ↔ here.word.value = "jobrunr_jobs" := by
  obtain ⟨points, _, found, _, _, words, _⟩ :=
    onlyRelations_iff tiles_duckDb "app" "jobrunr_" (by decide) tableQuery
  have table : MentionsTable "jobrunr_" tableQuery.mentions "jobrunr_jobs" := by decide +kernel
  have only : ∀ m ∈ tableQuery.mentions, m.role = .relation ∨ m.role = .dropTarget ∨
      m.role = .foreignKey → m.first.name = "jobrunr_jobs" := by decide +kernel
  refine ⟨tiles_duckDb, points, found, fun here => (words here).trans ⟨?_, ?_⟩⟩
  · rintro ⟨-, m, mentioned, same, -, role⟩
    exact same.symm.trans (only m mentioned role)
  · intro same
    rwa [same]

/-- The tokens of the statement that makes an index with the name of its table. -/
def indexedTokens : List Lexeme :=
  [⟨.word ⟨"CREATE", none⟩, "CREATE".toList, ⟨1, 1⟩⟩, ⟨.blank, [' '], ⟨1, 7⟩⟩,
    ⟨.word ⟨"INDEX", none⟩, "INDEX".toList, ⟨1, 8⟩⟩, ⟨.blank, [' '], ⟨1, 13⟩⟩,
    ⟨.word ⟨"jobrunr_jobs", none⟩, "jobrunr_jobs".toList, ⟨1, 14⟩⟩, ⟨.blank, [' '], ⟨1, 26⟩⟩,
    ⟨.word ⟨"ON", none⟩, "ON".toList, ⟨1, 27⟩⟩, ⟨.blank, [' '], ⟨1, 29⟩⟩,
    ⟨.word ⟨"jobrunr_jobs", none⟩, "jobrunr_jobs".toList, ⟨1, 30⟩⟩, ⟨.blank, [' '], ⟨1, 42⟩⟩,
    ⟨.symbol "(", ['('], ⟨1, 43⟩⟩, ⟨.word ⟨"state", none⟩, "state".toList, ⟨1, 44⟩⟩,
    ⟨.symbol ")", [')'], ⟨1, 49⟩⟩]

/-- What a dialect has to say of an index with the name of its table: the name behind `ON` is
a table, and the name behind `INDEX` stands for nothing stored and for no column. -/
structure ReadsIndexed
    (reading : Reading dialect "CREATE INDEX jobrunr_jobs ON jobrunr_jobs (state)") : Prop where
  tokens : reading.ls = indexedTokens
  table : ∃ m ∈ reading.mentions, m.role = .relation ∧ m.first.name = "jobrunr_jobs" ∧
    m.later = []
  index : ∀ m ∈ reading.mentions, m.first.lexeme.location = ⟨1, 14⟩ → m.role = .label

namespace ReadsIndexed

variable {reading : Reading dialect "CREATE INDEX jobrunr_jobs ON jobrunr_jobs (state)"}

/-- The name of the index. -/
def indexName (reads : ReadsIndexed reading) : LeadingWord reading.ls where
  before := indexedTokens.take 4
  lexeme := ⟨.word ⟨"jobrunr_jobs", none⟩, "jobrunr_jobs".toList, ⟨1, 14⟩⟩
  after := indexedTokens.drop 5
  word := ⟨"jobrunr_jobs", none⟩
  whole := reads.tokens.trans (by decide +kernel)
  isWord := rfl
  leads := by decide +kernel

theorem offset_indexName (reads : ReadsIndexed reading) : reads.indexName.offset = 13 := by
  change Text.byteLength ((indexedTokens.take 4).flatMap Lexeme.text) = 13
  decide +kernel

theorem not_inRelation_indexName (reads : ReadsIndexed reading) :
    ¬ reading.InRelation reads.indexName.lexeme := by
  rintro ⟨m, mentioned, at_index, stands⟩
  have role := reads.index m mentioned (congrArg Lexeme.location at_index)
  rcases stands with stored | ⟨column, -⟩
  · rw [role] at stored
    cases stored
  · rw [role] at column
    cases column

end ReadsIndexed

/-- The reading of this statement by the lexer and the grammar. -/
def indexed : Reading .duckDb "CREATE INDEX jobrunr_jobs ON jobrunr_jobs (state)" :=
  (Reading.of? _ _).get (by decide +kernel)

theorem readsIndexed_indexed : ReadsIndexed indexed :=
  ⟨by decide +kernel, by decide +kernel, by decide +kernel⟩

/-- The name of an index gets the schema when it is that of the table, in any dialect that
reads the statement as one that makes an index. -/
theorem not_onlyRelations_indexed :
    (∀ dialect : Dialect, dialect.Tiles →
      ∀ reading : Reading dialect "CREATE INDEX jobrunr_jobs ON jobrunr_jobs (state)",
        ReadsIndexed reading →
        ∃ points, dialect.insertionPoints (make (some "app") "jobrunr_")
            "CREATE INDEX jobrunr_jobs ON jobrunr_jobs (state)" = .ok points ∧
          13 ∈ points ∧ ¬ reading.OnlyRelations points) ∧
    Dialect.duckDb.Tiles ∧ ReadsIndexed indexed ∧
      Dialect.duckDb.qualify (make (some "app") "jobrunr_")
          "CREATE INDEX jobrunr_jobs ON jobrunr_jobs (state)" =
        .ok "CREATE INDEX app.jobrunr_jobs ON app.jobrunr_jobs (state)" := by
  refine ⟨fun dialect tiles reading reads => ?_, tiles_duckDb, readsIndexed_indexed,
    by decide +kernel⟩
  obtain ⟨points, _, found, _, _, _, words⟩ :=
    exists_points_of_reading (schema_make "jobrunr_" (by decide : "app" ≠ "")) tiles reading
  obtain ⟨m, mentioned, role, name, single⟩ := reads.table
  have begins : "jobrunr_".toList <+: "jobrunr_jobs".toList := by decide +kernel
  have chosen : 13 ∈ points := by
    rw [← reads.offset_indexName, words]
    exact ⟨begins, m, mentioned, name, single, .inl role⟩
  refine ⟨points, found, chosen, fun only => ?_⟩
  obtain ⟨here, at_index, relation⟩ := only 13 chosen
  rw [← reads.offset_indexName] at at_index
  rw [((tiles reading.read).word_eq_of_offset_eq at_index).1] at relation
  exact reads.not_inRelation_indexName relation

/-- A name with doubled quotes is read as a table but compared as it is written. -/
example : Dialect.duckDb.qualify (make (some "app") "jobrunr_") "SELECT * FROM \"jobrunr_\"\"x\"" =
    .ok "SELECT * FROM \"jobrunr_\"\"x\"" := by decide +kernel

end Qualifier

end MigrationLedger.Sql
