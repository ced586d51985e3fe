/-
# What a command works with

A command finds a configuration and puts its options on top. Which file the configuration
comes from, and which directory its paths are seen from, is said without the functions
that look for it; what is put together is said field by field. The main statement says
that a setup is loaded exactly when it is made of such parts and is sound, when that is
the case, and that what is loaded can be run. A setup from a file that is named in full
has nothing to do with the current directory, and all its directories are named in full
when none is given on the command line.
-/

import MigrationLedger.CommandLine.Program
import MigrationLedger.Proofs.Path.Directory
import MigrationLedger.Proofs.Runner.Sorting
import MigrationLedger.Proofs.Settings.Identifiers

namespace MigrationLedger

/-! ## Files seen from another directory -/

namespace FileTree

variable {tree : FileTree} {path : String}

/-- The same files, seen from another directory. -/
def seenFrom (tree : FileTree) (directory : List String) : FileTree :=
  { tree with workingDirectory := directory }

theorem follow_seenFrom (directory place parts : List String) :
    (tree.seenFrom directory).follow place parts = tree.follow place parts := by
  induction parts generalizing place with
  | nil => rfl
  | cons part rest ih =>
      simp only [follow, ih]
      rfl

/-- A path in full leads to the same place from everywhere. -/
theorem place?_seenFrom (absolute : Path.isAbsolute path = true) (directory : List String) :
    (tree.seenFrom directory).place? path = tree.place? path := by
  rw [place?, place?, if_pos absolute, if_pos absolute, follow_seenFrom]

end FileTree

/-! ## The configuration that is found -/

namespace Config

variable {format : Format} {files : FileTree} {path text : String} {config : Config}

/-- The file at a path holds a sound configuration, in some format. -/
structure StandsAt (format : Format) (files : FileTree) (path : String) (config : Config) :
    Prop where
  reads : ∃ text, files.text? path = some text ∧ format.read? text = some config
  sound : config.problem? = none

theorem StandsAt.pathExists (stands : StandsAt format files path config) :
    files.pathExists path = true := by
  obtain ⟨text, found, -⟩ := stands.reads
  obtain ⟨place, -, leads, -, -⟩ := FileTree.text?_eq_some_iff.mp found
  rw [FileTree.pathExists, leads]
  rfl

/-- What is loaded stands at the path. -/
theorem load_eq_ok_iff :
    format.load files path = .ok config ↔ StandsAt format files path config := by
  constructor
  · intro loads
    rw [Format.load] at loads
    split_ifs at loads
    split at loads
    · cases loads
    · rename_i text found
      split at loads
      · cases loads
      · rename_i read
        split at loads
        · cases loads
        · rename_i sound
          obtain rfl := Except.ok.inj loads
          exact ⟨⟨text, found, read⟩, sound⟩
  · intro stands
    obtain ⟨text, found, read⟩ := stands.reads
    rw [Format.load, if_neg (by simp [stands.pathExists]), found]
    simp only [read, stands.sound]

/-- The default configuration is sound. -/
theorem problem?_default : ({} : Config).problem? = none := by
  decide

end Config

namespace CommandLine

open Config (StandsAt fileNames)

/-- The configuration that a command finds, and the directory that its paths are seen from:
the file that is named stands in the directory, or the first of the usual names that stands
in the current directory is taken, or the default when none of them does. -/
inductive Finds (format : Config.Format) (files : FileTree) :
    Option String → Config → String → Prop
  | named {path directory : String} {config : Config} (stands : StandsAt format files path config)
      (parent : Path.parent? path = some directory) :
      Finds format files (some path) config directory
  | usual {before after : List String} {name : String} {config : Config}
      (order : fileNames = before ++ name :: after)
      (absent : ∀ other ∈ before,
        files.pathExists (Path.join files.workingPath other) = false)
      (stands : StandsAt format files (Path.join files.workingPath name) config) :
      Finds format files none config files.workingPath
  | nowhere (absent : ∀ name ∈ fileNames,
        files.pathExists (Path.join files.workingPath name) = false) :
      Finds format files none {} files.workingPath

/-- What an option makes of a value: its own when it is given, and else the value that was
there. -/
structure Overrides {α : Type} (option : Option α) (before after : α) : Prop where
  given : ∀ own, option = some own → after = own
  kept : option = none → after = before

/-- A setup is a configuration with options on top. Directories are those of the command
line as they are given there, or else those of the configuration seen from its
directory. -/
structure Layers (globals : GlobalOptions) (config : Config) (directory : String)
    (setup : Setup) : Prop where
  url : Overrides globals.url config.database.url setup.config.database.url
  user : Overrides (globals.user.map some) config.database.user setup.config.database.user
  password : Overrides (globals.password.map some) config.database.password
    setup.config.database.password
  schema : Overrides (globals.schema.map some) config.database.schema
    setup.config.database.schema
  skipCreate : setup.config.database.skipCreate = config.database.skipCreate
  migrations : setup.config.migrations = config.migrations
  tables : setup.config.tables = config.tables
  givenMigrations : globals.migrations ≠ [] → setup.migrationDirectories = globals.migrations
  keptMigrations : globals.migrations = [] →
    setup.migrationDirectories = config.migrations.paths.map (Path.join directory)
  givenOverrides : globals.overrides ≠ [] → setup.overrideDirectories = globals.overrides
  keptOverrides : globals.overrides = [] →
    setup.overrideDirectories = config.migrations.overrides.map (Path.join directory)

variable {format : Config.Format} {files : FileTree} {globals : GlobalOptions} {config : Config}
  {directory path : String} {setup : Setup}

theorem overrides_iff {α : Type} {option : Option α} {before after : α} :
    Overrides option before after ↔ after = option.getD before := by
  constructor
  · rintro ⟨given, kept⟩
    cases option with
    | none => exact kept rfl
    | some own => exact given own rfl
  · rintro rfl
    exact ⟨fun own same => by rw [same]; rfl, fun none => by rw [none]; rfl⟩

theorem findIn?_eq_some_iff :
    Config.findIn? files directory = some path ↔ ∃ before name after,
      fileNames = before ++ name :: after ∧ path = Path.join directory name ∧
      files.pathExists path = true ∧
      ∀ other ∈ before, files.pathExists (Path.join directory other) = false := by
  rw [Config.findIn?, List.find?_eq_some_iff_append]
  constructor
  · rintro ⟨stands, front, back, whole, absent⟩
    obtain ⟨before, rest, order, rfl, divided⟩ := List.map_eq_append_iff.mp whole
    obtain ⟨name, after, rfl, rfl, rfl⟩ := List.map_eq_cons_iff.mp divided
    exact ⟨before, name, after, order, rfl, stands, by simpa using absent⟩
  · rintro ⟨before, name, after, order, rfl, stands, absent⟩
    refine ⟨stands, before.map (Path.join directory), after.map (Path.join directory), ?_, ?_⟩
    · rw [order, List.map_append, List.map_cons]
    · simpa using absent

theorem findIn?_eq_none_iff :
    Config.findIn? files directory = none ↔
      ∀ name ∈ fileNames, files.pathExists (Path.join directory name) = false := by
  simp [Config.findIn?, List.find?_eq_none]

/-- What is loaded is what is found. -/
theorem loadConfig_eq_ok_iff {named : Option String} :
    Setup.loadConfig format files named = .ok (config, directory) ↔
      Finds format files named config directory := by
  cases named with
  | some path =>
    unfold Setup.loadConfig
    dsimp only
    constructor
    · intro loads
      split at loads
      · rename_i found loaded
        obtain ⟨rfl, rfl⟩ := Prod.mk.inj (Except.ok.inj loads)
        have stands := Config.load_eq_ok_iff.mp loaded
        obtain ⟨text, found, -⟩ := stands.reads
        obtain ⟨directory, parent, -⟩ := FileTree.exists_heldBy found
        rw [parent]
        exact .named stands parent
      · cases loads
    · rintro (⟨stands, parent⟩ | _ | _)
      simp only [Config.load_eq_ok_iff.mpr stands, parent, Option.getD_some]
  | none =>
    unfold Setup.loadConfig Config.Format.loadOrDefault
    dsimp only
    constructor
    · intro loads
      split at loads
      · rename_i found loaded
        obtain ⟨rfl, rfl⟩ := Prod.mk.inj (Except.ok.inj loads)
        split at loaded
        · rename_i path first
          obtain ⟨before, name, after, order, rfl, -, absent⟩ := findIn?_eq_some_iff.mp first
          exact .usual order absent (Config.load_eq_ok_iff.mp loaded)
        · rename_i none
          obtain rfl := Except.ok.inj loaded
          exact .nowhere (findIn?_eq_none_iff.mp none)
      · cases loads
    · rintro (_ | ⟨order, absent, stands⟩ | absent)
      · have loaded := Config.load_eq_ok_iff.mpr stands
        have first : Config.findIn? files files.workingPath = some _ :=
          findIn?_eq_some_iff.mpr ⟨_, _, _, order, rfl, stands.pathExists, absent⟩
        simp only [first, loaded]
      · simp only [findIn?_eq_none_iff.mpr absent]

theorem overrides_map_some_iff {α : Type} {option before after : Option α} :
    Overrides (option.map some) before after ↔ after = option.or before := by
  rw [overrides_iff]
  cases option <;> rfl

theorem directories_iff {given configured directories : List String} :
    ((given ≠ [] → directories = given) ∧
        (given = [] → directories = configured.map (Path.join directory))) ↔
      directories = Setup.directories directory given configured := by
  rw [Setup.directories]
  cases given <;> simp

/-- A setup is determined by what it is made of. -/
theorem layers_iff :
    Layers globals config directory setup ↔
      setup = ⟨{ config with database := Setup.withOptions globals config.database },
        Setup.directories directory globals.migrations config.migrations.paths,
        Setup.directories directory globals.overrides config.migrations.overrides⟩ := by
  constructor
  · intro layers
    have database : setup.config.database = Setup.withOptions globals config.database := by
      rw [Setup.withOptions, ← overrides_iff.mp layers.url,
        ← overrides_map_some_iff.mp layers.user, ← overrides_map_some_iff.mp layers.password,
        ← overrides_map_some_iff.mp layers.schema, ← layers.skipCreate]
    have own := directories_iff.mp ⟨layers.givenMigrations, layers.keptMigrations⟩
    have others := directories_iff.mp ⟨layers.givenOverrides, layers.keptOverrides⟩
    rw [← own, ← others, ← database, ← layers.migrations, ← layers.tables]
  · rintro rfl
    have own := directories_iff.mpr (rfl :
      Setup.directories directory globals.migrations config.migrations.paths = _)
    have others := directories_iff.mpr (rfl :
      Setup.directories directory globals.overrides config.migrations.overrides = _)
    exact {
      url := overrides_iff.mpr rfl
      user := overrides_map_some_iff.mpr rfl
      password := overrides_map_some_iff.mpr rfl
      schema := overrides_map_some_iff.mpr rfl
      skipCreate := rfl
      migrations := rfl
      tables := rfl
      givenMigrations := own.1
      keptMigrations := own.2
      givenOverrides := others.1
      keptOverrides := others.2 }

/-- A setup is loaded exactly when it is made of what is found and is sound. -/
theorem loadAs_eq_ok_iff :
    Setup.loadAs format files globals = .ok setup ↔ ∃ config directory,
      Finds format files globals.config config directory ∧ Layers globals config directory setup ∧
        setup.config.problem? = none := by
  rw [Setup.loadAs, bind_eq_ok_iff]
  constructor
  · rintro ⟨⟨config, directory⟩, loads, made⟩
    dsimp only at made
    split at made
    · cases made
    · rename_i sound
      obtain rfl := Except.ok.inj made
      exact ⟨config, directory, loadConfig_eq_ok_iff.mp loads, layers_iff.mpr rfl, sound⟩
  · rintro ⟨config, directory, finds, layers, sound⟩
    obtain rfl := layers_iff.mp layers
    refine ⟨(config, directory), loadConfig_eq_ok_iff.mpr finds, ?_⟩
    simp only [sound]
    rfl

theorem Finds.sound {named : Option String} (finds : Finds format files named config directory) :
    config.problem? = none := by
  cases finds with
  | named stands => exact stands.sound
  | usual _ _ stands => exact stands.sound
  | nowhere => exact Config.problem?_default

/-- What is found stays sound under options when the schema among them is none or an
identifier. -/
theorem Layers.sound_iff (layers : Layers globals config directory setup)
    (sound : config.problem? = none) :
    setup.config.problem? = none ↔
      ∀ schema, globals.schema = some schema → schema = "" ∨ IsIdent schema := by
  obtain ⟨schema, filled⟩ := Config.problem?_eq_none_iff.mp sound
  have needed : setup.config.neededTexts = config.neededTexts := by
    rw [Config.neededTexts, layers.migrations, layers.tables, Config.neededTexts]
  rw [Config.problem?_eq_none_iff, needed, and_iff_left filled, Config.schema]
  cases given : globals.schema with
  | none =>
      rw [layers.schema.kept (by rw [given]; rfl)]
      exact iff_of_true schema (by simp)
  | some own =>
      rw [layers.schema.given (some own) (by rw [given]; rfl)]
      by_cases empty : own = ""
      · simp [empty]
      · simp [empty, Option.filter, isPlainIdentifier_iff]

/-- A setup is loaded when a configuration is found and no other schema is asked for than
an identifier. -/
theorem exists_loadAs_iff :
    (∃ setup, Setup.loadAs format files globals = .ok setup) ↔
      (∃ config directory, Finds format files globals.config config directory) ∧
        ∀ schema, globals.schema = some schema → schema = "" ∨ IsIdent schema := by
  simp only [loadAs_eq_ok_iff]
  constructor
  · rintro ⟨setup, config, directory, finds, layers, sound⟩
    exact ⟨⟨config, directory, finds⟩, (layers.sound_iff finds.sound).mp sound⟩
  · rintro ⟨⟨config, directory, finds⟩, schema⟩
    have layers := layers_iff.mpr (rfl : (⟨{ config with
        database := Setup.withOptions globals config.database },
      Setup.directories directory globals.migrations config.migrations.paths,
      Setup.directories directory globals.overrides config.migrations.overrides⟩ : Setup) = _)
    exact ⟨_, config, directory, finds, layers, (layers.sound_iff finds.sound).mpr schema⟩

/-! ## The current directory -/

theorem isAbsolute_workingPath (files : FileTree) : Path.isAbsolute files.workingPath = true := by
  rw [Path.isAbsolute_iff, FileTree.workingPath, String.toList_append]
  exact List.prefix_append _ _

/-- The directory of what is found is named in full, unless it is found by a path that is
not. -/
theorem Finds.isAbsolute {named : Option String}
    (finds : Finds format files named config directory)
    (full : ∀ path, named = some path → Path.isAbsolute path = true) :
    Path.isAbsolute directory = true := by
  cases finds with
  | named stands parent =>
      obtain ⟨text, found, -⟩ := stands.reads
      obtain ⟨other, parent', held⟩ := FileTree.exists_heldBy found
      obtain rfl := Option.some.inj (parent.symm.trans parent')
      exact held.isAbsolute (full _ rfl)
  | usual => exact isAbsolute_workingPath files
  | nowhere => exact isAbsolute_workingPath files

/-- Directories of the configuration are named in full when its own directory is. -/
theorem Layers.isAbsolute (layers : Layers globals config directory setup)
    (full : Path.isAbsolute directory = true) (own : globals.migrations = [])
    (others : globals.overrides = []) :
    ∀ path ∈ setup.migrationDirectories ++ setup.overrideDirectories,
      Path.isAbsolute path = true := by
  rw [layers.keptMigrations own, layers.keptOverrides others, ← List.map_append]
  simp only [List.forall_mem_map]
  exact fun path _ => Path.isAbsolute_join full path

/-- A configuration that is named in full is loaded alike from everywhere. -/
theorem loadConfig_seenFrom (full : Path.isAbsolute path = true) (place : List String) :
    Setup.loadConfig format (files.seenFrom place) (some path) =
      Setup.loadConfig format files (some path) := by
  have alike : format.load (files.seenFrom place) path = format.load files path := by
    simp only [Config.Format.load, FileTree.pathExists, FileTree.text?,
      FileTree.place?_seenFrom full place]
    rfl
  unfold Setup.loadConfig
  simp only [alike]

/-- **What a command works with.** In whatever format configurations are written, a setup is
loaded exactly when it is made of the configuration that is found and the options, field by
field, and is sound; there is one exactly when a configuration is found and the schema of the
command line, if it is not empty, is an identifier. What is loaded can be run with any source,
over any dialect. The directory of a file that is named holds the file. When that file is named
in full or none is, all directories are named in full unless some are given; and when it is,
the current directory makes no difference. -/
theorem setups_of_load (format : Config.Format) (files : FileTree) (globals : GlobalOptions) :
    (∀ setup, Setup.loadAs format files globals = .ok setup ↔ ∃ config directory,
      Finds format files globals.config config directory ∧ Layers globals config directory setup ∧
        setup.config.problem? = none) ∧
    ((∃ setup, Setup.loadAs format files globals = .ok setup) ↔
      (∃ config directory, Finds format files globals.config config directory) ∧
        ∀ schema, globals.schema = some schema → schema = "" ∨ IsIdent schema) ∧
    (∀ setup, Setup.loadAs format files globals = .ok setup →
      (∀ dialect offer, ∃ runner,
        Runner.forDialect dialect (.ofConfig setup.config) offer = .ok runner) ∧
      (∀ path, globals.config = some path →
        ∃ directory, Path.parent? path = some directory ∧ files.HeldBy path directory) ∧
      ((∀ path, globals.config = some path → Path.isAbsolute path = true) →
        globals.migrations = [] → globals.overrides = [] →
        ∀ path ∈ setup.migrationDirectories ++ setup.overrideDirectories,
          Path.isAbsolute path = true)) ∧
    ∀ path place, globals.config = some path → Path.isAbsolute path = true →
      Setup.loadAs format (files.seenFrom place) globals = Setup.loadAs format files globals := by
  refine ⟨fun setup => loadAs_eq_ok_iff, exists_loadAs_iff, fun setup loads => ?_,
    fun path place named full => ?_⟩
  · obtain ⟨config, directory, finds, layers, sound⟩ := loadAs_eq_ok_iff.mp loads
    refine ⟨fun dialect offer => ?_, fun path named => ?_, fun full => ?_⟩
    · have usable := Settings.problem?_ofConfig sound
      exact ⟨⟨dialect, _, usable, offer⟩, Runner.forDialect_eq_ok_iff.mpr ⟨rfl, rfl, rfl⟩⟩
    · rw [named] at finds
      obtain ⟨⟨⟨text, found, -⟩, -⟩, -⟩ | _ | _ := finds
      exact FileTree.exists_heldBy found
    · exact layers.isAbsolute (finds.isAbsolute full)
  · simp only [Setup.loadAs, named, loadConfig_seenFrom full place]

/-- A configuration file that names the database and two directories of migrations. Its keys
are marked: without marks the reader sorts them in, which the kernel cannot evaluate. -/
def officeText : String :=
  "\x7b? database : \x7b? url : a.db\x7d, ? migrations : \x7b? paths : [m, /n]\x7d\x7d"

/-- The file stands in one directory and is seen from another. -/
def office : FileTree where
  nodes := [(["conf"], .directory), (["conf", "my.yml"], .file officeText.toUTF8)]
  workingDirectory := ["home"]

/-- The configuration of the file. -/
def officeConfig : Config :=
  { database := { url := "a.db" }, migrations := { paths := ["m", "/n"] } }

/-- The file is named in full, and a user and a schema are given. -/
def officeOptions : GlobalOptions :=
  { config := some "/conf/my.yml", user := some "me", schema := some "app" }

theorem setups_of_load_office :
    ∃ setup, Setup.load office officeOptions = .ok setup ∧
      setup.config.database = { url := "a.db", user := some "me", schema := some "app" } ∧
      setup.migrationDirectories = ["/conf/m", "/n"] ∧ setup.overrideDirectories = [] ∧
      (∀ offer, ∃ runner, Runner.make (.ofConfig setup.config) offer = .ok runner) ∧
      Setup.load (office.seenFrom []) officeOptions = .ok setup := by
  have stands : StandsAt .yaml office "/conf/my.yml" officeConfig :=
    ⟨⟨officeText, by decide +kernel, by decide +kernel⟩, by decide⟩
  obtain ⟨exactly, -, sound, alike⟩ := setups_of_load .yaml office officeOptions
  have layers : Layers officeOptions officeConfig "/conf" ⟨{ officeConfig with
      database := { url := "a.db", user := some "me", schema := some "app" } },
    ["/conf/m", "/n"], []⟩ := layers_iff.mpr (by decide +kernel)
  have loads := (exactly _).mpr
    ⟨officeConfig, "/conf", .named stands (by decide +kernel), layers, by decide⟩
  exact ⟨_, loads, rfl, rfl, rfl, (sound _ loads).1 .duckDb,
    (alike _ [] rfl (by decide)).trans loads⟩

end CommandLine

end MigrationLedger
