/-
# Help

What the program tells about itself: the commands, the options of each with
their meanings, and its version. Options are listed in one table, whose first
column is as wide as its widest entry.
-/

import MigrationLedger.CommandLine.Arguments

namespace MigrationLedger.CommandLine

namespace OptionName

/-- What an option means. -/
def meaning : OptionName → String
  | .verbose => "Enable debug logging"
  | .config => "Config file (default: tablekeeper.yml in the current directory, if present)"
  | .url => "Database URL (duckdb:<path>, duckdb::memory:, or a file path)"
  | .user => "Database user"
  | .password => "Database password"
  | .schema => "Schema holding the job-store tables"
  | .migrations => "Migration directory (repeatable; replaces the configured directories)"
  | .overrides =>
    "Override directory whose scripts replace same-named migrations (repeatable)"
  | .skipCreate => "Only validate the tables, do not create them"
  | .json => "Output as JSON"
  | .help => "Print help"
  | .version => "Print version"

/-- The variable that stands in for an option, as it is shown: with its value,
unless the value is a secret. -/
def variableNote (environment : Environment) (name : OptionName) : String :=
  match name.variable? with
  | none => ""
  | some key =>
    let value := if name = .password then "" else "=" ++ (environment.lookup key).getD ""
    " [env: " ++ key ++ value ++ "]"

end OptionName

/-- What a command is for. -/
def CommandName.meaning : CommandName → String
  | .migrate => "Apply pending migrations"
  | .validate => "Check that every required table exists"
  | .status => "List migrations and whether they have been applied"

namespace Help

/-- The version of the program. -/
def version : String := "tk 0.1.0\n"

/-- What the program is. -/
def about : String := "Tablekeeper CLI - creates and checks job-store tables"

/-- What the word for help is for. -/
def helpMeaning : String := "Print this message or the help of the given subcommand(s)"

/-- Two columns with a margin in front, the first as wide as it needs to be. -/
def twoColumns (entries : List (String × String)) : List String :=
  let width := (entries.map fun entry => entry.1.length).foldl max 0
  entries.map fun (left, right) =>
    "  " ++ left ++ String.ofList (List.replicate (width - left.length) ' ') ++ "  " ++ right

/-- How an option is written. -/
def spelling (form : OptionForm) : String :=
  let short := match form.short with
    | some c => "-" ++ String.singleton c ++ ", "
    | none => "    "
  let value := if form.takesValue then " <" ++ form.long.toUpper ++ ">" else ""
  short ++ "--" ++ form.long ++ value

/-- The table of options. -/
def optionLines (environment : Environment) (forms : List OptionForm) : List String :=
  "Options:" :: twoColumns (forms.map fun form =>
    (spelling form, form.name.meaning ++ form.name.variableNote environment))

/-- The help about the whole program, or about one command. -/
def lines (environment : Environment) : Option CommandName → List String
  | none =>
    [about, "", "Usage: tk [OPTIONS] <COMMAND>", "", "Commands:"] ++
      twoColumns (([.migrate, .validate, .status].map fun name : CommandName =>
        (name.word, name.meaning)) ++ [(helpWord, helpMeaning)]) ++
      [""] ++ optionLines environment Arguments.rootForms
  | some command =>
    [command.meaning, "", "Usage: tk " ++ command.word ++ " [OPTIONS]", ""] ++
      optionLines environment (command.options ++ OptionForm.common)

/-- The text of help. -/
def text (environment : Environment) (command : Option CommandName) : String :=
  String.join ((lines environment command).map (· ++ "\n"))

end Help

/-- What is told about arguments that make no sense. -/
def ArgumentsProblem.message : ArgumentsProblem → String
  | .help _ | .version | .nothingGiven => ""
  | .missingCommand => "error: 'tk' requires a subcommand but one was not provided\n"
  | .unknownCommand => "error: unrecognized subcommand\n"
  | .unknownArgument => "error: unexpected argument found\n"
  | .missingValue => "error: a value is required for an option but none was supplied\n"
  | .unexpectedValue => "error: unexpected value for an option found; no more were expected\n"
  | .repeated => "error: an option cannot be used multiple times\n"

end MigrationLedger.CommandLine
