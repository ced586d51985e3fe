/-
# Command-line arguments

Which words and options the command line knows, and what a list of arguments
asks for. Options stand before the command or after it. An option given after
the command wins over the same option before it, and either wins over the
environment.
-/

import MigrationLedger.Text.Search

namespace MigrationLedger.CommandLine

/-- The options. -/
inductive OptionName
  | verbose
  | config
  | url
  | user
  | password
  | schema
  | migrations
  | overrides
  | skipCreate
  | json
  | help
  | version
  deriving DecidableEq, Repr

/-- How an option is written and what it does with what follows. -/
structure OptionForm where
  name : OptionName
  long : String
  short : Option Char
  takesValue : Bool := true
  /-- It may be given several times, and all values count. -/
  repeats : Bool := false

namespace OptionForm

/-- The options that stand before or after any command. -/
def common : List OptionForm :=
  [{ name := .verbose, long := "verbose", short := some 'v', takesValue := false },
    { name := .config, long := "config", short := some 'c' },
    { name := .url, long := "url", short := some 'u' },
    { name := .user, long := "user", short := none },
    { name := .password, long := "password", short := none },
    { name := .schema, long := "schema", short := some 's' },
    { name := .migrations, long := "migrations", short := some 'm', repeats := true },
    { name := .overrides, long := "overrides", short := some 'o', repeats := true },
    { name := .help, long := "help", short := some 'h', takesValue := false }]

end OptionForm

/-- The commands. -/
inductive CommandName
  | migrate
  | validate
  | status
  deriving DecidableEq, Repr

namespace CommandName

/-- The word for a command. -/
def word : CommandName → String
  | .migrate => "migrate"
  | .validate => "validate"
  | .status => "status"

/-- The command that a word stands for. -/
def ofWord? (word : String) : Option CommandName :=
  [migrate, validate, status].find? fun name => name.word == word

/-- The options that a command adds. -/
def options : CommandName → List OptionForm
  | .migrate =>
    [{ name := .skipCreate, long := "skip-create", short := none, takesValue := false }]
  | .validate => []
  | .status => [{ name := .json, long := "json", short := none, takesValue := false }]

end CommandName

/-- The word that asks for help in place of a command. -/
def helpWord : String := "help"

/-- What arguments ask for instead of a command, or why they make no sense. -/
inductive ArgumentsProblem
  /-- Help about a command, or about all. -/
  | help (command : Option CommandName)
  | version
  /-- Nothing at all was given. -/
  | nothingGiven
  | missingCommand
  | unknownCommand
  | unknownArgument
  | missingValue
  | unexpectedValue
  | repeated
  deriving DecidableEq, Repr

/-- An option that has been read: its form and its value, if any yet. -/
abbrev Awaiting := OptionForm × Option String

/-- What has been read on one side of the command. -/
structure Given where
  /-- The options in order. Those that take no value have an empty one. -/
  options : List (OptionName × String) := []
  /-- The last option that takes a value. It counts only when the next option is
  met, or the end. -/
  awaiting : Option Awaiting := none
  /-- A double hyphen has been met; what follows is no option. -/
  isTrailing : Bool := false

namespace Given

/-- Count an option. Most may be given only once. -/
def add (given : Given) (form : OptionForm) (value : String) : Except ArgumentsProblem Given :=
  if !form.repeats && given.options.any (·.1 == form.name) then .error .repeated
  else .ok { given with options := given.options ++ [(form.name, value)] }

/-- Count the option that was left open. -/
def settle (given : Given) : Except ArgumentsProblem Given :=
  match given.awaiting with
  | none => .ok given
  | some (_, none) => .error .missingValue
  | some (form, some value) => { given with awaiting := none }.add form value

/-- The next word is the value of an option. -/
def awaitsValue (given : Given) : Bool :=
  !given.isTrailing && match given.awaiting with
    | some (_, none) => true
    | _ => false

/-- Meet an option that takes no value, before a command or after it. -/
def flag (command : Option CommandName) (given : Given) (form : OptionForm) :
    Except ArgumentsProblem Given := do
  let given ← given.settle
  match form.name with
  | .help => .error (.help command)
  | .version => .error .version
  | _ => given.add form ""

/-- Meet an option that takes a value, with the value that is attached to it. -/
def option (given : Given) (form : OptionForm) (attached : Option String) :
    Except ArgumentsProblem Given := do
  let given ← given.settle
  match attached with
  | some value => given.add form value
  | none => .ok { given with awaiting := some (form, none) }

/-- Meet an argument after two hyphens: a name, and a value after an equals
sign. -/
def long (command : Option CommandName) (forms : List OptionForm) (given : Given)
    (text : List Char) :
    Except ArgumentsProblem Given :=
  let name := text.takeWhile (· != '=')
  let attached := if name.length < text.length then
    some (String.ofList (text.drop (name.length + 1))) else none
  match forms.find? fun form => form.long.toList == name with
  | none => .error .unknownArgument
  | some form =>
    if form.takesValue then given.option form attached
    else if attached.isSome then .error .unexpectedValue
    else given.flag command form

/-- Meet letters after one hyphen: options that take no value, and at last one
that does, with its value and perhaps an equals sign in between. -/
def short (command : Option CommandName) (forms : List OptionForm) (given : Given) :
    List Char → Except ArgumentsProblem Given
  | [] => .ok given
  | c :: rest =>
    match forms.find? fun form => form.short == some c with
    | none => .error .unknownArgument
    | some form =>
      if form.takesValue then
        let attached := match rest with
          | [] => none
          | '=' :: value => some (String.ofList value)
          | value => some (String.ofList value)
        given.option form attached
      else do short command forms (← given.flag command form) rest

/-- Meet an argument that is no command. Words that belong to no option are
refused with `stray`. -/
def argument (command : Option CommandName) (forms : List OptionForm)
    (stray : ArgumentsProblem) (given : Given) (text : String) : Except ArgumentsProblem Given :=
  let word : Except ArgumentsProblem Given :=
    match given.awaiting with
    | some (form, none) => .ok { given with awaiting := some (form, some text) }
    | _ => .error stray
  if given.isTrailing then .error stray
  else
    match text.toList with
    | ['-', '-'] => .ok { given with isTrailing := true }
    | '-' :: '-' :: name => given.long command forms name
    | ['-'] => word
    | '-' :: letters => given.short command forms letters
    | _ => word

/-- All values of an option. -/
def valuesOf (given : Given) (name : OptionName) : List String :=
  (given.options.filter (·.1 == name)).map (·.2)

/-- The option was given. -/
def has (given : Given) (name : OptionName) : Bool :=
  given.options.any (·.1 == name)

end Given

/-- What the options ask for. -/
structure GlobalOptions where
  verbose : Bool := false
  config : Option String := none
  url : Option String := none
  user : Option String := none
  password : Option String := none
  schema : Option String := none
  migrations : List String := []
  overrides : List String := []
  deriving DecidableEq, Repr

/-- A command and its own options. -/
inductive Command
  | migrate (skipCreate : Bool)
  | validate
  | status (json : Bool)
  deriving DecidableEq, Repr

/-- What a list of arguments asks for. -/
structure Arguments where
  globals : GlobalOptions
  command : Command
  deriving DecidableEq, Repr

/-- The variables of the environment. -/
abbrev Environment := List (String × String)

/-- The variable that stands in for an option. -/
def OptionName.variable? : OptionName → Option String
  | .url => some "TK_DATABASE_URL"
  | .user => some "TK_DATABASE_USER"
  | .password => some "TK_DATABASE_PASSWORD"
  | .schema => some "TK_DATABASE_SCHEMA"
  | _ => none

namespace Arguments

/-- The options before a command. -/
def rootForms : List OptionForm :=
  OptionForm.common ++
    [{ name := .version, long := "version", short := some 'V', takesValue := false }]

/-- Read the arguments after a command. -/
def readAfter (command : CommandName) (given : Given) :
    List String → Except ArgumentsProblem Given
  | [] => given.settle
  | text :: rest => do
    let forms := OptionForm.common ++ command.options
    readAfter command (← given.argument command forms .unknownArgument text) rest

/-- The words after the word for help name at most one command. -/
def helpFor : List String → ArgumentsProblem
  | [] => .help none
  | [word] =>
    match CommandName.ofWord? word with
    | some command => .help (some command)
    | none => if word == helpWord then .help none else .unknownCommand
  | _ => .unknownCommand

/-- A word that is no command where a command could stand. After a double hyphen
even a command is no command. -/
def strayWord (given : Given) (text : String) : ArgumentsProblem :=
  if given.isTrailing && (text == helpWord || (CommandName.ofWord? text).isSome) then
    .unknownArgument
  else .unknownCommand

/-- Read the arguments up to the command, and then those after it. The options
of both sides come back. -/
def read (given : Given) :
    List String → Except ArgumentsProblem (Given × Option (CommandName × Given))
  | [] => do return (← given.settle, none)
  | text :: rest => do
    if !given.isTrailing && !given.awaitsValue && text == helpWord then throw (helpFor rest)
    match if given.isTrailing || given.awaitsValue then none else CommandName.ofWord? text with
    | some command =>
      let after ← readAfter command {} rest
      return (← given.settle, some (command, after))
    | none => read (← given.argument none rootForms (strayWord given text) text) rest

/-- The value of an option: the one after the command, the one before it, or that
of its variable. -/
def value? (environment : Environment) (before after : Given) (name : OptionName) :
    Option String :=
  match (after.valuesOf name).getLast?, (before.valuesOf name).getLast? with
  | some value, _ => some value
  | none, some value => some value
  | none, none => name.variable?.bind fun key => environment.lookup key

/-- The values of an option from after the command, or else from before it. -/
def values (before after : Given) (name : OptionName) : List String :=
  let given := after.valuesOf name
  if given.isEmpty then before.valuesOf name else given

/-- What a list of arguments asks for. -/
def parse (environment : Environment) (arguments : List String) :
    Except ArgumentsProblem Arguments := do
  let (before, command) ← read {} arguments
  match command with
  | none =>
    let named := [OptionName.url, .user, .password, .schema].filterMap OptionName.variable?
    let isSet := named.any fun name => (environment.lookup name).isSome
    throw (if before.options.isEmpty && !isSet then .nothingGiven else .missingCommand)
  | some (command, after) =>
    let value? := value? environment before after
    return {
      globals := {
        verbose := before.has .verbose || after.has .verbose
        config := value? .config
        url := value? .url
        user := value? .user
        password := value? .password
        schema := value? .schema
        migrations := values before after .migrations
        overrides := values before after .overrides }
      command := match command with
        | .migrate => .migrate (after.has .skipCreate)
        | .validate => .validate
        | .status => .status (after.has .json) }

end Arguments

end MigrationLedger.CommandLine
