import Rulebook.Config.Basic

/-!
# Arguments of the command line

Arguments name a command and say what it is applied to. Options that all commands share stand in front of the
command or behind it, and those behind it count where both are there. An option is given once at each of the two
places; after `--` nothing is an option.

* `Invocation.parse` reads arguments.
* `UsageError` says why there is nothing to run. A question for help or for the version is one of the reasons.

An option waits for its value until the next argument is taken, so a fault of a value is noticed after faults of the
argument behind it.
-/

namespace Rulebook

/-- What is to be done. -/
inductive Command where
  | init (force : Bool)
  | check (paths : List String) (format : Option ReportFormat)
  | canonical (file : String) (output : Option String) (compact : Bool)
  | directives (format : ReportFormat)
  deriving DecidableEq

/-- What arguments ask for. -/
structure Invocation where
  command : Command
  color : Coloring := .auto
  config : Option String := none
  deriving DecidableEq

/-- Where arguments stand: in front of a command, or behind it. -/
inductive Scope where
  | top
  | init
  | check
  | canonical
  | directives
  deriving DecidableEq

/-- What an argument is given for. -/
inductive Slot where
  | color
  | config
  | force
  | format
  | output
  | compact
  | paths
  | file
  | help
  | version
  deriving DecidableEq

/-- Why there is nothing to run. -/
inductive UsageError where
  | help
  | version
  | nothing
  | noCommand
  | unknownCommand (text : String)
  | unknownArgument (text : String)
  | badValue (slot : Slot)
  | extraValue (slot : Slot)
  | repeated (slot : Slot)
  | noFile
  deriving DecidableEq

namespace Slot

/-- Whether an option takes a value. -/
def takesValue : Slot → Bool
  | force | compact | help | version => false
  | _ => true

/-- The name of what is given. -/
def text : Slot → String
  | color => "--color"
  | config => "--config"
  | force => "--force"
  | format => "--format"
  | output => "--output"
  | compact => "--compact"
  | paths => "PATHS"
  | file => "FILE"
  | help => "--help"
  | version => "--version"

end Slot

/-- A question is answered, and anything else is refused. -/
def UsageError.isQuestion : UsageError → Bool
  | help | version => true
  | _ => false

/-- The reason in words. -/
def UsageError.message : UsageError → String
  | help => "help is asked for"
  | version => "the version is asked for"
  | nothing => "no arguments are given"
  | noCommand => "no command is given"
  | unknownCommand text => "unknown command '" ++ text ++ "'"
  | unknownArgument text => "unexpected argument '" ++ text ++ "'"
  | badValue slot => "invalid value for " ++ slot.text
  | extraValue slot => slot.text ++ " takes no value"
  | repeated slot => slot.text ++ " is given more than once"
  | noFile => "no file is given"

namespace Scope

/-- The commands by name. -/
def commands : List (String × Scope) :=
  [("init", init), ("check", check), ("canonical", canonical), ("directives", directives)]

/-- The word that asks about commands. -/
def helpWord : String := "help"

/-- Whether a word has a meaning in the place of a command. -/
def isWord (text : String) : Bool := text == helpWord || Table.has commands text

/-- The options of a scope with their long names and letters. -/
def options : Scope → List (Slot × String × Option Char)
  | top => [(.version, "version", some 'V')] ++ shared
  | init => [(.force, "force", none)] ++ shared
  | check => [(.format, "format", some 'f')] ++ shared
  | canonical => [(.output, "output", some 'o'), (.compact, "compact", none)] ++ shared
  | directives => [(.format, "format", some 'f')] ++ shared
where
  /-- The options of every scope. -/
  shared : List (Slot × String × Option Char) :=
    [(.color, "color", none), (.config, "config", none), (.help, "help", some 'h')]

/-- What an argument that is no option is given for. -/
def operand? : Scope → Option Slot
  | check => some .paths
  | canonical => some .file
  | _ => none

/-- The option with a long name. -/
def long? (scope : Scope) (name : String) : Option Slot := (scope.options.find? fun o => o.2.1 == name).map (·.1)

/-- The option with a letter. -/
def short? (scope : Scope) (letter : Char) : Option Slot :=
  (scope.options.find? fun o => o.2.2 == some letter).map (·.1)

end Scope

/-! ## What is given -/

/-- What the arguments of a scope give. -/
structure Settings where
  color : Option Coloring := none
  config : Option String := none
  force : Bool := false
  format : Option ReportFormat := none
  output : Option String := none
  compact : Bool := false
  paths : List String := []
  file : Option String := none
  deriving DecidableEq

namespace Settings

/-- A path is not empty. -/
def path? (text : String) : Option String := if text = "" then none else some text

/-- Sets what is set once to its only value. -/
def once {α : Type} (slot : Slot) (read : String → Option α) (old : Option α) (values : List String) :
    Except UsageError (Option α) :=
  match values with
  | [text] =>
    if old.isSome then .error (.repeated slot)
    else
      match read text with
      | some value => .ok (some value)
      | none => .error (.badValue slot)
  | _ => .error (.badValue slot)

/-- Turns on what is turned on once. -/
def turnOn (slot : Slot) (old : Bool) : Except UsageError Bool := if old then .error (.repeated slot) else .ok true

/-- Gives values for a slot. A question ends the reading. -/
def fill (settings : Settings) (slot : Slot) (values : List String) : Except UsageError Settings :=
  match slot with
  | .color => do
    return { settings with color := ← once slot (fun t => Coloring.all.find? (·.text == t)) settings.color values }
  | .config => do return { settings with config := ← once slot path? settings.config values }
  | .force => do return { settings with force := ← turnOn slot settings.force }
  | .format => do
    return { settings with format := ← once slot (fun t => ReportFormat.all.find? (·.text == t)) settings.format values }
  | .output => do return { settings with output := ← once slot path? settings.output values }
  | .compact => do return { settings with compact := ← turnOn slot settings.compact }
  | .paths => .ok { settings with paths := settings.paths ++ values }
  | .file => do return { settings with file := ← once slot path? settings.file values }
  | .help => .error .help
  | .version => .error .version

/-- The command of a scope with what is given. -/
def command (settings : Settings) : Scope → Except UsageError Command
  | .top => .error .noCommand
  | .init => .ok (.init settings.force)
  | .check => .ok (.check (if settings.paths.isEmpty then ["."] else settings.paths) settings.format)
  | .canonical =>
    match settings.file with
    | some file => .ok (.canonical file settings.output settings.compact)
    | none => .error .noFile
  | .directives => .ok (.directives (settings.format.getD .human))

end Settings

/-! ## Reading -/

/-- The reading of arguments on its way: what is given, what waits to be given, whether options have ended, and
whether the only operand is taken. -/
structure Reading where
  settings : Settings := {}
  waiting : Option (Slot × List String) := none
  ended : Bool := false
  taken : Bool := false

namespace Reading

/-- Gives what waits. -/
def settle (r : Reading) : Except UsageError Reading :=
  match r.waiting with
  | none => .ok r
  | some (slot, values) => do return { r with settings := ← r.settings.fill slot values, waiting := none }

/-- Gives values at once. -/
def give (r : Reading) (slot : Slot) (values : List String) : Except UsageError Reading := do
  let r ← r.settle
  return { r with settings := ← r.settings.fill slot values }

/-- Waits for what comes next. -/
def await (r : Reading) (slot : Slot) (values : List String) : Except UsageError Reading := do
  return { ← r.settle with waiting := some (slot, values) }

/-- The option whose value is to come. -/
def open? (r : Reading) : Option Slot :=
  match r.waiting with
  | some (slot, []) => some slot
  | _ => none

/-- Takes an argument that is no option. -/
def operand (scope : Scope) (r : Reading) (text : String) : Except UsageError Reading :=
  match scope.operand? with
  | some .paths =>
    match r.waiting with
    | some (.paths, values) => .ok { r with waiting := some (.paths, values ++ [text]) }
    | _ => r.await .paths [text]
  | some slot =>
    if r.taken then .error (.unknownArgument text) else do return { ← r.await slot [text] with taken := true }
  | none =>
    if scope = .top ∧ ¬(r.ended ∧ Scope.isWord text) then .error (.unknownCommand text)
    else .error (.unknownArgument text)

/-- Takes an option by its long name, with a value behind a sign of equality. -/
def long (scope : Scope) (r : Reading) (text : List Char) : Except UsageError Reading :=
  let name := String.ofList (text.takeWhile (· ≠ '='))
  match scope.long? name, text.dropWhile (· ≠ '=') with
  | none, _ => .error (.unknownArgument ("--" ++ name))
  | some slot, [] => if slot.takesValue then r.await slot [] else r.give slot []
  | some slot, _ :: value => if slot.takesValue then r.give slot [String.ofList value] else .error (.extraValue slot)

/-- The value behind the letter of an option. -/
def attached : List Char → String
  | '=' :: value => String.ofList value
  | value => String.ofList value

/-- Takes options by their letters; what follows the letter of one that takes a value is its value. -/
def letters (scope : Scope) (r : Reading) : List Char → Except UsageError Reading
  | [] => .ok r
  | c :: rest =>
    match scope.short? c with
    | none => .error (.unknownArgument ("-" ++ c.toString))
    | some slot =>
      if !slot.takesValue then do letters scope (← r.give slot []) rest
      else if rest.isEmpty then r.await slot []
      else r.give slot [attached rest]

/-- Takes an argument. -/
def step (scope : Scope) (r : Reading) (text : String) : Except UsageError Reading :=
  if r.ended then r.operand scope text
  else
    match text.toList with
    | ['-', '-'] => .ok { r with ended := true }
    | '-' :: '-' :: rest => r.long scope rest
    | '-' :: c :: rest => r.letters scope (c :: rest)
    | _ =>
      match r.open? with
      | some slot => .ok { r with waiting := some (slot, [text]) }
      | none => r.operand scope text

/-- Reads the arguments behind a command. -/
def behind (scope : Scope) (args : List String) : Except UsageError (Command × Settings) := do
  let r ← (← args.foldlM (step scope) {}).settle
  return (← r.settings.command scope, r.settings)

end Reading

namespace Invocation

/-- The answer to the word that asks about commands: the words behind it lead to a command. -/
def help : List String → UsageError
  | [] => .help
  | [text] => if Scope.isWord text then .help else .unknownCommand text
  | text :: next :: _ => .unknownCommand (if Scope.isWord text then next else text)

/-- Reads arguments from the ones in front of a command on. -/
def read (r : Reading) : List String → Except UsageError Invocation
  | [] => do
    let r ← r.settle
    .error (if r.settings = {} then .nothing else .noCommand)
  | text :: rest =>
    if r.ended ∨ r.open?.isSome ∨ ¬Scope.isWord text then do read (← r.step .top text) rest
    else
      match Table.get? Scope.commands text with
      | none => .error (help rest)
      | some scope => do
        let (command, inner) ← Reading.behind scope rest
        let outer := (← r.settle).settings
        return { command, color := (inner.color.or outer.color).getD .auto, config := inner.config.or outer.config }

/-- Reads arguments. -/
def parse (args : List String) : Except UsageError Invocation := read {} args

end Invocation

end Rulebook
