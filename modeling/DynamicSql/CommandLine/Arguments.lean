/-!
# Command line arguments

A command line names a command after options that hold for every command; the
command has options and a number of operands of its own.  An option is written
`--name` or with one letter, its value follows as the next argument or after an
equals sign, and a value does not start with a dash.  After `--` everything is an
operand.  The first mistake counts, so that an operand too many hides a request for
help behind it.
-/

namespace DynamicSql.CommandLine

/-- An option that a command accepts. -/
structure OptionSpec where
  name : String
  letter : Option Char
  takesValue : Bool

/-- What the arguments of one level say. -/
structure Arguments where
  /-- The options given, with their values. -/
  options : List (String × String)
  /-- The operands, in order. -/
  operands : List String

/-- How reading arguments ends early. -/
inductive Stop
  | usage
  | help
  | version
  deriving DecidableEq

/-- The options that every level accepts. -/
def configOption : OptionSpec := ⟨"config", some 'c', true⟩

/-- Whether an argument can be the value of an option or an operand. -/
def isPlain (arg : String) : Bool :=
  match arg.toList with
  | '-' :: _ :: _ => false
  | _ => true

/-- Add an option; one that is given twice, or a file name that is empty, is a
mistake. -/
def Arguments.add (arguments : Arguments) (option : OptionSpec) (value : String) :
    Except Stop Arguments :=
  if arguments.options.any fun given => given.1 == option.name then .error .usage
  else if option.takesValue && value == "" then .error .usage
  else .ok { arguments with options := arguments.options ++ [(option.name, value)] }

/-- Split the text of a long option at its equals sign. -/
def splitValue (cs : List Char) : String × Option String :=
  (String.ofList (cs.takeWhile (· ≠ '=')),
    (cs.dropWhile (· ≠ '=')).tail?.map String.ofList)

/-- An option as it is written: which one it is and the value attached to it. -/
def readOption (specs : List OptionSpec) (topLevel : Bool) (cs : List Char) :
    Except Stop (OptionSpec × Option String) :=
  match cs with
  | '-' :: long =>
    let (name, value) := splitValue long
    match specs.find? fun spec => spec.name == name with
    | some spec => if !spec.takesValue && value.isSome then .error .usage else .ok (spec, value)
    | none =>
      if value.isSome then .error .usage
      else if name == "help" then .error .help
      else if name == "version" && topLevel then .error .version
      else .error .usage
  | letter :: rest =>
    match specs.find? fun spec => spec.letter == some letter with
    | some spec =>
      match rest with
      | [] => .ok (spec, none)
      | '=' :: value => .ok (spec, some (String.ofList value))
      | value => .ok (spec, some (String.ofList value))
    | none =>
      if letter == 'h' then .error .help
      else if letter == 'V' && topLevel then .error .version
      else .error .usage
  | [] => .error .usage

/-- Add operands to those of a command that takes `room` of them; one too many is a
mistake. -/
def Arguments.addOperands (arguments : Arguments) (room : Nat) (operands : List String) :
    Except Stop Arguments :=
  if arguments.operands.length + operands.length ≤ room then
    .ok { arguments with operands := arguments.operands ++ operands }
  else .error .usage

/-- What a level of the command line accepts. -/
structure LevelSpec where
  options : List OptionSpec
  /-- How many operands a command takes; `none` at the top level, where the first operand
  is the command's name. -/
  room : Option Nat

/-- Read the arguments of one level.  At the top level the first operand ends the
reading, and what follows it is returned. -/
def readLevel (spec : LevelSpec) (arguments : Arguments) :
    (waiting : Option OptionSpec) → List String → Except Stop (Arguments × List String)
  | some _, [] => .error .usage
  | none, [] => .ok (arguments, [])
  | some option, value :: rest => do
    if isPlain value then readLevel spec (← arguments.add option value) none rest
    else .error .usage
  | none, arg :: rest =>
    if isPlain arg then
      match spec.room with
      | none => .ok ({ arguments with operands := [arg] }, rest)
      | some room => do readLevel spec (← arguments.addOperands room [arg]) none rest
    else if arg == "--" then
      match spec.room with
      | none => .error .usage
      | some room => do .ok (← arguments.addOperands room rest, [])
    else do
      let (option, value) ← readOption spec.options spec.room.isNone arg.toList.tail
      match value with
      | some value => readLevel spec (← arguments.add option value) none rest
      | none =>
        if option.takesValue then readLevel spec arguments (some option) rest
        else readLevel spec (← arguments.add option "") none rest

/-- The value of an option. -/
def Arguments.value? (arguments : Arguments) (name : String) : Option String :=
  arguments.options.lookup name

/-! ## Commands -/

/-- What to do. -/
inductive Command
  | render (template : String) (params : Option String) (pretty : Bool)
  | eval (expression : String) (params : Option String)
  | tokenize (path : String)

/-- A command with the settings file, if one is named. -/
structure Invocation where
  config : Option String
  command : Command

/-- What a command accepts, by its name. -/
def commandSpec? (name : String) : Option LevelSpec :=
  if name = "render" then
    some ⟨[⟨"template", some 't', true⟩, ⟨"params", some 'p', true⟩, ⟨"pretty", none, false⟩,
      configOption], some 0⟩
  else if name = "eval" then some ⟨[⟨"params", some 'p', true⟩, configOption], some 1⟩
  else if name = "tokenize" then some ⟨[configOption], some 1⟩
  else none

/-- The command that its name and arguments stand for. -/
def command? (name : String) (arguments : Arguments) : Option Command :=
  match name, arguments.operands with
  | "render", [] => do
    some (.render (← arguments.value? "template") (arguments.value? "params")
      (arguments.value? "pretty").isSome)
  | "eval", [expression] => some (.eval expression (arguments.value? "params"))
  | "tokenize", [path] => some (.tokenize path)
  | _, _ => none

/-- The outcome of asking for help about a command. -/
def helpAbout : List String → Stop
  | [] => .help
  | [name] => if (commandSpec? name).isSome || name == "help" then .help else .usage
  | _ => .usage

/-- Read a command line.  A settings file named behind the command counts before
one named in front of it. -/
def readArguments (args : List String) : Except Stop Invocation := do
  let (top, rest) ← readLevel ⟨[configOption], none⟩ ⟨[], []⟩ none args
  match top.operands with
  | [] => .error .usage
  | name :: _ =>
    if name == "help" then .error (helpAbout rest)
    else
      match commandSpec? name with
      | none => .error .usage
      | some spec =>
        let (arguments, _) ← readLevel spec ⟨[], []⟩ none rest
        match command? name arguments with
        | none => .error .usage
        | some command => .ok ⟨(arguments.value? "config").or (top.value? "config"), command⟩

end DynamicSql.CommandLine
