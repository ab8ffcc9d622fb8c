import DynamicSql.CommandLine.Arguments
import DynamicSql.Path
import DynamicSql.Rendering.Template
import DynamicSql.Value.OfJson

/-!
# Running a command

A command reads its files through a function and yields what it prints and its
exit code: 0 for success, 1 for a failure, 2 for a mistake in the arguments.  A
failure is told as a chain of causes, the outermost first.
-/

namespace DynamicSql.CommandLine

/-- The contents of a file, or why it cannot be read. -/
abbrev Files := String → Except String String

/-- What a command prints, and its exit code. -/
structure Outcome where
  code : Nat
  stdout : String
  stderr : String

/-- Why a command fails: causes, the outermost first. -/
abbrev Failure := List String

/-- The words of a failure. -/
def Failure.message (failure : Failure) : String := "Error: " ++ ": ".intercalate failure

/-- What is said about arguments that are no command. -/
def usage : String :=
  "Usage: [-c FILE] render -t FILE [-p FILE] [--pretty] | " ++
    "eval [-p FILE] EXPRESSION | tokenize PATH\n"

/-- The name and version of the program. -/
def version : String := "sqlweave 0.2.0\n"

/-- The engine of a settings file, or of the default settings. -/
def loadEngine (files : Files) : Option String → Except Failure Engine
  | none => .ok (.new .default)
  | some path =>
    let fail (fault : SettingsFault) : Except Failure Engine :=
      .error ["Failed to load config file: " ++ path, fault.message]
    match files path with
    | .error cause => fail (.unreadable path cause)
    | .ok content =>
      match Settings.parse content with
      | .error fault => fail fault
      | .ok settings => .ok (.new settings)

/-- The parameter of a parameter file, or null. -/
def loadParameter (files : Files) : Option String → Except Failure Value
  | none => .ok .null
  | some path =>
    match files path with
    | .error cause => .error ["Failed to read params file: " ++ path, cause]
    | .ok content =>
      match Json.parse content with
      | none => .error ["Failed to parse params file: " ++ path]
      | some json => .ok (.ofJson json)

/-- The JSON form of a value, which holds no objects. -/
def finishJson (json : Option (Except AccessError Json)) : Except Failure Json :=
  match json with
  | some (.ok json) => .ok json
  | some (.error error) => .error [error.message]
  | none => .error ["Circular object"]

/-- Encode every binding. -/
def encodeBindings (engine : Engine) (heap : Heap) (bound : BoundSql) :
    Except AccessError BoundSql :=
  (engine.coders.encodeEntries heap bound.bindings).map fun bindings =>
    { bound with bindings := bindings }

/-- Render a template file. -/
def render (files : Files) (engine : Engine) (template : String) (params : Option String)
    (pretty : Bool) : Except Failure String :=
  match files template with
  | .error cause => .error ["Failed to read template file: " ++ template, cause]
  | .ok content =>
    match TemplateNode.parse content with
    | none => .error ["JSON error: "]
    | some nodes => do
      let parameter ← loadParameter files params
      let bound ← (TemplateNode.render nodes engine .empty parameter).mapError fun e => [e.message]
      let bound ← (encodeBindings engine .empty bound).mapError fun e => [e.message]
      let json ← finishJson (bound.toJson .empty)
      .ok ((if pretty then json.indented else json.compact) ++ "\n")

/-- Evaluate an expression. -/
def evaluate (files : Files) (engine : Engine) (expression : String) (params : Option String) :
    Except Failure String := do
  let parameter ← loadParameter files params
  let (outcome, _) := (Context.new engine .empty parameter).evaluate engine .empty expression
  let value ← outcome.mapError fun e => [e.message]
  let json ← finishJson (Heap.empty.toJson value)
  .ok (json.compact ++ "\n")

/-- A numbered line for every step of a path. -/
def stepLines : Nat → List Path.Step → String
  | _, [] => ""
  | depth, step :: rest =>
    String.ofList (Text.natText depth) ++ ": " ++ step.name ++
      (match step.index with
        | some index => " [" ++ index ++ "]"
        | none => "") ++ "\n" ++ stepLines (depth + 1) rest

/-- What a command prints. -/
def Invocation.run (invocation : Invocation) (files : Files) : Except Failure String :=
  match invocation.command with
  | .render template params pretty => do
    render files (← loadEngine files invocation.config) template params pretty
  | .eval expression params => do
    evaluate files (← loadEngine files invocation.config) expression params
  | .tokenize path => .ok (stepLines 0 (Path.steps path))

/-- The files that a command may read. -/
def Invocation.files (invocation : Invocation) : List String :=
  invocation.config.toList ++
    match invocation.command with
    | .render template params _ => template :: params.toList
    | .eval _ params => params.toList
    | .tokenize _ => []

/-- Run a command line. -/
def run (files : Files) (args : List String) : Outcome :=
  match readArguments args with
  | .error .usage => ⟨2, "", usage⟩
  | .error .help => ⟨0, usage, ""⟩
  | .error .version => ⟨0, version, ""⟩
  | .ok invocation =>
    match invocation.run files with
    | .ok stdout => ⟨0, stdout, ""⟩
    | .error failure => ⟨1, "", failure.message⟩

end DynamicSql.CommandLine
