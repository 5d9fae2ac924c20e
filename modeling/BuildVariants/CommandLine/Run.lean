import BuildVariants.CommandLine.Arguments
import BuildVariants.Description.Build
import BuildVariants.LogLevel
import BuildVariants.Manifest
import BuildVariants.Report

/-!
# The command line

One command, `resolve`, reports on a variant of a description. Faults that have words are written to
the error output; the others end the run as they are.
-/

namespace BuildVariants.CommandLine

/-! ## Arguments -/

inductive GlobalOption where
  | help
  | version
  deriving DecidableEq, Repr

def globalOptions : Options GlobalOption where
  long
    | "help" => some (.flag .help)
    | "version" => some (.flag .version)
    | _ => none
  short
    | 'h' => some (.flag .help)
    | 'V' => some (.flag .version)
    | _ => none

inductive ResolveOption where
  | buildType (name : String)
  | flavor (name : String)
  | test
  | json
  | help
  deriving DecidableEq, Repr

def resolveOptions : Options ResolveOption where
  long
    | "build-type" => some (.value .buildType)
    | "flavor" => some (.value .flavor)
    | "test" => some (.flag .test)
    | "json" => some (.flag .json)
    | "help" => some (.flag .help)
    | _ => none
  short
    | 'b' => some (.value .buildType)
    | 'f' => some (.value .flavor)
    | 'h' => some (.flag .help)
    | _ => none

/-- What `resolve` is asked for. -/
structure Request where
  file : String
  otherArguments : List String
  buildType : Option String
  flavors : List String
  test : Bool
  json : Bool
  deriving DecidableEq, Repr

/-- The last build type counts, and every flavor. -/
def Request.ofArguments? (a : Arguments ResolveOption) : Option Request :=
  match a.positional with
  | [] => none
  | file :: others =>
    some
      { file := file
        otherArguments := others
        buildType := (a.options.filterMap fun
          | .buildType name => some name
          | _ => none).getLast?
        flavors := a.options.filterMap fun
          | .flavor name => some name
          | _ => none
        test := a.options.contains .test
        json := a.options.contains .json }

/-! ## Runs -/

/-- What ends a run without words. -/
inductive Failure where
  | logLevel (value : LogLevel.Invalid)
  | fault (fault : Fault)
  deriving DecidableEq, Repr

inductive Outcome where
  | usage
  | help
  | version
  | done (output : String)
  | reported (message : String)
  | failed (failure : Failure)
  deriving DecidableEq, Repr

def Outcome.exitCode : Outcome → Nat
  | .usage => 2
  | .reported _ => 1
  | .failed _ => 1
  | _ => 0

def errorLine (message : String) : String := Text.withoutControl ("❌ " ++ message) ++ "\n"

def report (json : JsonReader) (files : Files) (file : Path) (buildType : String) (r : Request) :
    Except Fault Report := do
  let reader := Manifest.reader files
  let d ← (Description.load json files file).mapError .description
  let flavors := Value.list (r.flavors.map .string)
  let built := d.build files reader .empty (.string buildType) flavors
  let v ← built.outcome
  if r.test then
    let builtTest := built.description.buildTest files reader built.libraries 0 v
    let t ← builtTest.outcome
    (Configuration.testOf t (.plain v)).describe builtTest.libraries |>.outcome.1
  else (Configuration.plain v).describe built.libraries |>.outcome.1

def reportText (json : Bool) (r : Report) : String := if json then r.json ++ "\n" else r.display

def Request.run (json : JsonReader) (files : Files) (r : Request) : Outcome :=
  let file := (Path.ofString r.file).normalized files.workingDirectory
  if r.file.toList.contains '\x00' then .failed (.fault (.value .nulInPath))
  else match r.buildType with
    | none => .usage
    | some buildType =>
      if !files.isFile file || !r.otherArguments.isEmpty then .usage
      else match report json files file buildType r with
        | .ok found => .done (reportText r.json found)
        | .error fault =>
          if fault.isReported then .reported fault.message else .failed (.fault fault)

def resolve (json : JsonReader) (files : Files) (args : List String) : Outcome :=
  match resolveOptions.read true args with
  | none => .usage
  | some a =>
    if a.options.contains .help then .help
    else match Request.ofArguments? a with
      | none => .usage
      | some r => r.run json files

/-- The log level is looked at as soon as the command is known, before the command's arguments. -/
def runBy (json : JsonReader) (files : Files) (logLevel : Option String) (args : List String) : Outcome :=
  match globalOptions.read false args with
  | none => .usage
  | some a =>
    match a.options, a.positional with
    | .help :: _, _ => .help
    | .version :: _, _ => .version
    | [], "resolve" :: rest =>
      match LogLevel.ofEnvironment logLevel with
      | .error invalid => .failed (.logLevel invalid)
      | .ok _ => resolve json files rest
    | [], _ => .usage

def run (files : Files) (logLevel : Option String) (args : List String) : Outcome :=
  runBy Json.reader files logLevel args

end BuildVariants.CommandLine
