import BuildVariants.CommandLine.Run
import BuildVariants.Description.Mentioned

/-!
# The program

Looks at the files that the run may ask about, makes the run, and writes what it gives. All that is
decided is decided by `CommandLine.run`.
-/

namespace BuildVariants.Main

/-- What stands at a place of the file system. -/
def lookAt (place : List String) : IO (Option FileTree.Entry) := do
  try
    let found ← IO.FS.realPath ("/" ++ String.intercalate "/" place)
    if ← found.isDir then return some .directory
    return some (.file (← IO.FS.readBinFile found))
  catch _ => return none

/-- Adds what stands at the places that a path leads through. -/
def addPath (workingDirectory : Path) (tree : FileTree) (path : Path) : IO FileTree := do
  let names := (path.absoluteFrom workingDirectory).names
  let mut tree := tree
  for i in [1:names.length + 1] do
    let place := Path.foldDots [] (names.take i)
    if (tree.entry? place).isNone then
      if let some entry ← lookAt place then tree := tree.insert place entry
  return tree

def addPaths (workingDirectory : Path) (tree : FileTree) (paths : List Path) : IO FileTree :=
  paths.foldlM (addPath workingDirectory) tree

/-- The files that a run with these arguments may ask about. -/
def filesFor (workingDirectory : Path) (args : List String) : IO Files := do
  let given := (args.map Path.ofString).map fun p => p.normalized workingDirectory
  let tree ← addPaths workingDirectory .empty given
  let descriptions := given.filterMap fun p =>
    (Description.load Json.reader (tree.files workingDirectory) p).toOption
  return (← addPaths workingDirectory tree (descriptions.flatMap (·.mentioned))).files
    workingDirectory

def version : String := "1.0"

def usage : String :=
  "Usage: build-variants resolve FILE --build-type NAME [--flavor NAME]... [--test] [--json]\n"

def write (outcome : CommandLine.Outcome) : IO Unit :=
  match outcome with
  | .usage => IO.eprint usage
  | .help => IO.print usage
  | .version => IO.println ("build-variants version " ++ version)
  | .done output => IO.print output
  | .reported message => IO.eprint (CommandLine.errorLine message)
  | .failed (.logLevel invalid) => IO.eprintln invalid.message
  | .failed (.fault _) => IO.eprintln "The description holds a value of the wrong shape."

end BuildVariants.Main

open BuildVariants in
def main (args : List String) : IO UInt32 := do
  let workingDirectory := Path.ofString (← IO.currentDir).toString
  let files ← Main.filesFor workingDirectory args
  let outcome := CommandLine.run files (← IO.getEnv "BUILD_VARIANTS_LOG_LEVEL") args
  Main.write outcome
  return outcome.exitCode.toUInt32
