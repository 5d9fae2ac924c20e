import BuildVariants.Document.Shown
import BuildVariants.Document.Toml
import BuildVariants.Variant.Basic

/-!
# Descriptions

A description is a document that declares the layers, flavors and libraries of a project, and the
directory that its paths start from. Its values are looked at where they are needed: a table or a
field of the wrong shape is a fault of the build that uses it, not of the description.
-/

namespace BuildVariants

structure Description where
  data : Table
  baseDirectory : Path
  /-- The libraries of the description by name, once they have been made. -/
  instances : Option (List (String × LibraryId)) := none

/-! ## Files -/

/-- The characters of a text in UTF-8. -/
def textOfBytes? (bytes : ByteArray) : Option (List Char) := (String.fromUTF8? bytes).map (·.toList)

/-- Reads files as JSON. A text in JSON gives its value, and a file that cannot be opened gives nothing. What another
file is taken for, or whether it fails, is left to the reader. -/
structure JsonReader where
  read : Files → Path → Except Unreadable Value
  read_text {files : Files} {path : Path} {bytes : ByteArray} {v : Value} :
    files.read path = .ok bytes → (textOfBytes? bytes).bind Json.parse? = some v → read files path = .ok v
  read_closed {files : Files} {path : Path} {fault : ReadFault} :
    files.read path = .error fault → read files path = .ok .nothing

/-- Takes a text that is not JSON for nothing, too. -/
def Json.reader : JsonReader where
  read files path :=
    match files.read path with
    | .error _ => .ok .nothing
    | .ok bytes => .ok (((textOfBytes? bytes).bind Json.parse?).getD .nothing)
  read_text hread hparse := by simp [hread, hparse]
  read_closed hread := by simp [hread]

def readToml (files : Files) (path : Path) : Except DescriptionFault Value :=
  match files.read path with
  | .error (.cannotOpen fault) => .error (.unreadable path (.cannotOpen fault))
  | .error .nulInPath => .error (.unreadable path .malformed)
  | .ok bytes =>
    match (textOfBytes? bytes).bind Toml.parse? with
    | some t => .ok (.table t)
    | none => .error (.unreadable path .malformed)

/-- The suffix of the path decides the format. -/
def readDocument (json : JsonReader) (files : Files) (path : Path) : Except DescriptionFault Value :=
  if path.suffix = ".json" then (json.read files path).mapError (.unreadable path) else readToml files path

def Description.load (json : JsonReader) (files : Files) (path : Path) : Except DescriptionFault Description :=
  match readDocument json files path with
  | .error fault => .error fault
  | .ok (.table data) =>
    .ok { data := data, baseDirectory := path.parent.absoluteFrom files.workingDirectory }
  | .ok _ => .error (.notTable path)

/-! ## Fields of a table -/

/-- A known key may be missing, but its value must have the type that belongs to it. -/
def Table.field {α : Type} (t : Table) (owner key : String) (expected : ValueType)
    (accept : Value → Option α) : Except DescriptionFault (Option α) :=
  match t.get? key with
  | none => .ok none
  | some v =>
    match accept v with
    | some a => .ok (some a)
    | none => .error (.wrongType key owner expected v.type)

def Table.textField (t : Table) (owner key : String) : Except DescriptionFault (Option String) :=
  t.field owner key .string fun
    | .string s => some s
    | _ => none

/-- A flag is no number. -/
def Table.integerField (t : Table) (owner key : String) : Except DescriptionFault (Option Int) :=
  t.field owner key .integer fun
    | .integer n => some n
    | _ => none

def Table.flagField (t : Table) (owner key : String) : Except DescriptionFault (Option Bool) :=
  t.field owner key .flag fun
    | .flag b => some b
    | _ => none

def Flavor.ofTable (t : Table) (name : String) : Except DescriptionFault Flavor := do
  let packageName ← t.textField name "package_name"
  let packageNameSuffix ← t.textField name "package_name_suffix"
  let versionCode ← t.integerField name "version_code"
  let versionName ← t.textField name "version_name"
  let minSdkVersion ← t.integerField name "min_sdk_version"
  let targetSdkVersion ← t.integerField name "target_sdk_version"
  let testPackageName ← t.textField name "test_package_name"
  let testInstrumentationRunner ← t.textField name "test_instrumentation_runner"
  pure
    { name, packageName, packageNameSuffix, versionCode, versionName, minSdkVersion,
      targetSdkVersion, testPackageName, testInstrumentationRunner }

def BuildType.ofTable (t : Table) (name : String) : Except DescriptionFault BuildType := do
  let debuggable ← t.flagField name "debuggable"
  let jniDebugBuild ← t.flagField name "jni_debug_build"
  let packageNameSuffix ← t.textField name "package_name_suffix"
  let zipAlign ← t.flagField name "zip_align"
  pure
    { name
      debuggable := debuggable.getD false
      jniDebugBuild := jniDebugBuild.getD false
      packageNameSuffix
      zipAlign := zipAlign.getD true }

/-- The named table among the values of a parent, with its name as a text. -/
def Table.named (sort : TableSort) (parent name : Value) : Except Fault (String × Table) := do
  let t ← parent.asTable
  match name with
  | .string s =>
    match t.get? s with
    | some (.table found) => pure (s, found)
    | _ => throw (.description (.missing sort s))
  | v =>
    if v.isName then throw (.description (.missing sort (← v.shown)))
    else throw (.value .notName)

namespace Description

/-! ## What a description declares -/

def kind (d : Description) : Except Fault VariantKind :=
  match d.data.getD "variant_type" (.string "default") with
  | .string "default" => .ok .default
  | .string "library" => .ok .library
  | .string "test" => .error (.description .testKind)
  | v => v.shown.bind fun shown => .error (.description (.unknownKind shown))

def buildTypes (d : Description) : Value := d.data.getD "build_types" (.table [])

def flavors (d : Description) : Value := d.data.getD "flavors" (.table [])

def hasTest (d : Description) : Bool := d.data.has "test"

/-- A table of the description itself. -/
def table (d : Description) (name : String) : Except Fault Table := do
  return (← Table.named .table (.table d.data) (.string name)).2

/-- Paths start from the directory of the description. -/
def path (d : Description) (v : Value) : Except Fault Path := do
  return d.baseDirectory / Path.ofString (← v.asText)

/-- An empty value stands for no path. -/
def optionalPath (d : Description) (v : Value) : Except Fault (Option Path) :=
  if v.isEmpty then pure none else some <$> d.path v

def paths (d : Description) (v : Value) : Except Fault (List Path) := do
  (← v.elements).mapM d.path

/-- A source set without a manifest has the one in its own folder of `src`. -/
def sourceSet (d : Description) (t : Table) (name : String) : Except Fault SourceSet := do
  let raw ← (t.getD "source_set" (.table [])).asTable
  let manifest ← d.path
    (raw.getD "manifest" (.string ("src/" ++ name ++ "/" ++ manifestFileName)))
  let resources ← d.optionalPath (raw.getD "resources" .nothing)
  let compileClasspath ← d.paths (raw.getD "compile_classpath" (.list []))
  pure { name, manifest, resources, compileClasspath }

end Description

end BuildVariants
