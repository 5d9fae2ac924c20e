import BuildVariants.Variant.Configuration

/-!
# Package names

How the package of a variant is found: overrides first, then the manifest of the variant at the end
of the chain of tests. `Lookup` keeps the manifests that were asked, in order, also when the answer
is a fault.
-/

namespace BuildVariants

/-- A result, or a fault, and the manifests read before it. -/
abbrev Lookup (α : Type) := ExceptT Fault (StateM (List Path)) α

namespace Lookup

/-- Runs a lookup from the start: what it yields and what it read. -/
def outcome {α : Type} (l : Lookup α) : Except Fault α × List Path := l.run.run []

def ofStructural {α : Type} : Except StructuralFault α → Lookup α
  | .ok a => pure a
  | .error fault => throw (.structural fault)

/-- Asks one manifest; an empty answer is none. -/
def ask (reader : ManifestReader) (manifest : Path) : Lookup (Option String) := do
  modify (· ++ [manifest])
  match reader manifest with
  | .ok package => pure (Setting.given? package)
  | .error fault => throw fault

end Lookup

def defaultInstrumentationRunner : String := "android.test.InstrumentationTestRunner"

/-- A suffix goes behind a dot, its own if it begins with one. -/
def composePackageName (base : String) (suffix : Option String) : String :=
  match suffix with
  | none => base
  | some s =>
    match s.toList with
    | [] => base
    | '.' :: _ => base ++ s
    | _ => base ++ "." ++ s

namespace Configuration

def packageFromManifest (c : Configuration) : Lookup String := do
  let manifest := c.variant.mainSources.manifest
  match ← Lookup.ask c.variant.packageOf manifest with
  | some package => pure package
  | none => throw (.package (.undeclared manifest))

/-- The package that flavors and the suffix of the build type make; none if they give neither. A
suffix alone goes behind the package of the manifest. -/
def packageOverride (c : Configuration) : Lookup (Option String) := do
  let package := c.variant.merged.packageName.given?
  match c.variant.buildType.packageNameSuffix.given? with
  | none => pure package
  | some suffix =>
    match package with
    | some base => pure (some (composePackageName base (some suffix)))
    | none => return some (composePackageName (← c.packageFromManifest) (some suffix))

/-- A test that names no package of its own has the one of the tested variant and a suffix. -/
def packageName : Configuration → Lookup String
  | plain v => do
    match ← (plain v).packageOverride with
    | some package => pure package
    | none => (plain v).packageFromManifest
  | testOf v t =>
    match v.merged.testPackageName.given? with
    | some package => pure package
    | none => do return (← t.packageName) ++ ".test"

/-- The package under test. A test of a library is packed with the library, so it tests itself. -/
def testedPackageName : Configuration → Lookup (Option String)
  | plain _ => pure none
  | testOf v t =>
    match t.variant.role with
    | .library _ => do return some (← (testOf v t).packageName)
    | _ => do return some (← t.packageName)

def instrumentationRunner (c : Configuration) : String :=
  c.variant.merged.testInstrumentationRunner.given?.getD defaultInstrumentationRunner

def packageOfLibrary (c : Configuration) (l : Library) : Lookup String := do
  match ← Lookup.ask c.variant.packageOf l.manifest with
  | some package => pure package
  | none => throw (.package (.undeclaredByLibrary l.manifest l.name))

/-- The packages of the flattened libraries in their order, with colons between; none without
libraries. -/
def libraryPackages (g : LibraryGraph) (c : Configuration) : Lookup (Option String) := do
  match g.getAll c.variant.flat with
  | [] => pure none
  | libraries => return some (String.intercalate ":" (← libraries.mapM c.packageOfLibrary))

end Configuration

end BuildVariants
