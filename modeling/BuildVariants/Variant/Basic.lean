import BuildVariants.Fault
import BuildVariants.Layers
import BuildVariants.Library.Flatten

/-!
# Variants

A variant is its default layer and build type, the flavors added since, and its libraries and jars.
The merged flavor and the flattened libraries are brought up to date by the call that changes what
they come from. Only a library has an output, and only a test has a tested variant.
-/

namespace BuildVariants

abbrev VariantId := Nat

/-- The kind of a variant with what only this kind has. -/
inductive Role where
  | default
  | library (output : Option LibraryId)
  | test (tested : VariantId)
  deriving DecidableEq, Repr, Inhabited

def Role.kind : Role → VariantKind
  | .default => .default
  | .library _ => .library
  | .test _ => .test

/-- Looks up the package that a manifest declares, if it declares one. -/
abbrev ManifestReader := Path → Except Fault (Option String)

structure Variant where
  defaults : Flavor
  mainSources : SourceSet
  buildType : BuildType
  buildTypeSources : SourceSet
  role : Role
  packageOf : ManifestReader
  /-- The flavors in the order they were added. -/
  layers : List FlavorLayer := []
  merged : Flavor := defaults
  direct : List LibraryId := []
  flat : List LibraryId := []
  jars : List Jar := []

namespace Variant

def kind (v : Variant) : VariantKind := v.role.kind

def output (v : Variant) : Option LibraryId :=
  match v.role with
  | .library output => output
  | _ => none

def tested (v : Variant) : Option VariantId :=
  match v.role with
  | .test tested => some tested
  | _ => none

def flavors (v : Variant) : List Flavor := v.layers.map (·.flavor)

def flavorSources (v : Variant) : List SourceSet := v.layers.map (·.sources)

/-- The flavors, then the build type, then a mark for tests, with hyphens between. -/
def name (v : Variant) : String :=
  String.intercalate "-"
    (v.flavors.map (·.name) ++ [v.buildType.name] ++ if v.kind = .test then ["test"] else [])

/-- A variant in one line. -/
def text (v : Variant) : String :=
  "VariantConfiguration(name=" ++ Text.quoted v.name ++ ", type=" ++ v.kind.text ++ ")"

/-! ## Construction -/

/-- What a variant is made from. The tested variant goes with tests and with nothing else. -/
structure Plan where
  defaults : Flavor
  mainSources : SourceSet
  buildType : BuildType
  buildTypeSources : SourceSet
  kind : VariantKind := .default
  tested : Option VariantId := none
  packageOf : ManifestReader

def Plan.role (p : Plan) : Except StructuralFault Role :=
  match p.kind, p.tested with
  | .test, some tested => .ok (.test tested)
  | .test, none => .error .testWithoutTested
  | .default, none => .ok .default
  | .library, none => .ok (.library none)
  | kind, some _ => .error (.testedOutsideTest kind)

/-- Files that must be there; tests may do without a main manifest. -/
def Plan.requiredFiles (p : Plan) : List Path :=
  match p.kind with
  | .test => []
  | _ => [p.mainSources.manifest]

def create (workingDirectory : Path) (isFile : Path → Bool) (p : Plan) : Except Fault Variant :=
  match p.role with
  | .error fault => .error (.structural fault)
  | .ok role =>
    match p.requiredFiles.find? fun file => !isFile file with
    | some missing => .error (.mainManifestMissing (missing.absoluteFrom workingDirectory))
    | none =>
      .ok
        { defaults := p.defaults
          mainSources := p.mainSources
          buildType := p.buildType
          buildTypeSources := p.buildTypeSources
          role := role
          packageOf := p.packageOf }

/-! ## Configuration -/

def addFlavor (v : Variant) (flavor : Flavor) (sources : SourceSet) : Variant :=
  { v with layers := v.layers ++ [⟨flavor, sources⟩], merged := flavor.mergeOver v.merged }

def setJars (v : Variant) (jars : List Jar) : Variant := { v with jars := jars }

def setOutput (v : Variant) (output : LibraryId) : Except StructuralFault Variant :=
  match v.role with
  | .library _ => .ok { v with role := .library (some output) }
  | role => .error (.outputOutsideLibrary role.kind)

/-- The libraries declared by a variant. A test of a library also has the output of that library
and then what it declares. -/
def fullDirect (v : Variant) (tested : Option Variant) :
    Except StructuralFault (List LibraryId) :=
  match tested with
  | none => .ok v.direct
  | some t =>
    match t.role with
    | .library none => .error .testedWithoutOutput
    | .library (some output) => .ok (v.direct ++ output :: t.direct)
    | _ => .ok v.direct

def flattened (g : LibraryGraph) (v : Variant) (tested : Option Variant) :
    Except StructuralFault (List LibraryId) :=
  match v.fullDirect tested with
  | .error fault => .error fault
  | .ok full =>
    match g.flatten full with
    | .error l => .error (.libraryCycle (g.name l))
    | .ok order => .ok order

/-- The declared libraries are taken over before they are flattened, so they stay also where
flattening fails; the flattened ones are then the former. -/
def setLibraries (g : LibraryGraph) (v : Variant) (tested : Option Variant)
    (direct : List LibraryId) : Variant × Except StructuralFault Unit :=
  let declared := { v with direct := direct }
  match declared.flattened g tested with
  | .error fault => (declared, .error fault)
  | .ok order => ({ declared with flat := order }, .ok ())

end Variant

end BuildVariants
