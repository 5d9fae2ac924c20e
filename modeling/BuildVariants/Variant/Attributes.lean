import BuildVariants.Variant.World

/-!
# Variants by their attributes

Kind, tested variant and output stand side by side among the attributes of a variant, and its flavors and
their source sets are two lists. Any combination of values can be written down. That a test has a tested
variant, and that only a library has an output, is left to the checks of the calls.
-/

namespace BuildVariants

structure Variant.Attributes where
  defaults : Flavor
  mainSources : SourceSet
  buildType : BuildType
  buildTypeSources : SourceSet
  kind : VariantKind
  tested : Option VariantId
  packageOf : ManifestReader
  flavors : List Flavor := []
  flavorSources : List SourceSet := []
  merged : Flavor := defaults
  output : Option LibraryId := none
  direct : List LibraryId := []
  flat : List LibraryId := []
  jars : List Jar := []

namespace Variant.Attributes

/-! ## Construction -/

/-- A tested variant has to be given for a test, and for nothing else. -/
def checkTested (kind : VariantKind) (tested : Option VariantId) : Except StructuralFault Unit :=
  if kind = .test ∧ tested = none then .error .testWithoutTested
  else if kind ≠ .test ∧ tested ≠ none then .error (.testedOutsideTest kind)
  else .ok ()

def validate (workingDirectory : Path) (isFile : Path → Bool) (a : Attributes) : Except Fault Unit :=
  let manifest := a.mainSources.manifest
  if a.kind = .test then .ok ()
  else if isFile manifest then .ok ()
  else .error (.mainManifestMissing (manifest.absoluteFrom workingDirectory))

def create (workingDirectory : Path) (isFile : Path → Bool) (p : Plan) : Except Fault Attributes := do
  (checkTested p.kind p.tested).mapError .structural
  let a : Attributes :=
    { defaults := p.defaults
      mainSources := p.mainSources
      buildType := p.buildType
      buildTypeSources := p.buildTypeSources
      kind := p.kind
      tested := p.tested
      packageOf := p.packageOf }
  a.validate workingDirectory isFile
  pure a

/-! ## Configuration -/

def addFlavor (a : Attributes) (flavor : Flavor) (sources : SourceSet) : Attributes :=
  { a with
    flavors := a.flavors ++ [flavor]
    flavorSources := a.flavorSources ++ [sources]
    merged := flavor.mergeOver a.merged }

def setJars (a : Attributes) (jars : List Jar) : Attributes := { a with jars := jars }

def setOutput (a : Attributes) (output : LibraryId) : Except StructuralFault Attributes :=
  if a.kind ≠ .library then .error (.outputOutsideLibrary a.kind)
  else .ok { a with output := some output }

def fullDirect (a : Attributes) (tested : Option Attributes) : Except StructuralFault (List LibraryId) :=
  match tested with
  | none => .ok a.direct
  | some t =>
    if t.kind ≠ .library then .ok a.direct
    else match t.output with
      | none => .error .testedWithoutOutput
      | some output => .ok (a.direct ++ output :: t.direct)

def flattened (g : LibraryGraph) (a : Attributes) (tested : Option Attributes) :
    Except StructuralFault (List LibraryId) := do
  (g.flatten (← a.fullDirect tested)).mapError fun l => .libraryCycle (g.name l)

def setLibraries (g : LibraryGraph) (a : Attributes) (tested : Option Attributes) (direct : List LibraryId) :
    Attributes × Except StructuralFault Unit :=
  let declared := { a with direct := direct }
  match declared.flattened g tested with
  | .error fault => (declared, .error fault)
  | .ok order => ({ declared with flat := order }, .ok ())

end Variant.Attributes

/-! ## Worlds -/

structure AttributeWorld where
  libraries : LibraryGraph := .empty
  variants : Array Variant.Attributes := #[]

namespace AttributeWorld

open World (Command)

def variant? (w : AttributeWorld) (id : VariantId) : Option Variant.Attributes := w.variants[id]?

def add (w : AttributeWorld) (a : Variant.Attributes) : AttributeWorld :=
  { w with variants := w.variants.push a }

def replace (w : AttributeWorld) (id : VariantId) (a : Variant.Attributes) : AttributeWorld :=
  { w with variants := w.variants.setIfInBounds id a }

def perform (w : AttributeWorld) : Command → AttributeWorld × Except Fault Unit
  | .create workingDirectory isFile plan =>
    match Variant.Attributes.create workingDirectory isFile plan with
    | .error fault => (w, .error fault)
    | .ok a =>
      match a.tested with
      | none => (w.add a, .ok ())
      | some tested => if tested < w.variants.size then (w.add a, .ok ()) else (w, .ok ())
  | .addFlavor id flavor sources =>
    match w.variant? id with
    | none => (w, .ok ())
    | some a => (w.replace id (a.addFlavor flavor sources), .ok ())
  | .setLibraries id direct =>
    match w.variant? id with
    | none => (w, .ok ())
    | some a =>
      let r := a.setLibraries w.libraries (a.tested.bind w.variant?) direct
      (w.replace id r.1, r.2.mapError .structural)
  | .setJars id jars =>
    match w.variant? id with
    | none => (w, .ok ())
    | some a => (w.replace id (a.setJars jars), .ok ())
  | .setOutput id output =>
    match w.variant? id with
    | none => (w, .ok ())
    | some a =>
      match a.setOutput output with
      | .error fault => (w, .error (.structural fault))
      | .ok changed => (w.replace id changed, .ok ())

def run (w : AttributeWorld) (commands : List Command) : AttributeWorld :=
  commands.foldl (fun w c => (w.perform c).1) w

end AttributeWorld

end BuildVariants
