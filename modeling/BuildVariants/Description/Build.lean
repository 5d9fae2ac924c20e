import BuildVariants.Description.Libraries
import BuildVariants.Variant.World

/-!
# Building variants from a description

A build goes through the description in a fixed order, so that of several faults always the same
one is reported. What a build keeps when it fails are the libraries of the description, if all of
them could be made.
-/

namespace BuildVariants

/-- What a build leaves behind, and the variant it made. -/
structure Build where
  description : Description
  libraries : LibraryGraph
  outcome : Except Fault Variant

namespace Description

/-- Adds the named flavors in their order, so the last one has the highest priority. -/
def addFlavors (d : Description) : List Value → Variant → Except Fault Variant
  | [], v => pure v
  | name :: rest, v => do
    let (s, t) ← Table.named .flavor d.flavors name
    let flavor ← (Flavor.ofTable t s).mapError .description
    let sources ← d.sourceSet t s
    d.addFlavors rest (v.addFlavor flavor sources)

/-- The variant with its layers, before its libraries. -/
def layered (files : Files) (reader : ManifestReader) (d : Description)
    (buildType flavors : Value) : Except Fault Variant := do
  let defaultTable ← d.table "default"
  let (typeName, typeTable) ← Table.named .buildType d.buildTypes buildType
  let defaults ← (Flavor.ofTable defaultTable "main").mapError .description
  let mainSources ← d.sourceSet defaultTable "main"
  let type ← (BuildType.ofTable typeTable typeName).mapError .description
  let typeSources ← d.sourceSet typeTable typeName
  let kind ← d.kind
  let v ← Variant.create files.workingDirectory files.isFile
    { defaults := defaults
      mainSources := mainSources
      buildType := type
      buildTypeSources := typeSources
      kind := kind
      packageOf := reader }
  d.addFlavors (← flavors.elements) v

def addJars (d : Description) (v : Variant) : Except Fault Variant := do
  let paths ← d.paths (d.data.getD "jars" (.list []))
  pure (v.setJars (paths.map fun p => { file := p }))

/-- A library variant gets the artifact that the description gives for it, if it gives one. -/
def addOutput (files : Files) (d : Description) (i : Instances) (v : Variant) :
    Except Fault (LibraryGraph × Variant) :=
  if v.kind = .library ∧ d.data.has "output" then do
    let t ← d.table "output"
    let l ← d.library files i.made "output" t
    let v ← (v.setOutput i.graph.size).mapError .structural
    pure (i.graph.add l, v)
  else pure (i.graph, v)

/-- Declares libraries by name, for a variant or for a test of another. -/
def addLibraries (made : List (String × LibraryId)) (g : LibraryGraph) (tested : Option Variant)
    (names : Value) (v : Variant) : Except Fault Variant := do
  let direct ← Instances.lookUp made names
  match v.setLibraries g tested direct with
  | (v, .ok ()) => pure v
  | (_, .error fault) => throw (.structural fault)

def build (files : Files) (reader : ManifestReader) (d : Description) (g : LibraryGraph)
    (buildType flavors : Value) : Build :=
  match d.layered files reader buildType flavors with
  | .error fault => ⟨d, g, .error fault⟩
  | .ok v =>
    match d.withLibraries files g with
    | .error fault => ⟨d, g, .error fault⟩
    | .ok (d, i) =>
      let finished := do
        let v ← d.addJars v
        let (g, v) ← d.addOutput files i v
        let v ← addLibraries i.made g none (d.data.getD "dependencies" (.list [])) v
        pure (g, v)
      match finished with
      | .error fault => ⟨d, i.graph, .error fault⟩
      | .ok (g, v) => ⟨d, g, .ok v⟩

/-- The test variant of a variant, before its libraries. The table of tests overrides the defaults
of the project, and the flavors are those of the tested variant. -/
def layeredTest (files : Files) (reader : ManifestReader) (d : Description) (testTable : Table)
    (id : VariantId) (tested : Variant) : Except Fault Variant := do
  let projectDefaults ← (Flavor.ofTable (← d.table "default") "main").mapError .description
  let own ← (Flavor.ofTable testTable "test").mapError .description
  let mainSources ← d.sourceSet testTable "test"
  let v ← Variant.create files.workingDirectory files.isFile
    { defaults := own.mergeOver projectDefaults
      mainSources := mainSources
      buildType := tested.buildType
      buildTypeSources := tested.buildTypeSources
      kind := .test
      tested := some id
      packageOf := reader }
  pure (tested.layers.foldl (fun v l => v.addFlavor l.flavor l.sources) v)

def buildTest (files : Files) (reader : ManifestReader) (d : Description) (g : LibraryGraph)
    (id : VariantId) (tested : Variant) : Build :=
  let layered := do
    let testTable ← d.table "test"
    let v ← d.layeredTest files reader testTable id tested
    pure (testTable, v)
  match layered with
  | .error fault => ⟨d, g, .error fault⟩
  | .ok (testTable, v) =>
    match d.withLibraries files g with
    | .error fault => ⟨d, g, .error fault⟩
    | .ok (d, i) =>
      ⟨d, i.graph,
        addLibraries i.made i.graph (some tested) (testTable.getD "dependencies" (.list [])) v⟩

end Description

/-! ## Descriptions in a world -/

/-- A world and the descriptions that variants in it were built from. -/
structure Workspace where
  world : World := {}
  descriptions : Array Description := #[]

namespace Workspace

/-- Takes over what a build leaves behind; the new variant comes after all others. -/
def adopt (w : Workspace) (id : Nat) (b : Build) : Workspace × Except Fault Unit :=
  let world := { w.world with libraries := b.libraries }
  let descriptions := w.descriptions.setIfInBounds id b.description
  match b.outcome with
  | .error fault => (⟨world, descriptions⟩, .error fault)
  | .ok v => (⟨world.add v, descriptions⟩, .ok ())

def loadBy (json : JsonReader) (w : Workspace) (files : Files) (path : Path) : Workspace × Except Fault Unit :=
  match Description.load json files path with
  | .error fault => (w, .error (.description fault))
  | .ok d => ({ w with descriptions := w.descriptions.push d }, .ok ())

def load (w : Workspace) (files : Files) (path : Path) : Workspace × Except Fault Unit :=
  w.loadBy Json.reader files path

/-- A description that is not there builds nothing. -/
def build (w : Workspace) (files : Files) (reader : ManifestReader) (id : Nat)
    (buildType flavors : Value) : Workspace × Except Fault Unit :=
  match w.descriptions[id]? with
  | none => (w, .ok ())
  | some d => w.adopt id (d.build files reader w.world.libraries buildType flavors)

def buildTest (w : Workspace) (files : Files) (reader : ManifestReader) (id : Nat)
    (tested : VariantId) : Workspace × Except Fault Unit :=
  match w.descriptions[id]?, w.world.variant? tested with
  | some d, some v => w.adopt id (d.buildTest files reader w.world.libraries tested v)
  | _, _ => (w, .ok ())

end Workspace

end BuildVariants
