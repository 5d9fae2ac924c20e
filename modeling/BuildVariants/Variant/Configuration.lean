import BuildVariants.Variant.Basic

/-!
# Configurations

A configuration is a variant together with the variant it tests, that one's tested variant, and so
on down to one that is no test. What is derived from a variant is a function of its configuration
and of the libraries.
-/

namespace BuildVariants

inductive Configuration where
  | plain (variant : Variant)
  | testOf (variant : Variant) (tested : Configuration)

namespace Configuration

def variant : Configuration → Variant
  | plain v => v
  | testOf v _ => v

def tested? : Configuration → Option Configuration
  | plain _ => none
  | testOf _ t => some t

def fullDirect (c : Configuration) : Except StructuralFault (List LibraryId) :=
  c.variant.fullDirect (c.tested?.map variant)

/-! ## Resources and class path -/

/-- The folders of the variant itself, the build type first and the main sources last. -/
def ownResources (c : Configuration) : List Path :=
  let v := c.variant
  ([v.buildTypeSources.resources] ++ v.flavorSources.map (·.resources) ++
    [v.mainSources.resources]).filterMap id

/-- Resource folders, the highest overlay priority first: the own ones, then those of the
flattened libraries in their order. -/
def resourceInputs (g : LibraryGraph) (c : Configuration) : List Path :=
  c.ownResources ++ (g.getAll c.variant.flat).filterMap (·.resFolder)

def ownClasspath (c : Configuration) : List Path :=
  let v := c.variant
  v.mainSources.compileClasspath ++ v.buildTypeSources.compileClasspath ++
    v.flavorSources.flatMap (·.compileClasspath)

/-- A test of a library is compiled against the library too: its jar and its own class path. -/
def compileClasspath (g : LibraryGraph) : Configuration → Except StructuralFault (List Path)
  | plain v => .ok (plain v).ownClasspath
  | testOf v t =>
    match t.variant.role with
    | .library none => .error .testedWithoutOutput
    | .library (some output) =>
      match t.compileClasspath g with
      | .error fault => .error fault
      | .ok below =>
        .ok ((testOf v t).ownClasspath ++ (g.getAll [output]).map (·.jarFile) ++ below)
    | _ => .ok (testOf v t).ownClasspath

end Configuration

end BuildVariants
