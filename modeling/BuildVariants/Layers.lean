import BuildVariants.Flavor
import BuildVariants.Path

/-!
# The other layers of a variant

The build type is the layer above all flavors. Each layer comes with a source set; a jar is a plain
archive that takes no part in the order of libraries.
-/

namespace BuildVariants

structure BuildType where
  name : String
  debuggable : Bool := false
  jniDebugBuild : Bool := false
  packageNameSuffix : Setting String := none
  zipAlign : Bool := true
  deriving DecidableEq, Repr, Inhabited

/-- The class path is read as a set: neither order nor repetition of its entries counts. -/
structure SourceSet where
  name : String
  manifest : Path
  resources : Option Path := none
  compileClasspath : List Path := []
  deriving DecidableEq, Repr, Inhabited

structure Jar where
  file : Path
  compiled : Bool := true
  packaged : Bool := true
  deriving DecidableEq, Repr, Inhabited

/-- A flavor with the source set it was added with. -/
structure FlavorLayer where
  flavor : Flavor
  sources : SourceSet
  deriving DecidableEq, Repr, Inhabited

end BuildVariants
