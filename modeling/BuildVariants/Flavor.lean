import BuildVariants.Setting

/-!
# Flavors

A flavor is a named layer of overrides; the defaults of a project are one too. A flavor merged over
another keeps its name and takes from below what it leaves open.
-/

namespace BuildVariants

structure Flavor where
  name : String
  packageName : Setting String := none
  packageNameSuffix : Setting String := none
  versionCode : Setting Int := none
  versionName : Setting String := none
  minSdkVersion : Setting Int := none
  targetSdkVersion : Setting Int := none
  testPackageName : Setting String := none
  testInstrumentationRunner : Setting String := none
  deriving DecidableEq, Repr, Inhabited

namespace Flavor

def mergeOver (own base : Flavor) : Flavor where
  name := own.name
  packageName := own.packageName.overlay base.packageName
  packageNameSuffix := own.packageNameSuffix.overlay base.packageNameSuffix
  versionCode := own.versionCode.overlay base.versionCode
  versionName := own.versionName.overlay base.versionName
  minSdkVersion := own.minSdkVersion.overlay base.minSdkVersion
  targetSdkVersion := own.targetSdkVersion.overlay base.targetSdkVersion
  testPackageName := own.testPackageName.overlay base.testPackageName
  testInstrumentationRunner := own.testInstrumentationRunner.overlay base.testInstrumentationRunner

/-- The last flavor of the list has the highest priority. -/
def mergeAll (flavors : List Flavor) (defaults : Flavor) : Flavor :=
  flavors.foldl (fun merged flavor => flavor.mergeOver merged) defaults

end Flavor

end BuildVariants
