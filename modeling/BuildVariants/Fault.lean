import BuildVariants.Files

/-!
# Faults

Everything that can go wrong, by cause. The first four families are reported to the user in words.
The last family are values of a description that have the wrong shape where no check stands before
their use or that cannot be shown, and names of files and encodings that cannot be used at all; they
have no words.
-/

namespace BuildVariants

inductive VariantKind where
  | default
  | library
  | test
  deriving DecidableEq, Repr, Inhabited

def VariantKind.text : VariantKind → String
  | .default => "default"
  | .library => "library"
  | .test => "test"

/-- A variant put together or asked in an illegal shape. -/
inductive StructuralFault where
  | testWithoutTested
  | testedOutsideTest (kind : VariantKind)
  | outputOutsideLibrary (kind : VariantKind)
  | libraryCycle (library : String)
  | testedWithoutOutput
  deriving DecidableEq, Repr

/-- Why the content of a file is not known. -/
inductive Unreadable where
  | cannotOpen (fault : OpenFault)
  | malformed
  deriving DecidableEq, Repr

inductive PackageFault where
  | unreadable (manifest : Path) (cause : Unreadable)
  | undeclared (manifest : Path)
  | undeclaredByLibrary (manifest : Path) (library : String)
  deriving DecidableEq, Repr

/-- What a named table of a description stands for. -/
inductive TableSort where
  | table
  | buildType
  | flavor
  | library
  deriving DecidableEq, Repr

/-- Types of the values of a description. -/
inductive ValueType where
  | string
  | integer
  | number
  | flag
  | nothing
  | list
  | table
  | dateTime
  | date
  | time
  deriving DecidableEq, Repr

inductive DescriptionFault where
  | unreadable (path : Path) (cause : Unreadable)
  | notTable (path : Path)
  | unknownKind (shown : String)
  | testKind
  | missing (sort : TableSort) (shown : String)
  | wrongType (key owner : String) (expected found : ValueType)
  | libraryCycle (library : String)
  | libraryNeeds (library key : String)
  | unknownLibraries (names : List String)
  deriving DecidableEq, Repr

inductive ValueFault where
  | notIterable
  | notName
  | notText
  | notTable
  | notShowable
  | nulInPath
  | unknownEncoding
  | multiByteEncoding
  | unmappedEncoding
  | escapedEncoding
  deriving DecidableEq, Repr

inductive Fault where
  | structural (fault : StructuralFault)
  | mainManifestMissing (absolute : Path)
  | package (fault : PackageFault)
  | description (fault : DescriptionFault)
  | value (fault : ValueFault)
  deriving DecidableEq, Repr

/-! ## Wording -/

def StructuralFault.message : StructuralFault → String
  | .testWithoutTested => "Test variant requires a tested configuration"
  | .testedOutsideTest kind =>
    "Only test variants can have a tested configuration, got " ++ kind.text
  | .outputOutsideLibrary kind => "Only library variants have an output, got " ++ kind.text
  | .libraryCycle library => "Library dependency cycle through '" ++ library ++ "'"
  | .testedWithoutOutput =>
    "Tested library variant has no output artifact; call set_output() on it first"

/-- What is wrong inside a file is left to its reader, and a mark stands for it. -/
def Unreadable.text (path : Path) : Unreadable → String
  | .cannotOpen fault => fault.text path
  | .malformed => "<detail>"

def PackageFault.message : PackageFault → String
  | .unreadable manifest cause =>
    "Cannot read manifest " ++ manifest.text ++ ": " ++ cause.text manifest
  | .undeclared manifest => "No package name declared in manifest " ++ manifest.text
  | .undeclaredByLibrary manifest library =>
    "No package name declared in manifest " ++ manifest.text ++ " of library '" ++ library ++ "'"

def TableSort.text : TableSort → String
  | .table => "table"
  | .buildType => "build type"
  | .flavor => "flavor"
  | .library => "library"

def ValueType.text : ValueType → String
  | .string => "str"
  | .integer => "int"
  | .number => "float"
  | .flag => "bool"
  | .nothing => "NoneType"
  | .list => "list"
  | .table => "dict"
  | .dateTime => "datetime"
  | .date => "date"
  | .time => "time"

def DescriptionFault.message : DescriptionFault → String
  | .unreadable path cause =>
    "Cannot read variant description " ++ path.text ++ ": " ++ cause.text path
  | .notTable path => "Variant description " ++ path.text ++ " must be a table"
  | .unknownKind shown => "Unknown variant_type '" ++ shown ++ "'"
  | .testKind => "variant_type 'test' is not allowed; describe tests in a [test] table"
  | .missing sort shown => "Missing " ++ sort.text ++ " '" ++ shown ++ "' in variant description"
  | .wrongType key owner expected found =>
    "'" ++ key ++ "' of '" ++ owner ++ "' must be " ++ expected.text ++ ", got " ++ found.text
  | .libraryCycle library => "Library dependency cycle through '" ++ library ++ "'"
  | .libraryNeeds library key =>
    "Library '" ++ library ++ "' needs 'folder' or " ++ Text.quoted key
  | .unknownLibraries names => "Unknown libraries: " ++ String.intercalate ", " names

def Fault.message : Fault → String
  | .structural fault => fault.message
  | .mainManifestMissing path => "Main manifest missing from " ++ path.text
  | .package fault => fault.message
  | .description fault => fault.message
  | .value _ => ""

/-- Faults that are put into words. -/
def Fault.isReported : Fault → Bool
  | .value _ => false
  | _ => true

end BuildVariants
