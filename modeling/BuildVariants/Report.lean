import BuildVariants.Text.Control
import BuildVariants.Variant.Package

/-!
# Reports

Everything that is derived from a variant, collected in a fixed order: the first value that cannot
be derived is the fault of the whole report. A report is shown as lines for reading or as JSON.
-/

namespace BuildVariants

structure Report.Test where
  testedPackageName : String
  instrumentationRunner : String
  deriving DecidableEq, Repr

structure Report where
  variant : String
  kind : VariantKind
  packageName : String
  libraries : List String
  libraryPackages : Option String
  resourceInputs : List String
  compileClasspath : List String
  jars : List String
  test : Option Report.Test
  deriving DecidableEq, Repr

namespace Configuration

def describeTest (c : Configuration) : Lookup (Option Report.Test) := do
  match ← c.testedPackageName with
  | none => pure none
  | some package =>
    pure (some { testedPackageName := package, instrumentationRunner := c.instrumentationRunner })

def describe (g : LibraryGraph) (c : Configuration) : Lookup Report := do
  let packageName ← c.packageName
  let libraryPackages ← c.libraryPackages g
  let classpath ← Lookup.ofStructural (c.compileClasspath g)
  let test ← c.describeTest
  pure
    { variant := c.variant.name
      kind := c.variant.kind
      packageName := packageName
      libraries := (g.getAll c.variant.flat).map (·.name)
      libraryPackages := libraryPackages
      resourceInputs := (c.resourceInputs g).map (·.text)
      compileClasspath := Path.sortedTexts classpath
      jars := c.variant.jars.map fun jar => jar.file.text
      test := test }

end Configuration

namespace Report

/-! ## Lines -/

def indexedLines : Nat → List String → List String
  | _, [] => []
  | i, entry :: rest => ("  [" ++ toString i ++ "] " ++ entry) :: indexedLines (i + 1) rest

/-- A heading after an empty line, and nothing at all for no entries. -/
def sectionLines (heading : String) (entries : List String) : List String :=
  if entries = [] then [] else "" :: (heading ++ ":") :: indexedLines 0 entries

def lines (r : Report) : List String :=
  ["Variant: " ++ r.variant ++ " (" ++ r.kind.text ++ ")", "Package: " ++ r.packageName] ++
    (match r.test with
      | none => []
      | some t =>
        ["Tested Package: " ++ t.testedPackageName,
          "Instrumentation Runner: " ++ t.instrumentationRunner]) ++
    sectionLines "Libraries" r.libraries ++
    sectionLines "Resource Inputs" r.resourceInputs ++
    sectionLines "Compile Classpath" r.compileClasspath ++
    sectionLines "Jars" r.jars

def display (r : Report) : String :=
  String.join (r.lines.map fun line => Text.withoutControl line ++ "\n")

/-! ## JSON -/

/-- Values of the fields of a report. -/
inductive Field where
  | text (s : String)
  | absent
  | list (entries : List String)
  deriving DecidableEq, Repr

def fields (r : Report) : List (String × Field) :=
  [("variant", .text r.variant),
    ("type", .text r.kind.text),
    ("package_name", .text r.packageName),
    ("libraries", .list r.libraries),
    ("library_packages", r.libraryPackages.elim .absent .text),
    ("resource_inputs", .list r.resourceInputs),
    ("compile_classpath", .list r.compileClasspath),
    ("jars", .list r.jars)] ++
    match r.test with
    | none => []
    | some t =>
      [("tested_package_name", .text t.testedPackageName),
        ("instrumentation_runner", .text t.instrumentationRunner)]

/-- Only the quote, the backslash and control characters are escaped. -/
def jsonChar (c : Char) : List Char :=
  if c = '"' ∨ c = '\\' then ['\\', c]
  else if c = '\n' then ['\\', 'n']
  else if c = '\r' then ['\\', 'r']
  else if c = '\t' then ['\\', 't']
  else if c.toNat = 0x08 then ['\\', 'b']
  else if c.toNat = 0x0C then ['\\', 'f']
  else if c.toNat < 0x20 then '\\' :: 'u' :: Text.hexDigits 4 c.toNat
  else [c]

def jsonText (s : String) : String :=
  String.ofList ('"' :: s.toList.flatMap jsonChar ++ ['"'])

/-- Entries stand on lines of their own, four spaces in. -/
def Field.json : Field → String
  | .text s => jsonText s
  | .absent => "null"
  | .list [] => "[]"
  | .list entries =>
    "[\n" ++ String.intercalate ",\n" (entries.map fun e => "    " ++ jsonText e) ++ "\n  ]"

def json (r : Report) : String :=
  "\x7b\n" ++
    String.intercalate ",\n" (r.fields.map fun f => "  " ++ jsonText f.1 ++ ": " ++ f.2.json) ++
    "\n\x7d"

end Report

end BuildVariants
