import BuildVariants.Description.Build

/-!
# What a description mentions

The paths a build from a description may ask about. Every one of them is made from a text or a key
that stands in the description, so they can be looked at before the build.
-/

namespace BuildVariants

mutual

/-- The texts in a value and the keys of its tables. -/
def Value.words : Value → List String
  | .string s => [s]
  | .list elements => listWords elements
  | .table entries => tableWords entries
  | _ => []

def listWords : List Value → List String
  | [] => []
  | v :: vs => v.words ++ listWords vs

def tableWords : List (String × Value) → List String
  | [] => []
  | (key, v) :: rest => key :: v.words ++ tableWords rest

end

namespace Description

/-- A word can be a path, the folder of a library, or the name of a layer. -/
def pathsOfWord (d : Description) (word : String) : List Path :=
  let here := d.baseDirectory / Path.ofString word
  [here, here / Path.ofString manifestFileName, here / Path.ofString "res",
    d.baseDirectory / Path.ofString ("src/" ++ word ++ "/" ++ manifestFileName)]

def mentioned (d : Description) : List Path :=
  ("main" :: "test" :: tableWords d.data).flatMap d.pathsOfWord

end Description

end BuildVariants
