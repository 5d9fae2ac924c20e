/-!
# Paths

A path is where it starts and the names below that place. Repeated and trailing slashes and names
that are a single dot do not count; a name of two dots stays, since what it means depends on the
files. Exactly two slashes at the start are a starting place of their own.
-/

namespace BuildVariants

/-- Where a path starts. -/
inductive Path.Start where
  | here
  | root
  | doubleRoot
  deriving DecidableEq, Repr, Inhabited

structure Path where
  start : Path.Start
  names : List String
  deriving DecidableEq, Repr, Inhabited

namespace Path

def Start.text : Start → String
  | .here => ""
  | .root => "/"
  | .doubleRoot => "//"

def Start.ofChars : List Char → Start
  | '/' :: '/' :: '/' :: _ => .root
  | '/' :: '/' :: _ => .doubleRoot
  | '/' :: _ => .root
  | _ => .here

/-- The pieces between slashes, empty ones included. The pieces before the last slash and the
characters behind it that have been read are in reverse. -/
def pieces (before : List (List Char)) (read : List Char) : List Char → List (List Char)
  | [] => (read.reverse :: before).reverse
  | c :: r => if c = '/' then pieces (read.reverse :: before) [] r else pieces before (c :: read) r

def namesOfChars (cs : List Char) : List String :=
  ((pieces [] [] cs).filter fun w => w ≠ [] ∧ w ≠ ['.']).map String.ofList

def ofString (s : String) : Path :=
  { start := Start.ofChars s.toList, names := namesOfChars s.toList }

/-- A path with nothing in it is written as a single dot. -/
def text (p : Path) : String :=
  if p.start = .here ∧ p.names = [] then "."
  else p.start.text ++ String.intercalate "/" p.names

def IsAbsolute (p : Path) : Prop := p.start ≠ .here

instance (p : Path) : Decidable p.IsAbsolute := inferInstanceAs (Decidable (p.start ≠ .here))

/-- An absolute path replaces what it is joined to. -/
def join (p q : Path) : Path :=
  if q.IsAbsolute then q else { p with names := p.names ++ q.names }

instance : Div Path := ⟨join⟩

/-- Two dots are kept: nothing is looked up. -/
def absoluteFrom (p workingDirectory : Path) : Path := workingDirectory / p

def parent (p : Path) : Path := { p with names := p.names.dropLast }

def name (p : Path) : String := p.names.getLast?.getD ""

/-- The last dot of the name and what follows it, unless the dot is the first or the last
character. -/
def suffix (p : Path) : String :=
  let cs := p.name.toList
  let tail := (cs.reverse.takeWhile (· ≠ '.')).reverse
  if tail = [] ∨ cs.length ≤ tail.length + 1 then "" else String.ofList ('.' :: tail)

/-- An absolute path without any two dots: each takes away the name before it, if there is one. -/
def foldDots : List String → List String → List String
  | above, [] => above.reverse
  | above, n :: r => if n = ".." then foldDots above.tail r else foldDots (n :: above) r

def normalized (p workingDirectory : Path) : Path :=
  { start := .root, names := foldDots [] (p.absoluteFrom workingDirectory).names }

/-- The texts of the paths in rising order of code points, each once. -/
def sortedTexts (paths : List Path) : List String :=
  ((paths.map text).mergeSort fun a b => decide (a ≤ b)).eraseReps

theorem join_of_isAbsolute {p q : Path} (h : q.IsAbsolute) : p / q = q := if_pos h

theorem isAbsolute_join {p : Path} (h : p.IsAbsolute) (q : Path) : (p / q).IsAbsolute := by
  show (join p q).IsAbsolute
  unfold join
  split
  · assumption
  · exact h

end Path

end BuildVariants
