import BuildVariants.Path

/-!
# Libraries

A library is known by its place in the graph, never by its name: two libraries of one name are
two. The graph only grows, so a place once given always means the same library.
-/

namespace BuildVariants

abbrev LibraryId := Nat

structure Library where
  name : String
  manifest : Path
  jarFile : Path
  resFolder : Option Path := none
  dependencies : List LibraryId := []
  deriving DecidableEq, Repr, Inhabited

def manifestFileName : String := "AndroidManifest.xml"

/-- A library in the usual layout of a folder: manifest, classes, and resources if they are
there. -/
def Library.ofFolder (isDirectory : Path → Bool) (name : String) (folder : Path)
    (dependencies : List LibraryId) : Library where
  name := name
  manifest := folder / Path.ofString manifestFileName
  jarFile := folder / Path.ofString "classes.jar"
  resFolder :=
    let resources := folder / Path.ofString "res"
    if isDirectory resources then some resources else none
  dependencies := dependencies

structure LibraryGraph where
  libraries : Array Library
  deriving DecidableEq, Repr, Inhabited

namespace LibraryGraph

def empty : LibraryGraph := ⟨#[]⟩

def size (g : LibraryGraph) : Nat := g.libraries.size

def get? (g : LibraryGraph) (id : LibraryId) : Option Library := g.libraries[id]?

def dependencies (g : LibraryGraph) (id : LibraryId) : List LibraryId :=
  match g.get? id with
  | some l => l.dependencies
  | none => []

def name (g : LibraryGraph) (id : LibraryId) : String :=
  match g.get? id with
  | some l => l.name
  | none => ""

/-- The new library is found under the size that the graph had before. -/
def add (g : LibraryGraph) (l : Library) : LibraryGraph := ⟨g.libraries.push l⟩

def getAll (g : LibraryGraph) (ids : List LibraryId) : List Library := ids.filterMap g.get?

@[simp] theorem size_add (g : LibraryGraph) (l : Library) : (g.add l).size = g.size + 1 :=
  Array.size_push ..

theorem get?_add_size (g : LibraryGraph) (l : Library) : (g.add l).get? g.size = some l := by
  simp [get?, add, size]

theorem get?_add_of_lt {g : LibraryGraph} {id : LibraryId} (l : Library) (h : id < g.size) :
    (g.add l).get? id = g.get? id := by
  simp only [get?, add, size] at *
  rw [Array.getElem?_push_lt h, Array.getElem?_eq_getElem h]

end LibraryGraph

end BuildVariants
