import BuildVariants.Description.Basic

/-!
# Libraries of a description

Every declared library is made once, after the libraries it depends on, so that all variants of a
description share it. A library that is asked for while it is being made lies on a cycle. The
making ends because every library that is begun is a further key of the table of libraries.
-/

namespace BuildVariants

/-- The libraries made so far. -/
structure Instances where
  graph : LibraryGraph
  made : List (String × LibraryId)

namespace Instances

def find? (made : List (String × LibraryId)) (name : String) : Option LibraryId :=
  (made.find? fun e => e.1 = name).map (·.2)

/-- Whether a value names a library; a value that cannot be a name is a fault. -/
def knows (made : List (String × LibraryId)) (name : Value) : Except Fault Bool :=
  match name with
  | .string s => .ok (find? made s).isSome
  | v => if v.isName then .ok false else .error (.value .notName)

/-- The values that name no library, with repetitions. -/
def unknown (made : List (String × LibraryId)) : List Value → Except Fault (List Value)
  | [] => .ok []
  | v :: vs => do
    let known ← knows made v
    let rest ← unknown made vs
    pure (if known then rest else v :: rest)

/-- The libraries of the names, in their order and with their repetitions. -/
def lookUp (made : List (String × LibraryId)) (names : Value) : Except Fault (List LibraryId) := do
  let values ← names.elements
  match ← unknown made values with
  | [] => pure (values.filterMap fun
    | .string s => find? made s
    | _ => none)
  | missing => throw (.description (.unknownLibraries (← missing.mapM Value.asText)))

def add (i : Instances) (name : String) (l : Library) : Instances where
  graph := i.graph.add l
  made := i.made ++ [(name, i.graph.size)]

end Instances

namespace Description

/-- The value of a key that a library needs when it names no folder. -/
def needed (library key : String) (t : Table) : Except Fault Value :=
  match t.get? key with
  | some v => .ok v
  | none => .error (.description (.libraryNeeds library key))

/-- A library in a folder of the usual layout, or one whose files are given one by one. -/
def library (files : Files) (d : Description) (made : List (String × LibraryId)) (name : String)
    (t : Table) : Except Fault Library := do
  let dependencies ← Instances.lookUp made (t.getD "dependencies" (.list []))
  match t.get? "folder" with
  | some folder => return Library.ofFolder files.isDirectory name (← d.path folder) dependencies
  | none =>
    let manifest ← d.path (← needed name "manifest" t)
    let jarFile ← d.path (← needed name "jar_file" t)
    let resFolder ← d.optionalPath (t.getD "res_folder" .nothing)
    pure { name, manifest, jarFile, resFolder, dependencies }

/-- Declared libraries that are not being made. -/
def untouched (tables : Table) (making : List String) : Nat :=
  tables.countP fun e => !making.contains e.1

theorem untouched_cons_lt {tables : Table} {making : List String} {name : String} {v : Value}
    (hget : tables.get? name = some v) (hnew : name ∉ making) :
    untouched tables (name :: making) < untouched tables making := by
  simp only [Table.get?, Option.map_eq_some_iff] at hget
  obtain ⟨e, he, -⟩ := hget
  have hname : e.1 = name := by simpa using List.find?_some he
  refine countP_lt_of_imp (x := e) ?_ ?_ ?_ (List.mem_of_find?_eq_some he)
  · simp [hname]
  · simp [hname, hnew]
  · intro a _
    simp +contextual

mutual

/-- Makes a library and, before it, what it depends on. -/
def make (files : Files) (d : Description) (tables : Table) (making : List String) (name : Value)
    (i : Instances) : Except Fault Instances :=
  match name with
  | .string s =>
    if (Instances.find? i.made s).isSome then .ok i
    else if _hnew : s ∈ making then .error (.description (.libraryCycle s))
    else match _hget : tables.get? s with
      | some (.table t) => do
        let names ← (Table.getD t "dependencies" (.list [])).elements
        let i ← makeAll files d tables (s :: making) names i
        let l ← d.library files i.made s t
        pure (i.add s l)
      | _ => .error (.description (.missing .library s))
  | v =>
    if v.isName then v.shown.bind fun shown => .error (.description (.missing .library shown))
    else .error (.value .notName)
termination_by (untouched tables making, 0)
decreasing_by exact Prod.Lex.left _ _ (untouched_cons_lt _hget _hnew)

def makeAll (files : Files) (d : Description) (tables : Table) (making : List String)
    (names : List Value) (i : Instances) : Except Fault Instances :=
  match names with
  | [] => .ok i
  | v :: vs => do
    let i ← make files d tables making v i
    makeAll files d tables making vs i
termination_by (untouched tables making, names.length + 1)
decreasing_by
  · exact Prod.Lex.right _ (by simp)
  · exact Prod.Lex.right _ (by simp)

end

/-- All declared libraries, in the order in which they are declared. Only a table can declare any;
the first element of another value is already a fault. -/
def makeLibraries (files : Files) (d : Description) (g : LibraryGraph) :
    Except Fault Instances := do
  let declared := d.data.getD "libraries" (.table [])
  let names ← declared.elements
  match declared, names with
  | .table tables, _ => d.makeAll files tables [] names ⟨g, []⟩
  | _, [] => pure ⟨g, []⟩
  | _, first :: _ => throw (.value (if first.isName then .notTable else .notName))

/-- The libraries made earlier, or else all made now and kept. -/
def withLibraries (files : Files) (d : Description) (g : LibraryGraph) :
    Except Fault (Description × Instances) :=
  match d.instances with
  | some made => .ok (d, ⟨g, made⟩)
  | none =>
    match d.makeLibraries files g with
    | .error fault => .error fault
    | .ok i => .ok ({ d with instances := some i.made }, i)

end Description

end BuildVariants
