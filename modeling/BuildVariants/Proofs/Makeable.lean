import BuildVariants.Proofs.History
import BuildVariants.Proofs.WellShaped

/-!
# When libraries can be made

Whether the libraries of a description can be made is said without any order of making
(`Description.Makeable`): each has the files that its table promises, all names are declared, and no name
depends on itself. Once they are made, each library has the files of its own table and the libraries of its
dependencies (`Description.MadeFor`), whichever was made first.
-/

namespace BuildVariants

open Relation (TransGen)

theorem Instances.find?_add (i : Instances) (s : String) (l : Library) (n : String) :
    find? (i.add s l).made n = (find? i.made n).or (if s = n then some i.graph.size else none) := by
  rw [find?, Instances.add, List.find?_append, find?, Option.map_or]
  by_cases h : s = n
  · simp [h]
  · simp [h]

namespace Description

open Instances (find? names lookUp)

variable {files : Files} {d d₀ d' : Description} {tables t : Table} {making : List String} {i j : Instances}
  {g : LibraryGraph}

/-! ## The files of a library -/

/-- The library of a table without its dependencies. -/
def libraryFiles (files : Files) (d : Description) (name : String) (t : Table) : Except Fault Library :=
  match t.get? "folder" with
  | some folder => do return Library.ofFolder files.isDirectory name (← d.path folder) []
  | none => do
    let manifest ← d.path (← needed name "manifest" t)
    let jarFile ← d.path (← needed name "jar_file" t)
    let resFolder ← d.optionalPath (t.getD "res_folder" .nothing)
    pure { name, manifest, jarFile, resFolder }

theorem library_eq (files : Files) (d : Description) (made : List (String × LibraryId)) (name : String) (t : Table) :
    d.library files made name t = (do
      let ids ← lookUp made t.dependencyValue
      let l ← d.libraryFiles files name t
      pure { l with dependencies := ids }) := by
  unfold library libraryFiles Table.dependencyValue
  cases t.get? "folder" with
  | some folder => simp only [bind_assoc, pure_bind, Library.ofFolder]
  | none => simp only [bind_assoc, pure_bind]

theorem libraryFiles_of_library {made : List (String × LibraryId)} {name : String} {l : Library}
    (h : d.library files made name t = .ok l) :
    ∃ l₀, d.libraryFiles files name t = .ok l₀ ∧ l = { l₀ with dependencies := l.dependencies } := by
  rw [library_eq] at h
  obtain ⟨ids, _, h⟩ := bind_eq_ok.mp h
  obtain ⟨l₀, hl₀, h⟩ := bind_eq_ok.mp h
  obtain rfl := pure_eq_ok.mp h
  exact ⟨l₀, hl₀, rfl⟩

/-- A table that gives its library in full gives its files. -/
theorem exists_libraryFiles (files : Files) (d : Description) (name : String) (ht : t.LibraryShape)
    (hf : t.TextFolders) : ∃ l, d.libraryFiles files name t = .ok l := by
  obtain ⟨ns, hns⟩ := ht.elements
  -- the dependencies do not count, so any libraries may stand for them
  obtain ⟨ids, hids⟩ : ∃ ids, lookUp (ns.map fun n => (n, 0)) t.dependencyValue = .ok ids :=
    Instances.exists_lookUp hns fun n hn => Instances.find?_isSome.mpr (by simpa [names] using hn)
  obtain ⟨l, hl⟩ := exists_library files d name ht hf hids
  obtain ⟨l₀, hl₀, _⟩ := libraryFiles_of_library hl
  exact ⟨l₀, hl₀⟩

/-! ## Made libraries -/

/-- Every made library has the files of its table. -/
def HasFiles (files : Files) (d : Description) (tables : Table) (i : Instances) : Prop :=
  ∀ n id, find? i.made n = some id → ∃ t l, tables.get? n = some (.table t) ∧ d.libraryFiles files n t = .ok l ∧
    i.graph.get? id = some { l with dependencies := i.graph.dependencies id }

theorem HasFiles.extends (h : HasFiles files d tables i) (hg : g.Extends i.graph) :
    HasFiles files d tables ⟨g, i.made⟩ := by
  intro n id hn
  obtain ⟨t, l, ht, hl, hget⟩ := h n id hn
  have hget' := hg id _ hget
  refine ⟨t, l, ht, hl, ?_⟩
  rw [LibraryGraph.dependencies_eq hget']
  exact hget'

theorem MakeStep.hasFiles (h : MakeStep files d tables making i j) (hi : HasFiles files d tables i) :
    HasFiles files d tables j := by
  cases h with
  | @add s t l ht _ hnew hl =>
    intro n id hn
    rw [Instances.find?_add] at hn
    cases hold : find? i.made n with
    | some old =>
      rw [hold] at hn
      obtain rfl : old = id := Option.some.inj hn
      exact hi.extends (LibraryGraph.extends_add _ _) n old hold
    | none =>
      rw [hold, Option.none_or] at hn
      split at hn
      · rename_i hs
        cases hs
        obtain rfl : i.graph.size = id := Option.some.inj hn
        obtain ⟨l₀, hl₀, heq⟩ := libraryFiles_of_library hl
        have hget : (i.add s l).graph.get? i.graph.size = some l := LibraryGraph.get?_add_size _ _
        refine ⟨t, l₀, ht, hl₀, ?_⟩
        rw [LibraryGraph.dependencies_eq hget, hget, ← heq]
      · cases hn

theorem MakeSteps.hasFiles (h : MakeSteps files d tables making i j) (hi : HasFiles files d tables i) :
    HasFiles files d tables j := by
  induction h with
  | refl => exact hi
  | tail _ h ih => exact h.hasFiles ih

/-- One library for each declared name, with the files of its table and the libraries of its dependencies. -/
structure MadeFor (files : Files) (d : Description) (i : Instances) : Prop where
  represents : i.Represents d.libraryTables.dependencyNames
  names : ∀ n, n ∈ names i.made ↔ n ∈ d.libraryTables.keys
  files : HasFiles files d d.libraryTables i

theorem MadeFor.extends (h : d.MadeFor files i) (hg : g.Extends i.graph) : d.MadeFor files ⟨g, i.made⟩ where
  represents := h.represents.extends hg
  names := h.names
  files := h.files.extends hg

theorem madeFor_of_makeLibraries (h : d.makeLibraries files g = .ok i) : d.MadeFor files i where
  represents := (makeLibraries_ok h).1
  names := (makeLibraries_ok h).2.2
  files := (makeLibraries_steps h).1.hasFiles fun _ _ hn => by cases hn

theorem GrownFrom.madeFor (h : GrownFrom files d₀ d g) (hi : d.withLibraries files g = .ok (d', i)) :
    d₀.MadeFor files i := by
  obtain ⟨hgrows, hmade⟩ := h.withLibraries hi
  obtain ⟨g₀, i₀, hi₀, heq, hext⟩ := hgrows.grown.made _ hmade
  have hfor := (madeFor_of_makeLibraries hi₀).extends hext
  rwa [heq] at hfor

/-! ## Libraries that can be made -/

structure Makeable (files : Files) (d : Description) : Prop where
  files : ∀ s ∈ d.libraryTables.keys, ∃ t l, d.libraryTables.get? s = some (.table t) ∧
    d.libraryFiles files s t = .ok l
  declared : ∀ s ∈ d.libraryTables.keys, ∀ m ∈ d.libraryTables.dependencyNames s, m ∈ d.libraryTables.keys
  acyclic : ∀ s, ¬TransGen (DependsOn d.libraryTables.dependencyNames) s s

theorem MadeFor.makeable (h : d.MadeFor files i) : d.Makeable files where
  files := fun s hs => by
    obtain ⟨id, hid⟩ := Option.isSome_iff_exists.mp (Instances.find?_isSome.mpr ((h.names s).mpr hs))
    obtain ⟨t, l, ht, hl, _⟩ := h.files s id hid
    exact ⟨t, l, ht, hl⟩
  declared := fun s hs m hm => (h.names m).mp (h.represents.mem_of_dep ((h.names s).mpr hs) hm)
  acyclic := fun s hs =>
    (declared_of_represents h.represents ((h.names s).mpr (Table.mem_keys_of_transGen hs))).2 hs

/-- What is asked for has a table that gives its files. -/
theorem Makeable.of_asked (h : d.Makeable files) (hshape : d.WellShaped) {v : Value} (ha : Asked d.libraryTables v) :
    ∃ s t, v = .string s ∧ d.libraryTables.get? s = some (.table t) := by
  cases ha with
  | @key s hs =>
    obtain ⟨t, _, ht, _⟩ := h.files s hs
    exact ⟨s, t, rfl, ht⟩
  | @dependency s t values v ht hvalues hv =>
    obtain ⟨m, rfl⟩ := (hshape.declared s t ht).isTexts.isText_of_mem hvalues hv
    have hm : m ∈ d.libraryTables.dependencyNames s := by
      rw [Table.dependencyNames_eq ht]
      exact (Value.mem_texts hvalues).mpr hv
    obtain ⟨u, _, hu, _⟩ := h.files m (h.declared s (Table.mem_keys_of_get? ht) m hm)
    exact ⟨m, u, rfl, hu⟩

theorem Makeable.no_fault (h : d.Makeable files) (hshape : d.WellShaped) {e : Fault} :
    ¬MakeFault files d d.libraryTables e := by
  intro hfault
  cases hfault with
  | cycle hs => exact h.acyclic _ hs
  | undeclared ha hno =>
    obtain ⟨_, t, heq, ht⟩ := h.of_asked hshape ha
    cases heq
    exact hno t ht
  | noText ha hno =>
    obtain ⟨s, _, heq, _⟩ := h.of_asked hshape ha
    exact hno s heq
  | dependencies ht he => exact (hshape.declared _ _ ht).isTexts.elements_ne_error he
  | @library s t made ids e ht hids he =>
    obtain ⟨u, l, hu, hl⟩ := h.files s (Table.mem_keys_of_get? ht)
    cases ht.symm.trans hu
    rw [library_eq, hids, hl] at he
    cases he

/-- Libraries that a description keeps were made, so they can be made. -/
theorem exists_withLibraries_iff (h : GrownFrom files d₀ d g) (hshape : d₀.WellShaped) :
    (∃ r, d.withLibraries files g = .ok r) ↔ d₀.Makeable files := by
  constructor
  · rintro ⟨⟨d', i⟩, hi⟩
    exact (h.madeFor hi).makeable
  · intro hmakeable
    cases hmade : d.instances with
    | some made => exact ⟨_, withLibraries_of_instances hmade⟩
    | none =>
      obtain rfl := h.eq_of_none hmade
      obtain ⟨tables, htables⟩ := hshape.libraries.getD isTable_nil
      cases hi : d.withLibraries files g with
      | ok r => exact ⟨r, rfl⟩
      | error e =>
        have hfault := makeLibraries_fault htables (withLibraries_error hi)
        rw [← libraryTables_eq htables] at hfault
        exact absurd hfault (hmakeable.no_fault hshape)

end Description

end BuildVariants
