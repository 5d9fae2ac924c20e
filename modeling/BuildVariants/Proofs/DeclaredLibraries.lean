import BuildVariants.Proofs.Making
import Mathlib

/-!
# The declared libraries

When the tables of a description give their libraries in full, all of them can be made exactly if
every name that is given as a dependency is declared and no name depends on itself; a cycle of
declared names is then reported with a name on it. A description that has made its libraries keeps
them, so what it gives later is what the first making gave.
-/

namespace BuildVariants

open Relation (ReflTransGen TransGen)

/-! ## Tables that declare a library -/

namespace Table

/-- The dependencies are a list of names, and the files are given by a folder or one by one. -/
structure LibraryShape (t : Table) : Prop where
  dependencies : ∃ ns : List String, t.dependencyValue = .list (ns.map .string)
  files : (∃ s, t.get? "folder" = some (.string s)) ∨
    (∃ s, t.get? "manifest" = some (.string s)) ∧ ∃ s, t.get? "jar_file" = some (.string s)

/-- A folder, if there is one, is a text; without a folder the same holds of a folder of resources,
unless it is empty. -/
structure TextFolders (t : Table) : Prop where
  folder : ∀ v, t.get? "folder" = some v → ∃ s, v = .string s
  resources : t.get? "folder" = none → ∀ v, t.get? "res_folder" = some v →
    v.isEmpty = true ∨ ∃ s, v = .string s

/-- Every entry is the table of a library. -/
def LibraryShapes (tables : Table) : Prop := ∀ e ∈ tables, ∃ t, e.2 = .table t ∧ LibraryShape t

def AllTextFolders (tables : Table) : Prop := ∀ e ∈ tables, ∀ t, e.2 = .table t → TextFolders t

variable {tables t : Table}

theorem LibraryShape.elements (h : LibraryShape t) :
    ∃ ns : List String, t.dependencyValue.elements = .ok (ns.map .string) := by
  obtain ⟨ns, hns⟩ := h.dependencies
  exact ⟨ns, by rw [hns, Value.elements]⟩

theorem LibraryShapes.of_get? (h : tables.LibraryShapes) {s : String} (ht : tables.get? s = some (.table t)) :
    LibraryShape t := by
  obtain ⟨_, heq, hshape⟩ := h _ (mem_of_get? ht)
  cases heq
  exact hshape

theorem LibraryShapes.exists_table (h : tables.LibraryShapes) {s : String} (hs : s ∈ tables.keys) :
    ∃ t, tables.get? s = some (.table t) := by
  obtain ⟨v, hv⟩ := exists_get? hs
  obtain ⟨t, ht, _⟩ := h _ (mem_of_get? hv)
  exact ⟨t, ht ▸ hv⟩

theorem textFolders_of_folder {s : String} (h : t.get? "folder" = some (.string s)) : TextFolders t where
  folder := fun v hv => ⟨s, Option.some.inj (hv.symm.trans h)⟩
  resources := fun hno => by
    rw [h] at hno
    cases hno

theorem textFolders_of_none (h : t.get? "folder" = none) (hres : t.get? "res_folder" = none) :
    TextFolders t where
  folder := fun v hv => by
    rw [h] at hv
    cases hv
  resources := fun _ v hv => by
    rw [hres] at hv
    cases hv

theorem mem_keys_of_dependsOn {n m : String} (h : DependsOn tables.dependencyNames n m) : n ∈ tables.keys := by
  unfold DependsOn dependencyNames at h
  split at h
  · rename_i ht
    exact mem_keys_of_get? ht
  · exact absurd h List.not_mem_nil

theorem mem_keys_of_transGen {n m : String} (h : TransGen (DependsOn tables.dependencyNames) n m) :
    n ∈ tables.keys := by
  obtain ⟨k, hk, _⟩ := TransGen.head'_iff.mp h
  exact mem_keys_of_dependsOn hk

end Table

namespace Description

open Instances (find? names lookUp)

variable {files : Files} {d : Description} {tables : Table} {g : LibraryGraph} {i : Instances}

theorem path_string (d : Description) (s : String) :
    d.path (.string s) = .ok (d.baseDirectory / Path.ofString s) := rfl

theorem optionalPath_string (d : Description) (s : String) : ∃ p, d.optionalPath (.string s) = .ok p := by
  unfold optionalPath
  split
  · exact ⟨none, rfl⟩
  · exact ⟨some (d.baseDirectory / Path.ofString s), rfl⟩

theorem exists_resFolder (d : Description) {t : Table} (hf : t.TextFolders) (hfolder : t.get? "folder" = none) :
    ∃ p, d.optionalPath (t.getD "res_folder" .nothing) = .ok p := by
  unfold Table.getD
  cases hv : t.get? "res_folder" with
  | none => exact ⟨none, rfl⟩
  | some v =>
    rcases hf.resources hfolder v hv with he | ⟨s, rfl⟩
    · exact ⟨none, by rw [Option.getD_some, optionalPath, if_pos he]; rfl⟩
    · exact optionalPath_string d s

/-- A library whose dependencies are made can be made. -/
theorem exists_library (files : Files) (d : Description) (name : String) {made : List (String × LibraryId)}
    {t : Table} {ids : List LibraryId} (ht : t.LibraryShape) (hf : t.TextFolders)
    (hids : lookUp made t.dependencyValue = .ok ids) : ∃ l, d.library files made name t = .ok l := by
  simp only [library, bind_eq_ok, Table.dependencyValue] at hids ⊢
  cases hfolder : t.get? "folder" with
  | some v =>
    obtain ⟨s, rfl⟩ := hf.folder v hfolder
    exact ⟨_, ids, hids, bind_eq_ok.mpr ⟨_, path_string d s, rfl⟩⟩
  | none =>
    have hno : ¬∃ s, t.get? "folder" = some (.string s) := by
      rintro ⟨s, hs⟩
      rw [hfolder] at hs
      cases hs
    obtain ⟨⟨m, hm⟩, ⟨j, hj⟩⟩ := ht.files.resolve_left hno
    have hmanifest : needed name "manifest" t = .ok (.string m) := by rw [needed, hm]
    have hjar : needed name "jar_file" t = .ok (.string j) := by rw [needed, hj]
    obtain ⟨p, hp⟩ := exists_resFolder d hf hfolder
    refine ⟨⟨name, d.baseDirectory / Path.ofString m, d.baseDirectory / Path.ofString j, p, ids⟩,
      ids, hids, ?_⟩
    simp only [hmanifest, hjar, hp, bind_eq_ok]
    exact ⟨_, rfl, _, path_string d m, _, rfl, _, path_string d j, p, rfl, rfl⟩

/-- Where every name is declared, only texts are asked for, and each has its table. -/
theorem exists_table_of_asked (hshape : tables.LibraryShapes)
    (hdeclared : ∀ n ∈ tables.keys, ∀ m ∈ tables.dependencyNames n, m ∈ tables.keys) {v : Value}
    (h : Asked tables v) : ∃ s t, v = .string s ∧ tables.get? s = some (.table t) := by
  cases h with
  | @key s hs =>
    obtain ⟨t, ht⟩ := hshape.exists_table hs
    exact ⟨s, t, rfl, ht⟩
  | @dependency s t values v ht hvalues hv =>
    obtain ⟨ns, hns⟩ := (hshape.of_get? ht).elements
    obtain rfl := Except.ok.inj (hvalues.symm.trans hns)
    obtain ⟨m, hm, rfl⟩ := List.mem_map.mp hv
    have hms : m ∈ tables.dependencyNames s := by
      rw [Table.dependencyNames_eq ht, Value.texts_eq hns]
      exact hm
    obtain ⟨t', ht'⟩ := hshape.exists_table (hdeclared s (Table.mem_keys_of_get? ht) m hms)
    exact ⟨m, t', rfl, ht'⟩

/-- Of tables that give their libraries in full, only a cycle remains to be reported when all names
are declared. -/
theorem MakeFault.exists_cycle {e : Fault} (h : MakeFault files d tables e) (hshape : tables.LibraryShapes)
    (htext : tables.AllTextFolders)
    (hdeclared : ∀ n ∈ tables.keys, ∀ m ∈ tables.dependencyNames n, m ∈ tables.keys) :
    ∃ s, e = .description (.libraryCycle s) ∧ TransGen (DependsOn tables.dependencyNames) s s := by
  cases h with
  | @cycle s hs => exact ⟨s, rfl, hs⟩
  | undeclared ha hno =>
    obtain ⟨s, t, hs, ht⟩ := exists_table_of_asked hshape hdeclared ha
    cases hs
    exact (hno t ht).elim
  | noText ha hno _ =>
    obtain ⟨s, _, hs, _⟩ := exists_table_of_asked hshape hdeclared ha
    exact (hno s hs).elim
  | @dependencies s t _ ht he =>
    obtain ⟨ns, hns⟩ := (hshape.of_get? ht).elements
    rw [hns] at he
    cases he
  | @library s t made ids _ ht hids he =>
    have hfolders := htext _ (Table.mem_of_get? ht) t rfl
    obtain ⟨l, hl⟩ := exists_library files d s (hshape.of_get? ht) hfolders hids
    rw [hl] at he
    cases he

/-! ## Libraries that are kept -/

/-- The description before it keeps any libraries. -/
def fresh (d : Description) : Description := { d with instances := none }

/-- The libraries that a description keeps were made earlier, and are still in the graph. -/
def KeepsMade (d : Description) (g : LibraryGraph) : Prop :=
  ∀ made, d.instances = some made →
    ∃ files g₀ i, d.fresh.makeLibraries files g₀ = .ok i ∧ i.made = made ∧ g.Extends i.graph

theorem fresh_of_none (h : d.instances = none) : d.fresh = d := by
  rw [fresh, ← h]

theorem keepsMade_of_none (h : d.instances = none) (g : LibraryGraph) : d.KeepsMade g := fun made hm => by
  rw [h] at hm
  cases hm

theorem KeepsMade.extends {h : LibraryGraph} (hd : d.KeepsMade g) (hh : h.Extends g) : d.KeepsMade h := by
  intro made hm
  obtain ⟨files, g₀, i, hi, rfl, hg⟩ := hd made hm
  exact ⟨files, g₀, i, hi, rfl, hh.trans hg⟩

/-- The libraries of a description come from a making, now or earlier; they are kept from now on. -/
theorem withLibraries_ok {d' : Description} (hd : d.KeepsMade g) (h : d.withLibraries files g = .ok (d', i)) :
    d' = { d with instances := some i.made } ∧ i.graph.Extends g ∧
      ∃ files₀ g₀ i₀, d.fresh.makeLibraries files₀ g₀ = .ok i₀ ∧ i₀.made = i.made ∧
        i.graph.Extends i₀.graph := by
  unfold withLibraries at h
  split at h
  · rename_i made hmade
    cases h
    obtain ⟨files₀, g₀, i₀, hi₀, hm, hg⟩ := hd made hmade
    exact ⟨by rw [← hmade], .refl g, files₀, g₀, i₀, hi₀, hm, hg⟩
  · rename_i hnone
    split at h
    · cases h
    · rename_i j hj
      cases h
      refine ⟨rfl, (makeLibraries_ok hj).2.1, files, g, _, ?_, rfl, .refl _⟩
      rwa [fresh_of_none hnone]

theorem withLibraries_represents {d' : Description} (hd : d.KeepsMade g)
    (h : d.withLibraries files g = .ok (d', i)) :
    i.Represents d.libraryTables.dependencyNames ∧ ∀ n, n ∈ names i.made ↔ n ∈ d.libraryTables.keys := by
  obtain ⟨_, _, files₀, g₀, i₀, hi₀, hm, hg⟩ := withLibraries_ok hd h
  obtain ⟨hrep, _, hnames⟩ := makeLibraries_ok hi₀
  rw [hm] at hnames
  have hrep' := hrep.extends hg
  rw [hm] at hrep'
  exact ⟨hrep', hnames⟩

theorem KeepsMade.withLibraries {d' : Description} (hd : d.KeepsMade g)
    (h : d.withLibraries files g = .ok (d', i)) : d'.KeepsMade i.graph := by
  obtain ⟨rfl, _, files₀, g₀, i₀, hi₀, hm, hg⟩ := withLibraries_ok hd h
  intro made hmade
  cases hmade
  exact ⟨files₀, g₀, i₀, hi₀, hm, hg⟩

/-- Where no library can be had, none has been made before. -/
theorem withLibraries_error {e : Fault} (h : d.withLibraries files g = .error e) :
    d.makeLibraries files g = .error e := by
  unfold withLibraries at h
  split at h
  · cases h
  · split at h
    · rename_i he
      cases h
      exact he
    · cases h

/-! ## The declared names -/

/-- All names that are given as dependencies are declared, and none depends on itself. -/
theorem declared_of_represents {deps : String → List String} (hi : i.Represents deps)
    {n : String} (hn : n ∈ names i.made) :
    (∀ m ∈ deps n, m ∈ names i.made) ∧ ¬TransGen (DependsOn deps) n n := by
  refine ⟨fun m hm => hi.mem_of_dep hn hm, fun hcycle => ?_⟩
  have hn' : ∀ a ∈ [n], a ∈ (names i.made).reverse := fun a ha => by
    rw [List.mem_singleton.mp ha]
    exact List.mem_reverse.mpr hn
  exact hi.grounded.not_reachesCycle (List.nodup_reverse.mpr hi.nodup) hn'
    ⟨n, reached_of_mem (List.mem_singleton_self n), hcycle⟩

/-- All libraries can be made exactly if the names of all dependencies are declared and there is no
cycle of names. There is then one library for each declared name, under this name and with the very
libraries of its dependencies, in their order and with repetitions. If only the second fails, a name
on a cycle is reported. -/
theorem withLibraries_ok_iff (files : Files) (d : Description) (g : LibraryGraph) (tables : Table)
    (hd : d.KeepsMade g) (htables : d.data.getD "libraries" (.table []) = .table tables)
    (hshape : tables.LibraryShapes)
    (htext : tables.AllTextFolders) :
    ((∃ d' i, d.withLibraries files g = .ok (d', i)) ↔
      (∀ n ∈ tables.keys, ∀ m ∈ tables.dependencyNames n, m ∈ tables.keys) ∧
        ∀ n, ¬TransGen (DependsOn tables.dependencyNames) n n) ∧
    (∀ d' i, d.withLibraries files g = .ok (d', i) →
      (names i.made).Nodup ∧ (∀ n, n ∈ names i.made ↔ n ∈ tables.keys) ∧
        ∀ n id, find? i.made n = some id → ∃ l, i.graph.get? id = some l ∧ l.name = n ∧
          (tables.dependencyNames n).map (find? i.made) = l.dependencies.map some) ∧
    ((∀ n ∈ tables.keys, ∀ m ∈ tables.dependencyNames n, m ∈ tables.keys) →
      (∃ n, TransGen (DependsOn tables.dependencyNames) n n) →
      ∃ x, d.withLibraries files g = .error (.description (.libraryCycle x)) ∧
        TransGen (DependsOn tables.dependencyNames) x x ∧
        (Fault.description (.libraryCycle x)).message = "Library dependency cycle through '" ++ x ++ "'") := by
  have hmade : ∀ {d' i}, d.withLibraries files g = .ok (d', i) →
      i.Represents tables.dependencyNames ∧ ∀ n, n ∈ names i.made ↔ n ∈ tables.keys := by
    intro d' i h
    have hrep := withLibraries_represents hd h
    rwa [libraryTables_eq htables] at hrep
  have hacyclic : (∃ d' i, d.withLibraries files g = .ok (d', i)) →
      ∀ n, ¬TransGen (DependsOn tables.dependencyNames) n n := by
    rintro ⟨d', i, h⟩ n hcycle
    obtain ⟨hrep, hnames⟩ := hmade h
    exact (declared_of_represents hrep ((hnames n).mpr (Table.mem_keys_of_transGen hcycle))).2 hcycle
  have hfault : (∀ n ∈ tables.keys, ∀ m ∈ tables.dependencyNames n, m ∈ tables.keys) →
      (∃ d' i, d.withLibraries files g = .ok (d', i)) ∨
        ∃ x, d.withLibraries files g = .error (.description (.libraryCycle x)) ∧
          TransGen (DependsOn tables.dependencyNames) x x := by
    intro hdeclared
    cases h : d.withLibraries files g with
    | ok r => exact .inl ⟨r.1, r.2, rfl⟩
    | error e =>
      obtain ⟨x, rfl, hx⟩ :=
        (makeLibraries_fault htables (withLibraries_error h)).exists_cycle hshape htext hdeclared
      exact .inr ⟨x, rfl, hx⟩
  refine ⟨⟨fun h => ⟨?_, hacyclic h⟩, fun ⟨hdeclared, hno⟩ => ?_⟩, fun d' i h => ?_,
    fun hdeclared hcycle => ?_⟩
  · obtain ⟨d', i, h⟩ := h
    obtain ⟨hrep, hnames⟩ := hmade h
    intro n hn m hm
    exact (hnames m).mp ((declared_of_represents hrep ((hnames n).mpr hn)).1 m hm)
  · exact (hfault hdeclared).resolve_right fun ⟨x, _, hx⟩ => hno x hx
  · obtain ⟨hrep, hnames⟩ := hmade h
    exact ⟨hrep.nodup, hnames, hrep.library⟩
  · obtain ⟨n, hn⟩ := hcycle
    obtain ⟨x, h, hx⟩ := (hfault hdeclared).resolve_left fun h => hacyclic h n hn
    exact ⟨x, h, hx, rfl⟩

/-- Libraries that are declared before what they depend on, one of them shared. -/
def sharing : Description where
  data :=
    [("libraries", .table
      [("app", .table
        [("folder", .string "app"),
          ("dependencies", .list [.string "core", .string "util", .string "core"])]),
        ("core", .table
          [("manifest", .string "core.xml"), ("jar_file", .string "core.jar"),
            ("dependencies", .list [.string "util"])]),
        ("util", .table [("folder", .string "util")])])]
  baseDirectory := ⟨.root, []⟩

theorem withLibraries_ok_iff_sharing :
    sharing.KeepsMade .empty ∧ sharing.data.getD "libraries" (.table []) = .table sharing.libraryTables ∧
      sharing.libraryTables.LibraryShapes ∧ sharing.libraryTables.AllTextFolders ∧
      ∀ files, ∃ d' i, sharing.withLibraries files .empty = .ok (d', i) := by
  have hkeeps : sharing.KeepsMade .empty := keepsMade_of_none rfl _
  have htables : sharing.data.getD "libraries" (.table []) = .table sharing.libraryTables := by rfl
  have hshape : sharing.libraryTables.LibraryShapes := by
    refine List.forall_mem_cons.mpr ⟨⟨_, rfl, ⟨["core", "util", "core"], rfl⟩, .inl ⟨_, rfl⟩⟩, ?_⟩
    refine List.forall_mem_cons.mpr ⟨⟨_, rfl, ⟨["util"], rfl⟩, .inr ⟨⟨_, rfl⟩, ⟨_, rfl⟩⟩⟩, ?_⟩
    refine List.forall_mem_cons.mpr ⟨⟨_, rfl, ⟨[], rfl⟩, .inl ⟨_, rfl⟩⟩, ?_⟩
    exact fun _ h => absurd h List.not_mem_nil
  have htext : sharing.libraryTables.AllTextFolders := by
    refine List.forall_mem_cons.mpr ⟨fun t ht => ?_, List.forall_mem_cons.mpr ⟨fun t ht => ?_,
      List.forall_mem_cons.mpr ⟨fun t ht => ?_, fun _ h => absurd h List.not_mem_nil⟩⟩⟩
    · exact Value.table.inj ht ▸ Table.textFolders_of_folder rfl
    · exact Value.table.inj ht ▸ Table.textFolders_of_none rfl rfl
    · exact Value.table.inj ht ▸ Table.textFolders_of_folder rfl
  have hgrounded : Grounded sharing.libraryTables.dependencyNames ["app", "core", "util"] := by decide
  refine ⟨hkeeps, htables, hshape, htext, fun files => ?_⟩
  refine (withLibraries_ok_iff files sharing .empty _ hkeeps htables hshape htext).1.mpr ⟨by decide, ?_⟩
  intro n hn
  exact hgrounded.not_reachesCycle (by decide) (by decide) ⟨n, reached_of_mem (Table.mem_keys_of_transGen hn), hn⟩

/-- The folder of resources is a number. -/
def numbered : Description where
  data :=
    [("libraries", .table
      [("core", .table
        [("manifest", .string "m"), ("jar_file", .string "j"), ("res_folder", .integer 5)])])]
  baseDirectory := ⟨.root, []⟩

/-- The table gives its dependencies and its files, and the names have neither gaps nor cycles; but a
folder of resources has to be a text. -/
theorem withLibraries_numbered :
    numbered.instances = none ∧ numbered.data.getD "libraries" (.table []) = .table numbered.libraryTables ∧
      numbered.libraryTables.LibraryShapes ∧
      (∀ n ∈ numbered.libraryTables.keys, ∀ m ∈ numbered.libraryTables.dependencyNames n,
        m ∈ numbered.libraryTables.keys) ∧
      (∀ n, ¬TransGen (DependsOn numbered.libraryTables.dependencyNames) n n) ∧
      numbered.withLibraries (FileTree.empty.files ⟨.root, []⟩) .empty = .error (.value .notText) := by
  have hshape : numbered.libraryTables.LibraryShapes :=
    List.forall_mem_cons.mpr ⟨⟨_, rfl, ⟨[], rfl⟩, .inr ⟨⟨_, rfl⟩, ⟨_, rfl⟩⟩⟩,
      fun _ h => absurd h List.not_mem_nil⟩
  have hgrounded : Grounded numbered.libraryTables.dependencyNames ["core"] := by decide
  refine ⟨rfl, rfl, hshape, by decide, fun n hn => ?_, by cbv⟩
  exact hgrounded.not_reachesCycle (by decide) (by decide) ⟨n, reached_of_mem (Table.mem_keys_of_transGen hn), hn⟩

end Description

end BuildVariants
