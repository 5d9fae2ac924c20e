import BuildVariants.Proofs.Makeable
import BuildVariants.Proofs.Reordering

/-!
# The order of declarations

The libraries of a description are made in the order in which they are declared, each after those it depends
on, so two descriptions that declare the same in other orders go through the names in entirely different
ways. Which libraries there are, what their files are and how they depend on each other is the same
(`Description.DeclaresMore.makeable_iff`), and the flattening sees nothing else of them
(`Description.map_name_of_flatten`). So the order of declarations does not matter to a build, and neither do
declared libraries that nothing refers to (`Description.build_order_of_declarations`).
-/

namespace BuildVariants

open Relation (TransGen)

namespace Description

open Instances (IsMade find? names lookUp)

variable {files : Files} {d d' : Description} {i i' : Instances} {s : String}

/-! ## The files of libraries -/

theorem neededPath_eq {t t' : Table} (hbase : d'.baseDirectory = d.baseDirectory) (h : t.Reordered t')
    (name key : String) {β : Type} (k : Path → Except Fault β) :
    (needed name key t' >>= fun v => d'.path v >>= k) = (needed name key t >>= fun v => d.path v >>= k) := by
  have hkey := h key
  unfold needed
  generalize t.get? key = o at hkey
  generalize t'.get? key = o' at hkey
  cases hkey with
  | none => rfl
  | some hv => exact congrArg (· >>= k) (path_eq hbase hv)

theorem libraryFiles_eq {t t' : Table} (hbase : d'.baseDirectory = d.baseDirectory) (h : t.Reordered t')
    (name : String) : d'.libraryFiles files name t' = d.libraryFiles files name t := by
  have hfolder := h "folder"
  unfold libraryFiles
  generalize t.get? "folder" = o at hfolder
  generalize t'.get? "folder" = o' at hfolder
  cases hfolder with
  | some hv => simp only [path_eq hbase hv]
  | none => simp only [neededPath_eq hbase h, optionalPath_eq hbase (h.getD _ _)]

/-! ## Descriptions that declare more -/

/-- The names that the libraries of a description, the variant or its output depend on. -/
inductive RefersTo (d : Description) (s : String) : Prop
  | library {n : String} : s ∈ d.libraryTables.dependencyNames n → RefersTo d s
  | variant : s ∈ (d.data.getD "dependencies" (.list [])).texts → RefersTo d s
  | output {t : Table} : d.data.get? "output" = some (.table t) → s ∈ t.dependencyValue.texts → RefersTo d s

/-- A library of `d'` that can be made if those of `d` can, and that `d` does not refer to. -/
structure Further (d d' : Description) (s : String) : Prop where
  table : ∃ t : Table, d'.libraryTables.get? s = some (.table t) ∧ t.LibraryShape ∧ t.TextFolders
  declared : ∀ m ∈ d'.libraryTables.dependencyNames s, m ∈ d'.libraryTables.keys
  acyclic : ¬TransGen (DependsOn d'.libraryTables.dependencyNames) s s
  unused : ¬d.RefersTo s

/-- Equal but for the order of tables and for further libraries of `d'`. -/
structure DeclaresMore (d d' : Description) : Prop extends SameButLibraries d d' where
  library : ∀ s ∈ d.libraryTables.keys,
    Option.Rel Value.Reordered (d.libraryTables.get? s) (d'.libraryTables.get? s)
  further : ∀ s ∈ d'.libraryTables.keys, s ∉ d.libraryTables.keys → Further d d' s

theorem declaresMore_of_reordered (hbase : d'.baseDirectory = d.baseDirectory) (h : d.data.Reordered d'.data)
    (hlibraries : d.data.Holds "libraries" Value.IsTable) : d.DeclaresMore d' := by
  have hvalue := h.getD "libraries" (.table [])
  obtain ⟨tables, htables⟩ := hlibraries.getD isTable_nil
  rw [htables] at hvalue
  obtain ⟨tables', htables', hrel⟩ := hvalue.exists_table
  refine ⟨⟨hbase, fun key _ => h key⟩, ?_, ?_⟩
  · rw [libraryTables_eq htables, libraryTables_eq htables']
    exact fun s _ => hrel s
  · rw [libraryTables_eq htables, libraryTables_eq htables']
    exact fun s hs hno => absurd (hrel.mem_keys.mp hs) hno

namespace DeclaresMore

theorem mem_keys (h : d.DeclaresMore d') (hs : s ∈ d.libraryTables.keys) : s ∈ d'.libraryTables.keys := by
  rw [← Table.get?_isSome, Table.isSome_of_rel (h.library s hs)]
  exact Table.get?_isSome.mpr hs

/-- What is referred to is declared in both or in none. -/
theorem mem_keys_iff (h : d.DeclaresMore d') (hs : d.RefersTo s) :
    s ∈ d'.libraryTables.keys ↔ s ∈ d.libraryTables.keys :=
  ⟨fun hs' => by_contra fun hno => (h.further s hs' hno).unused hs, h.mem_keys⟩

theorem exists_table (h : d.DeclaresMore d') {t : Table} (ht : d.libraryTables.get? s = some (.table t)) :
    ∃ t' : Table, d'.libraryTables.get? s = some (.table t') ∧ t.Reordered t' := by
  have hrel := h.library s (Table.mem_keys_of_get? ht)
  exact Value.Reordered.exists_table_right (ht ▸ hrel)

theorem exists_table_of_mem (h : d.DeclaresMore d') (hs : s ∈ d.libraryTables.keys) {t' : Table}
    (ht' : d'.libraryTables.get? s = some (.table t')) :
    ∃ t : Table, d.libraryTables.get? s = some (.table t) ∧ t.Reordered t' :=
  Value.Reordered.exists_table_left (ht' ▸ h.library s hs)

theorem dependencyNames_eq (h : d.DeclaresMore d') (hshape : d.WellShaped) (hs : s ∈ d.libraryTables.keys) :
    d'.libraryTables.dependencyNames s = d.libraryTables.dependencyNames s := by
  have hrel := h.library s hs
  unfold Table.dependencyNames
  generalize ht : d.libraryTables.get? s = o at hrel
  generalize d'.libraryTables.get? s = o' at hrel
  cases hrel with
  | none => rfl
  | some hv =>
    cases hv with
    | same => rfl
    | table htt' =>
      exact congrArg Value.texts (Table.getD_eq_of_texts (htt' _) (hshape.declared _ _ ht).dependencies)

/-- Where all names are declared in `d`, they depend on each other as in `d`. -/
theorem renamings (h : d.DeclaresMore d') (hshape : d.WellShaped)
    (hdeclared : ∀ s ∈ d.libraryTables.keys, ∀ m ∈ d.libraryTables.dependencyNames s, m ∈ d.libraryTables.keys) :
    Renaming d.libraryTables.dependencyNames d'.libraryTables.dependencyNames (· ∈ d.libraryTables.keys) id ∧
      Renaming d'.libraryTables.dependencyNames d.libraryTables.dependencyNames (· ∈ d.libraryTables.keys) id := by
  have hdeps : ∀ s ∈ d.libraryTables.keys, d'.libraryTables.dependencyNames s = d.libraryTables.dependencyNames s :=
    fun s hs => h.dependencyNames_eq hshape hs
  refine ⟨.of_eq hdeclared hdeps, .of_eq (fun s hs => ?_) fun s hs => (hdeps s hs).symm⟩
  rw [hdeps s hs]
  exact hdeclared s hs

theorem declared (h : d.DeclaresMore d') (hshape : d.WellShaped) (hmake : d'.Makeable files) :
    ∀ s ∈ d.libraryTables.keys, ∀ m ∈ d.libraryTables.dependencyNames s, m ∈ d.libraryTables.keys := by
  intro s hs m hm
  have hm' : m ∈ d'.libraryTables.dependencyNames s := by rwa [h.dependencyNames_eq hshape hs]
  exact (h.mem_keys_iff (.library hm)).mp (hmake.declared s (h.mem_keys hs) m hm')

theorem makeable_iff (h : d.DeclaresMore d') (hshape : d.WellShaped) : d'.Makeable files ↔ d.Makeable files := by
  constructor
  · intro hmake
    have hdeclared := h.declared hshape hmake
    refine ⟨fun s hs => ?_, hdeclared, fun s hcycle => ?_⟩
    · obtain ⟨t', l, ht', hl⟩ := hmake.files s (h.mem_keys hs)
      obtain ⟨t, ht, htt'⟩ := h.exists_table_of_mem hs ht'
      rw [libraryFiles_eq h.baseDirectory htt'] at hl
      exact ⟨t, l, ht, hl⟩
    · have hs := Table.mem_keys_of_transGen hcycle
      exact hmake.acyclic s ((h.renamings hshape hdeclared).1.transGen hs hcycle).1
  · intro hmake
    refine ⟨fun s hs => ?_, fun s hs m hm => ?_, fun s hcycle => ?_⟩
    · by_cases hold : s ∈ d.libraryTables.keys
      · obtain ⟨t, l, ht, hl⟩ := hmake.files s hold
        obtain ⟨t', ht', htt'⟩ := h.exists_table ht
        rw [← libraryFiles_eq h.baseDirectory htt'] at hl
        exact ⟨t', l, ht', hl⟩
      · obtain ⟨t', ht', hlibrary, htext⟩ := (h.further s hs hold).table
        obtain ⟨l, hl⟩ := exists_libraryFiles files d' s hlibrary htext
        exact ⟨t', l, ht', hl⟩
    · by_cases hold : s ∈ d.libraryTables.keys
      · rw [h.dependencyNames_eq hshape hold] at hm
        exact h.mem_keys (hmake.declared s hold m hm)
      · exact (h.further s hs hold).declared m hm
    -- a cycle through a name of `d` would stay among the names of `d`
    · have hs := Table.mem_keys_of_transGen hcycle
      by_cases hold : s ∈ d.libraryTables.keys
      · exact hmake.acyclic s ((h.renamings hshape hmake.declared).2.transGen hold hcycle).1
      · exact (h.further s hs hold).acyclic hcycle

end DeclaresMore

/-! ## Libraries of the same names -/

theorem lookUp_texts {made : List (String × LibraryId)} {ns : List String} {ids : List LibraryId} :
    lookUp made (.list (ns.map .string)) = .ok ids ↔ ns.map (find? made) = ids.map some := by
  rw [Instances.lookUp_eq_ok]
  constructor
  · rintro ⟨ns', hns', hids⟩
    obtain rfl : ns = ns' := (Value.texts_eq (v := .list _) rfl).symm.trans (Value.texts_eq hns')
    exact hids
  · exact fun hids => ⟨ns, rfl, hids⟩

theorem lookUp_agree {made made' : List (String × LibraryId)} {ns : List String}
    (h : ∀ n ∈ ns, n ∈ names made' ↔ n ∈ names made) :
    Agree (fun ids ids' => ns.map (find? made) = ids.map some ∧ ns.map (find? made') = ids'.map some)
      (lookUp made (.list (ns.map .string))) (lookUp made' (.list (ns.map .string))) := by
  have hok : ∀ {made}, (∃ ids, lookUp made (.list (ns.map .string)) = .ok ids) ↔ ∀ n ∈ ns, n ∈ names made := by
    intro made
    constructor
    · rintro ⟨ids, hids⟩ n hn
      exact Instances.find?_isSome.mp ((Instances.map_eq_map_some.mp (lookUp_texts.mp hids)).1 n hn)
    · exact fun hns => Instances.exists_lookUp rfl fun n hn => Instances.find?_isSome.mpr (hns n hn)
  refine .of_iff ?_ fun ids ids' hids hids' => ⟨lookUp_texts.mp hids, lookUp_texts.mp hids'⟩
  rw [hok, hok]
  exact forall₂_congr h

section
variable {deps deps' : String → List String} {ns : List String} {direct direct' order order' : List LibraryId}

/-- The names of the flattened libraries depend on the names alone. -/
theorem map_name_of_flatten (hi : i.Represents deps) (hi' : i'.Represents deps')
    (hdeps : ∀ n ∈ names i.made, deps' n = deps n) (hns : ns.map (find? i.made) = direct.map some)
    (hns' : ns.map (find? i'.made) = direct'.map some) (h : i.graph.flatten direct = .ok order)
    (h' : i'.graph.flatten direct' = .ok order') : order'.map i'.graph.name = order.map i.graph.name := by
  have hmade : ∀ n ∈ ns, n ∈ names i.made := fun n hn =>
    Instances.find?_isSome.mp ((Instances.map_eq_map_some.mp hns).1 n hn)
  obtain ⟨hrun, _⟩ := hi.renaming.frontInserted (LibraryGraph.frontInserted_of_flatten h)
    (Instances.isMade_of_lookUp hns) fun _ ha => absurd ha List.not_mem_nil
  obtain ⟨hrun', _⟩ := hi'.renaming.frontInserted (LibraryGraph.frontInserted_of_flatten h')
    (Instances.isMade_of_lookUp hns') fun _ ha => absurd ha List.not_mem_nil
  rw [hi.map_name hns, List.map_nil] at hrun
  rw [hi'.map_name hns', List.map_nil] at hrun'
  have hsame : Renaming deps deps' (· ∈ names i.made) id := .of_eq (fun _ ha _ hb => hi.mem_of_dep ha hb) hdeps
  obtain ⟨hrun, _⟩ := hsame.frontInserted hrun hmade fun _ ha => absurd ha List.not_mem_nil
  simp only [List.map_id, List.map_nil] at hrun
  exact hrun'.unique hrun

/-- The resource folder of the library that was made for a name. -/
def resFolderOf (i : Instances) (n : String) : Option Path := ((find? i.made n).bind i.graph.get?).bind (·.resFolder)

theorem resFolders_eq (hi : i.Represents deps) (horder : ∀ a ∈ order, IsMade i.made a) :
    (i.graph.getAll order).filterMap (·.resFolder) = (order.map i.graph.name).filterMap (resFolderOf i) := by
  rw [LibraryGraph.getAll, List.filterMap_filterMap, List.filterMap_map]
  refine List.filterMap_congr fun a ha => ?_
  have hfind : find? i.made (i.graph.name a) = some a := (declared_iff hi).mpr (horder a ha)
  rw [Function.comp, resFolderOf, hfind]
  rfl

end

end Description

/-! ## Builds -/

/-- Equal in all but the places of the libraries; these have the same names in the same order, and the
same folders of resources. -/
structure Variant.SameBuild (g g' : LibraryGraph) (v v' : Variant) : Prop where
  name : v'.name = v.name
  kind : v'.kind = v.kind
  merged : v'.merged = v.merged
  buildType : v'.buildType = v.buildType
  mainSources : v'.mainSources = v.mainSources
  buildTypeSources : v'.buildTypeSources = v.buildTypeSources
  layers : v'.layers = v.layers
  jars : v'.jars = v.jars
  direct : v'.direct.map g'.name = v.direct.map g.name
  flat : v'.flat.map g'.name = v.flat.map g.name
  resourceInputs : (Configuration.plain v').resourceInputs g' = (Configuration.plain v).resourceInputs g
  compileClasspath : (Configuration.plain v').compileClasspath g' = (Configuration.plain v).compileClasspath g

theorem Variant.sameBuild_of_libraries {g g' : LibraryGraph} {v : Variant} {role role' : Role}
    {direct direct' flat flat' : List LibraryId} (hrole : role'.kind = role.kind)
    (hdirect : direct'.map g'.name = direct.map g.name) (hflat : flat'.map g'.name = flat.map g.name)
    (hresources : (g'.getAll flat').filterMap (·.resFolder) = (g.getAll flat).filterMap (·.resFolder)) :
    SameBuild g g' { v with role := role, direct := direct, flat := flat }
      { v with role := role', direct := direct', flat := flat' } where
  name := by
    unfold Variant.name Variant.kind
    dsimp only
    rw [hrole]
    rfl
  kind := hrole
  merged := rfl
  buildType := rfl
  mainSources := rfl
  buildTypeSources := rfl
  layers := rfl
  jars := rfl
  direct := hdirect
  flat := hflat
  resourceInputs := congrArg (Configuration.ownResources (.plain v) ++ ·) hresources
  compileClasspath := rfl

namespace Description

open Instances (IsMade find? names lookUp)

variable {files : Files} {d d' : Description} {g g' : LibraryGraph} {i i' : Instances} {v : Variant} {s : String}

namespace DeclaresMore

theorem mem_names_iff (h : d.DeclaresMore d') (hi : d.MadeFor files i) (hi' : d'.MadeFor files i')
    (hs : d.RefersTo s) : s ∈ names i'.made ↔ s ∈ names i.made := by
  rw [hi.names, hi'.names, h.mem_keys_iff hs]

theorem resFolderOf_eq (h : d.DeclaresMore d') (hi : d.MadeFor files i) (hi' : d'.MadeFor files i')
    (hs : s ∈ names i.made) : resFolderOf i' s = resFolderOf i s := by
  have hs' : s ∈ names i'.made := (hi'.names s).mpr (h.mem_keys ((hi.names s).mp hs))
  obtain ⟨id, hid⟩ := Option.isSome_iff_exists.mp (Instances.find?_isSome.mpr hs)
  obtain ⟨id', hid'⟩ := Option.isSome_iff_exists.mp (Instances.find?_isSome.mpr hs')
  obtain ⟨t, l, ht, hl, hget⟩ := hi.files s id hid
  obtain ⟨t', l', ht', hl', hget'⟩ := hi'.files s id' hid'
  obtain ⟨u, hu, htu⟩ := h.exists_table ht
  cases ht'.symm.trans hu
  rw [libraryFiles_eq h.baseDirectory htu, hl] at hl'
  cases hl'
  rw [resFolderOf, resFolderOf, hid, hid', Option.bind_some, Option.bind_some, hget, hget']
  rfl

theorem resFolders_agree (h : d.DeclaresMore d') (hi : d.MadeFor files i) (hi' : d'.MadeFor files i')
    {order order' : List LibraryId} (hmade : ∀ a ∈ order, IsMade i.made a) (hmade' : ∀ a ∈ order', IsMade i'.made a)
    (hnames : order'.map i'.graph.name = order.map i.graph.name) :
    (i'.graph.getAll order').filterMap (·.resFolder) = (i.graph.getAll order).filterMap (·.resFolder) := by
  rw [resFolders_eq hi.represents hmade, resFolders_eq hi'.represents hmade', hnames]
  refine List.filterMap_congr fun n hn => h.resFolderOf_eq hi hi' ?_
  obtain ⟨a, ha, rfl⟩ := List.mem_map.mp hn
  exact hi.represents.name_mem_names (hmade a ha)

theorem addJars_eq (h : d.DeclaresMore d') (hshape : d.WellShaped) (v : Variant) : d'.addJars v = d.addJars v := by
  rw [addJars, addJars, Table.getD_eq_of_texts (h.data "jars" (by decide)) hshape.jars, paths_eq h.baseDirectory]

theorem output_agree (h : d.DeclaresMore d') (hshape : d.WellShaped) (hi : d.MadeFor files i)
    (hi' : d'.MadeFor files i') {t t' : Table} (ht : d.data.get? "output" = some (.table t)) (htt' : t.Reordered t') :
    Agree (fun _ _ => True) (d.library files i.made "output" t) (d'.library files i'.made "output" t') := by
  have hvalue : t'.dependencyValue = t.dependencyValue :=
    Table.getD_eq_of_texts (htt' _) (hshape.output t ht).dependencies
  have hrefers : ∀ n ∈ t.dependencyValue.texts, d.RefersTo n := fun n hn => .output ht hn
  obtain ⟨ns, hns⟩ := (hshape.output t ht).isTexts
  rw [hns, Value.texts_eq (v := .list _) rfl] at hrefers
  rw [library_eq, library_eq, hvalue, hns, libraryFiles_eq h.baseDirectory htt']
  refine (lookUp_agree fun n hn => h.mem_names_iff hi hi' (hrefers n hn)).bind fun ids ids' _ _ _ => ?_
  exact .bind_eq rfl fun l _ => .ok trivial

/-- Whatever its output is, the variant is of the same kind. -/
theorem addOutput_agree (h : d.DeclaresMore d') (hshape : d.WellShaped) (hi : d.MadeFor files i)
    (hi' : d'.MadeFor files i') (hv : Bare v) :
    Agree (fun r r' => r.1.Extends i.graph ∧ r'.1.Extends i'.graph ∧ ∃ role role' : Role, role'.kind = role.kind ∧
        r.2 = { v with role := role } ∧ r'.2 = { v with role := role' })
      (d.addOutput files i v) (d'.addOutput files i' v) := by
  have hget := h.data "output" (by decide)
  have hhas : d'.data.has "output" = d.data.has "output" := by
    rw [Table.has_eq, Table.has_eq, Table.isSome_of_rel hget]
  unfold addOutput
  rw [hhas]
  by_cases hout : v.kind = .library ∧ d.data.has "output"
  · rw [if_pos hout, if_pos hout]
    refine (table_agree hget).bind fun t t' ht _ htt' => ?_
    refine (h.output_agree hshape hi hi' (table_ok ht) htt').bind fun l l' _ _ _ => ?_
    rw [hv.setOutput hout.1, hv.setOutput hout.1]
    exact .ok ⟨LibraryGraph.extends_add _ _, LibraryGraph.extends_add _ _, .library (some i.graph.size),
      .library (some i'.graph.size), rfl, rfl, rfl⟩
  · rw [if_neg hout, if_neg hout]
    exact .ok ⟨.refl _, .refl _, v.role, v.role, rfl, rfl, rfl⟩

theorem addLibraries_agree (h : d.DeclaresMore d') (hshape : d.WellShaped) (hi : d.MadeFor files i)
    (hi' : d'.MadeFor files i') {role role' : Role} (hrole : role'.kind = role.kind) :
    Agree (Variant.SameBuild i.graph i'.graph)
      (addLibraries i.made i.graph none (d.data.getD "dependencies" (.list [])) { v with role := role })
      (addLibraries i'.made i'.graph none (d'.data.getD "dependencies" (.list [])) { v with role := role' }) := by
  have hrefers : ∀ n ∈ (d.data.getD "dependencies" (.list [])).texts, d.RefersTo n := fun n hn => .variant hn
  rw [Table.getD_eq_of_texts (h.data "dependencies" (by decide)) hshape.dependencies]
  obtain ⟨ns, hns⟩ := hshape.dependencies.getD Table.isTexts_nil
  rw [hns, Value.texts_eq (v := .list _) rfl] at hrefers
  rw [hns]
  unfold addLibraries
  refine (lookUp_agree fun n hn => h.mem_names_iff hi hi' (hrefers n hn)).bind fun direct direct' _ _ hids => ?_
  obtain ⟨hdirect, hdirect'⟩ := hids
  have hmade := Instances.isMade_of_lookUp hdirect
  have hmade' := Instances.isMade_of_lookUp hdirect'
  obtain ⟨order, horder⟩ := LibraryGraph.flatten_of_not_reachesCycle (hi.represents.not_reachesCycle hmade)
  obtain ⟨order', horder'⟩ := LibraryGraph.flatten_of_not_reachesCycle (hi'.represents.not_reachesCycle hmade')
  rw [Variant.setLibraries_of_flatten horder, Variant.setLibraries_of_flatten horder']
  have hflat : order'.map i'.graph.name = order.map i.graph.name :=
    map_name_of_flatten hi.represents hi'.represents (fun n hn => h.dependencyNames_eq hshape ((hi.names n).mp hn))
      hdirect hdirect' horder horder'
  refine .ok (Variant.sameBuild_of_libraries hrole ?_ hflat ?_)
  · exact (hi'.represents.map_name hdirect').trans (hi.represents.map_name hdirect).symm
  · exact h.resFolders_agree hi hi' (hi.represents.isMade_of_flatten hmade horder)
      (hi'.represents.isMade_of_flatten hmade' horder') hflat

theorem finish_agree (h : d.DeclaresMore d') (hshape : d.WellShaped) (hi : d.MadeFor files i)
    (hi' : d'.MadeFor files i') (hv : Bare v) :
    Agree (fun r r' => r.2.SameBuild r.1 r'.1 r'.2) (d.finish files i v) (d'.finish files i' v) := by
  unfold finish
  refine .bind_eq (h.addJars_eq hshape v).symm fun u hu => ?_
  obtain ⟨jars, rfl⟩ := addJars_ok hu
  have hbare : Bare (v.setJars jars) := ⟨hv.role, hv.direct, hv.flat⟩
  refine (h.addOutput_agree hshape hi hi' hbare).bind fun ⟨g, w⟩ ⟨g', w'⟩ _ _ hr => ?_
  obtain ⟨hg, hg', role, role', hrole, rfl, rfl⟩ := hr
  refine (h.addLibraries_agree hshape (hi.extends hg) (hi'.extends hg') hrole).bind fun u u' _ _ hsame => ?_
  exact .ok hsame

end DeclaresMore

variable {d₀ d₀' : Description}

/-- The libraries of one are had exactly if those of the other are, and each stands for its own names. -/
theorem withLibraries_agree (h : d₀.DeclaresMore d₀') (hshape : d₀.WellShaped) (hshape' : d₀'.WellShaped)
    (hd : GrownFrom files d₀ d g) (hd' : GrownFrom files d₀' d' g') :
    Agree (fun r r' => (d₀.MadeFor files r.2 ∧ r.1.finish files = d₀.finish files) ∧
        d₀'.MadeFor files r'.2 ∧ r'.1.finish files = d₀'.finish files)
      (d.withLibraries files g) (d'.withLibraries files g') := by
  have hmade : ∀ {d₀ d : Description} {g r}, GrownFrom files d₀ d g → d.withLibraries files g = .ok r →
      d₀.MadeFor files r.2 ∧ r.1.finish files = d₀.finish files :=
    fun hd hi => ⟨hd.madeFor hi, (hd.withLibraries hi).1.grown.finish_eq⟩
  have hiff : (∃ r, d'.withLibraries files g' = .ok r) ↔ ∃ r, d.withLibraries files g = .ok r := by
    rw [exists_withLibraries_iff hd hshape, exists_withLibraries_iff hd' hshape', h.makeable_iff hshape]
  exact .of_iff hiff fun r r' hi hi' => ⟨hmade hd hi, hmade hd' hi'⟩

theorem build_agree (h : d₀.DeclaresMore d₀') (hshape : d₀.WellShaped) (hshape' : d₀'.WellShaped)
    (hd : GrownFrom files d₀ d g) (hd' : GrownFrom files d₀' d' g') (reader : ManifestReader)
    (buildType flavors : Value) :
    Agree (Variant.SameBuild (d.build files reader g buildType flavors).libraries
        (d'.build files reader g' buildType flavors).libraries)
      (d.build files reader g buildType flavors).outcome (d'.build files reader g' buildType flavors).outcome := by
  have hlayered : Agree Eq (d.layered files reader buildType flavors) (d'.layered files reader buildType flavors) := by
    rw [hd.layered_eq, hd'.layered_eq]
    exact layered_agree h.toSameButLibraries hshape.layers buildType flavors
  cases hv : d.layered files reader buildType flavors with
  | error e =>
    rw [hv] at hlayered
    obtain ⟨e', hv'⟩ := hlayered.exists_error
    rw [build, build, hv, hv']
    exact .error
  | ok v =>
    rw [hv] at hlayered
    obtain ⟨_, hv', rfl⟩ := hlayered.exists_ok
    have hlibraries := withLibraries_agree h hshape hshape' hd hd'
    cases hi : d.withLibraries files g with
    | error e =>
      rw [hi] at hlibraries
      obtain ⟨e', hi'⟩ := hlibraries.exists_error
      rw [build, build, hv, hv']
      dsimp only
      rw [hi, hi']
      exact .error
    | ok r =>
      rw [hi] at hlibraries
      obtain ⟨r', hi', ⟨hmade, hfinish⟩, hmade', hfinish'⟩ := hlibraries.exists_ok
      have hends := h.finish_agree hshape hmade hmade' (layered_ok hv).2
      rw [build_eq_finish hv hi, build_eq_finish hv' hi', hfinish, hfinish']
      generalize d₀.finish files r.2 v = finished at hends
      generalize d₀'.finish files r'.2 v = finished' at hends
      cases hends with
      | ok hsame => exact .ok hsame
      | error => exact .error

/-- Two descriptions of the documented shape that differ in the order of keys only, at whatever depth, give
the same variant up to the places of its libraries, or both give none; and so do two of which one declares
further libraries that the other does not refer to. Each description may have been used before. -/
theorem build_order_of_declarations {files : Files} {w₀ w w₀' w' : Workspace} {place place' : Nat}
    {d₀ d d₀' d' : Description} (hd₀ : w₀.descriptions[place]? = some d₀) (hfresh : d₀.instances = none)
    (hw : Workspace.History files w₀ w) (hd : w.descriptions[place]? = some d)
    (hd₀' : w₀'.descriptions[place']? = some d₀') (hfresh' : d₀'.instances = none)
    (hw' : Workspace.History files w₀' w') (hd' : w'.descriptions[place']? = some d')
    (hshape : d₀.WellShaped) (hshape' : d₀'.WellShaped) (reader : ManifestReader) (buildType flavors : Value)
    {b b' : Build} (hb : d.build files reader w.world.libraries buildType flavors = b)
    (hb' : d'.build files reader w'.world.libraries buildType flavors = b') :
    (d₀'.baseDirectory = d₀.baseDirectory → d₀.data.Reordered d₀'.data →
      Agree (Variant.SameBuild b.libraries b'.libraries) b.outcome b'.outcome) ∧
    (d₀.DeclaresMore d₀' → Agree (Variant.SameBuild b.libraries b'.libraries) b.outcome b'.outcome) := by
  have hgrown := hw.grownFrom hd₀ hfresh hd
  have hgrown' := hw'.grownFrom hd₀' hfresh' hd'
  subst hb hb'
  have hmore : d₀.DeclaresMore d₀' → _ := fun h => build_agree h hshape hshape' hgrown hgrown' reader buildType flavors
  exact ⟨fun hbase h => hmore (declaresMore_of_reordered hbase h hshape.libraries), hmore⟩

/-! ## One project, three descriptions -/

def folderLibrary (folder : String) (dependencies : List String) : Table :=
  [("folder", .string folder), ("dependencies", .list (dependencies.map .string))]

theorem libraryValues_folderLibrary (folder : String) (dependencies : List String) :
    (folderLibrary folder dependencies).LibraryValues where
  dependencies := fun v hv => by
    cases hv
    exact ⟨dependencies, rfl⟩
  folder := fun v hv => by
    cases hv
    exact ⟨folder, rfl⟩
  manifest := fun v hv => by cases hv
  jarFile := fun v hv => by cases hv
  resFolder := fun v hv => by cases hv

def project (libraries : Table) : Table :=
  [("default", .table []), ("build_types", .table [("debug", .table [])]), ("libraries", .table libraries),
    ("dependencies", .list [.string "util", .string "app"])]

def app : String × Value := ("app", .table (folderLibrary "app" ["core"]))

def core : String × Value := ("core", .table (folderLibrary "core" []))

def util : String × Value := ("util", .table (folderLibrary "util" []))

def spare : String × Value := ("spare", .table (folderLibrary "spare" ["app"]))

def inOrder : Description := ⟨project [app, core, util], ⟨.root, []⟩, none⟩

def reordered : Description := ⟨(project [util, core, app]).reverse, ⟨.root, []⟩, none⟩

def withSpare : Description := ⟨(project [spare, util, core, app]).reverse, ⟨.root, []⟩, none⟩

theorem nodup_project (libraries : Table) : (project libraries).keys.Nodup :=
  show ["default", "build_types", "libraries", "dependencies"].Nodup by decide

theorem get?_reverse_project (libraries : Table) (key : String) :
    Table.get? (project libraries).reverse key = (project libraries).get? key :=
  Table.get?_eq_of_perm (nodup_project libraries) (List.reverse_perm _).symm key

theorem getD_of_project {libraries : Table} (hget : ∀ key, d.data.get? key = (project libraries).get? key)
    (key : String) (missing : Value) : d.data.getD key missing = (project libraries).getD key missing := by
  rw [Table.getD, hget, Table.getD]

theorem wellShaped_of_project {libraries : Table} (hget : ∀ key, d.data.get? key = (project libraries).get? key)
    (hlibraries : ∀ e ∈ libraries, e ∈ [spare, app, core, util]) : d.WellShaped := by
  have htables : d.libraryTables = libraries := libraryTables_eq (getD_of_project hget _ _)
  have hbuildTypes : d.buildTypes = .table [("debug", .table [])] := getD_of_project hget _ _
  have hflavors : d.flavors = .table [] := getD_of_project hget _ _
  have hempty : Table.LayerShape [] := fun v hv => by cases hv
  constructor
  case layers =>
    intro t ht
    cases ht with
    | default h =>
      cases (hget _).symm.trans h
      exact hempty
    | buildType h h' =>
      cases hbuildTypes.symm.trans h
      obtain ⟨_, rfl⟩ : _ ∧ t = [] := by simpa using Table.mem_of_get? h'
      exact hempty
    | flavor h h' =>
      cases hflavors.symm.trans h
      cases h'
  case declared =>
    intro s t ht
    rw [htables] at ht
    have hentry := hlibraries _ (Table.mem_of_get? ht)
    simp only [spare, app, core, util, List.mem_cons, List.not_mem_nil, or_false, Prod.mk.injEq,
      Value.table.injEq] at hentry
    rcases hentry with ⟨_, rfl⟩ | ⟨_, rfl⟩ | ⟨_, rfl⟩ | ⟨_, rfl⟩ <;> exact libraryValues_folderLibrary _ _
  case dependencies =>
    intro v hv
    cases (hget _).symm.trans hv
    exact ⟨["util", "app"], rfl⟩
  case buildTypes | libraries =>
    intro v hv
    cases (hget _).symm.trans hv
    exact ⟨_, rfl⟩
  case flavors | jars | output | test =>
    intro v hv
    cases (hget _).symm.trans hv

theorem reordered_inOrder : inOrder.data.Reordered reordered.data := by
  have hkeys : (Table.keys [app, core, util]).Nodup := show ["app", "core", "util"].Nodup by decide
  have hperm : List.Perm [app, core, util] [util, core, app] := (List.reverse_perm _).symm
  have hlibraries : Value.Reordered (.table [app, core, util]) (.table [util, core, app]) := by
    refine .table fun key => ?_
    rw [Table.get?_eq_of_perm hkeys hperm]
    exact Value.Reordered.refl_option _
  have hin : List.Forall₂ (fun e e' => e.1 = e'.1 ∧ Value.Reordered e.2 e'.2) inOrder.data
      (project [util, core, app]) :=
    .cons ⟨rfl, .same _⟩ (.cons ⟨rfl, .same _⟩ (.cons ⟨rfl, hlibraries⟩ (.cons ⟨rfl, .same _⟩ .nil)))
  exact Table.reordered_of_perm hin (nodup_project _) (List.reverse_perm _).symm

theorem libraryTables_withSpare : withSpare.libraryTables = [spare, util, core, app] :=
  libraryTables_eq (getD_of_project (get?_reverse_project _) _ _)

theorem further_spare : Further inOrder withSpare "spare" := by
  have htables := libraryTables_withSpare
  have hgrounded : Grounded (Table.dependencyNames [spare, util, core, app]) ["spare", "app", "core", "util"] := by
    decide
  constructor
  case table =>
    rw [htables]
    exact ⟨_, rfl, ⟨⟨["app"], rfl⟩, .inl ⟨_, rfl⟩⟩, Table.textFolders_of_folder rfl⟩
  case declared =>
    rw [htables]
    decide
  case acyclic =>
    rw [htables]
    have hspare : ∀ a ∈ ["spare"], a ∈ ["spare", "app", "core", "util"] := by decide
    exact fun h => hgrounded.not_reachesCycle (by decide) hspare ⟨_, reached_of_mem List.mem_cons_self, h⟩
  case unused =>
    intro h
    cases h with
    | @library n h =>
      have hall : ∀ n ∈ inOrder.libraryTables.keys, "spare" ∉ inOrder.libraryTables.dependencyNames n := by decide
      exact hall n (Table.mem_keys_of_dependsOn h) h
    | variant h => exact absurd h (by decide)
    | output h => cases h

theorem declaresMore_withSpare : inOrder.DeclaresMore withSpare := by
  have htables := libraryTables_withSpare
  refine ⟨⟨rfl, fun key hkey => ?_⟩, fun s hs => ?_, fun s hs hno => ?_⟩
  · have hsame : (project [spare, util, core, app]).get? key = inOrder.data.get? key := by
      simp [inOrder, project, Table.get?, List.find?_cons, Ne.symm hkey]
    rw [withSpare, get?_reverse_project, hsame]
    exact Value.Reordered.refl_option _
  · have hs : s ∈ ["app", "core", "util"] := hs
    simp only [List.mem_cons, List.not_mem_nil, or_false] at hs
    rw [htables]
    rcases hs with rfl | rfl | rfl <;> exact Value.Reordered.refl_option _
  · rw [htables] at hs
    rcases List.mem_cons.mp hs with rfl | hs
    · exact further_spare
    · exact absurd (List.mem_reverse.mp hs) hno

def projectBuild (d : Description) : Build :=
  d.build bundleFiles (fun _ => .ok none) .empty (.string "debug") (.list [])

/-- The libraries are made in different orders, and flattened in the same. -/
theorem build_order_of_declarations_project :
    inOrder.WellShaped ∧ reordered.WellShaped ∧ withSpare.WellShaped ∧ inOrder.data.Reordered reordered.data ∧
      inOrder.DeclaresMore withSpare ∧
      ∃ v v' v'', (projectBuild inOrder).outcome = .ok v ∧ (projectBuild reordered).outcome = .ok v' ∧
        (projectBuild withSpare).outcome = .ok v'' ∧ v.flat = [2, 1, 0] ∧ v'.flat = [0, 2, 1] ∧
        v'.flat.map (projectBuild reordered).libraries.name = ["util", "app", "core"] ∧
        v''.flat.map (projectBuild withSpare).libraries.name = ["util", "app", "core"] := by
  have hshape : inOrder.WellShaped := wellShaped_of_project (fun _ => rfl) (by simp)
  have hshape' : reordered.WellShaped := wellShaped_of_project (get?_reverse_project _) (by simp)
  have hshape'' : withSpare.WellShaped := wellShaped_of_project (get?_reverse_project _) (by simp)
  have hagree (d : Description) (hfresh : d.instances = none) (hd : d.WellShaped) :=
    build_order_of_declarations (show (#[inOrder])[0]? = some inOrder from rfl) rfl
      (show Workspace.History bundleFiles { descriptions := #[inOrder] } _ from .refl) rfl
      (show (#[d])[0]? = some d from rfl) hfresh
      (show Workspace.History bundleFiles { descriptions := #[d] } _ from .refl) rfl hshape hd
      (fun _ => .ok none) (.string "debug") (.list [])
      (show _ = projectBuild inOrder from rfl) (show _ = projectBuild d from rfl)
  have hrun : (projectBuild inOrder).outcome.toOption.map
      (fun v => (v.flat, v.flat.map (projectBuild inOrder).libraries.name)) =
        some ([2, 1, 0], ["util", "app", "core"]) := by cbv
  have hrun' : (projectBuild reordered).outcome.toOption.map (·.flat) = some [0, 2, 1] := by cbv
  obtain ⟨v, hv, hflat⟩ := Option.map_eq_some_iff.mp hrun
  obtain ⟨v', hv', hflat'⟩ := Option.map_eq_some_iff.mp hrun'
  obtain ⟨hplaces, hnames⟩ := Prod.mk.inj hflat
  have hv := eq_ok_of_toOption hv
  have hordered := (hagree reordered rfl hshape').1 rfl reordered_inOrder
  have hmore := (hagree withSpare rfl hshape'').2 declaresMore_withSpare
  rw [hv] at hordered hmore
  obtain ⟨w', hw', hsame⟩ := hordered.exists_ok
  obtain ⟨v'', hv'', hsame'⟩ := hmore.exists_ok
  obtain rfl : w' = v' := Except.ok.inj (hw'.symm.trans (eq_ok_of_toOption hv'))
  exact ⟨hshape, hshape', hshape'', reordered_inOrder, declaresMore_withSpare, v, w', v'', hv, hw', hv'', hplaces,
    hflat', hsame.flat.trans hnames, hsame'.flat.trans hnames⟩

end Description

end BuildVariants
