import BuildVariants.Proofs.Building
import BuildVariants.Proofs.PriorityOrder
import BuildVariants.Proofs.Renaming

/-!
# The order of the declared names

The flattened libraries of a variant that is built from a description have the names that the plain
recursion gives on the declared names alone. For a test of a library the output of that library is
one more node, which no declared name stands for.
-/

namespace BuildVariants

namespace Instances

variable {i : Instances} {deps : String → List String}

/-- The libraries that some name stands for. -/
def IsMade (made : List (String × LibraryId)) (id : LibraryId) : Prop := ∃ n, find? made n = some id

theorem isMade_of_lookUp {ns : List String} {ids : List LibraryId} {made : List (String × LibraryId)}
    (h : ns.map (find? made) = ids.map some) : ∀ id ∈ ids, IsMade made id := by
  intro id hid
  have hm : some id ∈ ns.map (find? made) := h ▸ List.mem_map_of_mem hid
  obtain ⟨n, _, hn⟩ := List.mem_map.mp hm
  exact ⟨n, hn⟩

/-- The library of a name has this name. -/
theorem Represents.name_eq (hi : i.Represents deps) {n : String} {id : LibraryId}
    (h : find? i.made n = some id) : i.graph.name id = n := by
  obtain ⟨l, hl, hname, _⟩ := hi.library n id h
  rw [LibraryGraph.name_eq hl, hname]

theorem Represents.map_name (hi : i.Represents deps) {ns : List String} {ids : List LibraryId}
    (h : ns.map (find? i.made) = ids.map some) : ids.map i.graph.name = ns := by
  obtain ⟨hall, rfl⟩ := map_eq_map_some.mp h
  clear h
  induction ns with
  | nil => rfl
  | cons n ns ih =>
    obtain ⟨id, hid⟩ := Option.isSome_iff_exists.mp (hall n List.mem_cons_self)
    rw [List.filterMap_cons_some hid, List.map_cons, hi.name_eq hid,
      ih fun m hm => hall m (List.mem_cons_of_mem _ hm)]

/-- What a made library depends on has been looked up among the made libraries. -/
theorem Represents.dependencies_eq (hi : i.Represents deps) {n : String} {id : LibraryId}
    (h : find? i.made n = some id) :
    (deps n).map (find? i.made) = (i.graph.dependencies id).map some := by
  obtain ⟨l, hl, _, hdeps⟩ := hi.library n id h
  rw [hdeps, LibraryGraph.dependencies_eq hl]

theorem Represents.isMade_of_dependency (hi : i.Represents deps) {a b : LibraryId} (ha : IsMade i.made a)
    (hb : b ∈ i.graph.dependencies a) : IsMade i.made b := by
  obtain ⟨n, hn⟩ := ha
  exact isMade_of_lookUp (hi.dependencies_eq hn) b hb

theorem Represents.name_injective (hi : i.Represents deps) {a b : LibraryId} (ha : IsMade i.made a)
    (hb : IsMade i.made b) (h : i.graph.name a = i.graph.name b) : a = b := by
  obtain ⟨n, hn⟩ := ha
  obtain ⟨m, hm⟩ := hb
  rw [hi.name_eq hn, hi.name_eq hm] at h
  subst h
  exact Option.some.inj (hn.symm.trans hm)

/-- The made libraries under the declared names. -/
theorem Represents.renaming (hi : i.Represents deps) :
    Renaming i.graph.dependencies deps (IsMade i.made) i.graph.name where
  closed := fun _ ha _ hb => hi.isMade_of_dependency ha hb
  deps_apply := fun a ⟨n, hn⟩ => by rw [hi.name_eq hn, hi.map_name (hi.dependencies_eq hn)]
  injective := fun _ _ => hi.name_injective

theorem Represents.name_mem_names (hi : i.Represents deps) {a : LibraryId} (ha : IsMade i.made a) :
    i.graph.name a ∈ names i.made := by
  obtain ⟨n, hn⟩ := ha
  rw [hi.name_eq hn, ← find?_isSome, hn]
  rfl

/-- Libraries of names lead to libraries of names only. -/
theorem Represents.isMade_of_flatten (hi : i.Represents deps) {direct order : List LibraryId}
    (hd : ∀ a ∈ direct, IsMade i.made a) (h : i.graph.flatten direct = .ok order) : ∀ a ∈ order, IsMade i.made a := by
  intro a ha
  have hreached := ((LibraryGraph.flatten_ok h).2.2 a).mp ha
  exact hreached.of_closed hd fun _ hb _ hc => hi.isMade_of_dependency hb hc

/-- They lead to no cycle. -/
theorem Represents.not_reachesCycle (hi : i.Represents deps) {direct : List LibraryId}
    (hd : ∀ id ∈ direct, IsMade i.made id) : ¬ReachesCycle i.graph.dependencies direct := by
  intro hcycle
  have hnames : ∀ n ∈ direct.map i.graph.name, n ∈ (names i.made).reverse := by
    intro n hn
    obtain ⟨id, hid, rfl⟩ := List.mem_map.mp hn
    exact List.mem_reverse.mpr (hi.name_mem_names (hd id hid))
  exact hi.grounded.not_reachesCycle (List.nodup_reverse.mpr hi.nodup) hnames (hi.renaming.reachesCycle hd hcycle)

end Instances

/-! ## One more node -/

/-- How a library is known beside the output of a tested library: the output as itself, any other by
its name. -/
def LibraryGraph.label (g : LibraryGraph) (output id : LibraryId) : Option String :=
  if id = output then none else some (g.name id)

/-- The graph of names with one more node that has these dependencies. -/
def withOutput (deps : String → List String) (outputDeps : List String) : Option String → List (Option String)
  | none => outputDeps.map some
  | some n => (deps n).map some

namespace Instances

variable {i : Instances} {deps : String → List String} {output : LibraryId} {outputDeps : List String}

theorem label_self (g : LibraryGraph) (output : LibraryId) : g.label output output = none := if_pos rfl

theorem label_of_ne {g : LibraryGraph} {id : LibraryId} (h : id ≠ output) :
    g.label output id = some (g.name id) := if_neg h

theorem Represents.map_label (hi : i.Represents deps) (hout : ¬IsMade i.made output) {ns : List String}
    {ids : List LibraryId} (h : ns.map (find? i.made) = ids.map some) :
    ids.map (i.graph.label output) = ns.map some := by
  have hne : ∀ id ∈ ids, id ≠ output := fun id hid e => hout (e ▸ isMade_of_lookUp h id hid)
  rw [List.map_congr_left fun id hid => label_of_ne (hne id hid), ← hi.map_name h, List.map_map]
  rfl

/-- The made libraries and an output that is none of them, under the declared names and one more. -/
theorem Represents.renaming_withOutput (hi : i.Represents deps) (hout : ¬IsMade i.made output)
    (h : outputDeps.map (find? i.made) = (i.graph.dependencies output).map some) :
    Renaming i.graph.dependencies (withOutput deps outputDeps) (fun id => id = output ∨ IsMade i.made id)
      (i.graph.label output) where
  closed := by
    rintro a (rfl | ha) b hb
    · exact .inr (isMade_of_lookUp h b hb)
    · exact .inr (hi.isMade_of_dependency ha hb)
  deps_apply := by
    rintro a (rfl | ⟨n, hn⟩)
    · rw [label_self, hi.map_label hout h]
      rfl
    · have hne : a ≠ output := fun e => hout (e ▸ ⟨n, hn⟩)
      rw [label_of_ne hne, hi.name_eq hn, hi.map_label hout (hi.dependencies_eq hn)]
      rfl
  injective := by
    intro a b ha hb hab
    by_cases hao : a = output
    · by_cases hbo : b = output
      · rw [hao, hbo]
      · rw [hao, label_self, label_of_ne hbo] at hab
        cases hab
    · by_cases hbo : b = output
      · rw [hbo, label_self, label_of_ne hao] at hab
        cases hab
      · rw [label_of_ne hao, label_of_ne hbo] at hab
        exact hi.name_injective (ha.resolve_left hao) (hb.resolve_left hbo) (Option.some.inj hab)

end Instances

/-! ## Flattening under other names -/

/-- Where a renaming holds, the flattened libraries have the names that the plain recursion gives. -/
theorem Renaming.frontInsert_flatten {β : Type} [DecidableEq β] {g : LibraryGraph} {deps' : β → List β}
    {p : LibraryId → Prop} {f : LibraryId → β} (r : Renaming g.dependencies deps' p f)
    {direct order : List LibraryId} (hp : ∀ l ∈ direct, p l) (h : g.flatten direct = .ok order)
    {depth : Nat} (hdepth : order.length ≤ depth) :
    frontInsert deps' depth (direct.map f) [] = some (order.map f) := by
  have hrun := LibraryGraph.frontInserted_of_flatten h
  obtain ⟨hf, _⟩ := r.frontInserted hrun hp fun _ h => absurd h List.not_mem_nil
  exact hf.frontInsert_eq (by rwa [List.length_map])

namespace Description

open Instances (find? lookUp IsMade)

variable {files : Files} {reader : ManifestReader} {d : Description} {g : LibraryGraph}

/-- The output of `v` is a library of no declared name, and depends on the libraries of these names. -/
structure HasOutput (g : LibraryGraph) (made : List (String × LibraryId)) (t : Table) (v : Variant)
    (output : LibraryId) (ns : List String) : Prop where
  role : v.role = .library (some output)
  not_isMade : ¬IsMade made output
  elements : t.dependencyValue.elements = .ok (ns.map .string)
  library : ∃ l, g.get? output = some l ∧ l.name = "output" ∧
    ns.map (find? made) = l.dependencies.map some

/-- What a built variant has to do with the names of its description, where `made` are the libraries
of the names in `g`. -/
structure BuiltFrom (d : Description) (g : LibraryGraph) (made : List (String × LibraryId)) (v : Variant) :
    Prop where
  represents : Instances.Represents ⟨g, made⟩ d.libraryTables.dependencyNames
  direct : ∃ ns : List String, (d.data.getD "dependencies" (.list [])).elements = .ok (ns.map .string) ∧
    ns.map (find? made) = v.direct.map some
  flat : g.flatten v.direct = .ok v.flat
  output : ∀ t : Table, v.kind = .library → d.data.get? "output" = some (.table t) →
    ∃ output ns, HasOutput g made t v output ns

theorem OutputAdded.hasOutput {i : Instances} {v v' : Variant} {h : LibraryGraph} {deps : String → List String}
    (ho : OutputAdded files d i v h v') (hi : i.Represents deps) {t : Table} (hkind : v'.kind = .library)
    (ht : d.data.get? "output" = some (.table t)) : ∃ output ns, HasOutput h i.made t v' output ns := by
  cases ho with
  | none hno =>
    refine absurd ⟨hkind, ?_⟩ hno
    exact List.any_eq_true.mpr ⟨_, Table.mem_of_get? ht, by simp⟩
  | @output t' l _ ht' hl =>
    rw [ht] at ht'
    cases ht'
    obtain ⟨hname, hids⟩ := library_ok hl
    obtain ⟨ns, hns, hids⟩ := Instances.lookUp_eq_ok.mp hids
    refine ⟨i.graph.size, ns, rfl, ?_, hns, l, LibraryGraph.get?_add_size i.graph l, hname, hids⟩
    -- every library of a name was in the graph before
    rintro ⟨n, hn⟩
    obtain ⟨m, hm, _⟩ := hi.library n _ hn
    exact Nat.lt_irrefl _ (LibraryGraph.lt_size_of_get? hm)

theorem BuildEnds.builtFrom {buildType flavors : Value} {b : Build} {v : Variant} (hd : d.KeepsMade g)
    (h : BuildEnds files reader d g buildType flavors b) (hv : b.outcome = .ok v) :
    ∃ made, b.description.instances = some made ∧ b.description.data = d.data ∧
      d.BuiltFrom b.libraries made v := by
  cases h with
  | early => cases hv
  | late => cases hv
  | @built d' i h layered w final jars _ hi ho hl =>
    cases hv
    obtain ⟨rfl, _, _⟩ := withLibraries_ok hd hi
    obtain ⟨hrep, _⟩ := withLibraries_represents hd hi
    refine ⟨i.made, rfl, rfl, ?_⟩
    cases hl with
    | @mk direct full order hdirect hfull hflat =>
      cases hfull
      refine ⟨hrep.extends ho.extends, Instances.lookUp_eq_ok.mp hdirect, hflat, fun t hkind ht => ?_⟩
      obtain ⟨output, ns, hout⟩ := ho.hasOutput hrep hkind ht
      exact ⟨output, ns, hout.role, hout.not_isMade, hout.elements, hout.library⟩

theorem withLibraries_of_instances {made : List (String × LibraryId)} (h : d.instances = some made) :
    d.withLibraries files g = .ok (d, ⟨g, made⟩) := by
  rw [withLibraries, h]

/-- The libraries of a test come from its own names, the output of the tested library, and the names
of that library. -/
theorem TestBuildEnds.flat {id : VariantId} {v t : Variant} {b : Build} {made : List (String × LibraryId)}
    {output : LibraryId} (hd : d.instances = some made) (h : TestBuildEnds files reader d g id v b)
    (hv : v.role = .library (some output)) (ht : b.outcome = .ok t) :
    ∃ (testTable : Table) (ns : List String), d.data.get? "test" = some (.table testTable) ∧
      testTable.dependencyValue.elements = .ok (ns.map .string) ∧
      ns.map (find? made) = t.direct.map some ∧ g.flatten (t.direct ++ output :: v.direct) = .ok t.flat := by
  cases h with
  | early => cases ht
  | late => cases ht
  | @built d' i testTable layered final htest _ hi hl =>
    rw [withLibraries_of_instances hd] at hi
    cases hi
    cases ht
    cases hl with
    | @mk direct full order hdirect hfull hflat =>
      obtain ⟨ns, hns, hids⟩ := Instances.lookUp_eq_ok.mp hdirect
      refine ⟨testTable, ns, htest, hns, hids, ?_⟩
      simp only [Variant.fullDirect, hv, Except.ok.injEq] at hfull
      rw [← hfull] at hflat
      exact hflat

/-- The flattened libraries of a built variant have the names that the plain recursion gives on the
declared names. For a test of a library variant with an output, the recursion starts from the names of
the test, the output as a node of its own, and the names of the library variant, whatever libraries
have been added since. -/
theorem build_flat_names {w : Workspace} (hw : w.Reachable) {place : Nat} {d : Description}
    (hd : w.descriptions[place]? = some d) (files : Files) (reader : ManifestReader)
    (buildType flavors : Value) {b : Build}
    (hb : d.build files reader w.world.libraries buildType flavors = b) {v : Variant}
    (hv : b.outcome = .ok v) :
    ∃ ns : List String, (d.data.getD "dependencies" (.list [])).elements = .ok (ns.map .string) ∧
      (∀ depth, v.flat.length ≤ depth →
        frontInsert d.libraryTables.dependencyNames depth ns [] = some (v.flat.map b.libraries.name)) ∧
      ∀ outputTable : Table, v.kind = .library → d.data.get? "output" = some (.table outputTable) →
        ∃ (output : LibraryId) (outputNames : List String), v.output = some output ∧
          outputTable.dependencyValue.elements = .ok (outputNames.map .string) ∧
          ∀ (g : LibraryGraph) (files : Files) (reader : ManifestReader) (id : VariantId) (t : Variant),
            g.Extends b.libraries → (b.description.buildTest files reader g id v).outcome = .ok t →
            ∃ (testTable : Table) (testNames : List String), d.data.get? "test" = some (.table testTable) ∧
              testTable.dependencyValue.elements = .ok (testNames.map .string) ∧
              (∀ depth, t.flat.length ≤ depth →
                frontInsert (withOutput d.libraryTables.dependencyNames outputNames) depth
                  (testNames.map some ++ none :: ns.map some) [] = some (t.flat.map (g.label output))) ∧
              t.flat.map g.name = (t.flat.map (g.label output)).map (·.getD "output") := by
  have hends : BuildEnds files reader d w.world.libraries buildType flavors b := hb ▸ build_ends ..
  obtain ⟨made, hmade, hdata, hbuilt⟩ := hends.builtFrom (hw.keepsMade place d hd) hv
  obtain ⟨ns, hns, hdirect⟩ := hbuilt.direct
  refine ⟨ns, hns, fun depth hdepth => ?_, fun outputTable hkind houtput => ?_⟩
  · have hrec := hbuilt.represents.renaming.frontInsert_flatten
      (Instances.isMade_of_lookUp hdirect) hbuilt.flat hdepth
    rwa [hbuilt.represents.map_name hdirect] at hrec
  · obtain ⟨output, outputNames, hout⟩ := hbuilt.output outputTable hkind houtput
    refine ⟨output, outputNames, by rw [Variant.output, hout.role], hout.elements, ?_⟩
    intro g files reader id t hg ht
    obtain ⟨testTable, testNames, htest, htestNames, htestDirect, hflat⟩ :=
      (buildTest_ends files reader b.description g id v).flat hmade hout.role ht
    rw [hdata] at htest
    obtain ⟨l, hl, hlname, hldeps⟩ := hout.library
    have hl' : g.get? output = some l := hg output l hl
    rw [← LibraryGraph.dependencies_eq hl'] at hldeps
    have hrep := hbuilt.represents.extends hg
    refine ⟨testTable, testNames, htest, htestNames, fun depth hdepth => ?_, ?_⟩
    · have hstart : ∀ m ∈ t.direct ++ output :: v.direct, m = output ∨ IsMade made m := by
        intro m hm
        rcases List.mem_append.mp hm with hm | hm
        · exact .inr (Instances.isMade_of_lookUp htestDirect m hm)
        · rcases List.mem_cons.mp hm with rfl | hm
          · exact .inl rfl
          · exact .inr (Instances.isMade_of_lookUp hdirect m hm)
      have hrec := (hrep.renaming_withOutput hout.not_isMade hldeps).frontInsert_flatten hstart hflat hdepth
      rwa [List.map_append, List.map_cons, Instances.label_self, hrep.map_label hout.not_isMade htestDirect,
        hrep.map_label hout.not_isMade hdirect] at hrec
    · rw [List.map_map]
      refine List.map_congr_left fun m _ => ?_
      rw [Function.comp, LibraryGraph.label]
      split
      · rename_i hm
        rw [hm, LibraryGraph.name_eq hl', hlname]
        rfl
      · rfl

/-- A library variant whose output has the name of a declared library. -/
def bundle : Description where
  data :=
    [("variant_type", .string "library"), ("default", .table []), ("build_types", .table [("debug", .table [])]),
      ("dependencies", .list [.string "core", .string "output"]),
      ("libraries", .table
        [("core", .table [("folder", .string "core"), ("dependencies", .list [.string "util", .string "util"])]),
          ("output", .table [("folder", .string "o"), ("dependencies", .list [.string "util"])]),
          ("util", .table [("folder", .string "util")])]),
      ("output", .table [("folder", .string "out"), ("dependencies", .list [.string "output"])]),
      ("test", .table [("dependencies", .list [.string "util"])])]
  baseDirectory := ⟨.root, []⟩

def bundleFiles : Files where
  workingDirectory := ⟨.root, []⟩
  isFile p := p.names = ["src", "main", "AndroidManifest.xml"]
  isDirectory _ := false
  read _ := .error (.cannotOpen .missing)

def bundleBuild : Build :=
  bundle.build bundleFiles (fun _ => .ok none) .empty (.string "debug") (.list [])

def bundleTest (v : Variant) : Build :=
  bundleBuild.description.buildTest bundleFiles (fun _ => .ok none) bundleBuild.libraries 0 v

theorem bundle_runs : ∃ v t, bundleBuild.outcome = .ok v ∧ (bundleTest v).outcome = .ok t ∧
    v.kind = .library ∧ v.flat.length = 3 ∧ t.flat.length = 4 := by
  have hrun : (bundleBuild.outcome.toOption.bind fun v => (bundleTest v).outcome.toOption.map fun t =>
      (v.kind, v.flat.length, t.flat.length)) = some (.library, 3, 4) := by cbv
  obtain ⟨v, hv, hrun⟩ := Option.bind_eq_some_iff.mp hrun
  obtain ⟨t, ht, hrun⟩ := Option.map_eq_some_iff.mp hrun
  simp only [Prod.mk.injEq] at hrun
  exact ⟨v, t, eq_ok_of_toOption hv, eq_ok_of_toOption ht, hrun⟩

theorem build_flat_names_bundle :
    Workspace.Reachable { descriptions := #[bundle] } ∧
      ∃ (v t : Variant) (output : LibraryId), bundleBuild.outcome = .ok v ∧ (bundleTest v).outcome = .ok t ∧
        v.flat.map bundleBuild.libraries.name = ["core", "output", "util"] ∧
        t.flat.map (bundleBuild.libraries.label output) = [none, some "core", some "output", some "util"] ∧
        t.flat.map bundleBuild.libraries.name = ["output", "core", "output", "util"] := by
  have hw : Workspace.Reachable { descriptions := #[bundle] } := .describe .start rfl
  obtain ⟨v, t, hv, ht, hkind, hvlen, htlen⟩ := bundle_runs
  obtain ⟨ns, hns, hflat, htests⟩ :=
    build_flat_names hw (show (#[bundle])[0]? = some bundle from rfl) bundleFiles (fun _ => .ok none)
      (.string "debug") (.list []) (show _ = bundleBuild from rfl) hv
  obtain ⟨output, outputNames, _, houtput, htest⟩ := htests _ hkind rfl
  obtain ⟨testTable, testNames, htable, htestNames, hlabels, hnames⟩ := htest _ _ _ 0 t (.refl _) ht
  cases htable
  obtain rfl : ["core", "output"] = ns := (Value.texts_eq (v := .list _) rfl).symm.trans (Value.texts_eq hns)
  obtain rfl : ["output"] = outputNames :=
    (Value.texts_eq (v := .list _) rfl).symm.trans (Value.texts_eq houtput)
  obtain rfl : ["util"] = testNames := (Value.texts_eq (v := .list _) rfl).symm.trans (Value.texts_eq htestNames)
  have hflat := hflat 3 (Nat.le_of_eq hvlen)
  have hlabels := hlabels 4 (Nat.le_of_eq htlen)
  have hv3 : frontInsert bundle.libraryTables.dependencyNames 3 ["core", "output"] [] =
      some ["core", "output", "util"] := by cbv
  have ht4 : frontInsert (withOutput bundle.libraryTables.dependencyNames ["output"]) 4
      [some "util", none, some "core", some "output"] [] =
      some [none, some "core", some "output", some "util"] := by cbv
  rw [hv3] at hflat
  rw [List.map_cons, List.map_nil, List.map_cons, List.map_cons, List.map_nil, List.singleton_append, ht4] at hlabels
  refine ⟨hw, v, t, output, hv, ht, (Option.some.inj hflat).symm, (Option.some.inj hlabels).symm, ?_⟩
  rw [hnames, ← Option.some.inj hlabels]
  rfl

end Description

end BuildVariants
