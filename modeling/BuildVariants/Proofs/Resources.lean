import BuildVariants.Proofs.Configurations

/-!
# Resource folders

The resource folders of a variant are its own ones and then those of its flattened libraries. Its source
sets are the two it was made with and those that came with its flavors, whatever other commands came in
between. The flattened libraries are grounded at any time, so the folder of a library comes before those
of all libraries that it depends on, also where a library in between has none
(`World.run_resources_in_overlay_order`).
-/

namespace BuildVariants

open Relation (TransGen)

/-! ## The folders of libraries -/

def LibraryGraph.resFolder? (g : LibraryGraph) (l : LibraryId) : Option Path :=
  (g.get? l).bind (·.resFolder)

namespace Configuration

/-- The flattened libraries that have a resource folder, each with its folder. -/
def libraryFolders (g : LibraryGraph) (c : Configuration) : List (LibraryId × Path) :=
  c.variant.flat.filterMap fun l => (g.resFolder? l).map (Prod.mk l)

variable {g : LibraryGraph} {c : Configuration}

theorem map_fst_libraryFolders (g : LibraryGraph) (c : Configuration) :
    (c.libraryFolders g).map Prod.fst = c.variant.flat.filter fun l => (g.resFolder? l).isSome := by
  unfold libraryFolders
  induction c.variant.flat with
  | nil => rfl
  | cons l rest ih => cases h : g.resFolder? l <;> simp [h, ih]

theorem map_snd_libraryFolders (g : LibraryGraph) (c : Configuration) :
    (c.libraryFolders g).map Prod.snd = (g.getAll c.variant.flat).filterMap (·.resFolder) := by
  unfold libraryFolders LibraryGraph.getAll
  rw [List.map_filterMap, List.filterMap_filterMap]
  apply List.filterMap_congr
  intro l _
  show ((g.resFolder? l).map (Prod.mk l)).map Prod.snd = g.resFolder? l
  cases g.resFolder? l <;> rfl

theorem mem_libraryFolders {l : LibraryId} {p : Path} :
    (l, p) ∈ c.libraryFolders g ↔ l ∈ c.variant.flat ∧ g.resFolder? l = some p := by
  unfold libraryFolders
  simp only [List.mem_filterMap, Option.map_eq_some_iff, Prod.mk.injEq]
  constructor
  · rintro ⟨_, hl, _, hp, rfl, rfl⟩
    exact ⟨hl, hp⟩
  · rintro ⟨hl, hp⟩
    exact ⟨l, hl, p, hp, rfl, rfl⟩

theorem ownResources_eq (c : Configuration) :
    c.ownResources = c.variant.buildTypeSources.resources.toList ++
      c.variant.layers.filterMap (·.sources.resources) ++ c.variant.mainSources.resources.toList := by
  unfold ownResources Variant.flavorSources
  dsimp only
  rw [List.filterMap_append, List.filterMap_append, List.map_map, List.filterMap_map]
  cases c.variant.buildTypeSources.resources <;> cases c.variant.mainSources.resources <;> rfl

theorem pair_sublist_libraryFolders {a b : LibraryId} {p q : Path} (h : Grounded g.dependencies c.variant.flat)
    (ha : a ∈ c.variant.flat) (hab : TransGen (DependsOn g.dependencies) a b) (hp : g.resFolder? a = some p)
    (hq : g.resFolder? b = some q) : [(a, p), (b, q)].Sublist (c.libraryFolders g) := by
  have hpair : [a, b].Sublist c.variant.flat := h.pair_sublist ha hab
  have hfolders : ([a, b].filterMap fun l => (g.resFolder? l).map (Prod.mk l)).Sublist (c.libraryFolders g) :=
    hpair.filterMap _
  simpa [hp, hq] using hfolders

end Configuration

/-! ## The overlay order -/

namespace World

/-- What holds of the resource folders after any commands, also those that fail: the build type first,
the flavors as they were added, the main sources, and then the flattened libraries in their order. -/
theorem run_resources_in_overlay_order (g : LibraryGraph) (commands : List Command) (id : VariantId) (v : Variant)
    (h : (run { libraries := g } commands).variant? id = some v) :
    ∃ c, (run { libraries := g } commands).configuration? id = some c ∧ c.variant = v ∧
      (∃ before workingDirectory isFile plan after made,
        commands = before ++ .create workingDirectory isFile plan :: after ∧
        (run { libraries := g } before).variants.size = id ∧
        Variant.create workingDirectory isFile plan = .ok made ∧
        c.resourceInputs g = plan.buildTypeSources.resources.toList ++
          (layersAdded id after).filterMap (·.sources.resources) ++ plan.mainSources.resources.toList ++
          (c.libraryFolders g).map Prod.snd) ∧
      v.flat.Nodup ∧
      (c.libraryFolders g).map Prod.fst = (v.flat.filter fun l => (g.resFolder? l).isSome) ∧
      (∀ l p, (l, p) ∈ c.libraryFolders g ↔ l ∈ v.flat ∧ g.resFolder? l = some p) ∧
      ∀ a b p q, a ∈ v.flat → TransGen (DependsOn g.dependencies) a b → g.resFolder? a = some p →
        g.resFolder? b = some q → [(a, p), (b, q)].Sublist (c.libraryFolders g) := by
  have hworld := (sound_start g).run commands
  have hv := hworld.variant id v h
  rw [run_libraries] at hv
  obtain ⟨c, hc, rfl⟩ := hworld.exists_configuration h
  refine ⟨c, hc, rfl, ?_, hv.nodup, c.map_fst_libraryFolders g, fun l p => Configuration.mem_libraryFolders, ?_⟩
  · obtain ⟨before, workingDirectory, isFile, plan, after, made, rfl, hsize, hcreate, hbase, hlayers⟩ :=
      exists_origin rfl h
    refine ⟨before, workingDirectory, isFile, plan, after, made, rfl, hsize, hcreate, ?_⟩
    rw [Configuration.resourceInputs, Configuration.ownResources_eq, Configuration.map_snd_libraryFolders,
      hbase.mainSources, hbase.buildTypeSources, hlayers]
    obtain ⟨_, _, rfl⟩ := Variant.create_eq hcreate
    rfl
  · intro a b p q ha hab hp hq
    exact Configuration.pair_sublist_libraryFolders hv.grounded ha hab hp hq

def folderAt (name : String) : Path := ⟨.here, [name]⟩

/-- `0` depends on `2` through `1`, which has no folder, and `3` depends on itself. -/
def appOverBase : LibraryGraph :=
  let library (name : String) (res : Option Path) (dependencies : List LibraryId) : Library :=
    { name := name, manifest := folderAt "lib.xml", jarFile := folderAt "lib.jar", resFolder := res,
      dependencies := dependencies }
  ⟨#[library "app" (folderAt "app") [1], library "core" none [2], library "base" (folderAt "base") [],
    library "loop" none [3]]⟩

/-- The second flavor has no folder, and the last call fails. -/
def freeOnArm : List Command :=
  let sources (res : Option Path) : SourceSet := { name := "sources", manifest := folderAt "main.xml", resources := res }
  [ .create ⟨.root, []⟩ (fun _ => true)
      { defaults := { name := "main" }
        mainSources := sources (folderAt "main")
        buildType := { name := "debug" }
        buildTypeSources := sources (folderAt "debug")
        packageOf := fun _ => .ok none },
    .addFlavor 0 { name := "free" } (sources (folderAt "free")),
    .addFlavor 0 { name := "arm" } (sources none),
    .setLibraries 0 [0],
    .setLibraries 0 [3] ]

theorem run_resources_in_overlay_order_indirect :
    ∃ c, (run { libraries := appOverBase } freeOnArm).configuration? 0 = some c ∧
      c.resourceInputs appOverBase = ["debug", "free", "main", "app", "base"].map folderAt ∧
      [(0, folderAt "app"), (2, folderAt "base")].Sublist (c.libraryFolders appOverBase) := by
  have hfacts : ((run { libraries := appOverBase } freeOnArm).configuration? 0).map (fun c =>
      (c.resourceInputs appOverBase, c.variant.flat)) =
      some (["debug", "free", "main", "app", "base"].map folderAt, [0, 1, 2]) := by
    cbv
  obtain ⟨v, hv⟩ := Option.isSome_iff_exists.mp
    (show ((run { libraries := appOverBase } freeOnArm).variant? 0).isSome by cbv)
  obtain ⟨c, hc, rfl, _, _, _, _, hfirst⟩ := run_resources_in_overlay_order appOverBase freeOnArm 0 v hv
  rw [hc, Option.map_some, Option.some.injEq, Prod.mk.injEq] at hfacts
  obtain ⟨hinputs, hflat⟩ := hfacts
  have happ : DependsOn appOverBase.dependencies 0 1 := by
    show 1 ∈ [1]
    simp
  have hcore : DependsOn appOverBase.dependencies 1 2 := by
    show 2 ∈ [2]
    simp
  refine ⟨c, hc, hinputs, hfirst 0 2 _ _ ?_ (.tail (.single happ) hcore) rfl rfl⟩
  rw [hflat]
  exact List.mem_cons_self

end World

end BuildVariants
