import BuildVariants.Proofs.Makeable
import BuildVariants.Proofs.TestOverrides
import Mathlib

/-!
# The paths of a built variant

Every path that a variant holds was declared by a text in its description (`Path.Resolves`): in the source
sets of its layers, among its jars, or in the tables of its libraries, also of those that it only reaches
and of its output. Declared paths start from the directory of the description, which is absolute, so it
does not matter where they are used (`Description.build_paths_declared`). What a description is loaded from
is a text in TOML or JSON, whatever the reader of JSON does with other files (`Description.load_of_text`,
`Description.load_of_cannotOpen`).
-/

namespace BuildVariants

theorem forall₂_of_mapM {ε α β : Type} {f : α → Except ε β} {as : List α} {bs : List β} (h : as.mapM f = .ok bs) :
    List.Forall₂ (fun a b => f a = .ok b) as bs := by
  induction as generalizing bs with
  | nil =>
    cases h
    exact .nil
  | cons a as ih =>
    rw [List.mapM_cons] at h
    obtain ⟨b, hb, h⟩ := bind_eq_ok.mp h
    obtain ⟨bs', hbs, h⟩ := bind_eq_ok.mp h
    obtain rfl := pure_eq_ok.mp h
    exact .cons hb (ih hbs)

/-! ## Declared paths -/

/-- What a text stands for as a path in a directory: an absolute path for itself, and any other for a place
below the directory. -/
structure Path.Resolves (directory : Path) (s : String) (p : Path) : Prop where
  isAbsolute : p.IsAbsolute
  absolute : (ofString s).IsAbsolute → p = ofString s
  relative : ¬(ofString s).IsAbsolute → p.start = directory.start ∧ p.names = directory.names ++ (ofString s).names

theorem Path.resolves_join {directory : Path} (h : directory.IsAbsolute) (s : String) :
    directory.Resolves s (directory / ofString s) := by
  refine ⟨isAbsolute_join h _, join_of_isAbsolute, ?_⟩
  intro hno
  have hjoin : directory / ofString s = { directory with names := directory.names ++ (ofString s).names } := if_neg hno
  rw [hjoin]
  exact ⟨rfl, rfl⟩

/-- A value that is empty, or else the text of the path. -/
def Path.ResolvesOptional (directory : Path) (v : Value) (p : Option Path) : Prop :=
  v.isEmpty = true ∧ p = none ∨ ∃ s q, v = .string s ∧ p = some q ∧ directory.Resolves s q

def Path.ResolvesAll (directory : Path) (v : Value) (paths : List Path) : Prop :=
  ∃ texts : List String, v.elements = .ok (texts.map .string) ∧ List.Forall₂ directory.Resolves texts paths

theorem Path.ResolvesOptional.isAbsolute {directory p : Path} {v : Value} {o : Option Path}
    (h : directory.ResolvesOptional v o) (hp : p ∈ o) : p.IsAbsolute := by
  rcases h with ⟨_, rfl⟩ | ⟨s, q, _, rfl, hq⟩
  · cases hp
  · cases hp
    exact hq.isAbsolute

theorem Path.ResolvesAll.isAbsolute {directory p : Path} {v : Value} {paths : List Path}
    (h : directory.ResolvesAll v paths) (hp : p ∈ paths) : p.IsAbsolute := by
  obtain ⟨texts, hv, hall⟩ := h
  clear hv
  induction hall with
  | nil => cases hp
  | cons hq _ ih =>
    rcases List.mem_cons.mp hp with rfl | hp
    · exact hq.isAbsolute
    · exact ih hp

/-- The source set of this name that a table declares. -/
structure SourceSet.DeclaredIn (directory : Path) (t : Table) (name : String) (s : SourceSet) : Prop where
  named : s.name = name
  files : ∃ raw : Table, t.getD "source_set" (.table []) = .table raw ∧
    (∃ m, raw.getD "manifest" (.string ("src/" ++ name ++ "/" ++ manifestFileName)) = .string m ∧
      directory.Resolves m s.manifest) ∧
    directory.ResolvesOptional (raw.getD "resources" .nothing) s.resources ∧
    directory.ResolvesAll (raw.getD "compile_classpath" (.list [])) s.compileClasspath

/-- The files of a library that a table declares, in a folder or one by one. -/
inductive Library.DeclaredIn (directory : Path) (t : Table) (l : Library) : Prop
  | folder {s : String} {folder : Path} : t.get? "folder" = some (.string s) → directory.Resolves s folder →
    l.manifest = folder / Path.ofString "AndroidManifest.xml" → l.jarFile = folder / Path.ofString "classes.jar" →
    l.resFolder = none ∨ l.resFolder = some (folder / Path.ofString "res") → DeclaredIn directory t l
  | files {m j : String} : t.get? "folder" = none → t.get? "manifest" = some (.string m) →
    directory.Resolves m l.manifest → t.get? "jar_file" = some (.string j) → directory.Resolves j l.jarFile →
    directory.ResolvesOptional (t.getD "res_folder" .nothing) l.resFolder → DeclaredIn directory t l

/-! ## The paths that are held -/

def SourceSet.paths (s : SourceSet) : List Path := s.manifest :: (s.resources.toList ++ s.compileClasspath)

def Library.paths (l : Library) : List Path := l.manifest :: l.jarFile :: l.resFolder.toList

def Variant.paths (g : LibraryGraph) (v : Variant) : List Path :=
  (v.mainSources :: v.buildTypeSources :: v.flavorSources).flatMap (·.paths) ++ v.jars.map (·.file) ++
    (g.getAll (v.direct ++ v.flat ++ v.output.toList)).flatMap (·.paths)

theorem SourceSet.DeclaredIn.isAbsolute {directory p : Path} {t : Table} {name : String} {s : SourceSet}
    (h : s.DeclaredIn directory t name) (hp : p ∈ s.paths) : p.IsAbsolute := by
  obtain ⟨_, _, _, ⟨_, _, hmanifest⟩, hresources, hclasspath⟩ := h
  rcases List.mem_cons.mp hp with rfl | hp
  · exact hmanifest.isAbsolute
  rcases List.mem_append.mp hp with hp | hp
  · exact hresources.isAbsolute (Option.mem_toList.mp hp)
  · exact hclasspath.isAbsolute hp

theorem Library.DeclaredIn.isAbsolute {directory p : Path} {t : Table} {l : Library} (h : l.DeclaredIn directory t)
    (hp : p ∈ l.paths) : p.IsAbsolute := by
  simp only [paths, List.mem_cons, Option.mem_toList] at hp
  cases h with
  | folder _ hfolder hmanifest hjar hres =>
    rcases hp with rfl | rfl | hp
    · exact hmanifest ▸ Path.isAbsolute_join hfolder.isAbsolute _
    · exact hjar ▸ Path.isAbsolute_join hfolder.isAbsolute _
    · rcases hres with hres | hres
      · rw [hres] at hp
        cases hp
      · rw [hres] at hp
        cases hp
        exact Path.isAbsolute_join hfolder.isAbsolute _
  | files _ _ hmanifest _ hjar hres =>
    rcases hp with rfl | rfl | hp
    · exact hmanifest.isAbsolute
    · exact hjar.isAbsolute
    · exact hres.isAbsolute hp

namespace Description

variable {files : Files} {reader : ManifestReader} {d : Description} {g g' : LibraryGraph} {v w : Variant}
  {t : Table} {value : Value}

/-! ## What is read -/

section
variable (hbase : d.baseDirectory.IsAbsolute)
include hbase

theorem path_resolves {p : Path} (h : d.path value = .ok p) :
    ∃ s, value = .string s ∧ d.baseDirectory.Resolves s p := by
  unfold path at h
  obtain ⟨s, hs, h⟩ := bind_eq_ok.mp h
  obtain rfl := pure_eq_ok.mp h
  exact ⟨s, Value.asText_ok hs, Path.resolves_join hbase s⟩

theorem optionalPath_resolves {o : Option Path} (h : d.optionalPath value = .ok o) :
    d.baseDirectory.ResolvesOptional value o := by
  unfold optionalPath at h
  split at h
  · rename_i hempty
    obtain rfl := pure_eq_ok.mp h
    exact .inl ⟨hempty, rfl⟩
  · rw [map_eq_pure_bind] at h
    obtain ⟨p, hp, h⟩ := bind_eq_ok.mp h
    obtain rfl := pure_eq_ok.mp h
    obtain ⟨s, hs, hresolves⟩ := path_resolves hbase hp
    exact .inr ⟨s, p, hs, rfl, hresolves⟩

theorem texts_resolve {values : List Value} {paths : List Path}
    (h : List.Forall₂ (fun v p => d.path v = .ok p) values paths) :
    ∃ texts : List String, values = texts.map .string ∧ List.Forall₂ d.baseDirectory.Resolves texts paths := by
  induction h with
  | nil => exact ⟨[], rfl, .nil⟩
  | cons hp _ ih =>
    obtain ⟨s, rfl, hs⟩ := path_resolves hbase hp
    obtain ⟨texts, rfl, hall⟩ := ih
    exact ⟨s :: texts, rfl, .cons hs hall⟩

theorem paths_resolve {paths : List Path} (h : d.paths value = .ok paths) :
    d.baseDirectory.ResolvesAll value paths := by
  unfold Description.paths at h
  obtain ⟨values, hvalues, h⟩ := bind_eq_ok.mp h
  obtain ⟨texts, rfl, hall⟩ := texts_resolve hbase (forall₂_of_mapM h)
  exact ⟨texts, hvalues, hall⟩

theorem sourceSet_declared {name : String} {s : SourceSet} (h : d.sourceSet t name = .ok s) :
    s.DeclaredIn d.baseDirectory t name := by
  unfold sourceSet at h
  obtain ⟨raw, hraw, h⟩ := bind_eq_ok.mp h
  obtain ⟨manifest, hmanifest, h⟩ := bind_eq_ok.mp h
  obtain ⟨resources, hresources, h⟩ := bind_eq_ok.mp h
  obtain ⟨classpath, hclasspath, h⟩ := bind_eq_ok.mp h
  obtain rfl := pure_eq_ok.mp h
  exact ⟨rfl, raw, Value.asTable_ok hraw, path_resolves hbase hmanifest, optionalPath_resolves hbase hresources,
    paths_resolve hbase hclasspath⟩

theorem libraryFiles_declared {name : String} {l : Library} (h : d.libraryFiles files name t = .ok l)
    (dependencies : List LibraryId) :
    ({ l with dependencies := dependencies } : Library).DeclaredIn d.baseDirectory t := by
  unfold libraryFiles at h
  split at h
  · rename_i value hfolder
    obtain ⟨folder, hpath, h⟩ := bind_eq_ok.mp h
    obtain rfl := pure_eq_ok.mp h
    obtain ⟨s, rfl, hs⟩ := path_resolves hbase hpath
    refine .folder hfolder hs rfl rfl ?_
    dsimp only [Library.ofFolder]
    split
    · exact .inr rfl
    · exact .inl rfl
  · rename_i hfolder
    obtain ⟨m, hm, h⟩ := bind_eq_ok.mp h
    obtain ⟨manifest, hmanifest, h⟩ := bind_eq_ok.mp h
    obtain ⟨j, hj, h⟩ := bind_eq_ok.mp h
    obtain ⟨jarFile, hjarFile, h⟩ := bind_eq_ok.mp h
    obtain ⟨resFolder, hresFolder, h⟩ := bind_eq_ok.mp h
    obtain rfl := pure_eq_ok.mp h
    obtain ⟨_, rfl, hm'⟩ := path_resolves hbase hmanifest
    obtain ⟨_, rfl, hj'⟩ := path_resolves hbase hjarFile
    exact .files hfolder (needed_ok hm) hm' (needed_ok hj) hj' (optionalPath_resolves hbase hresFolder)

end

/-! ## What a built variant holds -/

/-- The library of a name has the files that the table of this name declares. -/
def DeclaresLibrary (d : Description) (g : LibraryGraph) (a : LibraryId) : Prop :=
  ∃ (l : Library) (t : Table), g.get? a = some l ∧ d.libraryTables.get? l.name = some (.table t) ∧
    l.DeclaredIn d.baseDirectory t

def DeclaresOutput (d : Description) (g : LibraryGraph) (a : LibraryId) : Prop :=
  ∃ (l : Library) (t : Table), g.get? a = some l ∧ d.data.get? "output" = some (.table t) ∧
    l.DeclaredIn d.baseDirectory t

/-- The source sets are those of the table under the key, of the build type, and of the flavors in their order. -/
structure DeclaresLayers (d : Description) (key name buildType : String) (ns : List String) (v : Variant) : Prop where
  main : ∃ t : Table, d.data.get? key = some (.table t) ∧ v.mainSources.DeclaredIn d.baseDirectory t name
  buildType : ∃ tables t : Table, d.buildTypes = .table tables ∧ tables.get? buildType = some (.table t) ∧
    v.buildTypeSources.DeclaredIn d.baseDirectory t buildType
  flavors : List.Forall₂ (fun n (s : SourceSet) => ∃ t, d.flavorTable? n = some t ∧ s.DeclaredIn d.baseDirectory t n)
    ns v.flavorSources

/-- Everything that a variant holds has its paths from the description. -/
structure DeclaresPaths (d : Description) (g : LibraryGraph) (key name buildType : String) (ns : List String)
    (jars : Value) (outputs : List LibraryId) (v : Variant) : Prop where
  layers : d.DeclaresLayers key name buildType ns v
  jars : d.baseDirectory.ResolvesAll jars (v.jars.map (·.file))
  direct : ∀ a ∈ v.direct, d.DeclaresLibrary g a
  flat : ∀ a ∈ v.flat, d.DeclaresLibrary g a ∨ a ∈ outputs ∧ d.DeclaresOutput g a
  output : ∀ a ∈ v.output, d.DeclaresOutput g a

theorem DeclaresLayers.isAbsolute {key name buildType : String} {ns : List String} {s : SourceSet} {p : Path}
    (h : d.DeclaresLayers key name buildType ns v) (hs : s ∈ v.mainSources :: v.buildTypeSources :: v.flavorSources)
    (hp : p ∈ s.paths) : p.IsAbsolute := by
  obtain ⟨⟨_, _, hmain⟩, ⟨_, _, _, _, hbuildType⟩, hflavors⟩ := h
  rcases List.mem_cons.mp hs with rfl | hs
  · exact hmain.isAbsolute hp
  rcases List.mem_cons.mp hs with rfl | hs
  · exact hbuildType.isAbsolute hp
  · generalize v.flavorSources = sets at hflavors hs
    induction hflavors with
    | nil => cases hs
    | cons hset _ ih =>
      rcases List.mem_cons.mp hs with rfl | hs
      · obtain ⟨_, _, hset⟩ := hset
        exact hset.isAbsolute hp
      · exact ih hs

theorem DeclaresPaths.library {key name buildType : String} {ns : List String} {jars : Value}
    {outputs : List LibraryId} {a : LibraryId} (h : d.DeclaresPaths g key name buildType ns jars outputs v)
    (ha : a ∈ v.direct ++ v.flat ++ v.output.toList) : d.DeclaresLibrary g a ∨ d.DeclaresOutput g a := by
  rcases List.mem_append.mp ha with ha | ha
  · rcases List.mem_append.mp ha with ha | ha
    · exact .inl (h.direct a ha)
    · exact (h.flat a ha).imp_right (·.2)
  · exact .inr (h.output a (Option.mem_toList.mp ha))

theorem DeclaresPaths.isAbsolute {key name buildType : String} {ns : List String} {jars : Value}
    {outputs : List LibraryId} {p : Path} (h : d.DeclaresPaths g key name buildType ns jars outputs v)
    (hp : p ∈ v.paths g) : p.IsAbsolute := by
  rcases List.mem_append.mp hp with hp | hp
  · rcases List.mem_append.mp hp with hp | hp
    · obtain ⟨s, hs, hp⟩ := List.mem_flatMap.mp hp
      exact h.layers.isAbsolute hs hp
    · exact h.jars.isAbsolute hp
  · obtain ⟨l, hl, hp⟩ := List.mem_flatMap.mp hp
    obtain ⟨a, ha, hget⟩ := List.mem_filterMap.mp hl
    rcases h.library ha with ⟨l', _, hl', _, hdeclared⟩ | ⟨l', _, hl', _, hdeclared⟩
    · obtain rfl : l' = l := Option.some.inj (hl'.symm.trans hget)
      exact hdeclared.isAbsolute hp
    · obtain rfl : l' = l := Option.some.inj (hl'.symm.trans hget)
      exact hdeclared.isAbsolute hp

/-! ## Layers -/

section
variable (hbase : d.baseDirectory.IsAbsolute)
include hbase

theorem layered_declares {buildType : String} {ns : List String}
    (h : d.layered files reader (.string buildType) (.list (ns.map .string)) = .ok v) :
    d.DeclaresLayers "default" "main" buildType ns v := by
  unfold layered at h
  obtain ⟨t, ht, h⟩ := bind_eq_ok.mp h
  obtain ⟨⟨typeName, typeTable⟩, hnamed, h⟩ := bind_eq_ok.mp h
  obtain ⟨_, _, h⟩ := bind_eq_ok.mp h
  obtain ⟨mainSources, hmain, h⟩ := bind_eq_ok.mp h
  obtain ⟨_, _, h⟩ := bind_eq_ok.mp h
  obtain ⟨typeSources, htype, h⟩ := bind_eq_ok.mp h
  obtain ⟨_, _, h⟩ := bind_eq_ok.mp h
  obtain ⟨w, hw, h⟩ := bind_eq_ok.mp h
  obtain ⟨values, hvalues, h⟩ := bind_eq_ok.mp h
  cases hvalues
  obtain ⟨layers, rfl, _, hlayers⟩ := addFlavors_ok h
  obtain ⟨_, _, rfl⟩ := Variant.create_eq hw
  obtain ⟨rfl, tables, htables, hget⟩ := Table.named_ok hnamed
  rw [Variant.addLayers_eq]
  refine ⟨⟨t, table_ok ht, sourceSet_declared hbase hmain⟩,
    ⟨tables, typeTable, htables, hget, sourceSet_declared hbase htype⟩, ?_⟩
  show List.Forall₂ _ ns (([] ++ layers).map FlavorLayer.sources)
  rw [List.nil_append, List.forall₂_map_right_iff]
  refine hlayers.imp fun n l hl => ?_
  obtain ⟨t, ht, hsources⟩ := hl
  exact ⟨t, ht, sourceSet_declared hbase hsources⟩

/-- A test has the build type and the flavors of the tested variant. -/
theorem layeredTest_declares {key name buildType : String} {ns : List String} {id : VariantId}
    (ht : d.data.get? "test" = some (.table t)) (hv : d.DeclaresLayers key name buildType ns v)
    (h : d.layeredTest files reader t id v = .ok w) :
    d.DeclaresLayers "test" "test" buildType ns w ∧ w.jars = [] ∧ w.output = none := by
  unfold layeredTest at h
  obtain ⟨_, _, h⟩ := bind_eq_ok.mp h
  obtain ⟨_, _, h⟩ := bind_eq_ok.mp h
  obtain ⟨_, _, h⟩ := bind_eq_ok.mp h
  obtain ⟨mainSources, hmain, h⟩ := bind_eq_ok.mp h
  obtain ⟨x, hx, h⟩ := bind_eq_ok.mp h
  have hlayers : w = x.addLayers v.layers := (pure_eq_ok.mp h).symm
  obtain ⟨role, hrole, rfl⟩ := Variant.create_eq hx
  cases hrole
  rw [hlayers, Variant.addLayers_eq]
  exact ⟨⟨⟨t, ht, sourceSet_declared hbase hmain⟩, hv.buildType, hv.flavors⟩, rfl, rfl⟩

end

/-! ## Libraries -/

section
variable (hbase : d.baseDirectory.IsAbsolute)
include hbase

theorem declaresLibrary_of_declared {made : List (String × LibraryId)} (hmade : d.fresh.MadeFor files ⟨g, made⟩)
    {a : LibraryId} (ha : g.Declared made a) : d.DeclaresLibrary g a := by
  obtain ⟨t, l, ht, hl, hget⟩ := hmade.files _ _ ha
  refine ⟨_, t, hget, ?_, libraryFiles_declared hbase hl _⟩
  rw [← LibraryGraph.name_eq hget]
  exact ht

theorem outputAdded_declares {i : Instances} (h : OutputAdded files d i v g w) (hv : v.output = none)
    (hg : g'.Extends g) : ∀ a ∈ w.output, d.DeclaresOutput g' a := by
  intro a ha
  cases h with
  | none =>
    rw [hv] at ha
    cases ha
  | @output t l _ ht hl =>
    cases ha
    obtain ⟨l₀, hl₀, heq⟩ := libraryFiles_of_library hl
    have hdeclared := libraryFiles_declared hbase hl₀ l.dependencies
    rw [← heq] at hdeclared
    exact ⟨l, t, hg _ _ (LibraryGraph.get?_add_size _ _), ht, hdeclared⟩

end

theorem withLibraries_madeFor {d' : Description} {i : Instances} (hd : d.KeepsMade g)
    (h : d.withLibraries files g = .ok (d', i)) : ∃ files₀, d.fresh.MadeFor files₀ i := by
  obtain ⟨_, _, files₀, g₀, i₀, hi₀, hm, hg⟩ := withLibraries_ok hd h
  have hmade := (madeFor_of_makeLibraries hi₀).extends hg
  rw [hm] at hmade
  exact ⟨files₀, hmade⟩

/-! ## Builds -/

theorem exists_finish_of_build {buildType flavors : Value} {b : Build}
    (hb : d.build files reader g buildType flavors = b) (hv : b.outcome = .ok v) :
    ∃ layered d' i, d.layered files reader buildType flavors = .ok layered ∧
      d.withLibraries files g = .ok (d', i) ∧ d'.finish files i layered = .ok (b.libraries, v) ∧
      b.description = d' := by
  cases hlayered : d.layered files reader buildType flavors with
  | error e =>
    rw [build, hlayered] at hb
    subst hb
    cases hv
  | ok layered =>
    cases hi : d.withLibraries files g with
    | error e =>
      rw [build, hlayered] at hb
      dsimp only at hb
      rw [hi] at hb
      subst hb
      cases hv
    | ok r =>
      obtain ⟨d', i⟩ := r
      rw [build_eq_finish hlayered hi] at hb
      refine ⟨layered, d', i, rfl, rfl, ?_⟩
      cases hfinish : d'.finish files i layered with
      | error e =>
        rw [hfinish] at hb
        subst hb
        cases hv
      | ok r =>
        rw [hfinish] at hb
        subst hb
        cases hv
        exact ⟨rfl, rfl⟩

section
variable (hbase : d.baseDirectory.IsAbsolute)
include hbase

/-- After the layers, a build adds the jars and the output, and the libraries of the names. -/
theorem finish_declares {i : Instances} {key name buildType : String} {ns : List String}
    (hv : d.DeclaresLayers key name buildType ns v) (houtput : v.output = none)
    (h : d.finish files i v = .ok (g, w)) :
    g.Extends i.graph ∧ d.DeclaresLayers key name buildType ns w ∧
      d.baseDirectory.ResolvesAll (d.data.getD "jars" (.list [])) (w.jars.map (·.file)) ∧
      ∀ g', g'.Extends g → ∀ a ∈ w.output, d.DeclaresOutput g' a := by
  unfold finish addJars at h
  obtain ⟨x, hx, h⟩ := bind_eq_ok.mp h
  obtain ⟨paths, hpaths, hx⟩ := bind_eq_ok.mp hx
  obtain rfl := pure_eq_ok.mp hx
  obtain ⟨⟨h', y⟩, hy, h⟩ := bind_eq_ok.mp h
  obtain ⟨z, hz, h⟩ := bind_eq_ok.mp h
  cases pure_eq_ok.mp h
  have hjars := paths_resolve hbase hpaths
  have hfiles : (paths.map fun p => ({ file := p } : Jar)).map (·.file) = paths := by
    rw [List.map_map]
    exact List.map_id paths
  have hadded := addOutput_ok hy
  have hout (g' : LibraryGraph) (hg' : g'.Extends g) := outputAdded_declares hbase hadded houtput hg'
  rw [← hfiles] at hjars
  cases addLibraries_ok hz
  cases hadded with
  | none => exact ⟨.refl _, ⟨hv.main, hv.buildType, hv.flavors⟩, hjars, hout⟩
  | output => exact ⟨LibraryGraph.extends_add _ _, ⟨hv.main, hv.buildType, hv.flavors⟩, hjars, hout⟩

/-- What a build leaves behind: libraries of declared names, from which the variant draws. -/
theorem build_declares {buildType : String} {ns : List String} {b : Build} (hd : d.KeepsMade g)
    (hb : d.build files reader g (.string buildType) (.list (ns.map .string)) = b) (hv : b.outcome = .ok v) :
    ∃ made files₀, b.description = { d with instances := some made } ∧ d.fresh.MadeFor files₀ ⟨b.libraries, made⟩ ∧
      ∀ g', g'.Extends b.libraries → v.DrawsOn made g' ∧
        d.DeclaresPaths g' "default" "main" buildType ns (d.data.getD "jars" (.list [])) [] v := by
  have hends : BuildEnds files reader d g (.string buildType) (.list (ns.map .string)) b := hb ▸ build_ends ..
  obtain ⟨made, hmade, _, hbuilt⟩ := hends.builtFrom hd hv
  obtain ⟨layered, d', i, hlayered, hi, hfinish, hdescription⟩ := exists_finish_of_build hb hv
  obtain ⟨hd', _⟩ := withLibraries_ok hd hi
  obtain ⟨files₀, hfor⟩ := withLibraries_madeFor hd hi
  rw [hd', finish_instances] at hfinish
  rw [hdescription, hd'] at hmade
  cases hmade
  have hnone : layered.output = none := by
    rcases (layered_ok hlayered).2.role with hr | hr <;> rw [Variant.output, hr]
  obtain ⟨hext, hlayers, hjars, hout⟩ := finish_declares hbase (layered_declares hbase hlayered) hnone hfinish
  have hfor' := hfor.extends hext
  refine ⟨i.made, files₀, hdescription.trans hd', hfor', fun g' hg' => ?_⟩
  have hdraws := hbuilt.drawsOn (hends.tested hd hv) hg'
  have hlibrary (a : LibraryId) : g'.Declared i.made a → d.DeclaresLibrary g' a :=
    declaresLibrary_of_declared hbase (hfor'.extends hg')
  exact ⟨hdraws, hlayers, hjars, fun a ha => hlibrary a (hdraws.direct a ha),
    fun a ha => .inl (hlibrary a (hdraws.flat a ha)), hout g' hg'⟩

/-- A test has its own main sources, and what it flattens besides declared libraries is the tested output. -/
theorem buildTest_declares {made : List (String × LibraryId)} {files₀ : Files} {key name buildType : String}
    {ns : List String} {jars : Value} {id : VariantId} {b : Build} (hmade : d.fresh.MadeFor files₀ ⟨g, made⟩)
    (hv : ∀ g', g'.Extends g → v.DrawsOn made g' ∧ d.DeclaresPaths g' key name buildType ns jars [] v)
    (hb : ({ d with instances := some made } : Description).buildTest files reader g id v = b)
    (hw : b.outcome = .ok w) (hg : g'.Extends b.libraries) :
    d.DeclaresPaths g' "test" "test" buildType ns (.list []) v.output.toList w := by
  have hends : TestBuildEnds files reader { d with instances := some made } g id v b := hb ▸ buildTest_ends ..
  cases hends with
  | early => cases hw
  | late => cases hw
  | @built d' i t layered final ht hlayered hi hl =>
    cases hw
    rw [withLibraries_of_instances rfl] at hi
    cases hi
    obtain ⟨hdraws, hdeclares⟩ := hv g' hg
    obtain ⟨hlayers, hjars, hout⟩ := layeredTest_declares hbase ht hdeclares.layers hlayered
    have htest := hl.testDrawsOn hmade.represents hg
    have hlibrary (a : LibraryId) : g'.Declared made a → d.DeclaresLibrary g' a :=
      declaresLibrary_of_declared hbase (hmade.extends hg)
    have hflat : ∀ a ∈ w.flat, d.DeclaresLibrary g' a ∨ a ∈ v.output.toList ∧ d.DeclaresOutput g' a := by
      intro a ha
      rcases htest.flat hdraws a ha with ha | ha
      · exact .inl (hlibrary a ha)
      · exact .inr ⟨ha, hdeclares.output a (Option.mem_toList.mp ha)⟩
    have hdirect : ∀ a ∈ w.direct, d.DeclaresLibrary g' a := fun a ha => hlibrary a (htest.direct a ha)
    cases hl
    refine ⟨⟨hlayers.main, hlayers.buildType, hlayers.flavors⟩, ?_, hdirect, hflat, ?_⟩
    · show d.baseDirectory.ResolvesAll (.list []) (layered.jars.map (·.file))
      rw [hjars]
      exact ⟨[], rfl, .nil⟩
    · intro a ha
      have hnone : layered.output = some a := ha
      rw [hout] at hnone
      cases hnone

end

/-! ## Loading -/

section
variable {json : JsonReader} {path : Path}

theorem load_baseDirectory (h : load json files path = .ok d) :
    d.baseDirectory = path.parent.absoluteFrom files.workingDirectory := by
  unfold load at h
  split at h
  · cases h
  · cases h
    rfl
  · cases h

theorem textOfBytes?_toUTF8 (s : String) : textOfBytes? s.toUTF8 = some s.toList := by
  rw [textOfBytes?, String.fromUTF8?, dif_pos (show s.toUTF8.IsValidUTF8 from s.isValidUTF8)]
  rfl

/-- What a text says in the format that the path stands for. -/
def parseDocument? (path : Path) (cs : List Char) : Option Value :=
  if path.suffix = ".json" then Json.parse? cs else (Toml.parse? cs).map .table

/-- Every reader of JSON loads a table from its text. -/
theorem load_of_text {s : String} {t : Table} (hread : files.read path = .ok s.toUTF8)
    (hparse : parseDocument? path s.toList = some (.table t)) :
    load json files path =
      .ok { data := t, baseDirectory := path.parent.absoluteFrom files.workingDirectory } := by
  have htext := textOfBytes?_toUTF8 s
  have hdocument : readDocument json files path = .ok (.table t) := by
    unfold parseDocument? at hparse
    unfold readDocument
    by_cases hformat : path.suffix = ".json"
    · rw [if_pos hformat] at hparse ⊢
      rw [json.read_text hread (by rw [htext, Option.bind_some, hparse])]
      rfl
    · rw [if_neg hformat] at hparse ⊢
      obtain ⟨t', ht', heq⟩ := Option.map_eq_some_iff.mp hparse
      cases heq
      rw [readToml, hread]
      dsimp only
      rw [htext, Option.bind_some, ht']
  rw [load, hdocument]

/-- Of a JSON file that cannot be opened it is only said that it is no table. -/
theorem load_of_cannotOpen {fault : OpenFault} (hread : files.read path = .error (.cannotOpen fault)) :
    load json files path =
      .error (if path.suffix = ".json" then .notTable path else .unreadable path (.cannotOpen fault)) := by
  unfold load readDocument
  by_cases hformat : path.suffix = ".json"
  · rw [if_pos hformat, if_pos hformat, json.read_closed hread]
    rfl
  · rw [if_neg hformat, if_neg hformat, readToml, hread]

end

/-! ## Every path of a build -/

/-- A description that was loaded has the directory of its file, made absolute at that time; a working directory is
absolute. All paths of a variant that is built from it at any later time, and of a test of that variant, are those
that the description declares, started from this directory. -/
theorem build_paths_declared {json : JsonReader} {files now : Files} {path : Path} {w : Workspace} {place : Nat}
    {d : Description} (hcwd : files.workingDirectory.IsAbsolute) (hload : load json files path = .ok d.fresh)
    (hw : w.Reachable)
    (hd : w.descriptions[place]? = some d) {reader : ManifestReader} {buildType : String} {ns : List String}
    {b : Build} {v : Variant}
    (hb : d.build now reader w.world.libraries (.string buildType) (.list (ns.map .string)) = b)
    (hv : b.outcome = .ok v) :
    d.baseDirectory = path.parent.absoluteFrom files.workingDirectory ∧
      (∀ g, g.Extends b.libraries →
        d.DeclaresPaths g "default" "main" buildType ns (d.data.getD "jars" (.list [])) [] v ∧
          ∀ p ∈ v.paths g, p.IsAbsolute) ∧
      ∀ (now' : Files) (reader' : ManifestReader) (g' : LibraryGraph) (id : VariantId) (b' : Build) (t : Variant),
        g'.Extends b.libraries → b.description.buildTest now' reader' g' id v = b' → b'.outcome = .ok t →
          ∀ g, g.Extends b'.libraries →
            d.DeclaresPaths g "test" "test" buildType ns (.list []) v.output.toList t ∧
              ∀ p ∈ t.paths g, p.IsAbsolute := by
  have hdirectory : d.baseDirectory = path.parent.absoluteFrom files.workingDirectory :=
    (load_baseDirectory hload : d.fresh.baseDirectory = _)
  have hbase : d.baseDirectory.IsAbsolute := by
    rw [hdirectory]
    exact Path.isAbsolute_join hcwd _
  obtain ⟨made, files₀, hdescription, hmade, hdeclares⟩ := build_declares hbase (hw.keepsMade place d hd) hb hv
  refine ⟨hdirectory, fun g hg => ⟨(hdeclares g hg).2, fun p hp => (hdeclares g hg).2.isAbsolute hp⟩, ?_⟩
  intro now' reader' g' id b' t hg' hb' ht g hg
  rw [hdescription] at hb'
  have hpaths := buildTest_declares hbase (hmade.extends hg') (fun k hk => hdeclares k (hk.trans hg')) hb' ht hg
  exact ⟨hpaths, fun p hp => hpaths.isAbsolute hp⟩

def sourceText : String :=
  "variant_type = \"library\"\ndependencies = [\"core\"]\n[default]\n[build_types.debug]\n" ++
    "[libraries.core]\nfolder = \"/core\"\n[output]\nfolder = \"out\"\n[test]\n"

def sourcePath : Path := ⟨.here, ["app", "variants.toml"]⟩

def sourceFiles : Files where
  workingDirectory := ⟨.root, ["home"]⟩
  isFile p := p = ⟨.root, ["home", "app", "src", "main", "AndroidManifest.xml"]⟩
  isDirectory _ := true
  read p := if p = sourcePath then .ok sourceText.toUTF8 else .error (.cannotOpen .missing)

def ofSource : Description where
  data :=
    [("variant_type", .string "library"), ("dependencies", .list [.string "core"]), ("default", .table []),
      ("build_types", .table [("debug", .table [])]),
      ("libraries", .table [("core", .table [("folder", .string "/core")])]),
      ("output", .table [("folder", .string "out")]), ("test", .table [])]
  baseDirectory := ⟨.root, ["home", "app"]⟩

theorem parse?_sourceText : Toml.parse? sourceText.toList = some ofSource.data := by cbv

theorem load_sourcePath : load Json.reader sourceFiles sourcePath = .ok ofSource := by
  have hformat : sourcePath.suffix ≠ ".json" := by decide
  have hread : sourceFiles.read sourcePath = .ok sourceText.toUTF8 := by
    dsimp only [sourceFiles]
    rw [if_pos rfl]
  exact load_of_text hread (by rw [parseDocument?, if_neg hformat, parse?_sourceText]; rfl)

def sourceBuild : Build := ofSource.build sourceFiles (fun _ => .ok none) .empty (.string "debug") (.list [])

def sourceTest (v : Variant) : Build :=
  sourceBuild.description.buildTest sourceFiles (fun _ => .ok none) sourceBuild.libraries 0 v

theorem build_paths_declared_library :
    load Json.reader sourceFiles sourcePath = .ok ofSource.fresh ∧
      ∃ v t, sourceBuild.outcome = .ok v ∧ (sourceTest v).outcome = .ok t ∧ v.output = some 1 ∧
        (∀ p ∈ v.paths sourceBuild.libraries, p.IsAbsolute) ∧
        ofSource.DeclaresPaths (sourceTest v).libraries "test" "test" "debug" [] (.list []) [1] t := by
  have hload : load Json.reader sourceFiles sourcePath = .ok ofSource.fresh := load_sourcePath
  have hw : Workspace.Reachable { descriptions := #[ofSource] } := .describe .start rfl
  have hrun : (sourceBuild.outcome.toOption.bind fun v =>
      (sourceTest v).outcome.toOption.map fun _ => v.output) = some (some 1) := by cbv
  obtain ⟨v, hv, hrun⟩ := Option.bind_eq_some_iff.mp hrun
  obtain ⟨t, ht, houtput⟩ := Option.map_eq_some_iff.mp hrun
  have hv := eq_ok_of_toOption hv
  have ht := eq_ok_of_toOption ht
  obtain ⟨_, hbuilt, htest⟩ := build_paths_declared (by decide) hload hw
    (show (#[ofSource])[0]? = some ofSource from rfl)
    (show ofSource.build sourceFiles _ _ _ (.list ([].map .string)) = sourceBuild from rfl) hv
  have hpaths := (htest _ _ _ _ (sourceTest v) t (.refl _) rfl ht _ (.refl _)).1
  rw [houtput] at hpaths
  exact ⟨hload, v, t, hv, ht, houtput, (hbuilt _ (.refl _)).2, hpaths⟩

example : (sourceBuild.outcome.toOption.map fun v => (v.paths sourceBuild.libraries).map (·.text)) =
    some
      ["/home/app/src/main/AndroidManifest.xml", "/home/app/src/debug/AndroidManifest.xml",
        "/core/AndroidManifest.xml", "/core/classes.jar", "/core/res", "/core/AndroidManifest.xml",
        "/core/classes.jar", "/core/res", "/home/app/out/AndroidManifest.xml", "/home/app/out/classes.jar",
        "/home/app/out/res"] := by
  cbv

end Description

end BuildVariants
