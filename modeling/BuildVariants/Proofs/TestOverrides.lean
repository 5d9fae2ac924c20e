import BuildVariants.Proofs.BuildFaults
import BuildVariants.Proofs.Overrides
import BuildVariants.Proofs.PackageName

/-!
# Overrides of a test that is built from a description

A variant merges its flavors over the defaults of the project, a test the same flavors over the table of
tests, which is merged over these defaults before. So what a flavor gives is the same in both, and else the
table of tests comes before the defaults (`Description.buildTest_overrides`).
-/

namespace BuildVariants

theorem Setting.given?_text_of_ne {a : String} (h : a ≠ "") : Setting.given? (some a) = some a := by
  cases hgiven : Setting.given? (some a) with
  | some b => rw [eq_some_of_given? hgiven]
  | none =>
    rcases given?_text_eq_none_iff.mp hgiven with hnone | hempty
    · cases hnone
    · exact absurd (Option.some.inj hempty) h

/-! ## Flavors and their tables -/

namespace Flavor

def Field.key : Field → String
  | .packageName => "package_name"
  | .packageNameSuffix => "package_name_suffix"
  | .versionCode => "version_code"
  | .versionName => "version_name"
  | .minSdkVersion => "min_sdk_version"
  | .targetSdkVersion => "target_sdk_version"
  | .testPackageName => "test_package_name"
  | .testInstrumentationRunner => "test_instrumentation_runner"

def Field.read : (f : Field) → Value → Option f.Content
  | .versionCode | .minSdkVersion | .targetSdkVersion => Value.integer?
  | .packageName | .packageNameSuffix | .versionName | .testPackageName | .testInstrumentationRunner => Value.text?

end Flavor

/-- What a table says of a field. -/
def Table.setting (t : Table) (f : Flavor.Field) : Setting f.Content := (t.get? f.key).bind f.read

namespace Flavor

variable {flavor defaults : Flavor} {flavors : List Flavor} {f : Field}

theorem get_ofTable {t : Table} {name : String} (h : ofTable t name = .ok flavor) (f : Field) :
    flavor.get f = t.setting f := by
  rw [ofTable_eq, Table.checked_eq_ok] at h
  obtain ⟨_, rfl⟩ := h
  cases f <;> rfl

theorem name_ofTable {t : Table} {name : String} (h : ofTable t name = .ok flavor) : flavor.name = name := by
  rw [ofTable_eq, Table.checked_eq_ok] at h
  obtain ⟨_, rfl⟩ := h
  rfl

/-- Where a flavor gives the field, the defaults do not count. -/
theorem get_mergeAll_of_set (h : ∃ x ∈ flavors, (x.get f).isSet = true) (defaults' : Flavor) :
    (mergeAll flavors defaults).get f = (mergeAll flavors defaults').get f := by
  induction flavors generalizing defaults defaults' with
  | nil =>
    obtain ⟨x, hx, _⟩ := h
    exact absurd hx List.not_mem_nil
  | cons x rest ih =>
    by_cases hrest : ∃ y ∈ rest, (y.get f).isSet = true
    · exact ih hrest _
    · have hopen : ∀ y ∈ rest, (y.get f).isSet = false := by simpa using hrest
      have hx : (x.get f).isSet = true := by
        obtain ⟨y, hy, hset⟩ := h
        rcases List.mem_cons.mp hy with rfl | hy
        · exact hset
        · exact absurd ⟨y, hy, hset⟩ hrest
      have hlast (below : Flavor) : (mergeAll ([] ++ x :: rest) below).get f = x.get f :=
        get_mergeAll_of_last hx hopen
      exact (hlast _).trans (hlast _).symm

end Flavor

/-! ## Flavors one upon the other -/

namespace Variant

variable {v : Variant}

def addLayers (v : Variant) (layers : List FlavorLayer) : Variant :=
  layers.foldl (fun v l => v.addFlavor l.flavor l.sources) v

theorem addLayers_eq (v : Variant) (layers : List FlavorLayer) :
    v.addLayers layers =
      { v with layers := v.layers ++ layers, merged := Flavor.mergeAll (layers.map (·.flavor)) v.merged } := by
  induction layers generalizing v with
  | nil =>
    rw [List.append_nil]
    rfl
  | cons l layers ih =>
    have hrest := ih (v.addFlavor l.flavor l.sources)
    simp only [addFlavor, List.append_assoc] at hrest
    exact hrest

/-- The mark of a test stands behind the name that the same layers give to another variant. -/
theorem name_of_test {w : Variant} (hw : w.kind = .test) (hv : v.kind ≠ .test) (hlayers : w.layers = v.layers)
    (hbuildType : w.buildType = v.buildType) : w.name = v.name ++ "-test" := by
  have hflavors : w.flavors = v.flavors := by rw [flavors, flavors, hlayers]
  have hne : v.flavors.map (·.name) ++ [v.buildType.name] ≠ [] := by simp
  rw [name, name, if_pos hw, if_neg hv, hbuildType, hflavors, List.append_nil,
    String.intercalate_append_of_ne_nil hne (by simp), String.intercalate_singleton, String.append_assoc]
  rfl

end Variant

/-! ## Layers of a build -/

namespace Description

variable {files : Files} {reader : ManifestReader} {d : Description} {g : LibraryGraph} {v w : Variant}

def flavorTable? (d : Description) (n : String) : Option Table :=
  match d.flavors with
  | .table tables =>
    match Table.get? tables n with
    | some (.table t) => some t
    | _ => none
  | _ => none

/-- What the table of a flavor says of a field. -/
def flavorSetting (d : Description) (n : String) (f : Flavor.Field) : Setting f.Content :=
  (d.flavorTable? n).bind (·.setting f)

theorem flavorTable?_of_named {n s : String} {t : Table} (h : Table.named .flavor d.flavors (.string n) = .ok (s, t)) :
    s = n ∧ d.flavorTable? n = some t := by
  obtain ⟨rfl, tables, htables, hget⟩ := Table.named_ok h
  refine ⟨rfl, ?_⟩
  rw [flavorTable?, htables]
  simp only [hget]

/-- The flavor has been read from the table of its name. -/
structure ReadFrom (d : Description) (n : String) (flavor : Flavor) : Prop where
  name : flavor.name = n
  declared : ∃ t, d.flavorTable? n = some t
  get : ∀ f, flavor.get f = d.flavorSetting n f

section
variable {ns : List String} {flavors : List Flavor} (h : List.Forall₂ d.ReadFrom ns flavors)
include h

theorem map_name_of_readFrom : flavors.map (·.name) = ns := by
  induction h with
  | nil => rfl
  | cons hn _ ih => rw [List.map_cons, hn.name, ih]

theorem map_get_of_readFrom (f : Flavor.Field) : flavors.map (·.get f) = ns.map (d.flavorSetting · f) := by
  induction h with
  | nil => rfl
  | cons hn _ ih => rw [List.map_cons, List.map_cons, hn.get f, ih]

theorem exists_flavorTable? : ∀ n ∈ ns, ∃ t, d.flavorTable? n = some t := by
  induction h with
  | nil => exact fun n hn => absurd hn List.not_mem_nil
  | cons hn _ ih => exact List.forall_mem_cons.mpr ⟨hn.declared, ih⟩

theorem get_mergeAll_of_flavorSetting {before after : List String} {n : String} {f : Flavor.Field}
    (hns : ns = before ++ n :: after) (hset : (d.flavorSetting n f).isSet = true)
    (hafter : ∀ m ∈ after, (d.flavorSetting m f).isSet = false) (defaults : Flavor) :
    (Flavor.mergeAll flavors defaults).get f = d.flavorSetting n f := by
  have hmap := map_get_of_readFrom h f
  rw [hns, List.map_append, List.map_cons] at hmap
  obtain ⟨xs, ys', rfl, _, hys'⟩ := List.map_eq_append_iff.mp hmap
  obtain ⟨flavor, ys, rfl, hflavor, hys⟩ := List.map_eq_cons_iff.mp hys'
  rw [← hflavor] at hset ⊢
  refine Flavor.get_mergeAll_of_last hset fun y hy => ?_
  have hmem : y.get f ∈ after.map (d.flavorSetting · f) := hys ▸ List.mem_map_of_mem hy
  obtain ⟨m, hm, heq⟩ := List.mem_map.mp hmem
  rw [← heq]
  exact hafter m hm

theorem isSet_get_of_readFrom {f : Flavor.Field} :
    (∃ x ∈ flavors, (x.get f).isSet = true) ↔ ∃ n ∈ ns, (d.flavorSetting n f).isSet = true := by
  have hmap := map_get_of_readFrom h f
  have hleft : (∃ x ∈ flavors, (x.get f).isSet = true) ↔ ∃ s ∈ flavors.map (·.get f), s.isSet = true := by simp
  rw [hleft, hmap]
  simp

end

theorem addFlavors_ok {ns : List String} (h : d.addFlavors (ns.map .string) v = .ok w) :
    ∃ layers, w = v.addLayers layers ∧ List.Forall₂ d.ReadFrom ns (layers.map (·.flavor)) ∧
      List.Forall₂ (fun n (l : FlavorLayer) => ∃ t, d.flavorTable? n = some t ∧ d.sourceSet t n = .ok l.sources)
        ns layers := by
  induction ns generalizing v with
  | nil =>
    cases pure_eq_ok.mp h
    exact ⟨[], rfl, .nil, .nil⟩
  | cons n ns ih =>
    rw [List.map_cons, addFlavors] at h
    obtain ⟨⟨s, t⟩, hnamed, h⟩ := bind_eq_ok.mp h
    obtain ⟨flavor, hflavor, h⟩ := bind_eq_ok.mp h
    obtain ⟨sources, hsources, hrest⟩ := bind_eq_ok.mp h
    obtain ⟨layers, rfl, hlayers, hsets⟩ := ih hrest
    obtain ⟨rfl, ht⟩ := flavorTable?_of_named hnamed
    have hflavor : Flavor.ofTable t s = .ok flavor := mapError_eq_ok.mp hflavor
    refine ⟨⟨flavor, sources⟩ :: layers, rfl, .cons ⟨Flavor.name_ofTable hflavor, ⟨t, ht⟩, fun f => ?_⟩ hlayers,
      .cons ⟨t, ht, hsources⟩ hsets⟩
    rw [flavorSetting, ht]
    exact Flavor.get_ofTable hflavor f

/-- The flavors are those of the names, merged over the defaults of the project. -/
structure LayersOf (d : Description) (ns : List String) (v : Variant) : Prop where
  flavors : List.Forall₂ d.ReadFrom ns v.flavors
  merged : ∃ (t : Table) (defaults : Flavor), d.data.get? "default" = some (.table t) ∧
    (∀ f, defaults.get f = t.setting f) ∧ v.merged = Flavor.mergeAll v.flavors defaults
  kind : v.kind ≠ .test

theorem layered_layersOf {buildType : Value} {ns : List String}
    (h : d.layered files reader buildType (.list (ns.map .string)) = .ok v) : d.LayersOf ns v := by
  have hkind : v.kind ≠ .test := by
    rcases (layered_ok h).2.role with hr | hr <;> simp [Variant.kind, hr, Role.kind]
  unfold layered at h
  obtain ⟨t, ht, h⟩ := bind_eq_ok.mp h
  obtain ⟨_, _, h⟩ := bind_eq_ok.mp h
  obtain ⟨defaults, hdefaults, h⟩ := bind_eq_ok.mp h
  obtain ⟨_, _, h⟩ := bind_eq_ok.mp h
  obtain ⟨_, _, h⟩ := bind_eq_ok.mp h
  obtain ⟨_, _, h⟩ := bind_eq_ok.mp h
  obtain ⟨_, _, h⟩ := bind_eq_ok.mp h
  obtain ⟨w, hw, h⟩ := bind_eq_ok.mp h
  obtain ⟨values, hvalues, h⟩ := bind_eq_ok.mp h
  cases hvalues
  obtain ⟨layers, rfl, hlayers, _⟩ := addFlavors_ok h
  obtain ⟨hnone, _, _⟩ := Variant.create_ok hw
  obtain ⟨_, hmerged⟩ := Variant.create_flavors hw
  have hflavors : (w.addLayers layers).flavors = layers.map (·.flavor) := by
    rw [Variant.addLayers_eq, Variant.flavors, hnone, List.nil_append]
  refine ⟨by rw [hflavors]; exact hlayers, ⟨t, defaults, table_ok ht, ?_, ?_⟩, hkind⟩
  · exact Flavor.get_ofTable (mapError_eq_ok.mp hdefaults)
  · rw [hflavors, Variant.addLayers_eq, hmerged]

/-- The rest of a build does not touch the layers. -/
theorem BuildEnds.layersOf {buildType : Value} {ns : List String} {b : Build}
    (h : BuildEnds files reader d g buildType (.list (ns.map .string)) b) (hv : b.outcome = .ok v) :
    d.LayersOf ns v := by
  cases h with
  | early => cases hv
  | late => cases hv
  | built hlayered _ ho hl =>
    cases hv
    obtain ⟨hflavors, hmerged, hkind⟩ := layered_layersOf hlayered
    cases hl
    cases ho with
    | none => exact ⟨hflavors, hmerged, hkind⟩
    | output hlibrary => exact ⟨hflavors, hmerged, nofun⟩

theorem withLibraries_data {d' : Description} {i : Instances} (h : d.withLibraries files g = .ok (d', i)) :
    d'.data = d.data := by
  unfold withLibraries at h
  split at h
  · cases h
    rfl
  · split at h
    · cases h
    · cases h
      rfl

theorem BuildEnds.data {buildType flavors : Value} {b : Build} (h : BuildEnds files reader d g buildType flavors b) :
    b.description.data = d.data := by
  cases h with
  | early => rfl
  | late hi => exact withLibraries_data hi
  | built _ hi => exact withLibraries_data hi

/-- A test has the layers of the tested variant, over its own table and then the defaults. -/
structure TestLayersOf (d : Description) (v w : Variant) : Prop where
  layers : w.layers = v.layers
  buildType : w.buildType = v.buildType
  kind : w.kind = .test
  merged : ∃ (t testTable : Table) (defaults own : Flavor), d.data.get? "default" = some (.table t) ∧
    d.data.get? "test" = some (.table testTable) ∧ (∀ f, defaults.get f = t.setting f) ∧
    (∀ f, own.get f = testTable.setting f) ∧ w.merged = Flavor.mergeAll v.flavors (own.mergeOver defaults)

theorem TestBuildEnds.layersOf {id : VariantId} {b : Build} (h : TestBuildEnds files reader d g id v b)
    (hw : b.outcome = .ok w) : d.TestLayersOf v w := by
  cases h with
  | early => cases hw
  | late => cases hw
  | @built _ _ testTable layered _ htest hlayered _ hl =>
    cases hw
    unfold layeredTest at hlayered
    obtain ⟨t, ht, hlayered⟩ := bind_eq_ok.mp hlayered
    obtain ⟨defaults, hdefaults, hlayered⟩ := bind_eq_ok.mp hlayered
    obtain ⟨own, hown, hlayered⟩ := bind_eq_ok.mp hlayered
    obtain ⟨_, _, hlayered⟩ := bind_eq_ok.mp hlayered
    obtain ⟨x, hx, hlayered⟩ := bind_eq_ok.mp hlayered
    have hlayers : layered = x.addLayers v.layers := (pure_eq_ok.mp hlayered).symm
    rw [Variant.addLayers_eq] at hlayers
    obtain ⟨hnone, _, _⟩ := Variant.create_ok hx
    obtain ⟨_, hmerged⟩ := Variant.create_flavors hx
    have hmade : x.kind = .test ∧ x.buildType = v.buildType := by
      cases hx
      exact ⟨rfl, rfl⟩
    subst hlayers
    cases hl
    refine ⟨?_, hmade.2, hmade.1, t, testTable, defaults, own, table_ok ht, htest,
      Flavor.get_ofTable (mapError_eq_ok.mp hdefaults), Flavor.get_ofTable (mapError_eq_ok.mp hown), ?_⟩
    · show x.layers ++ v.layers = v.layers
      rw [hnone, List.nil_append]
    · show Flavor.mergeAll v.flavors x.merged = _
      rw [hmerged]

/-- What the chain of overrides gives for a test: the last flavor of the list that sets the field, or else the
table of tests, or else the defaults. The same flavor decides for the tested variant. -/
theorem buildTest_overrides {b : Build} {buildType : String} {ns : List String}
    (hb : d.build files reader g (.string buildType) (.list (ns.map .string)) = b) (hv : b.outcome = .ok v)
    {files' : Files} {reader' : ManifestReader} {g' : LibraryGraph} {id : VariantId}
    (hw : (b.description.buildTest files' reader' g' id v).outcome = .ok w) :
    ∃ defaultTable testTable : Table, d.data.get? "default" = some (.table defaultTable) ∧
      d.data.get? "test" = some (.table testTable) ∧ (∀ n ∈ ns, ∃ t, d.flavorTable? n = some t) ∧
      (∀ f : Flavor.Field,
        (∀ before n after, ns = before ++ n :: after → (d.flavorSetting n f).isSet = true →
          (∀ m ∈ after, (d.flavorSetting m f).isSet = false) →
          w.merged.get f = d.flavorSetting n f ∧ v.merged.get f = d.flavorSetting n f) ∧
        ((∀ n ∈ ns, (d.flavorSetting n f).isSet = false) →
          ((testTable.setting f).isSet = true → w.merged.get f = testTable.setting f) ∧
          ((testTable.setting f).isSet = false → w.merged.get f = defaultTable.setting f)) ∧
        ((∃ n ∈ ns, (d.flavorSetting n f).isSet = true) → w.merged.get f = v.merged.get f)) ∧
      (∀ c : Configuration, c.variant = w →
        (∀ runner, w.merged.testInstrumentationRunner = some runner → runner ≠ "" → c.instrumentationRunner = runner) ∧
        (w.merged.testInstrumentationRunner = none ∨ w.merged.testInstrumentationRunner = some "" →
          c.instrumentationRunner = defaultInstrumentationRunner)) ∧
      v.flavors.map (·.name) = ns ∧ w.flavors = v.flavors ∧ w.flavorSources = v.flavorSources ∧
      w.name = v.name ++ "-test" := by
  have hends : BuildEnds files reader d g (.string buildType) (.list (ns.map .string)) b := hb ▸ build_ends ..
  obtain ⟨hflavors, hmerged, hkind⟩ := hends.layersOf hv
  obtain ⟨hlayers, hbuildType, hkind', htest⟩ := (buildTest_ends files' reader' b.description g' id v).layersOf hw
  rw [hends.data] at htest
  obtain ⟨defaultTable, defaults, hdefault, hdefaults, hmerged⟩ := hmerged
  obtain ⟨defaultTable', testTable, defaults', own, hdefault', htable, hdefaults', hown, hmerged'⟩ := htest
  rw [hdefault] at hdefault'
  cases hdefault'
  refine ⟨defaultTable, testTable, hdefault, htable, exists_flavorTable? hflavors, fun f => ⟨?_, ?_, ?_⟩, ?_,
    map_name_of_readFrom hflavors, ?_, ?_, Variant.name_of_test hkind' hkind hlayers hbuildType⟩
  · intro before n after hns hset hafter
    rw [hmerged', hmerged]
    exact ⟨get_mergeAll_of_flavorSetting hflavors hns hset hafter _,
      get_mergeAll_of_flavorSetting hflavors hns hset hafter _⟩
  · intro hopen
    have hopen' : ∀ x ∈ v.flavors, (x.get f).isSet = false := by
      intro x hx
      by_contra hset
      rw [Bool.not_eq_false] at hset
      obtain ⟨n, hn, hset⟩ := (isSet_get_of_readFrom hflavors).mp ⟨x, hx, hset⟩
      rw [hopen n hn] at hset
      cases hset
    rw [hmerged', Flavor.get_mergeAll_of_open hopen', Flavor.get_mergeOver, hown, hdefaults']
    exact ⟨fun hset => Setting.overlay_of_isSet hset _, fun hset => Setting.overlay_of_not_isSet hset _⟩
  · intro hset
    rw [hmerged', hmerged]
    exact Flavor.get_mergeAll_of_set ((isSet_get_of_readFrom hflavors).mpr hset) _
  · rintro c rfl
    unfold Configuration.instrumentationRunner
    refine ⟨fun runner hrunner hne => ?_, fun hnone => ?_⟩
    · rw [hrunner, Setting.given?_text_of_ne hne, Option.getD_some]
    · rw [Setting.given?_text_eq_none_iff.mpr hnone, Option.getD_none]
  · rw [Variant.flavors, Variant.flavors, hlayers]
  · rw [Variant.flavorSources, Variant.flavorSources, hlayers]

/-- The test table leaves open a version that the defaults give. -/
def freeAndPaid : Description where
  data :=
    [("default", .table [("package_name", .string "com.app"), ("version_name", .string "1.0")]),
      ("build_types", .table [("debug", .table [])]),
      ("flavors", .table
        [("free", .table [("version_code", .integer 7), ("test_package_name", .string "com.free.test")]),
          ("paid", .table [("version_code", .integer 0)])]),
      ("test", .table [("version_name", .string ""), ("test_instrumentation_runner", .string "com.app.Runner")])]
  baseDirectory := ⟨.root, []⟩

theorem buildTest_overrides_free_and_paid :
    ∃ b v w, freeAndPaid.build bundleFiles (fun _ => .ok none) .empty (.string "debug")
        (.list (["free", "paid"].map .string)) = b ∧
      b.outcome = .ok v ∧ (b.description.buildTest bundleFiles (fun _ => .ok none) b.libraries 0 v).outcome = .ok w ∧
      w.merged.versionCode = some 0 ∧ v.merged.versionCode = some 0 ∧ w.merged.versionName = some "1.0" ∧
      w.name = v.name ++ "-test" := by
  generalize hb : freeAndPaid.build bundleFiles (fun _ => .ok none) .empty (.string "debug")
    (.list (["free", "paid"].map .string)) = b
  have hrun : (b.outcome.toOption.bind fun v =>
      (b.description.buildTest bundleFiles (fun _ => .ok none) b.libraries 0 v).outcome.toOption.map Variant.name) =
      some "free-paid-debug-test" := by
    rw [← hb]
    cbv
  obtain ⟨v, hv, hrun⟩ := Option.bind_eq_some_iff.mp hrun
  obtain ⟨w, hw, _⟩ := Option.map_eq_some_iff.mp hrun
  have hv := eq_ok_of_toOption hv
  have hw := eq_ok_of_toOption hw
  obtain ⟨defaultTable, testTable, hdefault, htable, _, hfields, _, _, _, _, hname⟩ := buildTest_overrides hb hv hw
  cases hdefault
  cases htable
  have hcode := (hfields .versionCode).1 ["free"] "paid" [] rfl rfl (fun m hm => absurd hm List.not_mem_nil)
  have hversion := ((hfields .versionName).2.1 (by decide)).2 rfl
  exact ⟨b, v, w, rfl, hv, hw, hcode.1, hcode.2, hversion, hname⟩

end Description

end BuildVariants
