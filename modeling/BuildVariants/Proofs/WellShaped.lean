import BuildVariants.Proofs.BuildFaults

/-!
# Descriptions of the documented shape

A description has the documented shape if its tables are tables, its lists of names and paths are lists
of texts, and its paths are texts, wherever they stand; all other values may be anything. A build from
it then fails with a fault of the description or without a main manifest, unless its kind is a value that
cannot be shown (`build_of_wellShaped`). A test build fails with a fault of the description, or for a
library variant that was built without an output, when all else is in order.
-/

namespace BuildVariants

/-! ## Texts and lists of texts -/

def Value.IsTexts (v : Value) : Prop := ∃ ns : List String, v = .list (ns.map .string)

namespace Value

variable {v : Value} {f : ValueFault}

theorem IsTexts.isText_of_mem (h : v.IsTexts) {values : List Value} (hv : v.elements = .ok values) {w : Value}
    (hw : w ∈ values) : w.IsText := by
  obtain ⟨ns, rfl⟩ := h
  cases hv
  obtain ⟨s, _, rfl⟩ := List.mem_map.mp hw
  exact ⟨s, rfl⟩

theorem IsTexts.elements_ne_error (h : v.IsTexts) {e : Fault} : v.elements ≠ .error e := by
  obtain ⟨ns, rfl⟩ := h
  exact nofun

theorem IsText.isName (h : v.IsText) : v.isName = true := by
  obtain ⟨s, rfl⟩ := h
  rfl

theorem IsText.isShowable (h : v.IsText) : v.isShowable = true := by
  obtain ⟨s, rfl⟩ := h
  rfl

theorem IsTexts.not_noPaths (h : v.IsTexts) : ¬v.NoPaths f := by
  intro hno
  cases hno with
  | notIterable he => exact h.elements_ne_error he
  | notText hvalues hw hno => exact hno (h.isText_of_mem hvalues hw)

theorem IsTexts.not_noNames (h : v.IsTexts) : ¬v.NoNames f := by
  intro hno
  cases hno with
  | notIterable he => exact h.elements_ne_error he
  | notName hvalues hw hno =>
    rw [(h.isText_of_mem hvalues hw).isName] at hno
    cases hno
  | notText hvalues hw hno => exact hno (h.isText_of_mem hvalues hw)

theorem IsTexts.not_noDependencies (h : v.IsTexts) : ¬v.NoDependencies f := by
  intro hno
  cases hno with
  | notIterable he => exact h.elements_ne_error he
  | notName hvalues hw hno =>
    rw [(h.isText_of_mem hvalues hw).isName] at hno
    cases hno
  | notShowable hvalues hw hno =>
    rw [(h.isText_of_mem hvalues hw).isShowable] at hno
    cases hno

theorem IsTable.not_noLibraries (h : v.IsTable) : ¬v.NoLibraries f := by
  intro hno
  cases hno with
  | notIterable he =>
    obtain ⟨t, rfl⟩ := h
    cases he
  | notTable hno => exact hno h
  | notName hno => exact hno h

end Value

/-! ## Tables -/

namespace Table

/-- There is nothing under the key, or a value of this kind. -/
def Holds (t : Table) (key : String) (p : Value → Prop) : Prop := ∀ v, t.get? key = some v → p v

theorem Holds.getD {t : Table} {key : String} {p : Value → Prop} {missing : Value} (h : t.Holds key p)
    (hmissing : p missing) : p (t.getD key missing) := by
  cases hv : t.get? key with
  | none => exact getD_of_none hv ▸ hmissing
  | some v => exact getD_of_some hv ▸ h v hv

theorem isTexts_nil : Value.IsTexts (.list []) := ⟨[], rfl⟩

structure SourceSetShape (raw : Table) : Prop where
  manifest : raw.Holds "manifest" Value.IsText
  resources : raw.Holds "resources" Value.IsText
  classpath : raw.Holds "compile_classpath" Value.IsTexts

def LayerShape (t : Table) : Prop := t.Holds "source_set" fun v => ∃ raw, v = .table raw ∧ SourceSetShape raw

structure LibraryValues (t : Table) : Prop where
  dependencies : t.Holds "dependencies" Value.IsTexts
  folder : t.Holds "folder" Value.IsText
  manifest : t.Holds "manifest" Value.IsText
  jarFile : t.Holds "jar_file" Value.IsText
  resFolder : t.Holds "res_folder" Value.IsText

variable {t : Table} {f : ValueFault}

theorem LayerShape.not_noSourceSet (h : t.LayerShape) : ¬t.NoSourceSet f := by
  have hraw : ∀ {raw : Table}, t.get? "source_set" = some (.table raw) → SourceSetShape raw := by
    intro raw hset
    obtain ⟨_, heq, hshape⟩ := h _ hset
    cases heq
    exact hshape
  intro hno
  cases hno with
  | notTable hset hno =>
    obtain ⟨raw, rfl, _⟩ := h _ hset
    exact hno ⟨raw, rfl⟩
  | manifest hset hv hno => exact hno ((hraw hset).manifest _ hv)
  | resources hset hv _ hno => exact hno ((hraw hset).resources _ hv)
  | classpath hset hv hno => exact ((hraw hset).classpath _ hv).not_noPaths hno

theorem LibraryValues.not_noFiles (h : t.LibraryValues) : ¬t.NoFiles f := by
  intro hno
  cases hno with
  | folder hv hno => exact hno (h.folder _ hv)
  | file _ hkey hv hno =>
    rcases hkey with rfl | rfl
    · exact hno (h.manifest _ hv)
    · exact hno (h.jarFile _ hv)
  | resources _ hv _ hno => exact hno (h.resFolder _ hv)

theorem LibraryValues.isTexts (h : t.LibraryValues) : t.dependencyValue.IsTexts :=
  h.dependencies.getD isTexts_nil

end Table

namespace Description

open Instances (names lookUp)

variable {d : Description} {f : ValueFault} {v : Variant}

/-- The documented shape; all values that it does not name may be anything. -/
structure WellShaped (d : Description) : Prop where
  buildTypes : d.data.Holds "build_types" Value.IsTable
  flavors : d.data.Holds "flavors" Value.IsTable
  libraries : d.data.Holds "libraries" Value.IsTable
  layers : ∀ t : Table, d.IsLayer t → t.LayerShape
  declared : ∀ (s : String) (t : Table), d.libraryTables.get? s = some (.table t) → t.LibraryValues
  output : ∀ t : Table, d.data.get? "output" = some (.table t) → t.LibraryValues
  jars : d.data.Holds "jars" Value.IsTexts
  dependencies : d.data.Holds "dependencies" Value.IsTexts
  test : ∀ t : Table, d.data.get? "test" = some (.table t) →
    t.LayerShape ∧ t.Holds "dependencies" Value.IsTexts

theorem isTable_nil : Value.IsTable (.table []) := ⟨[], rfl⟩

theorem WellShaped.misplaced (hd : d.WellShaped) (h : d.Misplaced f) :
    f = .notShowable ∧ ∃ w, d.data.get? "variant_type" = some w ∧ w.isShowable = false := by
  -- only the kind can still be out of place
  cases h with
  | kind hw hno => exact ⟨rfl, _, hw, hno⟩
  | buildTypes hno => exact absurd (hd.buildTypes.getD isTable_nil) hno
  | flavors hno => exact absurd (hd.flavors.getD isTable_nil) hno
  | sourceSet ht hno => exact absurd hno (hd.layers _ ht).not_noSourceSet
  | libraries hno => exact absurd hno (hd.libraries.getD isTable_nil).not_noLibraries
  | libraryDependencies ht hno => exact absurd hno (hd.declared _ _ ht).isTexts.not_noDependencies
  | libraryFiles ht hno => exact absurd hno (hd.declared _ _ ht).not_noFiles
  | jars hno => exact absurd hno (hd.jars.getD Table.isTexts_nil).not_noPaths
  | outputDependencies ht hno => exact absurd hno (hd.output _ ht).isTexts.not_noNames
  | outputFiles ht hno => exact absurd hno (hd.output _ ht).not_noFiles
  | dependencies hno => exact absurd hno (hd.dependencies.getD Table.isTexts_nil).not_noNames

theorem WellShaped.not_misplacedInTest (hd : d.WellShaped) : ¬d.MisplacedInTest f := by
  intro h
  cases h with
  | sourceSet ht hno => exact (hd.test _ ht).1.not_noSourceSet hno
  | dependencies ht hno => exact ((hd.test _ ht).2.getD Table.isTexts_nil).not_noNames hno

/-- All that a test build of `v` needs is in order but for the output of `v`. -/
structure OnlyLacksOutput (d : Description) (v : Variant) : Prop where
  kind : v.kind = .library
  output : v.output = none
  test : ∃ (t : Table) (own : Flavor), d.data.get? "test" = some (.table t) ∧
    Flavor.ofTable t "test" = .ok own ∧ ∀ s ∈ t.dependencyValue.texts, s ∈ d.libraryTables.keys

theorem OnlyLacksOutput.role (h : d.OnlyLacksOutput v) : v.role = .library none := by
  have hkind := h.kind
  have hout := h.output
  unfold Variant.kind at hkind
  unfold Variant.output at hout
  cases hr : v.role with
  | library o =>
    rw [hr] at hout
    rw [show o = none from hout]
  | default =>
    rw [hr] at hkind
    cases hkind
  | test _ =>
    rw [hr] at hkind
    cases hkind

theorem OnlyLacksOutput.eq_of_testFault {e : Fault} (h : d.OnlyLacksOutput v) (hd : d.WellShaped)
    (he : d.TestFault v e) : e = .structural .testedWithoutOutput := by
  obtain ⟨t, own, ht, hown, hnames⟩ := h.test
  cases he with
  | noOutput => rfl
  | misplaced hf => exact absurd hf hd.not_misplacedInTest
  | noTable hno => exact absurd ht (hno t)
  | flavor ht' hno =>
    cases Option.some.inj (ht.symm.trans ht')
    rw [hown] at hno
    cases hno
  | undeclared ht' hs hno =>
    cases Option.some.inj (ht.symm.trans ht')
    exact absurd (hnames _ hs) hno

theorem buildTest_of_onlyLacksOutput {files : Files} {reader : ManifestReader} {g : LibraryGraph} {id : VariantId}
    (h : d.OnlyLacksOutput v) : ∃ e, (d.buildTest files reader g id v).outcome = .error e := by
  cases hends : d.buildTest files reader g id v with
  | mk d' g' outcome =>
    cases outcome with
    | error e => exact ⟨e, rfl⟩
    | ok t =>
      have hended := buildTest_ends files reader d g id v
      rw [hends] at hended
      cases hended with
      | built _ _ _ hl =>
        cases hl with
        | mk _ hfull _ =>
          rw [Variant.fullDirect, h.role] at hfull
          cases hfull

/-- A build from a description of the documented shape gives a variant, or a fault of the description, or
there is no main manifest; or its kind cannot be shown in the fault that it is about to report. Whatever
libraries have been added since, a test build gives a test or a fault of the description, or finds a
library variant without an output, the latter exactly if nothing else is wrong. -/
theorem build_of_wellShaped {w : Workspace} (hw : w.Reachable) {place : Nat} {d : Description}
    (hd : w.descriptions[place]? = some d) (hshape : d.WellShaped) (files : Files) (reader : ManifestReader)
    (buildType : String) (flavors : List String) {b : Build}
    (hb : d.build files reader w.world.libraries (.string buildType) (.list (flavors.map .string)) = b) :
    (∀ e, b.outcome = .error e → (∃ f, e = .description f) ∨ (∃ p, e = .mainManifestMissing p) ∨
      e = .value .notShowable ∧ ∃ kind, d.data.get? "variant_type" = some kind ∧ kind.isShowable = false) ∧
    ∀ v, b.outcome = .ok v → ∀ (g : LibraryGraph) (files : Files) (reader : ManifestReader) (id : VariantId),
      g.Extends b.libraries →
      (∀ e, (b.description.buildTest files reader g id v).outcome = .error e →
        (∃ f, e = .description f) ∨ e = .structural .testedWithoutOutput) ∧
      ((∃ f, (b.description.buildTest files reader g id v).outcome = .error (.structural f)) ↔
        d.OnlyLacksOutput v) := by
  have hkeeps : d.KeepsMade w.world.libraries := hw.keepsMade place d hd
  refine ⟨fun e he => ?_, fun v hv g files' reader' id hg => ?_⟩
  · have hfault : d.BuildFault e := build_fails hkeeps e (hb ▸ he)
    cases hfault with
    | @description f => exact .inl ⟨f, rfl⟩
    | @manifest p => exact .inr (.inl ⟨p, rfl⟩)
    | misplaced hf =>
      obtain ⟨rfl, hkind⟩ := hshape.misplaced hf
      exact .inr (.inr ⟨rfl, hkind⟩)
  have hends : BuildEnds files reader d w.world.libraries (.string buildType) (.list (flavors.map .string)) b :=
    hb ▸ build_ends ..
  obtain ⟨_, _, hdata, _⟩ := hends.builtFrom hkeeps hv
  have hfault : ∀ {e}, (b.description.buildTest files' reader' g id v).outcome = .error e → d.TestFault v e :=
    fun {e} he => buildTest_fails hkeeps hends hv hg e he
  refine ⟨fun e he => ?_, fun ⟨f, hf⟩ => ?_, fun h => ?_⟩
  · cases hfault he with
    | misplaced hf => exact absurd hf hshape.not_misplacedInTest
    | noOutput => exact .inr rfl
    | noTable => exact .inl ⟨_, rfl⟩
    | flavor => exact .inl ⟨_, rfl⟩
    | undeclared => exact .inl ⟨_, rfl⟩
  · cases hfault hf with
    | noOutput ht hown hnames hrole =>
      exact ⟨by rw [Variant.kind, hrole]; rfl, by rw [Variant.output, hrole], _, _, ht, hown, hnames⟩
  · have hlacks : b.description.OnlyLacksOutput v :=
      ⟨h.kind, h.output, by rw [hdata, libraryTables_of_data hdata]; exact h.test⟩
    obtain ⟨e, he⟩ := buildTest_of_onlyLacksOutput hlacks
    obtain rfl := h.eq_of_testFault hshape (hfault he)
    exact ⟨_, he⟩

/-- A project of this kind with one library, which its tests use. -/
def ofKind (kind : Value) : Description where
  data :=
    [("variant_type", kind), ("default", .table []), ("build_types", .table [("debug", .table [])]),
      ("libraries", .table [("core", .table [("folder", .string "core")])]),
      ("test", .table [("dependencies", .list [.string "core"])])]
  baseDirectory := ⟨.root, []⟩

theorem wellShaped_ofKind (kind : Value) : (ofKind kind).WellShaped where
  buildTypes := fun v hv => by
    cases hv
    exact ⟨_, rfl⟩
  flavors := fun v hv => by cases hv
  libraries := fun v hv => by
    cases hv
    exact ⟨_, rfl⟩
  layers := fun t ht => by
    have hempty : Table.LayerShape [] := fun v hv => by cases hv
    cases ht with
    | default hget =>
      cases hget
      exact hempty
    | buildType htables hget =>
      cases htables
      obtain ⟨_, rfl⟩ : _ ∧ t = [] := by simpa using Table.mem_of_get? hget
      exact hempty
    | flavor htables hget =>
      cases htables
      cases hget
  declared := fun s t hget => by
    obtain ⟨_, rfl⟩ : _ ∧ t = [("folder", .string "core")] := by
      simpa [libraryTables_eq (d := ofKind kind) rfl] using Table.mem_of_get? hget
    exact
      { dependencies := fun v hv => by cases hv
        folder := fun v hv => by
          cases hv
          exact ⟨_, rfl⟩
        manifest := fun v hv => by cases hv
        jarFile := fun v hv => by cases hv
        resFolder := fun v hv => by cases hv }
  output := fun t ht => by cases ht
  jars := fun v hv => by cases hv
  dependencies := fun v hv => by cases hv
  test := fun t ht => by
    cases ht
    constructor
    · intro v hv
      cases hv
    · intro v hv
      cases hv
      exact ⟨["core"], rfl⟩

/-- A library variant that was built without an output cannot be tested. -/
theorem build_of_wellShaped_untested :
    Workspace.Reachable { descriptions := #[ofKind (.string "library")] } ∧
      (ofKind (.string "library")).WellShaped ∧
      ∃ b v, b = (ofKind (.string "library")).build bundleFiles (fun _ => .ok none) .empty (.string "debug") (.list []) ∧
        b.outcome = .ok v ∧
        ∃ f, (b.description.buildTest bundleFiles (fun _ => .ok none) b.libraries 0 v).outcome =
          .error (.structural f) := by
  have hw : Workspace.Reachable { descriptions := #[ofKind (.string "library")] } := .describe .start rfl
  have hshape := wellShaped_ofKind (.string "library")
  generalize hb : (ofKind (.string "library")).build bundleFiles (fun _ => .ok none) .empty (.string "debug") (.list []) = b
  have hrun : b.outcome.toOption.map Variant.role = some (.library none) := by
    rw [← hb]
    cbv
  obtain ⟨v, hv, hrole⟩ := Option.map_eq_some_iff.mp hrun
  have hv := eq_ok_of_toOption hv
  obtain ⟨_, htests⟩ :=
    build_of_wellShaped hw (show (#[ofKind (.string "library")])[0]? = some _ from rfl) hshape bundleFiles
      (fun _ => .ok none) "debug" [] hb
  have hlacks : (ofKind (.string "library")).OnlyLacksOutput v :=
    { kind := by rw [Variant.kind, hrole]; rfl
      output := by rw [Variant.output, hrole]
      test := ⟨[("dependencies", .list [.string "core"])], { name := "test" }, rfl, rfl, by decide⟩ }
  exact ⟨hw, hshape, b, v, rfl, hv, (htests v hv b.libraries _ _ 0 (.refl _)).2.mpr hlacks⟩

theorem kind_ofKind {n : Int} (h : (Value.integer n).isShowable = false) :
    (ofKind (.integer n)).kind = .error (.value .notShowable) := by
  have hget : (ofKind (.integer n)).data.getD "variant_type" (.string "default") = .integer n := rfl
  rw [kind, hget]
  dsimp only
  rw [Value.shown_of_not_showable h]
  rfl

theorem build_ofKind {n : Int} (h : (Value.integer n).isShowable = false) (files : Files)
    (reader : ManifestReader) (g : LibraryGraph) :
    ((ofKind (.integer n)).build files reader g (.string "debug") (.list [])).outcome =
      .error (.value .notShowable) := by
  have htable : (ofKind (.integer n)).table "default" = .ok [] := rfl
  have htype : Table.named .buildType (ofKind (.integer n)).buildTypes (.string "debug") = .ok ("debug", []) := rfl
  have hlayered : (ofKind (.integer n)).layered files reader (.string "debug") (.list []) =
      .error (.value .notShowable) := by
    unfold layered
    rw [htable, htype, kind_ofKind h]
    rfl
  rw [build, hlayered]

/-- The least number that is too long to be shown. -/
def overlong : Int := (10 ^ longestInteger : Nat)

/-- The shape is as documented, but the kind is a number that cannot be shown. -/
theorem build_of_wellShaped_unshowable :
    Workspace.Reachable { descriptions := #[ofKind (.integer overlong)] } ∧ (ofKind (.integer overlong)).WellShaped ∧
      ((ofKind (.integer overlong)).build bundleFiles (fun _ => .ok none) .empty (.string "debug")
        (.list [])).outcome = .error (.value .notShowable) := by
  have hlong : (Value.integer overlong).isShowable = false := by decide +kernel
  exact ⟨.describe .start rfl, wellShaped_ofKind _, build_ofKind hlong _ _ _⟩

end Description

end BuildVariants
