import BuildVariants.Variant.Attributes
import Mathlib

/-!
# What the checks of the calls establish

Attributes are well-formed if a test and nothing else has a tested variant, only a library has an output,
and there are as many source sets as flavors. The constructor makes well-formed attributes and every call
keeps them so, whether it succeeds or not (`AttributeWorld.WellFormed.run`). Well-formed attributes are those
of exactly one variant (`Variant.Attributes.wellFormed_iff`), and calls do to them what they do to the variant
(`World.run_attributes`), so nothing is lost by looking at variants only.
-/

namespace BuildVariants

namespace Variant

/-! ## Well-formed attributes -/

namespace Attributes

structure WellFormed (a : Attributes) : Prop where
  tested : a.kind = .test ↔ a.tested.isSome
  output : a.output.isSome → a.kind = .library
  layers : a.flavors.length = a.flavorSources.length

variable {a b : Attributes} {g : LibraryGraph}

theorem checkTested_ok {kind : VariantKind} {tested : Option VariantId} (h : checkTested kind tested = .ok ()) :
    kind = .test ↔ tested.isSome := by
  unfold checkTested at h
  by_cases hkind : kind = .test
  · cases tested with
    | none => simp [hkind] at h
    | some t => simp [hkind]
  · cases tested with
    | none => simp [hkind]
    | some t => simp [hkind] at h

theorem create_wellFormed {workingDirectory : Path} {isFile : Path → Bool} {p : Plan}
    (h : create workingDirectory isFile p = .ok a) : a.WellFormed := by
  unfold create at h
  cases hchecked : checkTested p.kind p.tested with
  | error fault =>
    rw [hchecked] at h
    cases h
  | ok checked =>
    rw [hchecked] at h
    simp only [bind, Except.bind, pure, Except.pure, Except.mapError] at h
    split at h
    · cases h
    · cases h
      constructor
      · exact checkTested_ok hchecked
      · simp
      · rfl

theorem WellFormed.addFlavor (ha : a.WellFormed) (flavor : Flavor) (sources : SourceSet) :
    (a.addFlavor flavor sources).WellFormed where
  tested := ha.tested
  output := ha.output
  layers := by simp [Attributes.addFlavor, ha.layers]

theorem WellFormed.setJars (ha : a.WellFormed) (jars : List Jar) : (a.setJars jars).WellFormed :=
  ⟨ha.tested, ha.output, ha.layers⟩

theorem WellFormed.setLibraries (ha : a.WellFormed) (tested : Option Attributes) (direct : List LibraryId) :
    (a.setLibraries g tested direct).1.WellFormed := by
  unfold Attributes.setLibraries
  dsimp only
  split
  · exact ⟨ha.tested, ha.output, ha.layers⟩
  · exact ⟨ha.tested, ha.output, ha.layers⟩

theorem WellFormed.setOutput {output : LibraryId} (ha : a.WellFormed) (h : a.setOutput output = .ok b) :
    b.WellFormed := by
  unfold Attributes.setOutput at h
  split at h
  · cases h
  · rename_i hkind
    cases h
    exact ⟨ha.tested, fun _ => not_not.mp hkind, ha.layers⟩

end Attributes

/-! ## The attributes of a variant -/

def attributes (v : Variant) : Attributes where
  defaults := v.defaults
  mainSources := v.mainSources
  buildType := v.buildType
  buildTypeSources := v.buildTypeSources
  kind := v.kind
  tested := v.tested
  packageOf := v.packageOf
  flavors := v.flavors
  flavorSources := v.flavorSources
  merged := v.merged
  output := v.output
  direct := v.direct
  flat := v.flat
  jars := v.jars

variable {v : Variant}

@[simp] theorem attributes_tested (v : Variant) : v.attributes.tested = v.tested := rfl

theorem kind_eq_test_iff (v : Variant) : v.kind = .test ↔ v.tested.isSome := by
  unfold kind tested
  cases v.role <;> simp [Role.kind]

theorem kind_eq_library_of_output (h : v.output.isSome) : v.kind = .library := by
  unfold output at h
  unfold kind
  split at h
  · rename_i hr
    rw [hr, Role.kind]
  · cases h

theorem wellFormed_attributes (v : Variant) : v.attributes.WellFormed where
  tested := v.kind_eq_test_iff
  output := kind_eq_library_of_output
  layers := by simp [attributes, flavors, flavorSources]

/-- The variant in that role with the other attributes. -/
def Attributes.inRole (a : Attributes) (role : Role) : Variant where
  defaults := a.defaults
  mainSources := a.mainSources
  buildType := a.buildType
  buildTypeSources := a.buildTypeSources
  role := role
  packageOf := a.packageOf
  layers := (a.flavors.zip a.flavorSources).map fun l => ⟨l.1, l.2⟩
  merged := a.merged
  direct := a.direct
  flat := a.flat
  jars := a.jars

theorem inRole_attributes (v : Variant) : v.attributes.inRole v.role = v := by
  simp [attributes, Attributes.inRole, flavors, flavorSources, List.zip_map', Function.comp_def]

theorem attributes_injective : Function.Injective attributes := by
  intro v w h
  have hrole : v.role = w.role := by
    have hkind : v.kind = w.kind := congrArg Attributes.kind h
    have htested : v.tested = w.tested := congrArg Attributes.tested h
    have houtput : v.output = w.output := congrArg Attributes.output h
    unfold kind at hkind
    unfold tested at htested
    unfold output at houtput
    cases hv : v.role <;> cases hw : w.role <;> simp_all [Role.kind]
  rw [← v.inRole_attributes, ← w.inRole_attributes, h, hrole]

namespace Attributes

variable {a : Attributes}

theorem attributes_inRole {role : Role} (ha : a.WellFormed) (hkind : role.kind = a.kind)
    (htested : (a.inRole role).tested = a.tested) (houtput : (a.inRole role).output = a.output) :
    (a.inRole role).attributes = a := by
  have hflavors : (a.inRole role).flavors = a.flavors := by
    rw [Variant.flavors, inRole, List.map_map]
    exact List.map_fst_zip ha.layers.le
  have hsources : (a.inRole role).flavorSources = a.flavorSources := by
    rw [Variant.flavorSources, inRole, List.map_map]
    exact List.map_snd_zip ha.layers.ge
  unfold attributes
  rw [htested, houtput, hflavors, hsources, Variant.kind]
  simp [inRole, hkind]

theorem WellFormed.exists_variant (ha : a.WellFormed) : ∃ v : Variant, v.attributes = a := by
  have htested (h : a.kind ≠ .test) : none = a.tested := by
    cases ht : a.tested with
    | none => rfl
    | some t => exact absurd (ha.tested.mpr (by simp [ht])) h
  have houtput (h : a.kind ≠ .library) : none = a.output := by
    cases ho : a.output with
    | none => rfl
    | some o => exact absurd (ha.output (by simp [ho])) h
  cases hkind : a.kind with
  | default =>
    have hrole : Role.default.kind = a.kind := hkind.symm
    exact ⟨_, attributes_inRole ha hrole (htested (by simp [hkind])) (houtput (by simp [hkind]))⟩
  | library =>
    have hrole : (Role.library a.output).kind = a.kind := hkind.symm
    exact ⟨_, attributes_inRole ha hrole (htested (by simp [hkind])) rfl⟩
  | test =>
    obtain ⟨t, ht⟩ := Option.isSome_iff_exists.mp (ha.tested.mp hkind)
    have hrole : (Role.test t).kind = a.kind := hkind.symm
    exact ⟨_, attributes_inRole ha hrole ht.symm (houtput (by simp [hkind]))⟩

theorem wellFormed_iff : a.WellFormed ↔ ∃! v : Variant, v.attributes = a := by
  constructor
  · intro ha
    obtain ⟨v, rfl⟩ := ha.exists_variant
    exact ⟨v, rfl, fun w hw => attributes_injective hw⟩
  · rintro ⟨v, rfl, _⟩
    exact v.wellFormed_attributes

end Attributes

/-! ## Calls on a variant and on its attributes -/

theorem create_attributes (workingDirectory : Path) (isFile : Path → Bool) (p : Plan) :
    Attributes.create workingDirectory isFile p = (create workingDirectory isFile p).map attributes := by
  obtain ⟨_, main, _, _, kind, tested, _⟩ := p
  cases kind with
  | test => cases tested <;> rfl
  | _ =>
    cases tested with
    | some t => rfl
    | none =>
      -- only now it counts whether there is a manifest
      by_cases hfile : isFile main.manifest
      · simp [Attributes.create, Attributes.checkTested, Attributes.validate, create, Plan.role, Plan.requiredFiles, hfile]
        rfl
      · simp [Attributes.create, Attributes.checkTested, Attributes.validate, create, Plan.role, Plan.requiredFiles, hfile]
        rfl

theorem addFlavor_attributes (v : Variant) (flavor : Flavor) (sources : SourceSet) :
    v.attributes.addFlavor flavor sources = (v.addFlavor flavor sources).attributes := by
  simp [attributes, Attributes.addFlavor, addFlavor, flavors, flavorSources, kind, tested, output]

theorem setJars_attributes (v : Variant) (jars : List Jar) :
    v.attributes.setJars jars = (v.setJars jars).attributes := rfl

theorem setOutput_attributes (v : Variant) (output : LibraryId) :
    v.attributes.setOutput output = (v.setOutput output).map attributes := by
  obtain ⟨_, _, _, _, role, _, _, _, _, _, _⟩ := v
  cases role <;> rfl

theorem fullDirect_attributes (v : Variant) (t : Option Variant) :
    v.attributes.fullDirect (t.map attributes) = v.fullDirect t := by
  cases t with
  | none => rfl
  | some t =>
    obtain ⟨_, _, _, _, role, _, _, _, _, _, _⟩ := t
    cases role with
    | default => rfl
    | library output => cases output <;> rfl
    | test tested => rfl

theorem flattened_attributes (g : LibraryGraph) (v : Variant) (t : Option Variant) :
    v.attributes.flattened g (t.map attributes) = v.flattened g t := by
  unfold Attributes.flattened flattened
  rw [fullDirect_attributes]
  cases v.fullDirect t with
  | error fault => rfl
  | ok full =>
    simp only [bind, Except.bind]
    cases g.flatten full with
    | error l => rfl
    | ok order => rfl

theorem setLibraries_attributes (g : LibraryGraph) (v : Variant) (t : Option Variant) (direct : List LibraryId) :
    v.attributes.setLibraries g (t.map attributes) direct =
      ((v.setLibraries g t direct).1.attributes, (v.setLibraries g t direct).2) := by
  have hdeclared : ({ v.attributes with direct := direct } : Attributes) =
      ({ v with direct := direct } : Variant).attributes := rfl
  unfold Attributes.setLibraries setLibraries
  simp only [hdeclared, flattened_attributes]
  cases flattened g { v with direct := direct } t with
  | error fault => rfl
  | ok order => rfl

end Variant

/-! ## Worlds -/

namespace AttributeWorld

def WellFormed (w : AttributeWorld) : Prop :=
  ∀ (id : VariantId) (a : Variant.Attributes), w.variant? id = some a → a.WellFormed

variable {w : AttributeWorld} {a : Variant.Attributes}

theorem wellFormed_start (g : LibraryGraph) : WellFormed { libraries := g } := fun _ _ h => by cases h

theorem WellFormed.add (hw : w.WellFormed) (ha : a.WellFormed) : (w.add a).WellFormed := by
  intro id b hb
  rw [variant?, AttributeWorld.add, Array.getElem?_push] at hb
  split at hb
  · cases hb
    exact ha
  · exact hw id b hb

theorem WellFormed.replace (hw : w.WellFormed) (ha : a.WellFormed) (id : VariantId) : (w.replace id a).WellFormed := by
  intro j b hb
  rw [variant?, AttributeWorld.replace, Array.getElem?_setIfInBounds] at hb
  split at hb
  · split at hb
    · cases hb
      exact ha
    · cases hb
  · exact hw j b hb

theorem WellFormed.perform (hw : w.WellFormed) (c : World.Command) : (w.perform c).1.WellFormed := by
  cases c with
  | create workingDirectory isFile plan =>
    simp only [AttributeWorld.perform]
    cases hcreate : Variant.Attributes.create workingDirectory isFile plan with
    | error fault => exact hw
    | ok a =>
      have hadd := hw.add (Variant.Attributes.create_wellFormed hcreate)
      dsimp only
      cases a.tested with
      | none => exact hadd
      | some t =>
        by_cases ht : t < w.variants.size
        · simpa [ht] using hadd
        · simpa [ht] using hw
  | addFlavor id flavor sources =>
    simp only [AttributeWorld.perform]
    cases ha : w.variant? id with
    | none => exact hw
    | some a => exact hw.replace ((hw id a ha).addFlavor flavor sources) id
  | setLibraries id direct =>
    simp only [AttributeWorld.perform]
    cases ha : w.variant? id with
    | none => exact hw
    | some a => exact hw.replace ((hw id a ha).setLibraries _ direct) id
  | setJars id jars =>
    simp only [AttributeWorld.perform]
    cases ha : w.variant? id with
    | none => exact hw
    | some a => exact hw.replace ((hw id a ha).setJars jars) id
  | setOutput id output =>
    simp only [AttributeWorld.perform]
    cases ha : w.variant? id with
    | none => exact hw
    | some a =>
      dsimp only
      cases hset : a.setOutput output with
      | error fault => exact hw
      | ok changed => exact hw.replace ((hw id a ha).setOutput hset) id

theorem WellFormed.run (hw : w.WellFormed) (commands : List World.Command) : (w.run commands).WellFormed := by
  induction commands generalizing w with
  | nil => exact hw
  | cons c rest ih => exact ih (hw.perform c)

end AttributeWorld

namespace World

/-- The world with the attributes of its variants. -/
def attributes (w : World) : AttributeWorld :=
  { libraries := w.libraries, variants := w.variants.map Variant.attributes }

theorem attributes_start (g : LibraryGraph) : attributes { libraries := g } = { libraries := g } := by
  simp [attributes]

theorem variant?_attributes (w : World) (id : VariantId) :
    w.attributes.variant? id = (w.variant? id).map Variant.attributes :=
  Array.getElem?_map

theorem add_attributes (w : World) (v : Variant) : w.attributes.add v.attributes = (w.add v).attributes := by
  simp [attributes, add, AttributeWorld.add]

theorem replace_attributes (w : World) (id : VariantId) (v : Variant) :
    w.attributes.replace id v.attributes = (w.replace id v).attributes := by
  simp [attributes, replace, AttributeWorld.replace, Array.map_setIfInBounds]

theorem perform_attributes (w : World) (c : Command) :
    w.attributes.perform c = ((w.perform c).1.attributes, (w.perform c).2) := by
  cases c with
  | create workingDirectory isFile plan =>
    simp only [AttributeWorld.perform, perform, Variant.create_attributes]
    cases Variant.create workingDirectory isFile plan with
    | error fault => rfl
    | ok v =>
      have hsize : w.attributes.variants.size = w.variants.size := Array.size_map
      simp only [Except.map, Variant.attributes_tested, hsize]
      cases v.tested with
      | none => simp only [add_attributes]
      | some t => by_cases ht : t < w.variants.size <;> simp [ht, add_attributes]
  | addFlavor id flavor sources =>
    simp only [AttributeWorld.perform, perform, variant?_attributes]
    cases w.variant? id with
    | none => rfl
    | some v => simp [Variant.addFlavor_attributes, replace_attributes]
  | setLibraries id direct =>
    simp only [AttributeWorld.perform, perform, variant?_attributes]
    cases w.variant? id with
    | none => rfl
    | some v =>
      have htested : (v.tested.bind fun t => (w.variant? t).map Variant.attributes) =
          (v.tested.bind w.variant?).map Variant.attributes := by
        cases v.tested <;> rfl
      have hlibraries : w.attributes.libraries = w.libraries := rfl
      simp only [Option.map_some, Variant.attributes_tested, htested, hlibraries, Variant.setLibraries_attributes,
        replace_attributes]
  | setJars id jars =>
    simp only [AttributeWorld.perform, perform, variant?_attributes]
    cases w.variant? id with
    | none => rfl
    | some v => simp [Variant.setJars_attributes, replace_attributes]
  | setOutput id output =>
    simp only [AttributeWorld.perform, perform, variant?_attributes]
    cases w.variant? id with
    | none => rfl
    | some v =>
      simp only [Option.map_some, Variant.setOutput_attributes]
      cases v.setOutput output with
      | error fault => rfl
      | ok changed => simp [Except.map, replace_attributes]

/-- A run does to the attributes of variants what it does to the variants. -/
theorem run_attributes (w : World) (commands : List Command) :
    w.attributes.run commands = (w.run commands).attributes := by
  induction commands generalizing w with
  | nil => rfl
  | cons c rest ih =>
    rw [AttributeWorld.run, List.foldl_cons, perform_attributes]
    exact ih (w.perform c).1

end World

namespace AttributeWorld

theorem run_start (g : LibraryGraph) (commands : List World.Command) :
    run { libraries := g } commands = (World.run { libraries := g } commands).attributes := by
  rw [← World.run_attributes, World.attributes_start]

/-- After any calls, a variant is found by its attributes where it is found in the world. -/
theorem run_variant? {g : LibraryGraph} {commands : List World.Command} {id : VariantId} {v : Variant}
    (h : (World.run { libraries := g } commands).variant? id = some v) :
    (run { libraries := g } commands).variant? id = some v.attributes := by
  rw [run_start, World.variant?_attributes, h, Option.map_some]

end AttributeWorld

end BuildVariants
