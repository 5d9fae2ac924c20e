import BuildVariants.Proofs.Attributes
import BuildVariants.Proofs.PriorityOrder
import Mathlib

/-!
# What commands keep

A command leaves a world as it is, adds a variant behind all others, or changes one variant
(`World.Outcome`). Whatever the commands were and whether they succeeded, every variant is sound: its
merged flavor is the merge of its flavors, and its flattened libraries are grounded and listed once.
A test tests a variant that was made before it, so the chain of tested variants comes to an end.
-/

namespace BuildVariants

open Relation (ReflTransGen)

/-! ## Variants -/

namespace Variant

/-- What every call keeps. -/
structure Sound (g : LibraryGraph) (v : Variant) : Prop where
  merged : v.merged = Flavor.mergeAll v.flavors v.defaults
  nodup : v.flat.Nodup
  grounded : Grounded g.dependencies v.flat

/-- What no call changes. -/
structure SameBase (u v : Variant) : Prop where
  defaults : u.defaults = v.defaults
  mainSources : u.mainSources = v.mainSources
  buildType : u.buildType = v.buildType
  buildTypeSources : u.buildTypeSources = v.buildTypeSources
  packageOf : u.packageOf = v.packageOf

variable {g : LibraryGraph} {v w : Variant}

theorem SameBase.refl (v : Variant) : v.SameBase v := ⟨rfl, rfl, rfl, rfl, rfl⟩

theorem SameBase.trans {u : Variant} (h : u.SameBase v) (h' : v.SameBase w) : u.SameBase w where
  defaults := h.defaults.trans h'.defaults
  mainSources := h.mainSources.trans h'.mainSources
  buildType := h.buildType.trans h'.buildType
  buildTypeSources := h.buildTypeSources.trans h'.buildTypeSources
  packageOf := h.packageOf.trans h'.packageOf

theorem tested_eq_of_role (h : v.role = w.role) : v.tested = w.tested := by
  rw [tested, tested, h]

/-- A variant starts with what its plan gives and nothing else. -/
theorem create_eq {workingDirectory : Path} {isFile : Path → Bool} {p : Plan}
    (h : create workingDirectory isFile p = .ok v) :
    ∃ role, p.role = .ok role ∧ v =
      { defaults := p.defaults, mainSources := p.mainSources, buildType := p.buildType,
        buildTypeSources := p.buildTypeSources, role := role, packageOf := p.packageOf } := by
  unfold create at h
  split at h
  · cases h
  · rename_i role hrole
    split at h
    · cases h
    · cases h
      exact ⟨role, hrole, rfl⟩

theorem create_ok {workingDirectory : Path} {isFile : Path → Bool} {p : Plan}
    (h : create workingDirectory isFile p = .ok v) :
    v.layers = [] ∧ v.merged = v.defaults ∧ v.flat = [] := by
  obtain ⟨_, _, rfl⟩ := create_eq h
  exact ⟨rfl, rfl, rfl⟩

theorem create_sound {workingDirectory : Path} {isFile : Path → Bool} {p : Plan}
    (h : create workingDirectory isFile p = .ok v) : v.Sound g := by
  obtain ⟨hlayers, hmerged, hflat⟩ := create_ok h
  refine ⟨?_, by rw [hflat]; exact List.nodup_nil, by rw [hflat]; trivial⟩
  rw [hmerged, flavors, hlayers]
  rfl

theorem Sound.addFlavor (hv : v.Sound g) (flavor : Flavor) (sources : SourceSet) :
    (v.addFlavor flavor sources).Sound g where
  merged := by
    have hlast : (v.addFlavor flavor sources).flavors = v.flavors ++ [flavor] := List.map_append ..
    rw [hlast, Flavor.mergeAll, List.foldl_append, Variant.addFlavor, hv.merged]
    rfl
  nodup := hv.nodup
  grounded := hv.grounded

/-- A call that sets libraries takes over the declared ones; if it succeeds, also what it flattens. -/
inductive LibrariesSet (g : LibraryGraph) (v : Variant) (tested : Option Variant) (direct : List LibraryId) :
    Variant × Except StructuralFault Unit → Prop
  | ok {full order : List LibraryId} : fullDirect { v with direct := direct } tested = .ok full →
    g.flatten full = .ok order →
    LibrariesSet g v tested direct ({ v with direct := direct, flat := order }, .ok ())
  | error {fault : StructuralFault} : LibrariesSet g v tested direct ({ v with direct := direct }, .error fault)

theorem setLibraries_outcome (g : LibraryGraph) (v : Variant) (tested : Option Variant)
    (direct : List LibraryId) : LibrariesSet g v tested direct (v.setLibraries g tested direct) := by
  unfold setLibraries
  dsimp only
  split
  · exact .error
  · rename_i order horder
    unfold flattened at horder
    split at horder
    · cases horder
    · rename_i full hfull
      split at horder
      · cases horder
      · rename_i hflat
        cases horder
        exact .ok hfull hflat

section
variable {tested : Option Variant} {direct : List LibraryId} {r : Variant × Except StructuralFault Unit}

theorem LibrariesSet.role (h : LibrariesSet g v tested direct r) : r.1.role = v.role := by
  cases h <;> rfl

theorem LibrariesSet.layers (h : LibrariesSet g v tested direct r) : r.1.layers = v.layers := by
  cases h <;> rfl

theorem LibrariesSet.merged (h : LibrariesSet g v tested direct r) : r.1.merged = v.merged := by
  cases h <;> rfl

theorem LibrariesSet.sameBase (h : LibrariesSet g v tested direct r) : r.1.SameBase v := by
  cases h <;> exact ⟨rfl, rfl, rfl, rfl, rfl⟩

theorem LibrariesSet.sound (h : LibrariesSet g v tested direct r) (hv : v.Sound g) : r.1.Sound g := by
  cases h with
  | error => exact ⟨hv.merged, hv.nodup, hv.grounded⟩
  | ok _ hflat =>
    obtain ⟨hnodup, hgrounded, _⟩ := LibraryGraph.flatten_ok hflat
    exact ⟨hv.merged, hnodup, hgrounded⟩

end

theorem setOutput_ok {output : LibraryId} (h : v.setOutput output = .ok w) :
    (∃ o, v.role = .library o) ∧ w = { v with role := .library (some output) } := by
  unfold setOutput at h
  split at h
  · rename_i o hr
    cases h
    exact ⟨⟨o, hr⟩, rfl⟩
  · cases h

end Variant

/-! ## Worlds -/

namespace World

variable {w w' : World} {c : Command} {id : VariantId} {v : Variant}

/-- What one variant becomes by a command on it. -/
inductive Changed (w : World) (id : VariantId) (v : Variant) : Command → Variant → Prop
  | addFlavor {flavor : Flavor} {sources : SourceSet} :
    Changed w id v (.addFlavor id flavor sources) (v.addFlavor flavor sources)
  | setLibraries {direct : List LibraryId} : Changed w id v (.setLibraries id direct)
    (v.setLibraries w.libraries (v.tested.bind w.variant?) direct).1
  | setJars {jars : List Jar} : Changed w id v (.setJars id jars) (v.setJars jars)
  | setOutput {output : LibraryId} {u : Variant} : v.setOutput output = .ok u →
    Changed w id v (.setOutput id output) u

/-- What a world becomes by a command. -/
inductive Outcome (w : World) : Command → World → Prop
  | same {c : Command} : (∀ id flavor sources, c = .addFlavor id flavor sources → w.variant? id = none) →
    Outcome w c w
  | created {workingDirectory : Path} {isFile : Path → Bool} {plan : Variant.Plan} {v : Variant} :
    Variant.create workingDirectory isFile plan = .ok v →
    (∀ t, v.tested = some t → t < w.variants.size) →
    Outcome w (.create workingDirectory isFile plan) (w.add v)
  | changed {c : Command} {id : VariantId} {v u : Variant} : w.variant? id = some v → Changed w id v c u →
    Outcome w c (w.replace id u)

theorem perform_outcome (w : World) (c : Command) : w.Outcome c (w.perform c).1 := by
  cases c with
  | create workingDirectory isFile plan =>
    simp only [perform]
    cases hv : Variant.create workingDirectory isFile plan with
    | error e => exact .same fun _ _ _ h => by cases h
    | ok v =>
      cases ht : v.tested with
      | none => simp only [ht]; exact .created hv fun t h => by rw [ht] at h; cases h
      | some t =>
        simp only [ht]
        split
        · rename_i hlt
          exact .created hv fun t' h => by rw [ht] at h; cases h; exact hlt
        · exact .same fun _ _ _ h => by cases h
  | addFlavor id flavor sources =>
    simp only [perform]
    cases hv : w.variant? id with
    | none => exact .same fun _ _ _ h => by cases h; exact hv
    | some v => exact .changed hv .addFlavor
  | setLibraries id direct =>
    simp only [perform]
    cases hv : w.variant? id with
    | none => exact .same fun _ _ _ h => by cases h
    | some v => exact .changed hv .setLibraries
  | setJars id jars =>
    simp only [perform]
    cases hv : w.variant? id with
    | none => exact .same fun _ _ _ h => by cases h
    | some v => exact .changed hv .setJars
  | setOutput id output =>
    simp only [perform]
    cases hv : w.variant? id with
    | none => exact .same fun _ _ _ h => by cases h
    | some v =>
      cases hu : v.setOutput output with
      | error e => simp only [hu]; exact .same fun _ _ _ h => by cases h
      | ok u => simp only [hu]; exact .changed hv (.setOutput hu)

/-! ## What becomes of one variant -/

theorem lt_size_of_variant? (h : w.variant? id = some v) : id < w.variants.size :=
  (Array.getElem?_eq_some_iff.mp h).1

theorem exists_variant (h : id < w.variants.size) : ∃ v, w.variant? id = some v :=
  ⟨w.variants[id], Array.getElem?_eq_getElem h⟩

/-- The flavor that a command is to add to the variant, with its source set. -/
def Command.layer? (id : VariantId) : Command → Option FlavorLayer
  | addFlavor j flavor sources => if j = id then some ⟨flavor, sources⟩ else none
  | _ => none

theorem Command.layer?_eq_none (h : ∀ flavor sources, c ≠ .addFlavor id flavor sources) :
    c.layer? id = none := by
  cases c with
  | addFlavor j flavor sources =>
    have hj : j ≠ id := fun e => h flavor sources (e ▸ rfl)
    exact if_neg hj
  | _ => rfl

theorem Changed.layers {u : Variant} (h : w.Changed id v c u) :
    u.layers = v.layers ++ (c.layer? id).toList := by
  cases h with
  | addFlavor => rw [Command.layer?, if_pos rfl]; rfl
  | setLibraries =>
    rw [(Variant.setLibraries_outcome ..).layers]
    exact (List.append_nil _).symm
  | setJars => exact (List.append_nil _).symm
  | setOutput hu =>
    rw [(Variant.setOutput_ok hu).2]
    exact (List.append_nil _).symm

theorem Changed.sameBase {u : Variant} (h : w.Changed id v c u) : u.SameBase v := by
  cases h with
  | addFlavor => exact ⟨rfl, rfl, rfl, rfl, rfl⟩
  | setLibraries => exact (Variant.setLibraries_outcome ..).sameBase
  | setJars => exact ⟨rfl, rfl, rfl, rfl, rfl⟩
  | setOutput hu =>
    obtain ⟨_, rfl⟩ := Variant.setOutput_ok hu
    exact ⟨rfl, rfl, rfl, rfl, rfl⟩

theorem Changed.tested {u : Variant} (h : w.Changed id v c u) : u.tested = v.tested := by
  cases h with
  | addFlavor => rfl
  | setLibraries => exact Variant.tested_eq_of_role (Variant.setLibraries_outcome ..).role
  | setJars => rfl
  | setOutput hu =>
    obtain ⟨⟨o, hr⟩, rfl⟩ := Variant.setOutput_ok hu
    unfold Variant.tested
    rw [hr]

theorem Changed.sound {u : Variant} (h : w.Changed id v c u) (hv : v.Sound w.libraries) :
    u.Sound w.libraries := by
  cases h with
  | addFlavor => exact hv.addFlavor ..
  | setLibraries => exact (Variant.setLibraries_outcome ..).sound hv
  | setJars => exact ⟨hv.merged, hv.nodup, hv.grounded⟩
  | setOutput hu =>
    obtain ⟨_, rfl⟩ := Variant.setOutput_ok hu
    exact ⟨hv.merged, hv.nodup, hv.grounded⟩

theorem Changed.layer?_eq_none {u : Variant} {j : VariantId} (h : w.Changed id v c u) (hj : j ≠ id) :
    c.layer? j = none := by
  cases h with
  | addFlavor => exact if_neg hj.symm
  | _ => rfl

/-- How a variant comes out of a command. -/
inductive Became (w : World) (c : Command) (id : VariantId) (u : Variant) : Prop
  | kept : w.variant? id = some u → c.layer? id = none → Became w c id u
  | created {workingDirectory : Path} {isFile : Path → Bool} {plan : Variant.Plan} :
    c = .create workingDirectory isFile plan → Variant.create workingDirectory isFile plan = .ok u →
    (∀ t, u.tested = some t → t < id) → id = w.variants.size → Became w c id u
  | changed {v : Variant} : w.variant? id = some v → Changed w id v c u → Became w c id u

theorem Outcome.became {u : Variant} (h : w.Outcome c w') (hu : w'.variant? id = some u) : w.Became c id u := by
  cases h with
  | same hnone =>
    refine .kept hu (Command.layer?_eq_none fun flavor sources hc => ?_)
    rw [hnone id flavor sources hc] at hu
    cases hu
  | created hv htested =>
    rw [variant?, add, Array.getElem?_push] at hu
    split at hu
    · rename_i hid
      cases hu
      subst hid
      exact .created rfl hv htested rfl
    · exact .kept hu rfl
  | @changed _ j v _ hv hchanged =>
    rw [variant?, replace, Array.getElem?_setIfInBounds] at hu
    split at hu
    · rename_i hj
      subst hj
      rw [if_pos (lt_size_of_variant? hv)] at hu
      cases hu
      exact .changed hv hchanged
    · rename_i hj
      exact .kept hu (hchanged.layer?_eq_none (Ne.symm hj))

theorem Outcome.libraries (h : w.Outcome c w') : w'.libraries = w.libraries := by
  cases h <;> rfl

theorem variant?_replace_self (h : w.variant? id = some v) (u : Variant) :
    (w.replace id u).variant? id = some u := by
  rw [variant?, replace, Array.getElem?_setIfInBounds, if_pos rfl, if_pos (lt_size_of_variant? h)]

theorem variant?_replace_of_ne {j : VariantId} (h : j ≠ id) (u : Variant) :
    (w.replace id u).variant? j = w.variant? j := by
  rw [variant?, replace, Array.getElem?_setIfInBounds, if_neg h.symm]
  rfl

/-- No variant is lost. -/
theorem Outcome.survives (h : w.Outcome c w') (hv : w.variant? id = some v) :
    ∃ u, w'.variant? id = some u ∧ (u = v ∨ w.Changed id v c u) := by
  cases h with
  | same => exact ⟨v, hv, .inl rfl⟩
  | created =>
    refine ⟨v, ?_, .inl rfl⟩
    rw [variant?, add, Array.getElem?_push, if_neg (Nat.ne_of_lt (lt_size_of_variant? hv))]
    exact hv
  | @changed _ j _ u hj hchanged =>
    by_cases hid : id = j
    · subst hid
      rw [hv] at hj
      cases hj
      exact ⟨u, variant?_replace_self hv u, .inr hchanged⟩
    · exact ⟨v, by rw [variant?_replace_of_ne hid, hv], .inl rfl⟩

/-- A command changes a variant, or keeps it and adds no flavor to it. -/
theorem perform_same_or_changed (hv : w.variant? id = some v) (c : Command) :
    ∃ u, (w.perform c).1.variant? id = some u ∧ ((u = v ∧ c.layer? id = none) ∨ w.Changed id v c u) := by
  have houtcome := perform_outcome w c
  obtain ⟨u, hu, _⟩ := houtcome.survives hv
  refine ⟨u, hu, ?_⟩
  cases houtcome.became hu with
  | kept hkept hlayer =>
    rw [hv] at hkept
    cases hkept
    exact .inl ⟨rfl, hlayer⟩
  | created _ _ _ hid => exact absurd (lt_size_of_variant? hv) (hid ▸ Nat.lt_irrefl _)
  | changed hx hchanged =>
    rw [hv] at hx
    cases hx
    exact .inr hchanged

/-! ## Sound worlds -/

/-- All variants are sound, and each test tests a variant made before it. -/
structure Sound (w : World) : Prop where
  variant : ∀ (id : VariantId) (v : Variant), w.variant? id = some v → v.Sound w.libraries
  tested_lt : ∀ (id t : VariantId) (v : Variant), w.variant? id = some v → v.tested = some t → t < id

theorem sound_start (g : LibraryGraph) : Sound { libraries := g } where
  variant _ _ h := by cases h
  tested_lt _ _ _ h := by cases h

theorem Sound.perform (hw : w.Sound) (c : Command) : (w.perform c).1.Sound := by
  have houtcome := perform_outcome w c
  constructor
  · intro id u hu
    rw [houtcome.libraries]
    cases houtcome.became hu with
    | kept hu => exact hw.variant _ _ hu
    | created _ hcreate => exact Variant.create_sound hcreate
    | changed hv hchanged => exact hchanged.sound (hw.variant _ _ hv)
  · intro id t u hu ht
    cases houtcome.became hu with
    | kept hu => exact hw.tested_lt _ _ _ hu ht
    | created _ _ htested => exact htested t ht
    | changed hv hchanged => exact hw.tested_lt _ _ _ hv (hchanged.tested ▸ ht)

theorem run_append (w : World) (before after : List Command) :
    w.run (before ++ after) = (w.run before).run after := List.foldl_append

theorem run_concat (w : World) (commands : List Command) (c : Command) :
    w.run (commands ++ [c]) = ((w.run commands).perform c).1 := by
  rw [run_append]
  rfl

theorem Sound.run (hw : w.Sound) (commands : List Command) : (w.run commands).Sound := by
  induction commands using List.reverseRecOn with
  | nil => exact hw
  | append_singleton commands c ih =>
    rw [run_concat]
    exact ih.perform c

/-- What each command keeps of a variant is kept by all of them. -/
theorem survives_run {p : Variant → Prop} {commands : List Command}
    (hstep : ∀ c ∈ commands, ∀ (w : World) (v u : Variant), w.Changed id v c u → p v → p u)
    (hv : w.variant? id = some v) (hp : p v) : ∃ u, (w.run commands).variant? id = some u ∧ p u := by
  induction commands generalizing w v with
  | nil => exact ⟨v, hv, hp⟩
  | cons c rest ih =>
    obtain ⟨u, hu, hchange⟩ := (perform_outcome w c).survives hv
    have hpu : p u := by
      rcases hchange with rfl | hchanged
      · exact hp
      · exact hstep c List.mem_cons_self w v u hchanged hp
    exact ih (fun c hc => hstep c (List.mem_cons_of_mem _ hc)) hu hpu

theorem run_libraries (w : World) (commands : List Command) : (w.run commands).libraries = w.libraries := by
  induction commands using List.reverseRecOn with
  | nil => rfl
  | append_singleton commands c ih => rw [run_concat, (perform_outcome _ c).libraries, ih]

/-! ## Chains of tested variants -/

def Tests (w : World) (a b : VariantId) : Prop := ∃ v, w.variant? a = some v ∧ v.tested = some b

theorem Sound.chain_ends (hw : w.Sound) (hv : w.variant? id = some v) :
    ∃ last u, ReflTransGen w.Tests id last ∧ w.variant? last = some u ∧ u.kind ≠ .test := by
  induction id using Nat.strongRecOn generalizing v with
  | ind id ih =>
    cases ht : v.tested with
    | none =>
      refine ⟨id, v, .refl, hv, fun hkind => ?_⟩
      rw [Variant.kind_eq_test_iff, ht] at hkind
      cases hkind
    | some t =>
      -- a test has its place behind the variant that it tests
      have hlt := hw.tested_lt _ _ _ hv ht
      obtain ⟨next, hnext⟩ := exists_variant (Nat.lt_trans hlt (lt_size_of_variant? hv))
      obtain ⟨last, u, hlast, hu, hkind⟩ := ih t hlt hnext
      exact ⟨last, u, .head ⟨v, hv, ht⟩ hlast, hu, hkind⟩

theorem Sound.exists_configuration (hw : w.Sound) (hv : w.variant? id = some v) :
    ∃ c, w.configuration? id = some c ∧ c.variant = v := by
  induction id using Nat.strongRecOn generalizing v with
  | ind id ih =>
    unfold configuration?
    simp only [hv]
    split
    · rename_i t hr
      have ht : v.tested = some t := by rw [Variant.tested, hr]
      have hlt := hw.tested_lt _ _ _ hv ht
      obtain ⟨next, hnext⟩ := exists_variant (Nat.lt_trans hlt (lt_size_of_variant? hv))
      obtain ⟨c, hc, _⟩ := ih t hlt hnext
      rw [if_pos hlt, hc]
      exact ⟨.testOf v c, rfl, rfl⟩
    · exact ⟨.plain v, rfl, rfl⟩

/-! ## The flavors that calls added -/

/-- The flavors that the commands are to add to the variant, in their order. -/
def layersAdded (id : VariantId) (commands : List Command) : List FlavorLayer :=
  commands.filterMap (·.layer? id)

theorem layersAdded_concat (id : VariantId) (commands : List Command) (c : Command) :
    layersAdded id (commands ++ [c]) = layersAdded id commands ++ (c.layer? id).toList := by
  unfold layersAdded
  rw [List.filterMap_append]
  cases h : c.layer? id <;> simp [h]

theorem perform_layers (hv : w.variant? id = some v) (c : Command) :
    ∃ u, (w.perform c).1.variant? id = some u ∧ u.SameBase v ∧ u.layers = v.layers ++ (c.layer? id).toList := by
  obtain ⟨u, hu, ⟨rfl, hlayer⟩ | hchanged⟩ := perform_same_or_changed hv c
  · exact ⟨u, hu, .refl u, by simp [hlayer]⟩
  · exact ⟨u, hu, hchanged.sameBase, hchanged.layers⟩

/-- The layers of a variant are those it had before and those that the commands add. -/
theorem run_layers (hv : w.variant? id = some v) (commands : List Command) :
    ∃ u, (w.run commands).variant? id = some u ∧ u.SameBase v ∧ u.layers = v.layers ++ layersAdded id commands := by
  induction commands using List.reverseRecOn with
  | nil => exact ⟨v, hv, .refl v, (List.append_nil _).symm⟩
  | append_singleton commands c ih =>
    obtain ⟨x, hx, hbase, hlayers⟩ := ih
    obtain ⟨u, hu, hbase', hlayers'⟩ := perform_layers hx c
    refine ⟨u, ?_, hbase'.trans hbase, ?_⟩
    · rw [run_concat]
      exact hu
    · rw [hlayers', hlayers, layersAdded_concat, List.append_assoc]

/-- Every variant was made by one of the commands. -/
theorem exists_creation {commands : List Command} (hw : w.variants = #[])
    (h : (w.run commands).variant? id = some v) :
    ∃ before workingDirectory isFile plan after made,
      commands = before ++ .create workingDirectory isFile plan :: after ∧
      (w.run before).variants.size = id ∧ Variant.create workingDirectory isFile plan = .ok made ∧
      (w.run (before ++ [.create workingDirectory isFile plan])).variant? id = some made := by
  induction commands using List.reverseRecOn generalizing v with
  | nil =>
    rw [run, List.foldl_nil, variant?, hw] at h
    cases h
  | append_singleton commands c ih =>
    cases hold : (w.run commands).variant? id with
    | some u =>
      obtain ⟨before, workingDirectory, isFile, plan, after, made, rfl, hsize, hcreate, hmade⟩ := ih hold
      exact ⟨before, workingDirectory, isFile, plan, after ++ [c], made, by simp, hsize, hcreate, hmade⟩
    | none =>
      -- a variant that was not there before the last command was made by it
      have hlast := h
      rw [run_concat] at h
      cases (perform_outcome _ c).became h with
      | kept hu =>
        rw [hold] at hu
        cases hu
      | created hc hcreate _ hid =>
        subst hc
        exact ⟨commands, _, _, _, [], v, rfl, hid.symm, hcreate, hlast⟩
      | changed hu =>
        rw [hold] at hu
        cases hu

/-- A variant has what it was made with and the layers that later commands add to it. -/
theorem exists_origin {commands : List Command} (hw : w.variants = #[])
    (h : (w.run commands).variant? id = some v) :
    ∃ before workingDirectory isFile plan after made,
      commands = before ++ .create workingDirectory isFile plan :: after ∧
      (w.run before).variants.size = id ∧ Variant.create workingDirectory isFile plan = .ok made ∧
      v.SameBase made ∧ v.layers = layersAdded id after := by
  obtain ⟨before, workingDirectory, isFile, plan, after, made, rfl, hsize, hcreate, hmade⟩ := exists_creation hw h
  obtain ⟨u, hu, hbase, hlayers⟩ := run_layers hmade after
  rw [← run_append, List.append_assoc, List.singleton_append, h] at hu
  cases hu
  rw [(Variant.create_ok hcreate).1, List.nil_append] at hlayers
  exact ⟨before, workingDirectory, isFile, plan, after, made, rfl, hsize, hcreate, hbase, hlayers⟩

/-- A variant was made by one of the commands, and the later ones added its flavors. -/
inductive MadeIn (w : World) (id : VariantId) (v : Variant) : List Command → Prop
  | mk {before after : List Command} {workingDirectory : Path} {isFile : Path → Bool} {plan : Variant.Plan} :
    (w.run before).variants.size = id → v.layers = layersAdded id after →
    MadeIn w id v (before ++ .create workingDirectory isFile plan :: after)

theorem madeIn_of_run (hw : w.variants = #[]) {commands : List Command}
    (h : (w.run commands).variant? id = some v) : w.MadeIn id v commands := by
  obtain ⟨before, workingDirectory, isFile, plan, after, made, rfl, hsize, _, _, hlayers⟩ := exists_origin hw h
  exact .mk hsize hlayers

/-! ## Whatever the commands were -/

/-- What holds of a variant after any commands, also those that fail. That its attributes fit together is seen to by
the checks of the commands and is no matter of types. Its flavors and their source sets come from the same commands,
which are those that name it since it was made. -/
theorem run_keeps_structure (g : LibraryGraph) (commands : List Command) (id : VariantId) (v : Variant)
    (h : (run { libraries := g } commands).variant? id = some v) :
    (AttributeWorld.run { libraries := g } commands).WellFormed ∧
    (AttributeWorld.run { libraries := g } commands).variant? id = some v.attributes ∧
    (v.kind = .test ↔ v.tested.isSome) ∧
    (∃ last u, ReflTransGen (run { libraries := g } commands).Tests id last ∧
      (run { libraries := g } commands).variant? last = some u ∧ u.kind ≠ .test) ∧
    (∀ t, v.tested = some t → t < id) ∧
    (∃ c, (run { libraries := g } commands).configuration? id = some c ∧ c.variant = v) ∧
    (v.output.isSome → v.kind = .library) ∧
    v.flavors.length = v.flavorSources.length ∧
    (∃ before workingDirectory isFile plan after,
      commands = before ++ .create workingDirectory isFile plan :: after ∧
      (run { libraries := g } before).variants.size = id ∧
      v.flavors = (layersAdded id after).map (·.flavor) ∧
      v.flavorSources = (layersAdded id after).map (·.sources)) ∧
    v.merged = Flavor.mergeAll v.flavors v.defaults ∧
    v.flat.Nodup ∧
    ∀ a ∈ v.flat, ∀ b ∈ g.dependencies a, b ∈ v.flat ∧ v.flat.idxOf a < v.flat.idxOf b := by
  have hworld := (sound_start g).run commands
  have hv := hworld.variant id v h
  rw [run_libraries] at hv
  refine ⟨(AttributeWorld.wellFormed_start g).run commands, AttributeWorld.run_variant? h, v.kind_eq_test_iff,
    hworld.chain_ends h, fun t => hworld.tested_lt id t v h, hworld.exists_configuration h,
    Variant.kind_eq_library_of_output, ?_, ?_, hv.merged, hv.nodup,
    (grounded_iff_idxOf_lt hv.nodup).mp hv.grounded⟩
  · rw [Variant.flavors, Variant.flavorSources, List.length_map, List.length_map]
  · obtain ⟨hid, hlayers⟩ := madeIn_of_run rfl h
    exact ⟨_, _, _, _, _, rfl, hid, by rw [Variant.flavors, hlayers], by rw [Variant.flavorSources, hlayers]⟩

/-- A test of a library, with two calls on the test that fail: its libraries depend on themselves, and
it can have no output. -/
def testOfLibrary : List Command :=
  let sources : SourceSet := { name := "main", manifest := ⟨.here, ["main.xml"]⟩ }
  let plan : Variant.Plan :=
    { defaults := { name := "main" }, mainSources := sources, buildType := { name := "debug" },
      buildTypeSources := sources, packageOf := fun _ => .ok none }
  [ .create ⟨.root, []⟩ (fun _ => true) { plan with kind := .library },
    .create ⟨.root, []⟩ (fun _ => true) { plan with kind := .test, tested := some 0 },
    .addFlavor 1 { name := "free" } sources,
    .setLibraries 0 [1],
    .setOutput 0 0,
    .setLibraries 1 [],
    .setLibraries 1 [2],
    .setOutput 1 0,
    .addFlavor 1 { name := "arm" } sources ]

theorem run_keeps_structure_test_of_library :
    ∃ v, (run { libraries := .ofDependencies [[], [3], [2], []] } testOfLibrary).variant? 1 = some v ∧
      v.direct = [2] ∧ v.flat = [0, 1, 3] ∧ v.flavors.map (·.name) = ["free", "arm"] ∧
      v.flavors.length = v.flavorSources.length ∧ v.merged = Flavor.mergeAll v.flavors v.defaults ∧
      v.flat.Nodup := by
  have hrun : ((run { libraries := .ofDependencies [[], [3], [2], []] } testOfLibrary).variant? 1).map
      (fun v => (v.direct, v.flat, v.flavors.map (·.name))) = some ([2], [0, 1, 3], ["free", "arm"]) := by
    cbv
  obtain ⟨v, hv, heq⟩ := Option.map_eq_some_iff.mp hrun
  obtain ⟨_, _, _, _, _, _, _, hlength, _, hmerged, hnodup, _⟩ := run_keeps_structure _ testOfLibrary 1 v hv
  simp only [Prod.mk.injEq] at heq
  exact ⟨v, hv, heq.1, heq.2.1, heq.2.2, hlength, hmerged, hnodup⟩

end World

end BuildVariants
