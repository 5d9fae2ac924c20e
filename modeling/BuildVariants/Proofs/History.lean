import BuildVariants.Proofs.Copies

/-!
# Builds after other builds

In a project whose files do not change, variants are built, configured and tested in any order
(`Workspace.History`). A description keeps the libraries that were once made for it, and nothing else
becomes of it; so a build ends as it would on a fresh description, and all variants that are built from a
description draw on the same libraries (`Description.build_after_history`).
-/

namespace BuildVariants

open Relation (ReflTransGen)

/-! ## Calls -/

namespace Workspace

/-- A call in a project with these files. -/
inductive Call (files : Files) (w : Workspace) : Workspace → Prop
  | describe {d : Description} : d.instances = none →
    Call files w { w with descriptions := w.descriptions.push d }
  | addLibrary (l : Library) :
    Call files w { w with world := { w.world with libraries := w.world.libraries.add l } }
  | perform (c : World.Command) : Call files w { w with world := (w.world.perform c).1 }
  | build (reader : ManifestReader) (id : Nat) (buildType flavors : Value) :
    Call files w (w.build files reader id buildType flavors).1
  | buildTest (reader : ManifestReader) (id : Nat) (tested : VariantId) :
    Call files w (w.buildTest files reader id tested).1

/-- Any calls, successful or not, one after another. -/
def History (files : Files) : Workspace → Workspace → Prop := ReflTransGen (Call files)

end Workspace

namespace Description

open Instances (Copy IsMade find? names lookUp)

variable {files : Files} {reader : ManifestReader} {d₀ d d' : Description} {g g' : LibraryGraph} {i : Instances}
  {v : Variant}

/-! ## What becomes of a description -/

/-- The description is `d₀` with the libraries, if any, that were once made for it from the same files. -/
structure GrownFrom (files : Files) (d₀ d : Description) (g : LibraryGraph) : Prop where
  fresh : d₀.instances = none
  same : d = { d₀ with instances := d.instances }
  made : ∀ made, d.instances = some made →
    ∃ g₀ i, d₀.makeLibraries files g₀ = .ok i ∧ i.made = made ∧ g.Extends i.graph

structure GrowsTo (files : Files) (d₀ d : Description) (g : LibraryGraph) (d' : Description) (g' : LibraryGraph) :
    Prop where
  grown : GrownFrom files d₀ d' g'
  larger : g'.Extends g
  keeps : ∀ made, d.instances = some made → d'.instances = some made

theorem GrownFrom.eq_of_none (h : GrownFrom files d₀ d g) (hd : d.instances = none) : d = d₀ := by
  rw [h.same, hd, ← h.fresh]

theorem GrownFrom.data (h : GrownFrom files d₀ d g) : d.data = d₀.data := by
  rw [h.same]

theorem GrownFrom.mono (h : GrownFrom files d₀ d g) (hg : g'.Extends g) : GrownFrom files d₀ d g' where
  fresh := h.fresh
  same := h.same
  made := fun made hm => by
    obtain ⟨g₀, i, hi, hmade, hext⟩ := h.made made hm
    exact ⟨g₀, i, hi, hmade, hg.trans hext⟩

theorem GrownFrom.keepsMade (h : GrownFrom files d₀ d g) : d.KeepsMade g := by
  intro made hm
  obtain ⟨g₀, i, hi, hmade, hext⟩ := h.made made hm
  have hfresh : d.fresh = d₀ := by rw [Description.fresh, h.same, ← h.fresh]
  exact ⟨files, g₀, i, hfresh ▸ hi, hmade, hext⟩

theorem GrowsTo.refl (h : GrownFrom files d₀ d g) : GrowsTo files d₀ d g d g := ⟨h, .refl g, fun _ hm => hm⟩

theorem GrowsTo.mono (h : GrowsTo files d₀ d g d' g') {k : LibraryGraph} (hk : k.Extends g') :
    GrowsTo files d₀ d g d' k :=
  ⟨h.grown.mono hk, hk.trans h.larger, h.keeps⟩

theorem GrowsTo.trans {d'' : Description} {g'' : LibraryGraph} (h : GrowsTo files d₀ d g d' g')
    (h' : GrowsTo files d₀ d' g' d'' g'') : GrowsTo files d₀ d g d'' g'' :=
  ⟨h'.grown, h'.larger.trans h.larger, fun made hm => h'.keeps made (h.keeps made hm)⟩

theorem GrownFrom.withLibraries (h : GrownFrom files d₀ d g) (hi : d.withLibraries files g = .ok (d', i)) :
    GrowsTo files d₀ d g d' i.graph ∧ d'.instances = some i.made := by
  unfold Description.withLibraries at hi
  split at hi
  · rename_i made hmade
    cases hi
    exact ⟨.refl h, hmade⟩
  · rename_i hnone
    split at hi
    · cases hi
    · rename_i j hj
      cases hi
      obtain rfl := h.eq_of_none hnone
      have hkept : GrownFrom files d { d with instances := some i.made } i.graph :=
        ⟨hnone, rfl, fun made hm => ⟨g, i, hj, Option.some.inj hm, .refl _⟩⟩
      refine ⟨⟨hkept, (makeLibraries_ok hj).2.1, fun made hm => ?_⟩, rfl⟩
      rw [hnone] at hm
      cases hm

theorem BuildEnds.growsTo {buildType flavors : Value} {b : Build}
    (h : BuildEnds files reader d g buildType flavors b) (hd : GrownFrom files d₀ d g) :
    GrowsTo files d₀ d g b.description b.libraries := by
  cases h with
  | early => exact .refl hd
  | late hi => exact (hd.withLibraries hi).1
  | built _ hi ho _ => exact (hd.withLibraries hi).1.mono ho.extends

theorem TestBuildEnds.growsTo {id : VariantId} {tested : Variant} {b : Build}
    (h : TestBuildEnds files reader d g id tested b) (hd : GrownFrom files d₀ d g) :
    GrowsTo files d₀ d g b.description b.libraries := by
  cases h with
  | early => exact .refl hd
  | late hi => exact (hd.withLibraries hi).1
  | built _ _ hi _ => exact (hd.withLibraries hi).1

/-! ## Whatever is built, libraries stay where they are -/

theorem withLibraries_extends (h : d.withLibraries files g = .ok (d', i)) : i.graph.Extends g := by
  unfold Description.withLibraries at h
  split at h
  · cases h
    exact .refl g
  · split at h
    · cases h
    · rename_i j hj
      cases h
      exact (makeLibraries_ok hj).2.1

theorem BuildEnds.extends {buildType flavors : Value} {b : Build}
    (h : BuildEnds files reader d g buildType flavors b) : b.libraries.Extends g := by
  cases h with
  | early => exact .refl g
  | late hi => exact withLibraries_extends hi
  | built _ hi ho _ => exact ho.extends.trans (withLibraries_extends hi)

theorem TestBuildEnds.extends {id : VariantId} {tested : Variant} {b : Build}
    (h : TestBuildEnds files reader d g id tested b) : b.libraries.Extends g := by
  cases h with
  | early => exact .refl g
  | late hi => exact withLibraries_extends hi
  | built _ _ hi _ => exact withLibraries_extends hi

end Description

namespace Workspace

open Description (GrownFrom GrowsTo build_ends buildTest_ends)

variable {files : Files} {w w' : Workspace} {place : Nat} {d₀ d : Description}

def Grows (files : Files) (d₀ : Description) (place : Nat) (d : Description) (g : LibraryGraph) (w : Workspace) : Prop :=
  ∃ d', w.descriptions[place]? = some d' ∧ GrowsTo files d₀ d g d' w.world.libraries

theorem adopt_grows (hd : w.descriptions[place]? = some d) (hgrown : GrownFrom files d₀ d w.world.libraries)
    {id : Nat} {b : Build} (hext : b.libraries.Extends w.world.libraries)
    (hb : id = place → GrowsTo files d₀ d w.world.libraries b.description b.libraries) :
    Grows files d₀ place d w.world.libraries (w.adopt id b).1 := by
  unfold Grows
  rw [adopt_descriptions, adopt_libraries, Array.getElem?_setIfInBounds]
  by_cases hid : id = place
  · have hlt : id < w.descriptions.size := hid ▸ (Array.getElem?_eq_some_iff.mp hd).1
    rw [if_pos hid, if_pos hlt]
    exact ⟨_, rfl, hb hid⟩
  · rw [if_neg hid]
    exact ⟨d, hd, (GrowsTo.refl hgrown).mono hext⟩

theorem Call.grows (h : Call files w w') (hd : w.descriptions[place]? = some d)
    (hgrown : GrownFrom files d₀ d w.world.libraries) : Grows files d₀ place d w.world.libraries w' := by
  cases h with
  | describe =>
    have hlt : place < w.descriptions.size := (Array.getElem?_eq_some_iff.mp hd).1
    refine ⟨d, ?_, .refl hgrown⟩
    rw [Array.getElem?_push_lt hlt, ← hd, Array.getElem?_eq_getElem hlt]
  | addLibrary l => exact ⟨d, hd, (GrowsTo.refl hgrown).mono (LibraryGraph.extends_add _ _)⟩
  | perform c =>
    refine ⟨d, hd, (GrowsTo.refl hgrown).mono ?_⟩
    rw [(World.perform_outcome w.world c).libraries]
    exact .refl _
  | build reader id buildType flavors =>
    unfold Workspace.build
    split
    · exact ⟨d, hd, .refl hgrown⟩
    · rename_i e he
      have hends := build_ends files reader e w.world.libraries buildType flavors
      refine adopt_grows hd hgrown hends.extends fun hid => ?_
      obtain rfl : e = d := Option.some.inj (he.symm.trans (hid ▸ hd))
      exact hends.growsTo hgrown
  | buildTest reader id tested =>
    unfold Workspace.buildTest
    split
    · rename_i e v he _
      have hends := buildTest_ends files reader e w.world.libraries tested v
      refine adopt_grows hd hgrown hends.extends fun hid => ?_
      obtain rfl : e = d := Option.some.inj (he.symm.trans (hid ▸ hd))
      exact hends.growsTo hgrown
    · exact ⟨d, hd, .refl hgrown⟩

/-- The induction keeps the description at its place, grown from the first one. -/
theorem History.grows (h : History files w w') (hd : w.descriptions[place]? = some d)
    (hgrown : GrownFrom files d₀ d w.world.libraries) : Grows files d₀ place d w.world.libraries w' := by
  induction h with
  | refl => exact ⟨d, hd, .refl hgrown⟩
  | tail _ hcall ih =>
    obtain ⟨d', hd', hgrows⟩ := ih
    obtain ⟨d'', hd'', hgrows'⟩ := hcall.grows hd' hgrows.grown
    exact ⟨d'', hd'', hgrows.trans hgrows'⟩

theorem History.grownFrom (h : History files w w') (hd₀ : w.descriptions[place]? = some d₀)
    (hfresh : d₀.instances = none) (hd : w'.descriptions[place]? = some d) :
    GrownFrom files d₀ d w'.world.libraries := by
  have hstart : GrownFrom files d₀ d₀ w.world.libraries := by
    refine ⟨hfresh, rfl, fun made hm => ?_⟩
    rw [hfresh] at hm
    cases hm
  obtain ⟨e, he, hgrows⟩ := h.grows hd₀ hstart
  obtain rfl : e = d := Option.some.inj (he.symm.trans hd)
  exact hgrows.grown

/-- What a build leaves behind is there in any later state. -/
theorem History.growsTo_of_adopt {b : Build} {d' : Description} (h : History files (w.adopt place b).1 w')
    (hd : w.descriptions[place]? = some d)
    (hb : GrowsTo files d₀ d w.world.libraries b.description b.libraries)
    (hd' : w'.descriptions[place]? = some d') :
    GrowsTo files d₀ b.description b.libraries d' w'.world.libraries := by
  have hlt : place < w.descriptions.size := (Array.getElem?_eq_some_iff.mp hd).1
  have hplace : (w.adopt place b).1.descriptions[place]? = some b.description := by
    rw [adopt_descriptions, Array.getElem?_setIfInBounds, if_pos rfl, if_pos hlt]
  have hlibraries : (w.adopt place b).1.world.libraries = b.libraries := adopt_libraries w place b
  obtain ⟨x, hx, hgrows⟩ := h.grows hplace (hlibraries ▸ hb.grown)
  obtain rfl : x = d' := Option.some.inj (hx.symm.trans hd')
  rwa [hlibraries] at hgrows

end Workspace

/-! ## The same build on a fresh description -/

namespace Description

open Instances (Copy IsMade find? names lookUp)

variable {files : Files} {reader : ManifestReader} {d₀ d d' : Description} {g g' : LibraryGraph} {i : Instances}
  {v : Variant}

theorem addFlavors_instances (d : Description) (kept : Option (List (String × LibraryId))) (ns : List Value)
    (v : Variant) : ({ d with instances := kept } : Description).addFlavors ns v = d.addFlavors ns v := by
  induction ns generalizing v with
  | nil => rfl
  | cons n ns ih =>
    rw [addFlavors, addFlavors]
    simp only [ih]
    rfl

theorem layered_instances (files : Files) (reader : ManifestReader) (d : Description)
    (kept : Option (List (String × LibraryId))) (buildType flavors : Value) :
    ({ d with instances := kept } : Description).layered files reader buildType flavors =
      d.layered files reader buildType flavors := by
  unfold layered
  simp only [addFlavors_instances]
  rfl

theorem GrownFrom.layered_eq (h : GrownFrom files d₀ d g) (reader : ManifestReader) (buildType flavors : Value) :
    d.layered files reader buildType flavors = d₀.layered files reader buildType flavors := by
  rw [h.same, layered_instances]

theorem GrownFrom.finish_eq (h : GrownFrom files d₀ d g) : d.finish files = d₀.finish files := by
  rw [h.same]
  exact funext fun i => funext fun v => finish_instances files d₀ _ i v

/-- The libraries of a description, made earlier or now, are those that a fresh one makes in any graph. -/
theorem withLibraries_alike (h : GrownFrom files d₀ d g) (g' : LibraryGraph) :
    Alike (fun r r' => ∃ ρ, Copy ρ r.2 r'.2) (d.withLibraries files g) (d₀.withLibraries files g') := by
  have hfresh : ∀ g', d₀.withLibraries files g' =
      (fun i => ({ d₀ with instances := some i.made }, i)) <$> d₀.makeLibraries files g' := by
    intro g'
    rw [withLibraries, h.fresh]
    cases d₀.makeLibraries files g' with
    | ok i => rfl
    | error e => rfl
  cases hd : d.instances with
  | none =>
    rw [h.eq_of_none hd, hfresh g, hfresh g']
    exact (makeLibraries_alike files d₀ g g').map fun i i' hmade => ⟨_, hmade.copy⟩
  | some made =>
    rw [withLibraries_of_instances hd, hfresh g']
    obtain ⟨g₀, i, hi, rfl, hext⟩ := h.made made hd
    have halike := makeLibraries_alike files d₀ g₀ g'
    rw [hi] at halike
    obtain ⟨i', hi', hmade⟩ := halike.exists_ok
    rw [hi']
    exact .ok ⟨_, hmade.copy.extends hext (.refl _)⟩

theorem build_alike (h : GrownFrom files d₀ d g) (g' : LibraryGraph) (reader : ManifestReader)
    (buildType flavors : Value) :
    Alike (fun v v' => ∃ ρ, v.CopiedBy ρ (d.build files reader g buildType flavors).libraries
        (d₀.build files reader g' buildType flavors).libraries v')
      (d.build files reader g buildType flavors).outcome (d₀.build files reader g' buildType flavors).outcome := by
  have hlayered := h.layered_eq reader buildType flavors
  cases hv : d₀.layered files reader buildType flavors with
  | error e =>
    rw [build, build, hlayered, hv]
    exact .error
  | ok v =>
    have halike := withLibraries_alike h g'
    cases hi : d.withLibraries files g with
    | error e =>
      rw [hi] at halike
      rw [build, build, hlayered, hv]
      dsimp only
      rw [hi, halike.eq_error]
      exact .error
    | ok r =>
      obtain ⟨e, i⟩ := r
      rw [hi] at halike
      obtain ⟨⟨e', i'⟩, hi', ρ, hcopy⟩ := halike.exists_ok
      have hkeeps₀ : d₀.KeepsMade g' := keepsMade_of_none h.fresh g'
      have he : e.finish files i v = d₀.finish files i v := by rw [(h.withLibraries hi).1.grown.finish_eq]
      have he' : e'.finish files i' v = d₀.finish files i' v := by
        rw [(withLibraries_ok hkeeps₀ hi').1, finish_instances]
      obtain ⟨hrep, _⟩ := withLibraries_represents h.keepsMade hi
      obtain ⟨hrep', _⟩ := withLibraries_represents hkeeps₀ hi'
      rw [libraryTables_of_data h.data] at hrep
      have hfinish : Alike _ (d₀.finish files i v) (d₀.finish files i' v) :=
        finish_alike hcopy hrep hrep' (layered_ok hv).2
      rw [build_eq_finish (hlayered.trans hv) hi, build_eq_finish hv hi', he, he']
      generalize d₀.finish files i v = finished at hfinish
      generalize d₀.finish files i' v = finished' at hfinish
      cases hfinish with
      | ok hcopied => exact .ok hcopied
      | error => exact .error

end Description

/-! ## One library for each declared name -/

/-- The library that was made for the name that it has. -/
def LibraryGraph.Declared (g : LibraryGraph) (made : List (String × LibraryId)) (a : LibraryId) : Prop :=
  Instances.find? made (g.name a) = some a

/-- What a variant declares and flattens are libraries of declared names, and so is what its output depends
on, but not the output. -/
structure Variant.DrawsOn (made : List (String × LibraryId)) (g : LibraryGraph) (v : Variant) : Prop where
  direct : ∀ a ∈ v.direct, g.Declared made a
  flat : ∀ a ∈ v.flat, g.Declared made a
  output : ∀ o, v.output = some o → ¬g.Declared made o ∧ ∀ a ∈ g.dependencies o, g.Declared made a

theorem LibraryGraph.Extends.mem_dependencies {g g' : LibraryGraph} (h : g'.Extends g) {a b : LibraryId}
    (hb : b ∈ g.dependencies a) : b ∈ g'.dependencies a := by
  cases hl : g.get? a with
  | none =>
    rw [dependencies, hl] at hb
    exact absurd hb List.not_mem_nil
  | some l =>
    rw [dependencies_eq hl] at hb
    rw [dependencies_eq (h a l hl)]
    exact hb

namespace Description

open Instances (IsMade find? names lookUp)

variable {files : Files} {reader : ManifestReader} {d₀ d d' : Description} {g g' : LibraryGraph} {v : Variant}
  {made : List (String × LibraryId)}

theorem declared_iff {deps : String → List String} (hi : Instances.Represents ⟨g, made⟩ deps) {a : LibraryId} :
    g.Declared made a ↔ IsMade made a := by
  constructor
  · exact fun h => ⟨_, h⟩
  · rintro ⟨n, hn⟩
    have hname : g.name a = n := hi.name_eq hn
    rw [LibraryGraph.Declared, hname, hn]

/-- Mixed libraries of declared names lead to such libraries only, now and later. -/
theorem declared_of_flatten {deps : String → List String} (hi : Instances.Represents ⟨g, made⟩ deps)
    (hg : g'.Extends g) {xs outputs order : List LibraryId}
    (hxs : ∀ a ∈ xs, g'.Declared made a ∨ a ∈ outputs)
    (houtputs : ∀ o ∈ outputs, ∀ a ∈ g'.dependencies o, g'.Declared made a) (h : g.flatten xs = .ok order) :
    ∀ a ∈ order, g'.Declared made a ∨ a ∈ outputs := by
  have hrep := hi.extends hg
  intro a ha
  have hreached := ((LibraryGraph.flatten_ok h).2.2 a).mp ha
  refine hreached.of_closed hxs fun b hb c hc => .inl ?_
  rcases hb with hb | hb
  · exact (declared_iff hrep).mpr (hi.isMade_of_dependency ((declared_iff hrep).mp hb) hc)
  · exact houtputs b hb c (hg.mem_dependencies hc)

theorem BuiltFrom.drawsOn (hb : d.BuiltFrom g made v) (hv : d.Tested v) (hg : g'.Extends g) : v.DrawsOn made g' := by
  have hrep := hb.represents.extends hg
  obtain ⟨_, _, hids⟩ := hb.direct
  have hdirect : ∀ a ∈ v.direct, IsMade made a := Instances.isMade_of_lookUp hids
  refine ⟨fun a ha => (declared_iff hrep).mpr (hdirect a ha), fun a ha => (declared_iff hrep).mpr ?_, fun o ho => ?_⟩
  · exact hb.represents.isMade_of_flatten hdirect hb.flat a ha
  · rcases hv.role with hr | hr | ⟨hkind, t, ht⟩
    · rw [Variant.output, hr] at ho
      cases ho
    · rw [Variant.output, hr] at ho
      cases ho
    · obtain ⟨output, ns, hout⟩ := hb.output t hkind ht
      rw [Variant.output, hout.role] at ho
      obtain rfl := Option.some.inj ho
      obtain ⟨l, hl, _, hdeps⟩ := hout.library
      refine ⟨fun h => hout.not_isMade ((declared_iff hrep).mp h), fun a ha => (declared_iff hrep).mpr ?_⟩
      rw [LibraryGraph.dependencies_eq (hg output l hl)] at ha
      exact Instances.isMade_of_lookUp hdeps a ha

/-- A test draws on libraries of declared names, too, and if its tested variant does, it flattens nothing
else but the output of that. -/
structure TestDrawsOn (made : List (String × LibraryId)) (g : LibraryGraph) (tested t : Variant) : Prop where
  direct : ∀ a ∈ t.direct, g.Declared made a
  flat : tested.DrawsOn made g → ∀ a ∈ t.flat, g.Declared made a ∨ a ∈ tested.output.toList

theorem declared_of_fullDirect {tested : Variant} {full : List LibraryId} (hv : ∀ a ∈ v.direct, g.Declared made a)
    (htested : tested.DrawsOn made g) (h : v.fullDirect (some tested) = .ok full) :
    ∀ a ∈ full, g.Declared made a ∨ a ∈ tested.output.toList := by
  intro a ha
  unfold Variant.fullDirect at h
  dsimp only at h
  split at h
  · cases h
  · rename_i output hrole
    cases h
    rcases List.mem_append.mp ha with ha | ha
    · exact .inl (hv a ha)
    rcases List.mem_cons.mp ha with rfl | ha
    · exact .inr (by rw [Variant.output, hrole]; exact List.mem_singleton_self _)
    · exact .inl (htested.direct a ha)
  · cases h
    exact .inl (hv a ha)

theorem LibrariesAdded.testDrawsOn {i : Instances} {deps : String → List String} {tested t : Variant} {ns : Value}
    (h : LibrariesAdded i.made i.graph (some tested) ns v t) (hi : i.Represents deps) (hg : g'.Extends i.graph) :
    TestDrawsOn i.made g' tested t := by
  cases h with
  | @mk direct full order hdirect hfull hflat =>
    obtain ⟨_, _, hids⟩ := Instances.lookUp_eq_ok.mp hdirect
    have hmade : ∀ a ∈ direct, IsMade i.made a := Instances.isMade_of_lookUp hids
    have hdeclared : ∀ a ∈ direct, g'.Declared i.made a := fun a ha => (declared_iff (hi.extends hg)).mpr (hmade a ha)
    refine ⟨hdeclared, fun htested => ?_⟩
    have hdraws : ∀ a ∈ full, g'.Declared i.made a ∨ a ∈ tested.output.toList :=
      declared_of_fullDirect hdeclared htested hfull
    refine declared_of_flatten hi hg hdraws (fun o ho => ?_) hflat
    exact (htested.output o (Option.mem_toList.mp ho)).2

theorem TestBuildEnds.testDrawsOn {id : VariantId} {tested t : Variant} {b : Build} (hd : GrownFrom files d₀ d g)
    (h : TestBuildEnds files reader d g id tested b) (ht : b.outcome = .ok t) (hg : g'.Extends b.libraries) :
    ∃ made, b.description.instances = some made ∧ TestDrawsOn made g' tested t := by
  cases h with
  | early => cases ht
  | late => cases ht
  | built _ _ hi hl =>
    cases ht
    exact ⟨_, (hd.withLibraries hi).2, hl.testDrawsOn (withLibraries_represents hd.keepsMade hi).1 hg⟩

/-- However the variants of a description were built, configured and tested before, as long as the files do
not change, the next build ends as on the description as it was loaded, in any library graph: with the same
fault, or with a variant that is equal up to the places of its libraries. All variants that are built draw
on the libraries that the description keeps, one for each declared name; where they are mixed, each of these
is listed once and nothing else but outputs. -/
theorem build_after_history {files : Files} {w₀ w : Workspace} {place : Nat} {d₀ d : Description}
    (hd₀ : w₀.descriptions[place]? = some d₀) (hfresh : d₀.instances = none) (hw : Workspace.History files w₀ w)
    (hd : w.descriptions[place]? = some d) :
    (∀ (reader : ManifestReader) (buildType flavors : Value) (g : LibraryGraph) (b b' : Build),
      d.build files reader w.world.libraries buildType flavors = b → d₀.build files reader g buildType flavors = b' →
      Alike (fun v v' => ∃ ρ, v.CopiedBy ρ b.libraries b'.libraries v') b.outcome b'.outcome) ∧
    (∀ (reader : ManifestReader) (buildType flavors : Value) (b : Build) (v : Variant),
      d.build files reader w.world.libraries buildType flavors = b → b.outcome = .ok v →
      ∀ w' d', Workspace.History files (w.adopt place b).1 w' → w'.descriptions[place]? = some d' →
        ∃ made, d'.instances = some made ∧ v.DrawsOn made w'.world.libraries) ∧
    (∀ (reader : ManifestReader) (id : VariantId) (tested : Variant) (b : Build) (t : Variant),
      d.buildTest files reader w.world.libraries id tested = b → b.outcome = .ok t →
      ∀ w' d', Workspace.History files (w.adopt place b).1 w' → w'.descriptions[place]? = some d' →
        ∃ made, d'.instances = some made ∧ TestDrawsOn made w'.world.libraries tested t) ∧
    ∀ made, d.instances = some made →
      (∀ n, n ∈ names made ↔ n ∈ d₀.libraryTables.keys) ∧
      ∀ xs outputs order : List LibraryId,
        (∀ a ∈ xs, w.world.libraries.Declared made a ∨ a ∈ outputs) →
        (∀ o ∈ outputs, ∀ a ∈ w.world.libraries.dependencies o, w.world.libraries.Declared made a) →
        w.world.libraries.flatten xs = .ok order →
        order.Nodup ∧ ∀ a ∈ order, w.world.libraries.Declared made a ∨ a ∈ outputs := by
  have hgrown := hw.grownFrom hd₀ hfresh hd
  refine ⟨?_, ?_, ?_, ?_⟩
  · rintro reader buildType flavors g b b' rfl rfl
    exact build_alike hgrown g reader buildType flavors
  · rintro reader buildType flavors b v hb hv w' d' hw' hd'
    have hends : BuildEnds files reader d w.world.libraries buildType flavors b := hb ▸ build_ends ..
    obtain ⟨made, hmade, _, hbuilt⟩ := hends.builtFrom hgrown.keepsMade hv
    have hgrows' := Workspace.History.growsTo_of_adopt hw' hd (hends.growsTo hgrown) hd'
    exact ⟨made, hgrows'.keeps made hmade,
      hbuilt.drawsOn (hends.tested hgrown.keepsMade hv) hgrows'.larger⟩
  · rintro reader id tested b t hb ht w' d' hw' hd'
    have hends : TestBuildEnds files reader d w.world.libraries id tested b := hb ▸ buildTest_ends ..
    have hgrows' := Workspace.History.growsTo_of_adopt hw' hd (hends.growsTo hgrown) hd'
    obtain ⟨made, hmade, hdraws⟩ := hends.testDrawsOn hgrown ht hgrows'.larger
    exact ⟨made, hgrows'.keeps made hmade, hdraws⟩
  · intro made hmade
    have hkept : d.withLibraries files w.world.libraries = .ok (d, ⟨w.world.libraries, made⟩) :=
      withLibraries_of_instances hmade
    obtain ⟨hrep, hnames⟩ := withLibraries_represents hgrown.keepsMade hkept
    rw [libraryTables_of_data hgrown.data] at hnames
    refine ⟨hnames, fun xs outputs order hxs houtputs hflat => ?_⟩
    exact ⟨(LibraryGraph.flatten_ok hflat).1, declared_of_flatten hrep (.refl _) hxs houtputs hflat⟩

/-- A build that fails, and one that does not. -/
def bundleAfterBuilds : Workspace :=
  let failed := Workspace.build { descriptions := #[bundle] } bundleFiles (fun _ => .ok none) 0 (.string "release")
    (.list [])
  (failed.1.build bundleFiles (fun _ => .ok none) 0 (.string "debug") (.list [])).1

/-- The next variant has an output of its own, and else the same libraries as one of a fresh description. -/
theorem build_after_history_bundle :
    Workspace.History bundleFiles { descriptions := #[bundle] } bundleAfterBuilds ∧
      ∃ d b v v', bundleAfterBuilds.descriptions[0]? = some d ∧
        d.build bundleFiles (fun _ => .ok none) bundleAfterBuilds.world.libraries (.string "debug") (.list []) = b ∧
        b.outcome = .ok v ∧ bundleBuild.outcome = .ok v' ∧ v.output = some 4 ∧ v'.output = some 3 ∧
        ∃ ρ, v.CopiedBy ρ b.libraries bundleBuild.libraries v' := by
  have hhistory : Workspace.History bundleFiles { descriptions := #[bundle] } bundleAfterBuilds :=
    .tail (.single (.build _ _ _ _)) (.build _ _ _ _)
  have hrun : (bundleAfterBuilds.descriptions[0]?.bind fun d =>
      (d.build bundleFiles (fun _ => .ok none) bundleAfterBuilds.world.libraries (.string "debug")
        (.list [])).outcome.toOption.map Variant.output) = some (some 4) := by cbv
  have hfresh : bundleBuild.outcome.toOption.map Variant.output = some (some 3) := by cbv
  obtain ⟨d, hd, hv⟩ := Option.bind_eq_some_iff.mp hrun
  generalize hb : d.build bundleFiles (fun _ => .ok none) bundleAfterBuilds.world.libraries (.string "debug")
    (.list []) = b at hv
  obtain ⟨halike, _⟩ := build_after_history (show (#[bundle])[0]? = some bundle from rfl) rfl hhistory hd
  have hend := halike _ _ _ _ b bundleBuild hb rfl
  generalize hx : b.outcome = x at hv hend
  generalize bundleBuild.outcome = y at hfresh hend ⊢
  cases hend with
  | error => cases hv
  | @ok v v' hcopied =>
    exact ⟨hhistory, d, b, v, v', hd, hb, hx, rfl, Option.some.inj hv, Option.some.inj hfresh, hcopied⟩

end Description

end BuildVariants
