import BuildVariants.Description.Build
import BuildVariants.Proofs.Commands
import BuildVariants.Proofs.DeclaredLibraries

/-!
# The stages of a build

What a build that succeeds went through, from the libraries of the description to the output and the
libraries of the variant (`Description.Built`, `Description.BuiltTest`). A build only adds to the
library graph, so in every workspace that calls lead to (`Workspace.Reachable`) the libraries that a
description keeps are those that were once made for it.
-/

namespace BuildVariants

namespace Description

open Instances (find? names lookUp)

variable {files : Files} {reader : ManifestReader} {d : Description} {g : LibraryGraph} {i : Instances}
  {v v' : Variant}

/-! ## Stages -/

theorem table_ok {name : String} {t : Table} (h : d.table name = .ok t) :
    d.data.get? name = some (.table t) := by
  simp only [table, Table.named, Value.asTable, bind_eq_ok, pure_eq_ok] at h
  obtain ⟨⟨s, t'⟩, ⟨data, hdata, h⟩, rfl⟩ := h
  cases hdata
  split at h
  · rename_i hget
    cases h
    exact hget
  · cases h

theorem addJars_ok (h : d.addJars v = .ok v') : ∃ jars, v' = v.setJars jars := by
  simp only [addJars, bind_eq_ok, pure_eq_ok] at h
  obtain ⟨_, _, rfl⟩ := h
  exact ⟨_, rfl⟩

/-- The output of a library variant is one more library behind all others. -/
inductive OutputAdded (files : Files) (d : Description) (i : Instances) (v : Variant) :
    LibraryGraph → Variant → Prop
  | none : ¬(v.kind = .library ∧ d.data.has "output") → OutputAdded files d i v i.graph v
  | output {t : Table} {l : Library} : v.kind = .library → d.data.get? "output" = some (.table t) →
    d.library files i.made "output" t = .ok l →
    OutputAdded files d i v (i.graph.add l) { v with role := .library (some i.graph.size) }

theorem addOutput_ok {h : LibraryGraph} (hv : d.addOutput files i v = .ok (h, v')) :
    OutputAdded files d i v h v' := by
  unfold addOutput at hv
  split at hv
  · rename_i hout
    simp only [bind_eq_ok, pure_eq_ok] at hv
    obtain ⟨t, ht, l, hl, w, hw, hv⟩ := hv
    cases hv
    have hw' : v' = { v with role := .library (some i.graph.size) } := by
      have hkind := hout.1
      unfold Variant.kind at hkind
      unfold Variant.setOutput at hw
      cases hr : v.role with
      | library o =>
        rw [hr] at hw
        cases hw
        rfl
      | default => rw [hr] at hkind; cases hkind
      | test _ => rw [hr] at hkind; cases hkind
    subst hw'
    exact .output hout.1 (table_ok ht) hl
  · rename_i hout
    cases pure_eq_ok.mp hv
    exact .none hout

/-- The libraries of a variant are those of the given names and, for a test, what comes from the
tested variant. -/
inductive LibrariesAdded (made : List (String × LibraryId)) (g : LibraryGraph) (tested : Option Variant)
    (ns : Value) (v : Variant) : Variant → Prop
  | mk {direct full order : List LibraryId} : lookUp made ns = .ok direct →
    Variant.fullDirect { v with direct := direct } tested = .ok full → g.flatten full = .ok order →
    LibrariesAdded made g tested ns v { v with direct := direct, flat := order }

theorem addLibraries_ok {made : List (String × LibraryId)} {tested : Option Variant} {ns : Value}
    (h : addLibraries made g tested ns v = .ok v') : LibrariesAdded made g tested ns v v' := by
  simp only [addLibraries, bind_eq_ok] at h
  obtain ⟨direct, hdirect, h⟩ := h
  generalize hr : v.setLibraries g tested direct = r at h
  have houtcome := Variant.setLibraries_outcome g v tested direct
  rw [hr] at houtcome
  cases houtcome with
  | error => cases h
  | ok hfull hflat =>
    cases h
    exact .mk hdirect hfull hflat

/-! ## The ways a build ends -/

section
variable (files : Files) (reader : ManifestReader) (d : Description) (g : LibraryGraph)

/-- It fails before or after the libraries of the description are made, or it gives a variant. -/
inductive BuildEnds (buildType flavors : Value) : Build → Prop
  | early {e : Fault} : BuildEnds buildType flavors ⟨d, g, .error e⟩
  | late {d' : Description} {i : Instances} {e : Fault} : d.withLibraries files g = .ok (d', i) →
    BuildEnds buildType flavors ⟨d', i.graph, .error e⟩
  | built {d' : Description} {i : Instances} {h : LibraryGraph} {layered made final : Variant}
    {jars : List Jar} : d.layered files reader buildType flavors = .ok layered →
    d.withLibraries files g = .ok (d', i) → OutputAdded files d' i (layered.setJars jars) h made →
    LibrariesAdded i.made h none (d'.data.getD "dependencies" (.list [])) made final →
    BuildEnds buildType flavors ⟨d', h, .ok final⟩

theorem build_ends (buildType flavors : Value) :
    BuildEnds files reader d g buildType flavors (d.build files reader g buildType flavors) := by
  unfold build
  split
  · exact .early
  · rename_i layered hlayered
    split
    · exact .early
    · rename_i d' i hi
      dsimp only
      split
      · exact .late hi
      · rename_i h final hfinal
        simp only [bind_eq_ok, pure_eq_ok] at hfinal
        obtain ⟨v, hv, ⟨k, made⟩, hmade, final', hfinal, heq⟩ := hfinal
        cases heq
        obtain ⟨jars, rfl⟩ := addJars_ok hv
        exact .built hlayered hi (addOutput_ok hmade) (addLibraries_ok hfinal)

inductive TestBuildEnds (id : VariantId) (tested : Variant) : Build → Prop
  | early {e : Fault} : TestBuildEnds id tested ⟨d, g, .error e⟩
  | late {d' : Description} {i : Instances} {e : Fault} : d.withLibraries files g = .ok (d', i) →
    TestBuildEnds id tested ⟨d', i.graph, .error e⟩
  | built {d' : Description} {i : Instances} {t : Table} {layered final : Variant} :
    d.data.get? "test" = some (.table t) → d.layeredTest files reader t id tested = .ok layered →
    d.withLibraries files g = .ok (d', i) →
    LibrariesAdded i.made i.graph (some tested) t.dependencyValue layered final →
    TestBuildEnds id tested ⟨d', i.graph, .ok final⟩

theorem buildTest_ends (id : VariantId) (tested : Variant) :
    TestBuildEnds files reader d g id tested (d.buildTest files reader g id tested) := by
  unfold buildTest
  dsimp only
  split
  · exact .early
  · rename_i t layered hlayered
    simp only [bind_eq_ok, pure_eq_ok] at hlayered
    obtain ⟨t', ht, v, hv, heq⟩ := hlayered
    cases heq
    split
    · exact .early
    · rename_i d' i hi
      cases hfinal : addLibraries i.made i.graph (some tested) (t.getD "dependencies" (.list [])) layered with
      | error e => exact .late hi
      | ok final => exact .built (table_ok ht) hv hi (addLibraries_ok hfinal)

end

/-! ## What builds keep -/

theorem OutputAdded.extends {h : LibraryGraph} (ho : OutputAdded files d i v h v') : h.Extends i.graph := by
  cases ho with
  | none => exact .refl _
  | output => exact LibraryGraph.extends_add _ _

theorem BuildEnds.keepsMade {buildType flavors : Value} {b : Build}
    (h : BuildEnds files reader d g buildType flavors b) (hd : d.KeepsMade g) :
    b.libraries.Extends g ∧ b.description.KeepsMade b.libraries := by
  cases h with
  | early => exact ⟨.refl g, hd⟩
  | late hi => exact ⟨(withLibraries_ok hd hi).2.1, hd.withLibraries hi⟩
  | built _ hi ho _ =>
    exact ⟨ho.extends.trans (withLibraries_ok hd hi).2.1, (hd.withLibraries hi).extends ho.extends⟩

theorem TestBuildEnds.keepsMade {id : VariantId} {tested : Variant} {b : Build}
    (h : TestBuildEnds files reader d g id tested b) (hd : d.KeepsMade g) :
    b.libraries.Extends g ∧ b.description.KeepsMade b.libraries := by
  cases h with
  | early => exact ⟨.refl g, hd⟩
  | late hi => exact ⟨(withLibraries_ok hd hi).2.1, hd.withLibraries hi⟩
  | built _ _ hi _ => exact ⟨(withLibraries_ok hd hi).2.1, hd.withLibraries hi⟩

end Description

/-! ## Workspaces that calls lead to -/

namespace Workspace

/-- Descriptions are taken in and variants are built from them; commands and further libraries may come
at any time. -/
inductive Reachable : Workspace → Prop
  | start : Reachable {}
  | describe {w : Workspace} {d : Description} : Reachable w → d.instances = none →
    Reachable { w with descriptions := w.descriptions.push d }
  | addLibrary {w : Workspace} (l : Library) : Reachable w →
    Reachable { w with world := { w.world with libraries := w.world.libraries.add l } }
  | perform {w : Workspace} (c : World.Command) : Reachable w →
    Reachable { w with world := (w.world.perform c).1 }
  | build {w : Workspace} (files : Files) (reader : ManifestReader) (id : Nat) (buildType flavors : Value) :
    Reachable w → Reachable (w.build files reader id buildType flavors).1
  | buildTest {w : Workspace} (files : Files) (reader : ManifestReader) (id : Nat) (tested : VariantId) :
    Reachable w → Reachable (w.buildTest files reader id tested).1

/-- Every description keeps only libraries that were made for it. -/
def KeepsMade (w : Workspace) : Prop :=
  ∀ (id : Nat) (d : Description), w.descriptions[id]? = some d → d.KeepsMade w.world.libraries

theorem adopt_libraries (w : Workspace) (id : Nat) (b : Build) :
    (w.adopt id b).1.world.libraries = b.libraries := by
  unfold adopt
  dsimp only
  split <;> rfl

theorem adopt_descriptions (w : Workspace) (id : Nat) (b : Build) :
    (w.adopt id b).1.descriptions = w.descriptions.setIfInBounds id b.description := by
  unfold adopt
  dsimp only
  split <;> rfl

theorem KeepsMade.adopt {w : Workspace} (hw : w.KeepsMade) {b : Build}
    (hb : b.libraries.Extends w.world.libraries ∧ b.description.KeepsMade b.libraries) (id : Nat) :
    (w.adopt id b).1.KeepsMade := by
  intro j d hj
  rw [adopt_descriptions, Array.getElem?_setIfInBounds] at hj
  rw [adopt_libraries]
  split at hj
  · split at hj
    · cases hj
      exact hb.2
    · cases hj
  · exact (hw j d hj).extends hb.1

theorem Reachable.keepsMade {w : Workspace} (h : w.Reachable) : w.KeepsMade := by
  induction h with
  | start => exact fun id d h => by cases h
  | @describe w d _ hd ih =>
    intro j d' hj
    rw [Array.getElem?_push] at hj
    split at hj
    · cases hj
      exact Description.keepsMade_of_none hd _
    · exact ih j d' hj
  | addLibrary l _ ih => exact fun j d hj => (ih j d hj).extends (LibraryGraph.extends_add _ _)
  | @perform w c _ ih =>
    intro j d hj
    rw [(World.perform_outcome w.world c).libraries]
    exact ih j d hj
  | @build w files reader id buildType flavors _ ih =>
    unfold Workspace.build
    split
    · exact ih
    · rename_i d hd
      exact ih.adopt ((Description.build_ends files reader d _ buildType flavors).keepsMade (ih id d hd)) id
  | @buildTest w files reader id tested _ ih =>
    unfold Workspace.buildTest
    split
    · rename_i d v hd _
      exact ih.adopt ((Description.buildTest_ends files reader d _ tested v).keepsMade (ih id d hd)) id
    · exact ih

end Workspace

end BuildVariants
