import BuildVariants.Proofs.FlatLibraries
import BuildVariants.Proofs.NameOrder
import BuildVariants.Proofs.ValueFaults

/-!
# What goes wrong in a build

A build from a description fails with a fault of the description, because the main manifest is missing,
or at a value that is read without a check (`Description.Misplaced`), and in no other way: libraries of
declared names depend on none that depends on itself, and only a library variant is given an output
(`build_fails`). A test build can also find the tested library without an output (`buildTest_fails`).
-/

namespace BuildVariants

namespace Description

open Instances (find? names lookUp lookUp_fails IsMade)

variable {P : Fault → Prop} {files : Files} {reader : ManifestReader} {d : Description} {g : LibraryGraph}
  {i : Instances} {v : Variant}

/-- The tables that a layer of a variant can come from. -/
inductive IsLayer (d : Description) : Table → Prop
  | default {t : Table} : d.data.get? "default" = some (.table t) → IsLayer d t
  | buildType {tables t : Table} {s : String} : d.buildTypes = .table tables →
    tables.get? s = some (.table t) → IsLayer d t
  | flavor {tables t : Table} {s : String} : d.flavors = .table tables →
    tables.get? s = some (.table t) → IsLayer d t

/-- The values that a build reads without a check, and that cannot be read as what they stand for. -/
inductive Misplaced (d : Description) : ValueFault → Prop
  | kind {w : Value} : d.data.get? "variant_type" = some w → w.isShowable = false → Misplaced d .notShowable
  | buildTypes : ¬d.buildTypes.IsTable → Misplaced d .notTable
  | flavors : ¬d.flavors.IsTable → Misplaced d .notTable
  | sourceSet {t : Table} {f : ValueFault} : d.IsLayer t → t.NoSourceSet f → Misplaced d f
  | libraries {f : ValueFault} : (d.data.getD "libraries" (.table [])).NoLibraries f → Misplaced d f
  | libraryDependencies {s : String} {t : Table} {f : ValueFault} : d.libraryTables.get? s = some (.table t) →
    t.dependencyValue.NoDependencies f → Misplaced d f
  | libraryFiles {s : String} {t : Table} {f : ValueFault} : d.libraryTables.get? s = some (.table t) →
    t.NoFiles f → Misplaced d f
  | jars {f : ValueFault} : (d.data.getD "jars" (.list [])).NoPaths f → Misplaced d f
  | outputDependencies {t : Table} {f : ValueFault} : d.data.get? "output" = some (.table t) →
    t.dependencyValue.NoNames f → Misplaced d f
  | outputFiles {t : Table} {f : ValueFault} : d.data.get? "output" = some (.table t) → t.NoFiles f →
    Misplaced d f
  | dependencies {f : ValueFault} : (d.data.getD "dependencies" (.list [])).NoNames f → Misplaced d f

/-- The same for a test build of a variant that was built before. -/
inductive MisplacedInTest (d : Description) : ValueFault → Prop
  | sourceSet {t : Table} {f : ValueFault} : d.data.get? "test" = some (.table t) → t.NoSourceSet f →
    MisplacedInTest d f
  | dependencies {t : Table} {f : ValueFault} : d.data.get? "test" = some (.table t) →
    t.dependencyValue.NoNames f → MisplacedInTest d f

inductive BuildFault (d : Description) : Fault → Prop
  | description {f : DescriptionFault} : BuildFault d (.description f)
  | manifest {p : Path} : BuildFault d (.mainManifestMissing p)
  | misplaced {f : ValueFault} : d.Misplaced f → BuildFault d (.value f)

/-! ## The layers -/

/-- A family of faults that has all those of the layers. -/
structure HasLayerFaults (d : Description) (P : Fault → Prop) : Prop where
  missing : ∀ sort shown, P (.description (.missing sort shown))
  wrongType : ∀ key owner expected found, P (.description (.wrongType key owner expected found))
  unknownKind : ∀ shown, P (.description (.unknownKind shown))
  testKind : P (.description .testKind)
  manifest : ∀ p, P (.mainManifestMissing p)
  misplaced : ∀ f, d.Misplaced f → P (.value f)

theorem hasLayerFaults_buildFault (d : Description) : d.HasLayerFaults d.BuildFault where
  missing := fun _ _ => .description
  wrongType := fun _ _ _ _ => .description
  unknownKind := fun _ => .description
  testKind := .description
  manifest := fun _ => .manifest
  misplaced := fun _ => .misplaced

theorem ofTable_fails {t : Table} {name : String}
    (hwrong : ∀ key owner expected found, P (.description (.wrongType key owner expected found))) :
    FailsOnly ((Flavor.ofTable t name).mapError Fault.description) P := by
  intro e h
  obtain ⟨f, hf, rfl⟩ := mapError_eq_error.mp h
  obtain ⟨_, _, _, rfl⟩ := Flavor.ofTable_wrongType hf
  exact hwrong _ _ _ _

theorem layer_fails {t : Table} {name : String} (hP : d.HasLayerFaults P) (ht : d.IsLayer t) :
    FailsOnly (d.sourceSet t name) P :=
  sourceSet_fails fun f hno => hP.misplaced f (.sourceSet ht hno)

theorem kind_fails (hP : d.HasLayerFaults P) : FailsOnly d.kind P := by
  intro e h
  unfold kind at h
  split at h
  · cases h
  · cases h
  · cases h
    exact hP.testKind
  · cases hw : (d.data.getD "variant_type" (.string "default")).shown with
    | ok shown =>
      rw [hw] at h
      cases h
      exact hP.unknownKind shown
    | error e' =>
      rw [hw] at h
      cases h
      obtain ⟨rfl, hno⟩ := Value.shown_error hw
      cases hget : d.data.get? "variant_type" with
      | none =>
        rw [Table.getD_of_none hget] at hno
        cases hno
      | some w => exact hP.misplaced _ (.kind hget (Table.getD_of_some hget ▸ hno))

theorem kind_ne_test {k : VariantKind} (h : d.kind = .ok k) : k ≠ .test := by
  unfold kind at h
  split at h
  · cases h
    exact nofun
  · cases h
    exact nofun
  · cases h
  · rename_i w _ _ _
    cases hw : (d.data.getD "variant_type" (.string "default")).shown with
    | ok shown =>
      rw [hw] at h
      cases h
    | error e' =>
      rw [hw] at h
      cases h

theorem addFlavors_fails {ns : List String} (hP : d.HasLayerFaults P) :
    FailsOnly (d.addFlavors (ns.map .string) v) P := by
  induction ns generalizing v with
  | nil => exact .ok v
  | cons n ns ih =>
    rw [List.map_cons, addFlavors]
    have hnamed : FailsOnly (Table.named .flavor d.flavors (.string n)) P :=
      Table.named_fails (hP.missing _ _) fun hno => hP.misplaced _ (.flavors hno)
    refine hnamed.bind fun st hst => ?_
    obtain ⟨s, t⟩ := st
    obtain ⟨rfl, tables, htables, hget⟩ := Table.named_ok hst
    exact .bind (ofTable_fails hP.wrongType) fun _ _ => .bind (layer_fails hP (.flavor htables hget)) fun _ _ => ih

theorem create_fails {workingDirectory : Path} {isFile : Path → Bool} {p : Variant.Plan} (hP : d.HasLayerFaults P)
    (hkind : p.kind ≠ .test) (htested : p.tested = none) : FailsOnly (Variant.create workingDirectory isFile p) P := by
  have hrole : ∃ role, p.role = .ok role := by
    unfold Variant.Plan.role
    rw [htested]
    cases hk : p.kind with
    | default => exact ⟨_, rfl⟩
    | library => exact ⟨_, rfl⟩
    | test => exact absurd hk hkind
  obtain ⟨role, hrole⟩ := hrole
  intro e h
  unfold Variant.create at h
  rw [hrole] at h
  dsimp only at h
  split at h
  · cases h
    exact hP.manifest _
  · cases h

theorem layered_fails {s : String} {ns : List String} (hP : d.HasLayerFaults P) :
    FailsOnly (d.layered files reader (.string s) (.list (ns.map .string))) P := by
  unfold layered
  refine .bind (table_fails (hP.missing _ _)) fun defaultTable hdefault => ?_
  refine .bind (Table.named_fails (hP.missing _ _) fun hno => hP.misplaced _ (.buildTypes hno)) fun st hst => ?_
  obtain ⟨typeName, typeTable⟩ := st
  obtain ⟨rfl, types, htypes, hget⟩ := Table.named_ok hst
  refine .bind (ofTable_fails hP.wrongType) fun _ _ => .bind (layer_fails hP (.default (table_ok hdefault))) fun _ _ => ?_
  refine .bind (fun e h => ?_) fun _ _ => .bind (layer_fails hP (.buildType htypes hget)) fun _ _ => ?_
  · obtain ⟨f, hf, rfl⟩ := mapError_eq_error.mp h
    obtain ⟨_, _, _, rfl⟩ := BuildType.ofTable_wrongType hf
    exact hP.wrongType _ _ _ _
  refine .bind (kind_fails hP) fun kind hkind => .bind (create_fails hP (kind_ne_test hkind) rfl) fun _ _ => ?_
  refine .bind nofun fun values hvalues => ?_
  cases hvalues
  exact addFlavors_fails hP

/-! ## The libraries -/

theorem MakeFault.buildFault {e : Fault} (h : MakeFault files d d.libraryTables e) : d.BuildFault e := by
  cases h with
  | cycle => exact .description
  | undeclared => exact .description
  | noText ha hno hw =>
    cases ha with
    | key => exact absurd rfl (hno _)
    | dependency ht hvalues hv =>
      rcases hw with hw | ⟨_, rfl⟩ | ⟨hname, rfl⟩
      · obtain ⟨rfl, hshow⟩ := Value.shown_error hw
        exact .misplaced (.libraryDependencies ht (.notShowable hvalues hv hshow))
      · exact .description
      · exact .misplaced (.libraryDependencies ht (.notName hvalues hv hname))
  | dependencies ht he =>
    obtain rfl := Value.elements_error he
    exact .misplaced (.libraryDependencies ht (.notIterable he))
  | library ht hids he =>
    refine library_fails ?_ (fun _ => .description) (fun f hno => .misplaced (.libraryFiles ht hno)) _ he
    rw [hids]
    exact .ok _

theorem makeLibraries_fails_of (hmaking : ∀ e, MakeFault files d d.libraryTables e → P e)
    (hlibraries : ∀ f, (d.data.getD "libraries" (.table [])).NoLibraries f → P (.value f)) :
    FailsOnly (d.makeLibraries files g) P := by
  by_cases htable : (d.data.getD "libraries" (.table [])).IsTable
  · intro e h
    obtain ⟨tables, htables⟩ := htable
    have hfault := makeLibraries_fault htables h
    rw [← libraryTables_eq htables] at hfault
    exact hmaking e hfault
  · unfold makeLibraries
    refine .bind (fun e h => ?_) fun values hvalues => ?_
    · obtain rfl := Value.elements_error h
      exact hlibraries _ (.notIterable h)
    split
    · rename_i ht
      exact absurd ⟨_, ht⟩ htable
    · exact .ok _
    · rename_i first rest _
      intro e h
      cases h
      cases hname : first.isName with
      | true => exact hlibraries _ (.notTable htable hvalues)
      | false => exact hlibraries _ (.notName htable hvalues hname)

theorem makeLibraries_fails : FailsOnly (d.makeLibraries files g) d.BuildFault :=
  makeLibraries_fails_of (fun _ h => h.buildFault) fun _ h => .misplaced (.libraries h)

theorem addOutput_fails (hP : d.HasLayerFaults P) (hneeds : ∀ key, P (.description (.libraryNeeds "output" key)))
    (hnames : ∀ t : Table, d.data.get? "output" = some (.table t) → FailsOnly (lookUp i.made t.dependencyValue) P) :
    FailsOnly (d.addOutput files i v) P := by
  unfold addOutput
  split
  · rename_i hout
    refine .bind (table_fails (hP.missing _ _)) fun t ht => ?_
    refine .bind (library_fails (hnames t (table_ok ht)) hneeds fun f hno => ?_) fun l _ => .bind (fun e h => ?_)
      fun _ _ => .ok _
    · exact hP.misplaced _ (.outputFiles (table_ok ht) hno)
    -- a variant gets its output only where it can have one
    · obtain ⟨_, hset, _⟩ := mapError_eq_error.mp h
      exact absurd hout.1 (Variant.setOutput_error hset).1
  · exact .ok _

theorem addLibraries_fails {made : List (String × LibraryId)} {tested : Option Variant} {ns : Value}
    (hnames : FailsOnly (lookUp made ns) P)
    (hflat : ∀ direct fault, lookUp made ns = .ok direct →
      Variant.flattened g { v with direct := direct } tested = .error fault → P (.structural fault)) :
    FailsOnly (addLibraries made g tested ns v) P := by
  unfold addLibraries
  refine .bind hnames fun direct hdirect => ?_
  split
  · exact .ok _
  · rename_i fault hset
    intro e h
    cases h
    exact hflat direct fault hdirect (Variant.setLibraries_error (congrArg Prod.snd hset)).2

/-! ## Builds -/

/-- What a build does once the libraries of the description are there. -/
def finish (files : Files) (d : Description) (i : Instances) (v : Variant) : Except Fault (LibraryGraph × Variant) := do
  let v ← d.addJars v
  let (g, v) ← d.addOutput files i v
  let v ← addLibraries i.made g none (d.data.getD "dependencies" (.list [])) v
  pure (g, v)

theorem build_eq_finish {buildType flavors : Value} {d' : Description}
    (hv : d.layered files reader buildType flavors = .ok v) (hi : d.withLibraries files g = .ok (d', i)) :
    d.build files reader g buildType flavors =
      match d'.finish files i v with
      | .error fault => ⟨d', i.graph, .error fault⟩
      | .ok (h, w) => ⟨d', h, .ok w⟩ := by
  rw [build, hv]
  dsimp only
  rw [hi]
  rfl

theorem finish_instances (files : Files) (d : Description) (kept : Option (List (String × LibraryId))) (i : Instances)
    (v : Variant) : ({ d with instances := kept } : Description).finish files i v = d.finish files i v := rfl

theorem finish_fails {deps : String → List String} (hP : d.HasLayerFaults P)
    (hneeds : ∀ key, P (.description (.libraryNeeds "output" key))) (hi : i.Represents deps)
    (houtput : ∀ t : Table, d.data.get? "output" = some (.table t) → FailsOnly (lookUp i.made t.dependencyValue) P)
    (hdirect : FailsOnly (lookUp i.made (d.data.getD "dependencies" (.list []))) P) :
    FailsOnly (d.finish files i v) P := by
  unfold finish
  refine .bind ?_ fun _ _ => .bind (addOutput_fails hP hneeds houtput) fun hw hout => ?_
  · unfold addJars
    exact .bind (paths_fails fun f hno => hP.misplaced _ (.jars hno)) fun _ _ => .ok _
  obtain ⟨h, w⟩ := hw
  refine .bind (addLibraries_fails hdirect fun direct fault hdirect hflat => ?_) fun _ _ => .ok _
  -- libraries of names lead to no cycle
  obtain ⟨_, _, hids⟩ := Instances.lookUp_eq_ok.mp hdirect
  have hrep := hi.extends (addOutput_ok hout).extends
  rcases Variant.flattened_error hflat with ⟨_, _, hnone, _⟩ | ⟨full, l, hfull, _, hl⟩
  · cases hnone
  · cases hfull
    exact absurd ⟨l, hl⟩ (hrep.not_reachesCycle (Instances.isMade_of_lookUp hids))

/-- The faults of a build are those of its layers, of the making of its libraries, and of what is looked
up in these for the output and the variant. -/
theorem build_fails_of {s : String} {ns : List String} (hP : d.HasLayerFaults P)
    (hneeds : ∀ key, P (.description (.libraryNeeds "output" key))) (hd : d.KeepsMade g)
    (hmaking : FailsOnly (d.makeLibraries files g) P)
    (hlookUp : ∀ d' i, d.withLibraries files g = .ok (d', i) →
      (∀ t : Table, d.data.get? "output" = some (.table t) → FailsOnly (lookUp i.made t.dependencyValue) P) ∧
        FailsOnly (lookUp i.made (d.data.getD "dependencies" (.list []))) P) :
    FailsOnly (d.build files reader g (.string s) (.list (ns.map .string))).outcome P := by
  intro e he
  cases hv : d.layered files reader (.string s) (.list (ns.map .string)) with
  | error e' =>
    rw [build, hv] at he
    cases he
    exact layered_fails hP _ hv
  | ok v =>
    cases hi : d.withLibraries files g with
    | error e' =>
      rw [build, hv] at he
      dsimp only at he
      rw [hi] at he
      cases he
      exact hmaking _ (withLibraries_error hi)
    | ok r =>
      obtain ⟨d', i⟩ := r
      have hsame : d'.finish files i v = d.finish files i v := by
        rw [(withLibraries_ok hd hi).1, finish_instances]
      have hfails : FailsOnly (d.finish files i v) P :=
        finish_fails hP hneeds (withLibraries_represents hd hi).1 (hlookUp d' i hi).1 (hlookUp d' i hi).2
      rw [build_eq_finish hv hi, hsame] at he
      cases hfinish : d.finish files i v with
      | error e' =>
        rw [hfinish] at he
        cases he
        exact hfails _ hfinish
      | ok r =>
        rw [hfinish] at he
        cases he

theorem build_fails {s : String} {ns : List String} (hd : d.KeepsMade g) :
    FailsOnly (d.build files reader g (.string s) (.list (ns.map .string))).outcome d.BuildFault := by
  refine build_fails_of d.hasLayerFaults_buildFault (fun _ => .description) hd makeLibraries_fails fun d' i _ => ⟨?_, ?_⟩
  · exact fun t ht => lookUp_fails (fun _ _ _ _ => .description) fun f hno => .misplaced (.outputDependencies ht hno)
  · exact lookUp_fails (fun _ _ _ _ => .description) fun f hno => .misplaced (.dependencies hno)

/-! ## Tests of built variants -/

theorem table_of_get? {name : String} {t : Table} (h : d.data.get? name = some (.table t)) : d.table name = .ok t := by
  rw [table, Table.named_of_get? h]
  rfl

/-- A variant that has only its layers. -/
structure Bare (v : Variant) : Prop where
  role : v.role = .default ∨ v.role = .library none
  direct : v.direct = []
  flat : v.flat = []

theorem create_bare {workingDirectory : Path} {isFile : Path → Bool} {p : Variant.Plan} (hkind : p.kind ≠ .test)
    (htested : p.tested = none) (h : Variant.create workingDirectory isFile p = .ok v) : Bare v := by
  obtain ⟨role, hrole, rfl⟩ := Variant.create_eq h
  refine ⟨?_, rfl, rfl⟩
  unfold Variant.Plan.role at hrole
  rw [htested] at hrole
  cases hk : p.kind with
  | default =>
    rw [hk] at hrole
    exact .inl (Except.ok.inj hrole).symm
  | library =>
    rw [hk] at hrole
    exact .inr (Except.ok.inj hrole).symm
  | test => exact absurd hk hkind

theorem Bare.addFlavors {names : List Value} {w : Variant} (hv : Bare v) (h : d.addFlavors names v = .ok w) :
    Bare w := by
  induction names generalizing v with
  | nil =>
    cases pure_eq_ok.mp h
    exact hv
  | cons n ns ih =>
    rw [Description.addFlavors] at h
    obtain ⟨_, _, h⟩ := bind_eq_ok.mp h
    obtain ⟨flavor, _, h⟩ := bind_eq_ok.mp h
    obtain ⟨sources, _, h⟩ := bind_eq_ok.mp h
    have hnext : Bare (v.addFlavor flavor sources) := ⟨hv.role, hv.direct, hv.flat⟩
    exact ih hnext h

/-- The layer that every variant starts from can be read. -/
def HasDefaults (d : Description) : Prop :=
  ∃ (t : Table) (defaults : Flavor), d.data.get? "default" = some (.table t) ∧
    Flavor.ofTable t "main" = .ok defaults

theorem layered_ok {buildType flavors : Value} (h : d.layered files reader buildType flavors = .ok v) :
    d.HasDefaults ∧ Bare v := by
  unfold layered at h
  obtain ⟨t, ht, h⟩ := bind_eq_ok.mp h
  obtain ⟨_, _, h⟩ := bind_eq_ok.mp h
  obtain ⟨defaults, hdefaults, h⟩ := bind_eq_ok.mp h
  obtain ⟨_, _, h⟩ := bind_eq_ok.mp h
  obtain ⟨_, _, h⟩ := bind_eq_ok.mp h
  obtain ⟨_, _, h⟩ := bind_eq_ok.mp h
  obtain ⟨kind, hkind, h⟩ := bind_eq_ok.mp h
  obtain ⟨w, hw, h⟩ := bind_eq_ok.mp h
  obtain ⟨_, _, h⟩ := bind_eq_ok.mp h
  have hbare : Bare w := create_bare (kind_ne_test hkind) rfl hw
  exact ⟨⟨t, defaults, table_ok ht, mapError_eq_ok.mp hdefaults⟩, hbare.addFlavors h⟩

/-- What a test build needs from the variant that was built before. -/
structure Tested (d : Description) (v : Variant) : Prop where
  defaults : d.HasDefaults
  role : v.role = .default ∨ v.role = .library none ∨
    v.kind = .library ∧ ∃ t : Table, d.data.get? "output" = some (.table t)

theorem BuildEnds.tested {buildType flavors : Value} {b : Build} (hd : d.KeepsMade g)
    (h : BuildEnds files reader d g buildType flavors b) (hv : b.outcome = .ok v) : d.Tested v := by
  cases h with
  | early => cases hv
  | late => cases hv
  | @built d' i h layered made final jars hlayered hi ho hl =>
    cases hv
    obtain ⟨rfl, _, _⟩ := withLibraries_ok hd hi
    obtain ⟨hdefaults, hbare⟩ := layered_ok hlayered
    refine ⟨hdefaults, ?_⟩
    cases hl with
    | mk =>
      cases ho with
      | none => exact hbare.role.imp_right .inl
      | output hkind ht => exact .inr (.inr ⟨rfl, _, ht⟩)

inductive TestFault (d : Description) (v : Variant) : Fault → Prop
  | noTable {f : DescriptionFault} : (∀ t, d.data.get? "test" = some (.table t) → False) →
    TestFault d v (.description f)
  | flavor {t : Table} {f f' : DescriptionFault} : d.data.get? "test" = some (.table t) →
    Flavor.ofTable t "test" = .error f' → TestFault d v (.description f)
  | undeclared {t : Table} {s : String} {f : DescriptionFault} : d.data.get? "test" = some (.table t) →
    s ∈ t.dependencyValue.texts → s ∉ d.libraryTables.keys → TestFault d v (.description f)
  | noOutput {t : Table} {own : Flavor} : d.data.get? "test" = some (.table t) →
    Flavor.ofTable t "test" = .ok own → (∀ s ∈ t.dependencyValue.texts, s ∈ d.libraryTables.keys) →
    v.role = .library none → TestFault d v (.structural .testedWithoutOutput)
  | misplaced {f : ValueFault} : d.MisplacedInTest f → TestFault d v (.value f)

theorem layeredTest_fails {t : Table} {id : VariantId} (hdefault : FailsOnly (d.table "default") P)
    (hdefaults : ∀ t₀, d.table "default" = .ok t₀ →
      FailsOnly ((Flavor.ofTable t₀ "main").mapError Fault.description) P)
    (hown : FailsOnly ((Flavor.ofTable t "test").mapError Fault.description) P)
    (hsources : ∀ f, t.NoSourceSet f → P (.value f)) : FailsOnly (d.layeredTest files reader t id v) P := by
  unfold layeredTest
  refine .bind hdefault fun t₀ ht₀ => .bind (hdefaults t₀ ht₀) fun _ _ => .bind hown fun _ _ => ?_
  -- a test does without a main manifest
  exact .bind (sourceSet_fails hsources) fun _ _ => .bind nofun fun _ _ => .ok _

theorem layeredTest_ok {t : Table} {id : VariantId} {w : Variant}
    (h : d.layeredTest files reader t id v = .ok w) : ∃ own, Flavor.ofTable t "test" = .ok own := by
  unfold layeredTest at h
  obtain ⟨_, _, h⟩ := bind_eq_ok.mp h
  obtain ⟨_, _, h⟩ := bind_eq_ok.mp h
  obtain ⟨own, hown, _⟩ := bind_eq_ok.mp h
  exact ⟨own, mapError_eq_ok.mp hown⟩

theorem libraryTables_of_data {d' : Description} (h : d'.data = d.data) : d'.libraryTables = d.libraryTables := by
  rw [libraryTables, libraryTables, h]

theorem BuiltFrom.not_reachesCycle {made : List (String × LibraryId)} (hb : d.BuiltFrom g made v)
    (hv : d.Tested v) {h : LibraryGraph} (hh : h.Extends g) {w : Variant}
    (hw : ∀ id ∈ w.direct, IsMade made id) {full : List LibraryId} (hfull : w.fullDirect (some v) = .ok full) :
    ¬ReachesCycle h.dependencies full := by
  have hrep := hb.represents.extends hh
  obtain ⟨_, _, hdirect⟩ := hb.direct
  have hdirect : ∀ id ∈ v.direct, IsMade made id := Instances.isMade_of_lookUp hdirect
  unfold Variant.fullDirect at hfull
  dsimp only at hfull
  split at hfull
  · cases hfull
  · rename_i output hrole
    cases hfull
    have hout : ∃ t : Table, d.data.get? "output" = some (.table t) := by
      rcases hv.role with hr | hr | ⟨_, hout⟩
      · rw [hr] at hrole
        cases hrole
      · rw [hr] at hrole
        cases hrole
      · exact hout
    obtain ⟨t, ht⟩ := hout
    have hkind : v.kind = .library := by rw [Variant.kind, hrole]; rfl
    obtain ⟨output', ns, hout⟩ := hb.output t hkind ht
    obtain rfl : output = output' := by
      have := hrole.symm.trans hout.role
      cases this
      rfl
    -- an output depends on libraries of names, so the test leads to no cycle either
    obtain ⟨l, hl, _, hdeps⟩ := hout.library
    rw [← LibraryGraph.dependencies_eq (hh output l hl)] at hdeps
    rw [← List.singleton_append, reachesCycle_append, reachesCycle_append, reachesCycle_singleton]
    rintro (hcycle | hcycle | hcycle)
    · exact hrep.not_reachesCycle hw hcycle
    · exact hrep.not_reachesCycle (Instances.isMade_of_lookUp hdeps) hcycle
    · exact hrep.not_reachesCycle hdirect hcycle
  · cases hfull
    exact hrep.not_reachesCycle hw

theorem TestFault.of_data {d' : Description} {e : Fault} (hdata : d'.data = d.data) (h : d'.TestFault v e) :
    d.TestFault v e := by
  have hkeys := libraryTables_of_data hdata
  cases h with
  | noTable h => exact .noTable (hdata ▸ h)
  | flavor ht h => exact .flavor (hdata ▸ ht) h
  | undeclared ht hs h => exact .undeclared (hdata ▸ ht) hs (hkeys ▸ h)
  | noOutput ht hown hs hrole => exact .noOutput (hdata ▸ ht) hown (hkeys ▸ hs) hrole
  | misplaced h =>
    cases h with
    | sourceSet ht h => exact .misplaced (.sourceSet (hdata ▸ ht) h)
    | dependencies ht h => exact .misplaced (.dependencies (hdata ▸ ht) h)

theorem buildTest_fails_of {id : VariantId} (htable : FailsOnly (d.table "test") P)
    (hlayers : ∀ t : Table, d.data.get? "test" = some (.table t) → FailsOnly (d.layeredTest files reader t id v) P)
    (hmaking : ∀ e, d.withLibraries files g = .error e → P e)
    (hlibraries : ∀ (t : Table) d' i layered, d.data.get? "test" = some (.table t) →
      d.layeredTest files reader t id v = .ok layered → d.withLibraries files g = .ok (d', i) →
      FailsOnly (addLibraries i.made i.graph (some v) t.dependencyValue layered) P) :
    FailsOnly (d.buildTest files reader g id v).outcome P := by
  unfold buildTest
  dsimp only
  split
  · rename_i e hlayered
    intro e he
    cases he
    exact FailsOnly.bind htable (fun t ht => .bind (hlayers t (table_ok ht)) fun _ _ => .ok _) _ hlayered
  rename_i t layered hlayered
  obtain ⟨t', ht, hlayered⟩ := bind_eq_ok.mp hlayered
  obtain ⟨w, hw, hpair⟩ := bind_eq_ok.mp hlayered
  cases pure_eq_ok.mp hpair
  split
  · rename_i e hi
    intro e he
    cases he
    exact hmaking _ hi
  · rename_i d' i hi
    exact hlibraries t d' i layered (table_ok ht) hw hi

theorem buildTest_fails_of_made {made : List (String × LibraryId)} {id : VariantId} (hmade : d.instances = some made)
    (hnames : ∀ n, n ∈ names made ↔ n ∈ d.libraryTables.keys) (hdefaults : d.HasDefaults)
    (hacyclic : ∀ w : Variant, (∀ id ∈ w.direct, IsMade made id) → ∀ full, w.fullDirect (some v) = .ok full →
      ¬ReachesCycle g.dependencies full) :
    FailsOnly (d.buildTest files reader g id v).outcome (d.TestFault v) := by
  have hdeclared : ∀ {s}, (find? made s).isSome ↔ s ∈ d.libraryTables.keys := by
    intro s
    rw [Instances.find?_isSome, hnames]
  have hkept : d.withLibraries files g = .ok (d, ⟨g, made⟩) := withLibraries_of_instances hmade
  obtain ⟨t₀, defaults, ht₀, hread⟩ := hdefaults
  refine buildTest_fails_of (fun e h => ?_) (fun t ht => ?_) (fun e h => ?_) fun t d' i layered ht hlayered hi => ?_
  · have hdescription : FailsOnly (d.table "test") (fun e => ∃ f, e = .description f) :=
      table_fails ⟨_, rfl⟩
    obtain ⟨f, rfl⟩ := hdescription e h
    refine .noTable fun t ht => ?_
    rw [table_of_get? ht] at h
    cases h
  · refine layeredTest_fails (fun e h => ?_) (fun t₁ ht₁ e h => ?_) (fun e h => ?_) fun f hno => ?_
    · rw [table_of_get? ht₀] at h
      cases h
    · rw [table_of_get? ht₀] at ht₁
      cases ht₁
      rw [hread] at h
      cases h
    · obtain ⟨f, hf, rfl⟩ := mapError_eq_error.mp h
      exact .flavor ht hf
    · exact .misplaced (.sourceSet ht hno)
  · rw [hkept] at h
    cases h
  · obtain ⟨own, hown⟩ := layeredTest_ok hlayered
    rw [hkept] at hi
    cases hi
    refine addLibraries_fails (lookUp_fails (fun s hs hnone f => ?_) fun f hno => ?_) fun direct fault hdirect hflat => ?_
    · refine .undeclared ht hs fun hkey => ?_
      rw [← hdeclared, hnone] at hkey
      cases hkey
    · exact .misplaced (.dependencies ht hno)
    · obtain ⟨ns, hns, hids⟩ := Instances.lookUp_eq_ok.mp hdirect
      rcases Variant.flattened_error hflat with ⟨rfl, u, hu, hrole⟩ | ⟨full, l, hfull, _, hl⟩
      · cases hu
        refine .noOutput ht hown (fun s hs => ?_) hrole
        have hs : s ∈ ns := Value.texts_eq hns ▸ hs
        exact hdeclared.mp ((Instances.map_eq_map_some.mp hids).1 s hs)
      · exact absurd ⟨l, hl⟩ (hacyclic _ (Instances.isMade_of_lookUp hids) full hfull)

theorem buildTest_fails {buildType flavors : Value} {b : Build} (hd : d.KeepsMade g)
    (h : BuildEnds files reader d g buildType flavors b) (hv : b.outcome = .ok v) {files' : Files}
    {reader' : ManifestReader} {g' : LibraryGraph} {id : VariantId} (hg : g'.Extends b.libraries) :
    FailsOnly (b.description.buildTest files' reader' g' id v).outcome (d.TestFault v) := by
  obtain ⟨made, hmade, hdata, hbuilt⟩ := h.builtFrom hd hv
  have htested := h.tested hd hv
  have hkeeps := (h.keepsMade hd).2
  have hinst : b.description.withLibraries files b.libraries = .ok (b.description, ⟨b.libraries, made⟩) :=
    withLibraries_of_instances hmade
  have hnames := (withLibraries_represents hkeeps hinst).2
  intro e he
  refine .of_data hdata (buildTest_fails_of_made hmade hnames ?_ (fun w hw full hfull => ?_) e he)
  · rw [HasDefaults, hdata]
    exact htested.defaults
  · exact hbuilt.not_reachesCycle htested hg hw hfull

/-- Whatever values stand in a description, a build or a later test build that fails reports why, unless
it reads one of the values that are read without a check. -/
theorem build_reported_or_misplaced {w : Workspace} (hw : w.Reachable) {place : Nat} {d : Description}
    (hd : w.descriptions[place]? = some d) (files : Files) (reader : ManifestReader) (buildType : String)
    (flavors : List String) {b : Build}
    (hb : d.build files reader w.world.libraries (.string buildType) (.list (flavors.map .string)) = b) :
    (∀ e, b.outcome = .error e → e.isReported = true ∨ ∃ f, e = .value f ∧ d.Misplaced f) ∧
    ∀ v, b.outcome = .ok v → ∀ (g : LibraryGraph) (files : Files) (reader : ManifestReader) (id : VariantId),
      g.Extends b.libraries → ∀ e, (b.description.buildTest files reader g id v).outcome = .error e →
        e.isReported = true ∨ ∃ f, e = .value f ∧ d.MisplacedInTest f := by
  have hkeeps : d.KeepsMade w.world.libraries := hw.keepsMade place d hd
  refine ⟨fun e he => ?_, fun v hv g files' reader' id hg e he => ?_⟩
  · have hfault : d.BuildFault e := build_fails hkeeps e (hb ▸ he)
    cases hfault with
    | description => exact .inl rfl
    | manifest => exact .inl rfl
    | misplaced hf => exact .inr ⟨_, rfl, hf⟩
  · have hends : BuildEnds files reader d w.world.libraries (.string buildType) (.list (flavors.map .string)) b :=
      hb ▸ build_ends ..
    have hfault : d.TestFault v e := buildTest_fails hkeeps hends hv hg e he
    cases hfault with
    | noTable => exact .inl rfl
    | flavor => exact .inl rfl
    | undeclared => exact .inl rfl
    | noOutput => exact .inl rfl
    | misplaced hf => exact .inr ⟨_, rfl, hf⟩

/-- The libraries are listed by name where their tables should stand. -/
def listed : Description where
  data :=
    [("default", .table []), ("build_types", .table [("debug", .table [])]), ("libraries", .list [.string "core"])]
  baseDirectory := ⟨.root, []⟩

def listedBuild : Build := listed.build bundleFiles (fun _ => .ok none) .empty (.string "debug") (.list [])

theorem listedBuild_outcome : listedBuild.outcome = .error (.value .notTable) := by
  unfold listedBuild
  cbv

theorem build_reported_or_misplaced_listed :
    Workspace.Reachable { descriptions := #[listed] } ∧ listedBuild.outcome = .error (.value .notTable) ∧
      listed.Misplaced .notTable := by
  have hw : Workspace.Reachable { descriptions := #[listed] } := .describe .start rfl
  obtain ⟨hbuild, _⟩ :=
    build_reported_or_misplaced hw (show (#[listed])[0]? = some listed from rfl) bundleFiles (fun _ => .ok none)
      "debug" [] (show _ = listedBuild from rfl)
  rcases hbuild _ listedBuild_outcome with h | ⟨f, hf, hmisplaced⟩
  · cases h
  · cases hf
    exact ⟨hw, listedBuild_outcome, hmisplaced⟩

/-- The fault of such a build has no words. -/
theorem build_listed_not_reported :
    Workspace.Reachable { descriptions := #[listed] } ∧
      ∃ e, listedBuild.outcome = .error e ∧ e.isReported = false :=
  ⟨.describe .start rfl, _, listedBuild_outcome, rfl⟩

end Description

end BuildVariants
