import BuildVariants.Proofs.PackageName
import BuildVariants.Report

/-!
# What a report needs

A report needs the name of the package, the packages of the flattened libraries, the output of a tested
library, and for a test the name of the tested package. The first of them that is missing gives the
fault (`Configuration.FirstFault`), and nothing is read after it (`run_describe`).
-/

namespace BuildVariants

open Lookup (Gives gives_pure gives_throw gives_ask)

/-! ## The packages of libraries -/

namespace Variant

/-- The package that the manifest of a library declares, if it declares one. -/
def libraryPackage (v : Variant) (l : Library) : Except Fault String :=
  v.packageOf.package l.manifest (.undeclaredByLibrary l.manifest l.name)

/-- The manifests of libraries, up to the first that declares no package. -/
def libraryReads (v : Variant) : List Library → List Path
  | [] => []
  | l :: rest =>
    l.manifest ::
      match v.libraryPackage l with
      | .ok _ => v.libraryReads rest
      | .error _ => []

variable {v : Variant}

theorem libraryPackage_ok_iff (v : Variant) (l : Library) :
    (∃ p, v.libraryPackage l = .ok p) ↔ ∃ p, v.packageOf l.manifest = .ok (some p) ∧ p ≠ "" :=
  exists_congr fun _ => ManifestReader.package_eq_ok_iff

/-- Either all libraries declare a package, or there is a first one that does not. -/
theorem declared_or_first_undeclared (v : Variant) (libraries : List Library) :
    (∀ l ∈ libraries, ∃ p, v.libraryPackage l = .ok p) ∨
      ∃ before l after fault, libraries = before ++ l :: after ∧
        (∀ x ∈ before, ∃ p, v.libraryPackage x = .ok p) ∧ v.libraryPackage l = .error fault := by
  induction libraries with
  | nil => exact .inl fun l hl => absurd hl List.not_mem_nil
  | cons l rest ih =>
    cases hl : v.libraryPackage l with
    | error fault => exact .inr ⟨[], l, rest, fault, rfl, fun x hx => absurd hx List.not_mem_nil, hl⟩
    | ok p =>
      rcases ih with hrest | ⟨before, x, after, fault, rfl, hbefore, hx⟩
      · exact .inl (List.forall_mem_cons.mpr ⟨⟨p, hl⟩, hrest⟩)
      · exact .inr ⟨l :: before, x, after, fault, rfl, List.forall_mem_cons.mpr ⟨⟨p, hl⟩, hbefore⟩, hx⟩

end Variant

namespace Configuration

variable {g : LibraryGraph} {c : Configuration} {v : Variant} {fault : Fault}

theorem gives_packageOfLibrary (c : Configuration) (l : Library) :
    (c.packageOfLibrary l).Gives (c.variant.libraryPackage l) [l.manifest] :=
  Lookup.gives_package c.variant.packageOf l.manifest _

theorem gives_mapM_declared {libraries : List Library} (h : ∀ l ∈ libraries, ∃ p, c.variant.libraryPackage l = .ok p) :
    ∃ packages, List.Forall₂ (fun l p => c.variant.libraryPackage l = .ok p) libraries packages ∧
      (libraries.mapM c.packageOfLibrary).Gives (.ok packages) (c.variant.libraryReads libraries) := by
  induction libraries with
  | nil => exact ⟨[], .nil, gives_pure []⟩
  | cons l rest ih =>
    obtain ⟨⟨p, hp⟩, hrest⟩ := List.forall_mem_cons.mp h
    obtain ⟨packages, hpairs, hpackages⟩ := ih hrest
    have hl := gives_packageOfLibrary c l
    rw [hp] at hl
    refine ⟨p :: packages, .cons hp hpairs, ?_⟩
    rw [List.mapM_cons, Variant.libraryReads, hp]
    exact hl.bind (hpackages.map (p :: ·))

theorem gives_mapM_undeclared {before after : List Library} {l : Library}
    (hbefore : ∀ x ∈ before, ∃ p, c.variant.libraryPackage x = .ok p) (hl : c.variant.libraryPackage l = .error fault) :
    ((before ++ l :: after).mapM c.packageOfLibrary).Gives (.error fault)
      (c.variant.libraryReads (before ++ l :: after)) := by
  induction before with
  | nil =>
    have hgives := gives_packageOfLibrary c l
    rw [hl] at hgives
    rw [List.nil_append, List.mapM_cons, Variant.libraryReads, hl]
    exact hgives.bind_error
  | cons x before ih =>
    obtain ⟨⟨p, hp⟩, hrest⟩ := List.forall_mem_cons.mp hbefore
    have hx := gives_packageOfLibrary c x
    rw [hp] at hx
    rw [List.cons_append, List.mapM_cons, Variant.libraryReads, hp]
    exact hx.bind (ih hrest).bind_error

/-- The packages with colons between, if there are any. -/
def joinPackages : List String → Option String
  | [] => none
  | packages => some (String.intercalate ":" packages)

theorem gives_libraryPackages_declared
    (h : ∀ l ∈ g.getAll c.variant.flat, ∃ p, c.variant.libraryPackage l = .ok p) :
    ∃ packages, List.Forall₂ (fun l p => c.variant.libraryPackage l = .ok p) (g.getAll c.variant.flat) packages ∧
      (c.libraryPackages g).Gives (.ok (joinPackages packages))
        (c.variant.libraryReads (g.getAll c.variant.flat)) := by
  unfold libraryPackages
  obtain ⟨packages, hpairs, hpackages⟩ := gives_mapM_declared h
  refine ⟨packages, hpairs, ?_⟩
  cases hlibraries : g.getAll c.variant.flat with
  | nil =>
    rw [hlibraries] at hpairs
    cases hpairs
    exact gives_pure none
  | cons l rest =>
    rw [hlibraries] at hpairs hpackages
    cases hpairs
    exact hpackages.map fun packages => some (String.intercalate ":" packages)

theorem gives_libraryPackages_undeclared {before after : List Library} {l : Library}
    (hlibraries : g.getAll c.variant.flat = before ++ l :: after)
    (hbefore : ∀ x ∈ before, ∃ p, c.variant.libraryPackage x = .ok p) (hl : c.variant.libraryPackage l = .error fault) :
    (c.libraryPackages g).Gives (.error fault) (c.variant.libraryReads (g.getAll c.variant.flat)) := by
  have hgives : ((before ++ l :: after).mapM c.packageOfLibrary).Gives (.error fault) _ :=
    gives_mapM_undeclared hbefore hl
  unfold libraryPackages
  rw [hlibraries]
  cases before with
  | nil => exact hgives.bind_error
  | cons x before => exact hgives.bind_error

/-! ## Names -/

/-- Some name on the way down comes before the main manifest. -/
def Overridden (c : Configuration) : Prop :=
  (∃ x ∈ c.tests, x.merged.testPackageName.isSet = true) ∨ c.last.merged.packageName.isSet = true

instance (c : Configuration) : Decidable c.Overridden :=
  inferInstanceAs (Decidable (_ ∨ _))

/-- What is read for the name of the package. -/
def nameReads (c : Configuration) : List Path :=
  if c.Overridden then [] else [c.last.mainSources.manifest]

/-- What is read for the name of the tested package. -/
def testedReads : Configuration → List Path
  | plain _ => []
  | testOf v t => if t.variant.kind = .library then (testOf v t).nameReads else t.nameReads

theorem nameReads_eq_nil_or (c : Configuration) : c.nameReads = [] ∨ c.nameReads = [c.last.mainSources.manifest] := by
  unfold nameReads
  split
  · exact .inl rfl
  · exact .inr rfl

theorem testedReads_eq_nil_or (c : Configuration) :
    c.testedReads = [] ∨ c.testedReads = [c.last.mainSources.manifest] := by
  cases c with
  | plain v => exact .inl rfl
  | testOf v t =>
    simp only [testedReads]
    split
    · exact nameReads_eq_nil_or (testOf v t)
    · exact nameReads_eq_nil_or t

theorem gives_packageName (c : Configuration) : c.packageName.Gives c.packageName.outcome.1 c.nameReads := by
  suffices ∃ result, c.packageName.Gives result c.nameReads by
    obtain ⟨result, h⟩ := this
    rw [h.outcome]
    exact h
  unfold nameReads
  rcases nearest_or_unnamed c.tests with hc | ⟨before, u, after, name, htests, hbefore, hu⟩
  · have htests : ¬∃ x ∈ c.tests, x.merged.testPackageName.isSet = true := by
      rintro ⟨x, hx, hset⟩
      rw [hc x hx] at hset
      cases hset
    cases hp : c.last.merged.packageName.given? with
    | some p =>
      rw [if_pos (.inr (Setting.isSet_of_given? hp))]
      exact ⟨_, gives_packageName_last hc (gives_packageName_package hp)⟩
    | none =>
      have hopen : ¬ c.last.merged.packageName.isSet = true := by
        rw [Setting.given?_eq_none_iff.mp hp]
        exact Bool.false_ne_true
      rw [if_neg (show ¬c.Overridden from not_or.mpr ⟨htests, hopen⟩)]
      exact ⟨_, gives_packageName_last hc (gives_packageName_manifest hp)⟩
  · have hmem : u ∈ c.tests := by
      rw [htests]
      exact List.mem_append_right _ List.mem_cons_self
    rw [if_pos (.inl ⟨u, hmem, Setting.isSet_of_given? hu⟩)]
    exact ⟨_, gives_packageName_nearest htests hbefore hu⟩

/-- A test of a library has the package that it tests. -/
theorem gives_testedPackageName_library {t : Configuration} (ht : t.variant.kind = .library) :
    (testOf v t).testedPackageName.Gives ((testOf v t).packageName.outcome.1.map some) (testOf v t).nameReads := by
  have hgives := (gives_packageName (testOf v t)).map some
  unfold Variant.kind at ht
  cases hr : t.variant.role with
  | library output =>
    simp only [testedPackageName, hr]
    exact hgives
  | default =>
    rw [hr] at ht
    cases ht
  | test =>
    rw [hr] at ht
    cases ht

theorem gives_testedPackageName_other {t : Configuration} (ht : t.variant.kind ≠ .library) :
    (testOf v t).testedPackageName.Gives (t.packageName.outcome.1.map some) t.nameReads := by
  have hgives := (gives_packageName t).map some
  unfold Variant.kind at ht
  cases hr : t.variant.role with
  | library output =>
    rw [hr] at ht
    exact absurd rfl ht
  | default =>
    simp only [testedPackageName, hr]
    exact hgives
  | test =>
    simp only [testedPackageName, hr]
    exact hgives

theorem gives_testedPackageName (c : Configuration) :
    c.testedPackageName.Gives c.testedPackageName.outcome.1 c.testedReads := by
  suffices ∃ result, c.testedPackageName.Gives result c.testedReads by
    obtain ⟨result, h⟩ := this
    rw [h.outcome]
    exact h
  cases c with
  | plain v => exact ⟨_, gives_pure none⟩
  | testOf v t =>
    simp only [testedReads]
    split
    · exact ⟨_, gives_testedPackageName_library ‹_›⟩
    · exact ⟨_, gives_testedPackageName_other ‹_›⟩

theorem testedPackageName_eq_map (v : Variant) (t : Configuration) :
    ∃ result : Except Fault String, (testOf v t).testedPackageName.outcome.1 = result.map some := by
  by_cases hkind : t.variant.kind = .library
  · exact ⟨_, by rw [(gives_testedPackageName_library hkind).outcome]⟩
  · exact ⟨_, by rw [(gives_testedPackageName_other hkind).outcome]⟩

theorem packageName_unnamed (t : Configuration) (h : v.merged.testPackageName.isSet = false) :
    (testOf v t).packageName.outcome.1 = t.packageName.outcome.1.map (· ++ ".test") :=
  congrArg Prod.fst (gives_packageName_unnamed (Setting.given?_eq_none_iff.mpr h) (gives_packageName t)).outcome

/-- Whoever has a name by that of the tested variant knows the latter. -/
theorem testedPackageName_error {name : String} {t : Configuration}
    (hname : (testOf v t).packageName.outcome.1 = .ok name)
    (h : (testOf v t).testedPackageName.outcome.1 = .error fault) :
    t.variant.kind ≠ .library ∧ v.merged.testPackageName.isSet = true := by
  by_cases hkind : t.variant.kind = .library
  · rw [(gives_testedPackageName_library hkind).outcome, hname] at h
    cases h
  · refine ⟨hkind, ?_⟩
    rw [(gives_testedPackageName_other hkind).outcome] at h
    by_contra hopen
    rw [packageName_unnamed t (Bool.not_eq_true _ ▸ hopen)] at hname
    cases ht : t.packageName.outcome.1 with
    | error e =>
      rw [ht] at hname
      cases hname
    | ok below =>
      rw [ht] at h
      cases h

/-! ## The first fault -/

/-- A test of a library that has no output yet. -/
def TestsWithoutOutput (c : Configuration) : Prop :=
  ∃ t, c.tested? = some t ∧ t.variant.role = .library none

/-- The fault of a report is that of the first step that fails; these are the manifests read up to it. -/
inductive FirstFault (g : LibraryGraph) (c : Configuration) : Fault → List Path → Prop
  | unnamed {fault : Fault} : c.packageName.outcome.1 = .error fault → FirstFault g c fault c.nameReads
  | undeclared {name : String} {before after : List Library} {l : Library} {fault : Fault} :
    c.packageName.outcome.1 = .ok name → g.getAll c.variant.flat = before ++ l :: after →
    (∀ x ∈ before, ∃ p, c.variant.libraryPackage x = .ok p) → c.variant.libraryPackage l = .error fault →
    FirstFault g c fault (c.nameReads ++ c.variant.libraryReads (g.getAll c.variant.flat))
  | withoutOutput {name : String} : c.packageName.outcome.1 = .ok name →
    (∀ l ∈ g.getAll c.variant.flat, ∃ p, c.variant.libraryPackage l = .ok p) → c.TestsWithoutOutput →
    FirstFault g c (.structural .testedWithoutOutput)
      (c.nameReads ++ c.variant.libraryReads (g.getAll c.variant.flat))
  | untested {name : String} {fault : Fault} : c.packageName.outcome.1 = .ok name →
    (∀ l ∈ g.getAll c.variant.flat, ∃ p, c.variant.libraryPackage l = .ok p) → ¬c.TestsWithoutOutput →
    c.testedPackageName.outcome.1 = .error fault →
    FirstFault g c fault (c.nameReads ++ c.variant.libraryReads (g.getAll c.variant.flat) ++ c.testedReads)

/-- No step fails. -/
structure Complete (g : LibraryGraph) (c : Configuration) : Prop where
  named : ∃ name, c.packageName.outcome.1 = .ok name
  declared : ∀ l ∈ g.getAll c.variant.flat, ∃ p, c.variant.libraryPackage l = .ok p
  output : ¬c.TestsWithoutOutput
  tested : ∃ package, c.testedPackageName.outcome.1 = .ok package

theorem firstFault_or_complete (g : LibraryGraph) (c : Configuration) :
    (∃ fault reads, c.FirstFault g fault reads) ∨ c.Complete g := by
  cases hname : c.packageName.outcome.1 with
  | error fault => exact .inl ⟨fault, _, .unnamed hname⟩
  | ok name =>
    rcases c.variant.declared_or_first_undeclared (g.getAll c.variant.flat) with
      hdeclared | ⟨before, l, after, fault, hlibraries, hbefore, hl⟩
    · by_cases houtput : c.TestsWithoutOutput
      · exact .inl ⟨_, _, .withoutOutput hname hdeclared houtput⟩
      · cases htested : c.testedPackageName.outcome.1 with
        | error fault => exact .inl ⟨fault, _, .untested hname hdeclared houtput htested⟩
        | ok package => exact .inr ⟨⟨name, hname⟩, hdeclared, houtput, ⟨package, htested⟩⟩
    · exact .inl ⟨fault, _, .undeclared hname hlibraries hbefore hl⟩

theorem compileClasspath_error (h : c.TestsWithoutOutput) : c.compileClasspath g = .error .testedWithoutOutput := by
  obtain ⟨t, ht, hr⟩ := h
  cases c with
  | plain v => cases ht
  | testOf v t' =>
    cases ht
    simp only [compileClasspath, hr]

theorem gives_classpath {classpath : List Path} (h : c.compileClasspath g = .ok classpath) :
    Gives (Lookup.ofStructural (c.compileClasspath g)) (.ok classpath) [] := by
  rw [h]
  exact gives_pure classpath

theorem gives_describeTest {package : Option String} (h : c.testedPackageName.outcome.1 = .ok package) :
    ∃ test, c.describeTest.Gives (.ok test) c.testedReads := by
  have hgives := gives_testedPackageName c
  rw [h] at hgives
  unfold describeTest
  rw [← List.append_nil c.testedReads]
  cases package with
  | none => exact ⟨_, hgives.bind (gives_pure none)⟩
  | some package => exact ⟨_, hgives.bind (gives_pure (some _))⟩

theorem gives_describe_complete (h : c.Complete g) {classpath : List Path}
    (hclasspath : c.compileClasspath g = .ok classpath) :
    ∃ r, r.compileClasspath = Path.sortedTexts classpath ∧ (c.describe g).Gives (.ok r)
      (c.nameReads ++ c.variant.libraryReads (g.getAll c.variant.flat) ++ c.testedReads) := by
  obtain ⟨⟨name, hname⟩, hdeclared, houtput, ⟨package, htested⟩⟩ := h
  have hgives := gives_packageName c
  rw [hname] at hgives
  obtain ⟨packages, _, hpackages⟩ := gives_libraryPackages_declared hdeclared
  obtain ⟨test, htest⟩ := gives_describeTest htested
  unfold describe
  rw [List.append_assoc]
  refine ⟨_, ?_, hgives.bind (hpackages.bind ((gives_classpath hclasspath).bind (htest.map _)))⟩
  rfl

theorem gives_describe_firstFault {reads : List Path} (h : c.FirstFault g fault reads)
    (hclasspath : ¬c.TestsWithoutOutput → ∃ classpath, c.compileClasspath g = .ok classpath) :
    (c.describe g).Gives (.error fault) reads := by
  have hgives := gives_packageName c
  unfold describe
  cases h with
  | unnamed hname =>
    rw [hname] at hgives
    exact hgives.bind_error
  | undeclared hname hlibraries hbefore hl =>
    rw [hname] at hgives
    exact hgives.bind (gives_libraryPackages_undeclared hlibraries hbefore hl).bind_error
  | withoutOutput hname hdeclared houtput =>
    rw [hname] at hgives
    obtain ⟨packages, _, hpackages⟩ := gives_libraryPackages_declared hdeclared
    rw [compileClasspath_error houtput, ← List.append_nil (_ ++ _), List.append_assoc]
    exact hgives.bind (hpackages.bind (gives_throw _).bind_error)
  | untested hname hdeclared houtput htested =>
    rw [hname] at hgives
    obtain ⟨packages, _, hpackages⟩ := gives_libraryPackages_declared hdeclared
    obtain ⟨classpath, hclasspath⟩ := hclasspath houtput
    have htest := gives_testedPackageName c
    rw [htested] at htest
    rw [List.append_assoc]
    exact hgives.bind (hpackages.bind ((gives_classpath hclasspath).bind htest.bind_error.bind_error))

end Configuration

/-! ## In every world -/

namespace World

variable {g : LibraryGraph} {w : World} {id : VariantId} {c : Configuration}

/-- A library tests nothing, so no other library lacks its output below it. -/
theorem compileClasspath_ok (hc : w.configuration? id = some c) (h : ¬c.TestsWithoutOutput) :
    ∃ classpath, c.compileClasspath g = .ok classpath := by
  cases configuredAs hc with
  | plain => exact ⟨_, rfl⟩
  | @testOf v _ below _ _ _ hbelow =>
    simp only [Configuration.compileClasspath]
    cases hr : below.variant.role with
    | default => exact ⟨_, rfl⟩
    | test => exact ⟨_, rfl⟩
    | library output =>
      cases output with
      | none => exact absurd ⟨below, rfl, hr⟩ h
      | some output =>
        cases configuredAs hbelow with
        | plain => exact ⟨_, rfl⟩
        | @testOf u _ _ _ ht =>
          rw [Variant.tested, show u.role = _ from hr] at ht
          cases ht

theorem describe_firstFault {fault : Fault} {reads : List Path} (hc : w.configuration? id = some c)
    (h : c.FirstFault g fault reads) : (c.describe g).outcome = (.error fault, reads) :=
  (Configuration.gives_describe_firstFault h (compileClasspath_ok hc)).outcome

theorem describe_complete (hc : w.configuration? id = some c) (h : c.Complete g) :
    ∃ r, (c.describe g).outcome =
      (.ok r, c.nameReads ++ c.variant.libraryReads (g.getAll c.variant.flat) ++ c.testedReads) := by
  obtain ⟨classpath, hclasspath⟩ := compileClasspath_ok (g := g) hc h.output
  obtain ⟨r, _, hr⟩ := Configuration.gives_describe_complete h hclasspath
  exact ⟨r, hr.outcome⟩

theorem describe_ok_iff (hc : w.configuration? id = some c) :
    (∃ r, (c.describe g).outcome.1 = .ok r) ↔ c.Complete g := by
  constructor
  · rintro ⟨r, hr⟩
    rcases Configuration.firstFault_or_complete g c with ⟨fault, reads, h⟩ | h
    · rw [describe_firstFault hc h] at hr
      cases hr
    · exact h
  · intro h
    obtain ⟨r, hr⟩ := describe_complete hc h
    exact ⟨r, by rw [hr]⟩

theorem describe_error_iff {fault : Fault} (hc : w.configuration? id = some c) :
    (c.describe g).outcome.1 = .error fault ↔ ∃ reads, c.FirstFault g fault reads := by
  constructor
  · intro hfault
    rcases Configuration.firstFault_or_complete g c with ⟨fault', reads, h⟩ | h
    · rw [describe_firstFault hc h] at hfault
      cases hfault
      exact ⟨reads, h⟩
    · obtain ⟨r, hr⟩ := describe_complete hc h
      rw [hr] at hfault
      cases hfault
  · rintro ⟨reads, h⟩
    rw [describe_firstFault hc h]

theorem kind_eq_test_iff_tested? (hc : w.configuration? id = some c) :
    c.variant.kind = .test ↔ ∃ t, c.tested? = some t := by
  rw [Variant.kind_eq_test_iff]
  cases configuredAs hc with
  | plain _ ht => simp [Configuration.variant, Configuration.tested?, ht]
  | testOf _ ht => simp [Configuration.variant, Configuration.tested?, ht]

theorem testedPackageName_ok_iff (hc : w.configuration? id = some c) :
    (∃ package, c.testedPackageName.outcome.1 = .ok package) ↔
      (c.variant.kind = .test → ∃ name, c.testedPackageName.outcome.1 = .ok (some name)) := by
  rw [kind_eq_test_iff_tested? hc]
  cases c with
  | plain v =>
    constructor
    · rintro _ ⟨t, ht⟩
      cases ht
    · exact fun _ => ⟨none, rfl⟩
  | testOf v t =>
    obtain ⟨result, hresult⟩ := Configuration.testedPackageName_eq_map v t
    rw [hresult]
    constructor
    · rintro ⟨package, h⟩ _
      cases result with
      | error fault => cases h
      | ok name => exact ⟨name, rfl⟩
    · intro h
      obtain ⟨name, hname⟩ := h ⟨t, rfl⟩
      exact ⟨some name, hname⟩

/-- A test, and nothing else, has a package that it tests. -/
theorem complete_iff (hc : w.configuration? id = some c) :
    c.Complete g ↔ (∃ name, c.packageName.outcome.1 = .ok name) ∧
      (∀ l ∈ g.getAll c.variant.flat, ∃ p, c.variant.packageOf l.manifest = .ok (some p) ∧ p ≠ "") ∧
      ¬c.TestsWithoutOutput ∧
      (c.variant.kind = .test → ∃ name, c.testedPackageName.outcome.1 = .ok (some name)) := by
  rw [← testedPackageName_ok_iff hc]
  simp only [← Variant.libraryPackage_ok_iff]
  constructor
  · rintro ⟨hname, hdeclared, houtput, htested⟩
    exact ⟨hname, hdeclared, houtput, htested⟩
  · rintro ⟨hname, hdeclared, houtput, htested⟩
    exact ⟨hname, hdeclared, houtput, htested⟩

theorem testedReads_of_test (hc : w.configuration? id = some c) :
    c.testedReads = [] ∨ c.variant.kind = .test ∧ c.testedReads = [c.last.mainSources.manifest] := by
  rw [kind_eq_test_iff_tested? hc]
  cases c with
  | plain v => exact .inl rfl
  | testOf v t =>
    rcases Configuration.testedReads_eq_nil_or (.testOf v t) with h | h
    · exact .inl h
    · exact .inr ⟨⟨t, rfl⟩, h⟩

/-- The main manifest is read again for a test only. -/
theorem describe_reads {name : String} (hc : w.configuration? id = some c)
    (hname : c.packageName.outcome.1 = .ok name) :
    ∃ tested, (c.describe g).outcome.2 = c.nameReads ++ c.variant.libraryReads (g.getAll c.variant.flat) ++ tested ∧
      (tested = [] ∨ c.variant.kind = .test ∧ tested = [c.last.mainSources.manifest]) := by
  rcases Configuration.firstFault_or_complete g c with ⟨fault, reads, h⟩ | h
  · rw [describe_firstFault hc h]
    cases h with
    | unnamed h =>
      rw [hname] at h
      cases h
    | undeclared => exact ⟨[], (List.append_nil _).symm, .inl rfl⟩
    | withoutOutput => exact ⟨[], (List.append_nil _).symm, .inl rfl⟩
    | untested => exact ⟨c.testedReads, rfl, testedReads_of_test hc⟩
  · obtain ⟨r, hr⟩ := describe_complete hc h
    rw [hr]
    exact ⟨c.testedReads, rfl, testedReads_of_test hc⟩

/-- What a report needs, which of it fails first, and what is read until then. -/
theorem run_describe (g : LibraryGraph) (commands : List Command) (id : VariantId) (v : Variant)
    (h : (run { libraries := g } commands).variant? id = some v) :
    ∃ c, (run { libraries := g } commands).configuration? id = some c ∧ c.variant = v ∧
      (run { libraries := g } commands).TestedInTurn id c.tests c.last ∧
      ((∃ r, (c.describe g).outcome.1 = .ok r) ↔
        (∃ name, c.packageName.outcome.1 = .ok name) ∧
        (∀ l ∈ g.getAll v.flat, ∃ p, v.packageOf l.manifest = .ok (some p) ∧ p ≠ "") ∧
        ¬(∃ t, c.tested? = some t ∧ t.variant.role = .library none) ∧
        (v.kind = .test → ∃ name, c.testedPackageName.outcome.1 = .ok (some name))) ∧
      (∀ fault, (c.describe g).outcome.1 = .error fault ↔ ∃ reads, c.FirstFault g fault reads) ∧
      (∀ name fault t, c.packageName.outcome.1 = .ok name → c.testedPackageName.outcome.1 = .error fault →
        c.tested? = some t → t.variant.kind ≠ .library ∧ v.merged.testPackageName.isSet = true) ∧
      (∀ fault, c.packageName.outcome.1 = .error fault → (c.describe g).outcome.2 = c.nameReads) ∧
      ∀ name, c.packageName.outcome.1 = .ok name →
        ∃ tested, (c.describe g).outcome.2 = c.nameReads ++ v.libraryReads (g.getAll v.flat) ++ tested ∧
          (tested = [] ∨ v.kind = .test ∧ tested = [c.last.mainSources.manifest]) := by
  obtain ⟨c, hc, rfl⟩ := ((sound_start g).run commands).exists_configuration h
  refine ⟨c, hc, rfl, testedInTurn hc, ?_, fun fault => describe_error_iff hc, ?_, fun fault hfault => ?_,
    fun name hname => describe_reads hc hname⟩
  · rw [describe_ok_iff hc, complete_iff hc]
    rfl
  · intro name fault t hname hfault ht
    cases c with
    | plain v => cases ht
    | testOf v t' =>
      cases ht
      exact Configuration.testedPackageName_error hname hfault
  · rw [describe_firstFault hc (.unnamed hfault)]

/-- An application without a package, and a test of it that has a name of its own. -/
def testOfUnnamed : List Command :=
  let sources : SourceSet := { name := "main", manifest := ⟨.here, ["main.xml"]⟩ }
  let plan : Variant.Plan :=
    { defaults := { name := "main", testPackageName := some "com.app.test" }
      mainSources := sources
      buildType := { name := "debug" }
      buildTypeSources := sources
      packageOf := fun manifest => .ok (if manifest = ⟨.here, ["lib.xml"]⟩ then some "com.lib" else none) }
  [ .create ⟨.root, []⟩ (fun _ => true) plan,
    .create ⟨.root, []⟩ (fun _ => true) { plan with kind := .test, tested := some 0 },
    .setLibraries 1 [0] ]

def oneLibrary : LibraryGraph :=
  ⟨#[{ name := "lib", manifest := ⟨.here, ["lib.xml"]⟩, jarFile := ⟨.here, ["lib.jar"]⟩ }]⟩

theorem run_describe_test_of_unnamed :
    ∃ c, (run { libraries := oneLibrary } testOfUnnamed).configuration? 1 = some c ∧
      (c.describe oneLibrary).outcome.1 = .error (.package (.undeclared ⟨.here, ["main.xml"]⟩)) ∧
      c.variant.merged.testPackageName.isSet = true := by
  have hfacts : ((run { libraries := oneLibrary } testOfUnnamed).configuration? 1).map (fun c =>
      (c.packageName.outcome.1, (oneLibrary.getAll c.variant.flat).map c.variant.libraryPackage,
        c.tested?.map (·.variant.role), c.testedPackageName.outcome.1)) =
      some (.ok "com.app.test", [.ok "com.lib"], some .default,
        .error (.package (.undeclared ⟨.here, ["main.xml"]⟩))) := by
    cbv
  obtain ⟨v, hv⟩ := Option.isSome_iff_exists.mp
    (show ((run { libraries := oneLibrary } testOfUnnamed).variant? 1).isSome by cbv)
  obtain ⟨c, hc, rfl, _, _, hfault, hnamed, _⟩ := run_describe oneLibrary testOfUnnamed 1 v hv
  rw [hc, Option.map_some, Option.some.injEq] at hfacts
  simp only [Prod.mk.injEq] at hfacts
  obtain ⟨hname, hlibraries, htested, hpackage⟩ := hfacts
  obtain ⟨t, ht, hrole⟩ := Option.map_eq_some_iff.mp htested
  refine ⟨c, hc, (hfault _).mpr ⟨_, .untested hname (fun l hl => ?_) ?_ hpackage⟩, (hnamed _ _ t hname hpackage ht).2⟩
  · have hl' := List.mem_map_of_mem (f := c.variant.libraryPackage) hl
    rw [hlibraries, List.mem_singleton] at hl'
    exact ⟨_, hl'⟩
  · rintro ⟨t', ht', hr⟩
    rw [ht, Option.some.injEq] at ht'
    rw [← ht', hrole] at hr
    cases hr

end World

end BuildVariants
