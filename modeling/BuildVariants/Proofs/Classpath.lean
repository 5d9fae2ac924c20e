import BuildVariants.Proofs.FlatLibraries
import BuildVariants.Proofs.PathTexts
import BuildVariants.Proofs.Reports

/-!
# Class paths

A variant is compiled against the paths of its source sets. A test of a library is compiled also against
the jar of the library and the paths of its source sets, and against nothing more, since a library tests
nothing (`World.CompiledAgainst`). A report has the texts of these paths in rising order, whatever the
order of the flavors (`World.run_compiledAgainst`).

The class path and the full direct libraries both need the output of a tested library: without it both
fail, and once it is set neither fails again (`World.run_output_needed_alike`).
-/

namespace BuildVariants

namespace Variant

variable {v : Variant}

/-- A source set of the variant has this path on its class path. -/
def HoldsPath (v : Variant) (p : Path) : Prop :=
  p ∈ v.mainSources.compileClasspath ∨ p ∈ v.buildTypeSources.compileClasspath ∨
    ∃ sources ∈ v.flavorSources, p ∈ sources.compileClasspath

theorem role_of_library (h : v.kind = .library) : v.role = .library v.output := by
  unfold kind at h
  unfold output
  cases hr : v.role with
  | library output => rfl
  | default =>
    rw [hr] at h
    cases h
  | test =>
    rw [hr] at h
    cases h

theorem tested_of_library (h : v.kind = .library) : v.tested = none := by
  rw [tested, role_of_library h]

end Variant

namespace Configuration

variable {g : LibraryGraph} {c : Configuration} {fault : StructuralFault} {p : Path}

theorem mem_ownClasspath : p ∈ c.ownClasspath ↔ c.variant.HoldsPath p := by
  simp [ownClasspath, Variant.HoldsPath]

theorem compileClasspath_testOf_library {v l : Variant} {output : LibraryId} (hkind : l.kind = .library)
    (houtput : l.output = some output) : (testOf v (plain l)).compileClasspath g =
      .ok ((testOf v (plain l)).ownClasspath ++ (g.getAll [output]).map (·.jarFile) ++ (plain l).ownClasspath) := by
  have hr : (plain l).variant.role = .library (some output) := by
    rw [← houtput]
    exact Variant.role_of_library hkind
  simp only [compileClasspath, hr]

theorem compileClasspath_testOf_other {v : Variant} {t : Configuration} (h : t.variant.kind ≠ .library) :
    (testOf v t).compileClasspath g = .ok (testOf v t).ownClasspath := by
  unfold Variant.kind at h
  cases hr : t.variant.role with
  | default => simp only [compileClasspath, hr]
  | test => simp only [compileClasspath, hr]
  | library output =>
    rw [hr] at h
    exact absurd rfl h

/-! ## The output of the tested library -/

theorem fullDirect_error_iff : c.fullDirect = .error fault ↔ fault = .testedWithoutOutput ∧ c.TestsWithoutOutput := by
  unfold fullDirect Variant.fullDirect TestsWithoutOutput
  cases c.tested? with
  | none => simp
  | some t =>
    cases hr : t.variant.role with
    | default => simp [hr]
    | test => simp [hr]
    | library output => cases output <;> simp [hr, eq_comm]

end Configuration

namespace World

variable {w : World} {id : VariantId} {c : Configuration} {fault : StructuralFault} {g : LibraryGraph} {p : Path}

theorem compileClasspath_error_iff (hc : w.configuration? id = some c) :
    c.compileClasspath g = .error fault ↔ fault = .testedWithoutOutput ∧ c.TestsWithoutOutput := by
  by_cases h : c.TestsWithoutOutput
  · simp [Configuration.compileClasspath_error h, h, eq_comm]
  · obtain ⟨classpath, hclasspath⟩ := compileClasspath_ok (g := g) hc h
    simp [hclasspath, h]

theorem testsWithoutOutput_iff (hc : w.configuration? id = some c) :
    c.TestsWithoutOutput ↔ c.variant.kind = .test ∧
      ∃ t l, c.variant.tested = some t ∧ w.variant? t = some l ∧ l.kind = .library ∧ l.output = none := by
  cases configuredAs hc with
  | plain _ htested =>
    constructor
    · rintro ⟨t, ht, _⟩
      cases ht
    · rintro ⟨_, t, _, ht, _⟩
      rw [Configuration.variant, htested] at ht
      cases ht
  | @testOf v t below hv htested _ hbelow =>
    have hl := (configuredAs hbelow).variant
    constructor
    · rintro ⟨_, ht, hr⟩
      cases ht
      refine ⟨?_, t, below.variant, htested, hl, ?_, ?_⟩
      · rw [Configuration.variant, Variant.kind_eq_test_iff, htested]
        rfl
      · rw [Variant.kind, hr, Role.kind]
      · rw [Variant.output, hr]
    · rintro ⟨_, t', l, ht, hl', hkind, houtput⟩
      rw [Configuration.variant, htested, Option.some.injEq] at ht
      subst ht
      rw [hl, Option.some.injEq] at hl'
      subst hl'
      refine ⟨below, rfl, ?_⟩
      rw [Variant.role_of_library hkind, houtput]

/-- An output that is set stays set. -/
theorem Changed.role_ne {v u : Variant} {command : Command} (h : w.Changed id v command u)
    (hv : v.role ≠ .library none) : u.role ≠ .library none := by
  cases h with
  | addFlavor => exact hv
  | setLibraries =>
    rw [(Variant.setLibraries_outcome ..).role]
    exact hv
  | setJars => exact hv
  | setOutput hu =>
    obtain ⟨_, rfl⟩ := Variant.setOutput_ok hu
    simp

theorem not_testsWithoutOutput_after (hw : w.Sound) (hc : w.configuration? id = some c) (h : ¬c.TestsWithoutOutput)
    (commands : List Command) :
    ∃ later, (w.run commands).configuration? id = some later ∧ ¬later.TestsWithoutOutput := by
  have hsurvives : ∃ u, (w.run commands).variant? id = some u ∧ u.tested = c.variant.tested :=
    survives_run (p := fun u => u.tested = c.variant.tested)
      (fun _ _ _ _ _ hchanged hx => hchanged.tested.trans hx) (configuredAs hc).variant rfl
  obtain ⟨u, hu, htested⟩ := hsurvives
  obtain ⟨later, hlater, rfl⟩ := (hw.run commands).exists_configuration hu
  refine ⟨later, hlater, ?_⟩
  intro hlacks
  obtain ⟨_, t, l, ht, hl, hkind, houtput⟩ := (testsWithoutOutput_iff hlater).mp hlacks
  rw [htested] at ht
  cases configuredAs hc with
  | plain _ hnone =>
    rw [Configuration.variant, hnone] at ht
    cases ht
  | @testOf v s below _ ht' _ hbelow =>
    rw [Configuration.variant, ht', Option.some.injEq] at ht
    subst ht
    have hrole : below.variant.role ≠ .library none := fun hr => h ⟨below, rfl, hr⟩
    have hbelow' : ∃ x, (w.run commands).variant? s = some x ∧ x.role ≠ .library none :=
      survives_run (p := fun x => x.role ≠ .library none)
        (fun _ _ _ _ _ hchanged hx => hchanged.role_ne hx) (configuredAs hbelow).variant hrole
    obtain ⟨l', hl', hne⟩ := hbelow'
    rw [hl, Option.some.injEq] at hl'
    subst hl'
    apply hne
    rw [Variant.role_of_library hkind, houtput]

/-- The full direct libraries and the class path fail for the same variants, with the same words, and
neither fails after one of them did not. -/
theorem run_output_needed_alike (g : LibraryGraph) (commands : List Command) (id : VariantId) (v : Variant)
    (h : (run { libraries := g } commands).variant? id = some v) :
    ∃ c, (run { libraries := g } commands).configuration? id = some c ∧ c.variant = v ∧
      (∀ fault, c.fullDirect = .error fault ↔ c.compileClasspath g = .error fault) ∧
      (∀ fault, c.fullDirect = .error fault ↔ fault = .testedWithoutOutput ∧ v.kind = .test ∧
        ∃ t l, v.tested = some t ∧ (run { libraries := g } commands).variant? t = some l ∧ l.kind = .library ∧
          l.output = none) ∧
      ∀ after, ((∃ full, c.fullDirect = .ok full) ∨ ∃ classpath, c.compileClasspath g = .ok classpath) →
        ∃ later, (run { libraries := g } (commands ++ after)).configuration? id = some later ∧
          (∃ full, later.fullDirect = .ok full) ∧ ∃ classpath, later.compileClasspath g = .ok classpath := by
  have hworld := (sound_start g).run commands
  obtain ⟨c, hc, rfl⟩ := hworld.exists_configuration h
  refine ⟨c, hc, rfl, ?_, ?_, ?_⟩
  · intro fault
    rw [Configuration.fullDirect_error_iff, compileClasspath_error_iff hc]
  · intro fault
    rw [Configuration.fullDirect_error_iff, testsWithoutOutput_iff hc]
  · intro after hreturned
    have houtput : ¬c.TestsWithoutOutput := by
      intro hlacks
      rcases hreturned with ⟨full, hfull⟩ | ⟨classpath, hclasspath⟩
      · rw [Configuration.fullDirect_error_iff.mpr ⟨rfl, hlacks⟩] at hfull
        cases hfull
      · rw [Configuration.compileClasspath_error hlacks] at hclasspath
        cases hclasspath
    obtain ⟨later, hlater, hlater'⟩ := not_testsWithoutOutput_after hworld hc houtput after
    rw [← run_append] at hlater
    refine ⟨later, hlater, ?_, compileClasspath_ok hlater hlater'⟩
    cases hfull : later.fullDirect with
    | ok full => exact ⟨full, rfl⟩
    | error fault => exact absurd (Configuration.fullDirect_error_iff.mp hfull).2 hlater'

/-- Without the output both fail. Once it is set, neither does, whatever is set anew. -/
theorem run_output_needed_alike_library_and_test :
    (∃ c, testWithoutOutput.configuration? 1 = some c ∧ c.fullDirect = .error .testedWithoutOutput ∧
      c.compileClasspath (.ofDependencies [[]]) = .error .testedWithoutOutput) ∧
    ∃ later, (run { libraries := .ofDependencies [[]] }
        (libraryAndTest ++ [.setOutput 0 0, .setLibraries 0 [0], .setLibraries 1 [0]])).configuration? 1 =
          some later ∧
      (∃ full, later.fullDirect = .ok full) ∧
      ∃ classpath, later.compileClasspath (.ofDependencies [[]]) = .ok classpath := by
  constructor
  · have htest : (testWithoutOutput.variant? 1).map (fun v => (v.kind, v.tested)) = some (.test, some 0) := by cbv
    have hlibrary : (testWithoutOutput.variant? 0).map (fun l => (l.kind, l.output)) = some (.library, none) := by cbv
    obtain ⟨v, hv, heq⟩ := Option.map_eq_some_iff.mp htest
    obtain ⟨l, hl, heq'⟩ := Option.map_eq_some_iff.mp hlibrary
    rw [Prod.mk.injEq] at heq heq'
    obtain ⟨c, hc, rfl, halike, hlacks, _⟩ := run_output_needed_alike _ (libraryAndTest.take 2) 1 v hv
    have hfull := (hlacks _).mpr ⟨rfl, heq.1, 0, l, heq.2, hl, heq'.1, heq'.2⟩
    exact ⟨c, hc, hfull, (halike _).mp hfull⟩
  · have hfull : ((run { libraries := .ofDependencies [[]] } libraryAndTest).configuration? 1).map
        Configuration.fullDirect = some (.ok [0]) := by
      cbv
    obtain ⟨v, hv⟩ := Option.isSome_iff_exists.mp
      (show ((run { libraries := .ofDependencies [[]] } libraryAndTest).variant? 1).isSome by cbv)
    obtain ⟨c, hc, rfl, _, _, hlater⟩ := run_output_needed_alike _ libraryAndTest 1 v hv
    rw [hc, Option.map_some, Option.some.injEq] at hfull
    exact hlater _ (.inl ⟨_, hfull⟩)

/-! ## What a variant is compiled against -/

/-- A path of the variant, or the jar or a path of a library that it tests. -/
def CompiledAgainst (w : World) (v : Variant) (p : Path) : Prop :=
  v.HoldsPath p ∨ ∃ t l, v.tested = some t ∧ w.variant? t = some l ∧ l.kind = .library ∧
    ((∃ output o, l.output = some output ∧ w.libraries.get? output = some o ∧ o.jarFile = p) ∨ l.HoldsPath p)

/-- A library tests nothing. -/
theorem eq_plain_of_library (hc : w.configuration? id = some c) (h : c.variant.kind = .library) :
    ∃ l, c = .plain l := by
  cases configuredAs hc with
  | @plain l => exact ⟨l, rfl⟩
  | @testOf v _ _ _ ht =>
    rw [Variant.tested_of_library (v := v) h] at ht
    cases ht

theorem mem_compileClasspath {classpath : List Path} (hc : w.configuration? id = some c)
    (h : c.compileClasspath w.libraries = .ok classpath) : p ∈ classpath ↔ w.CompiledAgainst c.variant p := by
  cases configuredAs hc with
  | @plain v _ htested =>
    cases h
    rw [Configuration.mem_ownClasspath]
    simp [CompiledAgainst, Configuration.variant, htested]
  | @testOf v t below _ htested _ hbelow =>
    have hl := (configuredAs hbelow).variant
    have hown : ∀ q, q ∈ (Configuration.testOf v below).ownClasspath ↔ v.HoldsPath q :=
      fun q => Configuration.mem_ownClasspath
    show p ∈ classpath ↔ w.CompiledAgainst v p
    by_cases hkind : below.variant.kind = .library
    · obtain ⟨l, rfl⟩ := eq_plain_of_library hbelow hkind
      have hlown : ∀ q, q ∈ (Configuration.plain l).ownClasspath ↔ l.HoldsPath q :=
        fun q => Configuration.mem_ownClasspath
      have hl' : w.variant? t = some l := hl
      have hkind' : l.kind = .library := hkind
      cases houtput : l.output with
      | none =>
        have hlacks : (Configuration.testOf v (.plain l)).TestsWithoutOutput := by
          refine ⟨.plain l, rfl, ?_⟩
          rw [← houtput]
          exact Variant.role_of_library hkind'
        rw [Configuration.compileClasspath_error hlacks] at h
        cases h
      | some output =>
        rw [Configuration.compileClasspath_testOf_library hkind' houtput] at h
        cases h
        cases ho : w.libraries.get? output <;>
          simp [CompiledAgainst, hown, hlown, htested, hl', hkind', houtput, LibraryGraph.getAll, ho, eq_comm]
    · rw [Configuration.compileClasspath_testOf_other hkind] at h
      cases h
      simp [CompiledAgainst, hown, htested, hl, hkind]

theorem run_mem_compileClasspath {commands : List Command} {classpath : List Path}
    (hc : (run { libraries := g } commands).configuration? id = some c) (h : c.compileClasspath g = .ok classpath) :
    p ∈ classpath ↔ (run { libraries := g } commands).CompiledAgainst c.variant p := by
  apply mem_compileClasspath hc
  rw [run_libraries]
  exact h

theorem describe_compileClasspath {r : Report} (hc : w.configuration? id = some c)
    (h : (c.describe g).outcome.1 = .ok r) :
    ∃ classpath, c.compileClasspath g = .ok classpath ∧ r.compileClasspath = Path.sortedTexts classpath := by
  have hcomplete := (describe_ok_iff hc).mp ⟨r, h⟩
  obtain ⟨classpath, hclasspath⟩ := compileClasspath_ok (g := g) hc hcomplete.output
  obtain ⟨r', hr', hgives⟩ := Configuration.gives_describe_complete hcomplete hclasspath
  rw [hgives.outcome] at h
  cases h
  exact ⟨classpath, hclasspath, hr'⟩

/-- What holds of the class path after any commands. Its texts are in the order of their characters, so
neither the order of the flavors nor repeated entries show in a report. -/
theorem run_compiledAgainst (g : LibraryGraph) (commands : List Command) (id : VariantId) (v : Variant)
    (h : (run { libraries := g } commands).variant? id = some v) :
    ∃ c, (run { libraries := g } commands).configuration? id = some c ∧ c.variant = v ∧
      (∀ t l, v.tested = some t → (run { libraries := g } commands).variant? t = some l → l.kind = .library →
        l.tested = none) ∧
      (∀ classpath, c.compileClasspath g = .ok classpath →
        ∀ p, p ∈ classpath ↔ (run { libraries := g } commands).CompiledAgainst v p) ∧
      (∀ r, (c.describe g).outcome.1 = .ok r →
        r.compileClasspath.Pairwise (· < ·) ∧
        (∀ s, s ∈ r.compileClasspath ↔
          ∃ p, (run { libraries := g } commands).CompiledAgainst v p ∧ p.text = s) ∧
        ((∀ p, (run { libraries := g } commands).CompiledAgainst v p → p.IsNormal) →
          ∃ paths : List Path, paths.Nodup ∧
            (∀ p, p ∈ paths ↔ (run { libraries := g } commands).CompiledAgainst v p) ∧
            paths.map Path.text = r.compileClasspath)) ∧
      ∀ g' commands' id' c', (run { libraries := g' } commands').configuration? id' = some c' →
        (∀ p, (run { libraries := g } commands).CompiledAgainst v p ↔
          (run { libraries := g' } commands').CompiledAgainst c'.variant p) →
        ∀ r r', (c.describe g).outcome.1 = .ok r → (c'.describe g').outcome.1 = .ok r' →
          r.compileClasspath = r'.compileClasspath := by
  obtain ⟨c, hc, rfl⟩ := ((sound_start g).run commands).exists_configuration h
  refine ⟨c, hc, rfl, ?_, fun classpath hclasspath p => run_mem_compileClasspath hc hclasspath, ?_, ?_⟩
  · intro t l _ _ hkind
    exact Variant.tested_of_library hkind
  · intro r hr
    obtain ⟨classpath, hclasspath, htexts⟩ := describe_compileClasspath hc hr
    rw [htexts]
    refine ⟨Path.pairwise_sortedTexts classpath, ?_, ?_⟩
    · intro s
      simp only [Path.mem_sortedTexts, run_mem_compileClasspath hc hclasspath]
    · intro hnormal
      simp only [← run_mem_compileClasspath hc hclasspath] at hnormal ⊢
      exact Path.exists_map_text hnormal
  · intro g' commands' id' c' hc' hsame r r' hr hr'
    obtain ⟨classpath, hclasspath, htexts⟩ := describe_compileClasspath hc hr
    obtain ⟨classpath', hclasspath', htexts'⟩ := describe_compileClasspath hc' hr'
    rw [htexts, htexts']
    apply Path.sortedTexts_eq
    intro p
    rw [run_mem_compileClasspath hc hclasspath, run_mem_compileClasspath hc' hclasspath', hsame p]

/-- A library with a jar, and a test of it with these entries in its flavors. -/
def testOfJar (flavors : List (List String)) : List Command :=
  let sources (entries : List String) : SourceSet :=
    { name := "sources", manifest := ⟨.here, ["main.xml"]⟩, compileClasspath := entries.map Path.ofString }
  let plan : Variant.Plan :=
    { defaults := { name := "main" }
      mainSources := sources ["b.jar", "a.jar"]
      buildType := { name := "debug" }
      buildTypeSources := sources []
      packageOf := fun _ => .ok (some "com.app") }
  [ .create ⟨.root, []⟩ (fun _ => true) { plan with kind := .library },
    .setOutput 0 0,
    .create ⟨.root, []⟩ (fun _ => true)
      { plan with kind := .test, tested := some 0, mainSources := sources ["c.jar"] } ] ++
    flavors.map fun entries => .addFlavor 1 { name := "flavor" } (sources entries)

def oneJar : LibraryGraph :=
  ⟨#[{ name := "app", manifest := ⟨.here, ["app.xml"]⟩, jarFile := .ofString "app.jar" }]⟩

def jarsInOrder : List Command := testOfJar [["e.jar", "a.jar"], ["d.jar"]]

def jarsReordered : List Command := testOfJar [["d.jar", "d.jar"], ["a.jar", "e.jar", "c.jar"]]

/-- A named test of a library with an output, without libraries of its own, has a report. -/
theorem exists_report {name tested : String} {output : LibraryId} (hc : w.configuration? id = some c)
    (h : (c.packageName.outcome.1, c.testedPackageName.outcome.1, c.variant.flat, c.tested?.map (·.variant.role)) =
      (.ok name, .ok (some tested), [], some (.library (some output)))) :
    ∃ r, (c.describe g).outcome.1 = .ok r := by
  simp only [Prod.mk.injEq] at h
  obtain ⟨hname, htested, hflat, hrole⟩ := h
  refine (describe_ok_iff hc).mpr ⟨⟨name, hname⟩, ?_, ?_, ⟨_, htested⟩⟩
  · rw [hflat]
    intro l hl
    cases hl
  · rintro ⟨t, ht, hr⟩
    rw [ht, Option.map_some, hr] at hrole
    cases hrole

theorem run_compiledAgainst_in_two_orders :
    ∃ c c' r r', (run { libraries := oneJar } jarsInOrder).configuration? 1 = some c ∧
      (run { libraries := oneJar } jarsReordered).configuration? 1 = some c' ∧
      (c.describe oneJar).outcome.1 = .ok r ∧ (c'.describe oneJar).outcome.1 = .ok r' ∧
      "app.jar" ∈ r.compileClasspath ∧ r.compileClasspath.Pairwise (· < ·) ∧
      (∃ paths : List Path, paths.Nodup ∧ paths.map Path.text = r.compileClasspath) ∧
      r.compileClasspath = r'.compileClasspath := by
  have hfacts : ((run { libraries := oneJar } jarsInOrder).configuration? 1).map (fun c =>
      (c.compileClasspath oneJar, c.packageName.outcome.1, c.testedPackageName.outcome.1, c.variant.flat,
        c.tested?.map (·.variant.role))) =
      some (.ok (["c.jar", "e.jar", "a.jar", "d.jar", "app.jar", "b.jar", "a.jar"].map Path.ofString),
        .ok "com.app.test", .ok (some "com.app.test"), [], some (.library (some 0))) := by
    cbv
  have hfacts' : ((run { libraries := oneJar } jarsReordered).configuration? 1).map (fun c =>
      (c.compileClasspath oneJar, c.packageName.outcome.1, c.testedPackageName.outcome.1, c.variant.flat,
        c.tested?.map (·.variant.role))) =
      some (.ok (["c.jar", "d.jar", "d.jar", "a.jar", "e.jar", "c.jar", "app.jar", "b.jar", "a.jar"].map Path.ofString),
        .ok "com.app.test", .ok (some "com.app.test"), [], some (.library (some 0))) := by
    cbv
  obtain ⟨v, hv⟩ := Option.isSome_iff_exists.mp
    (show ((run { libraries := oneJar } jarsInOrder).variant? 1).isSome by cbv)
  obtain ⟨c, hc, rfl, _, hmem, hreport, hsame⟩ := run_compiledAgainst oneJar jarsInOrder 1 v hv
  obtain ⟨c', hc', heq'⟩ := Option.map_eq_some_iff.mp hfacts'
  rw [hc, Option.map_some, Option.some.injEq, Prod.mk.injEq] at hfacts
  rw [Prod.mk.injEq] at heq'
  obtain ⟨hclasspath, hneeds⟩ := hfacts
  obtain ⟨hclasspath', hneeds'⟩ := heq'
  obtain ⟨r, hr⟩ := exists_report hc hneeds
  obtain ⟨r', hr'⟩ := exists_report hc' hneeds'
  obtain ⟨hrising, htexts, hpaths⟩ := hreport r hr
  refine ⟨c, c', r, r', hc, hc', hr, hr', ?_, hrising, ?_, hsame _ _ _ c' hc' ?_ r r' hr hr'⟩
  · have happ : Path.ofString "app.jar" ∈
        ["c.jar", "e.jar", "a.jar", "d.jar", "app.jar", "b.jar", "a.jar"].map Path.ofString := by
      simp
    exact (htexts _).mpr ⟨_, (hmem _ hclasspath _).mp happ, by cbv⟩
  · obtain ⟨paths, hnodup, _, hmap⟩ := hpaths fun p hp => by
      obtain ⟨s, _, rfl⟩ := List.mem_map.mp ((hmem _ hclasspath p).mpr hp)
      exact Path.isNormal_ofString s
    exact ⟨paths, hnodup, hmap⟩
  · intro p
    rw [← hmem _ hclasspath, ← run_mem_compileClasspath hc' hclasspath']
    constructor
    · apply List.map_subset
      decide
    · apply List.map_subset
      decide

end World

end BuildVariants
