import BuildVariants.Proofs.Configurations

/-!
# The flattened libraries of a variant

They are computed by the call that sets the libraries of the variant, and kept until the next such
call. A test also flattens what the tested library lends at that time, and is not told when it lends
something else later: so they are up to date as long as it lends the same
(`run_upToDate_until_lent_otherwise`). A call that fails leaves the variant as it was, but for the
declared libraries, which are taken over before they are flattened (`perform_error_keeps_all_but_direct`).

In the order of a test, the libraries of the tested library come last and as they stand there
(`test_flat_ends_with_tested`).
-/

namespace BuildVariants

open Relation (TransGen)

namespace Variant

variable {g : LibraryGraph} {v : Variant} {tested : Option Variant}

/-- Either the tested library has no output, or a cycle is reached. -/
theorem flattened_error {fault : StructuralFault} (h : v.flattened g tested = .error fault) :
    (fault = .testedWithoutOutput ∧ ∃ t, tested = some t ∧ t.role = .library none) ∨
      ∃ full l, v.fullDirect tested = .ok full ∧ fault = .libraryCycle (g.name l) ∧
        Reached g.dependencies full l ∧ TransGen (DependsOn g.dependencies) l l := by
  unfold flattened at h
  cases hfull : v.fullDirect tested with
  | error e =>
    rw [hfull] at h
    cases h
    cases tested with
    | none => cases hfull
    | some t =>
      unfold fullDirect at hfull
      simp only at hfull
      split at hfull
      · rename_i hr
        cases hfull
        exact .inl ⟨rfl, t, rfl, hr⟩
      · cases hfull
      · cases hfull
  | ok full =>
    simp only [hfull] at h
    cases hflat : g.flatten full with
    | error l =>
      simp only [hflat] at h
      cases h
      exact .inr ⟨full, l, rfl, rfl, LibraryGraph.flatten_error hflat⟩
    | ok order =>
      simp only [hflat] at h
      cases h

theorem setLibraries_error {direct : List LibraryId} {fault : StructuralFault}
    (h : (v.setLibraries g tested direct).2 = .error fault) :
    (v.setLibraries g tested direct).1 = { v with direct := direct } ∧
      flattened g { v with direct := direct } tested = .error fault := by
  unfold setLibraries at *
  dsimp only at *
  cases hf : flattened g { v with direct := direct } tested with
  | error e =>
    rw [hf] at h
    cases h
    exact ⟨rfl, rfl⟩
  | ok order =>
    rw [hf] at h
    cases h

theorem setOutput_error {output : LibraryId} {fault : StructuralFault}
    (h : v.setOutput output = .error fault) :
    v.kind ≠ .library ∧ fault = .outputOutsideLibrary v.kind := by
  unfold setOutput at h
  unfold kind
  cases hr : v.role with
  | library o =>
    rw [hr] at h
    cases h
  | default =>
    rw [hr] at h
    cases h
    exact ⟨nofun, rfl⟩
  | test t =>
    rw [hr] at h
    cases h
    exact ⟨nofun, rfl⟩

end Variant

/-- The flattened libraries are those that the full direct ones give now. -/
def Configuration.UpToDate (g : LibraryGraph) (c : Configuration) : Prop :=
  ∃ full, c.fullDirect = .ok full ∧ g.flatten full = .ok c.variant.flat

namespace World

variable {w : World} {id : VariantId} {v : Variant} {direct : List LibraryId}

/-- A library with an output, and a test of it. -/
def libraryAndTest : List Command :=
  [.createPlain .library none, .createPlain .test (some 0), .setOutput 0 0]

/-! ## Calls that fail -/

/-- The ways a command fails, with the world that it leaves. -/
inductive Failed (w : World) : Command → Fault → World → Prop
  | create {workingDirectory : Path} {isFile : Path → Bool} {plan : Variant.Plan} {fault : Fault} :
    Variant.create workingDirectory isFile plan = .error fault →
    Failed w (.create workingDirectory isFile plan) fault w
  | setOutput {id : VariantId} {v : Variant} {output : LibraryId} : w.variant? id = some v →
    v.kind ≠ .library → Failed w (.setOutput id output) (.structural (.outputOutsideLibrary v.kind)) w
  | setLibraries {id : VariantId} {v : Variant} {direct : List LibraryId} {fault : StructuralFault} :
    w.variant? id = some v →
    Variant.flattened w.libraries { v with direct := direct } (v.tested.bind w.variant?) = .error fault →
    Failed w (.setLibraries id direct) (.structural fault) (w.replace id { v with direct := direct })

theorem failed {c : Command} {fault : Fault} (h : (w.perform c).2 = .error fault) :
    w.Failed c fault (w.perform c).1 := by
  cases c with
  | create workingDirectory isFile plan =>
    simp only [perform] at h ⊢
    cases hv : Variant.create workingDirectory isFile plan with
    | error e =>
      simp only [hv] at h
      cases h
      exact .create hv
    | ok v =>
      simp only [hv] at h
      split at h
      · cases h
      · split at h <;> cases h
  | addFlavor id flavor sources =>
    simp only [perform] at h
    split at h <;> cases h
  | setJars id jars =>
    simp only [perform] at h
    split at h <;> cases h
  | setOutput id output =>
    simp only [perform] at h ⊢
    cases hv : w.variant? id with
    | none =>
      simp only [hv] at h
      cases h
    | some v =>
      simp only [hv] at h ⊢
      cases hu : v.setOutput output with
      | ok u =>
        simp only [hu] at h
        cases h
      | error e =>
        simp only [hu] at h
        cases h
        obtain ⟨hkind, rfl⟩ := Variant.setOutput_error hu
        exact .setOutput hv hkind
  | setLibraries id direct =>
    simp only [perform] at h ⊢
    cases hv : w.variant? id with
    | none =>
      simp only [hv] at h
      cases h
    | some v =>
      simp only [hv] at h ⊢
      cases hr : (v.setLibraries w.libraries (v.tested.bind w.variant?) direct).2 with
      | ok =>
        rw [hr] at h
        cases h
      | error e =>
        rw [hr] at h
        cases h
        obtain ⟨heq, hflattened⟩ := Variant.setLibraries_error hr
        rw [heq]
        exact .setLibraries hv hflattened

/-- A command that fails changes nothing, except that the libraries a variant was to declare are
declared. -/
theorem perform_error_keeps_all_but_direct (w : World) (c : Command) (fault : Fault)
    (h : (w.perform c).2 = .error fault) :
    ((∀ id direct, c ≠ .setLibraries id direct) → (w.perform c).1 = w) ∧
    (∀ id output, c = .setOutput id output → ∃ v, w.variant? id = some v ∧ v.kind ≠ .library ∧
      fault = .structural (.outputOutsideLibrary v.kind)) ∧
    ∀ id direct, c = .setLibraries id direct → ∃ v, w.variant? id = some v ∧
      (w.perform c).1 = w.replace id { v with direct := direct } ∧
      ((w.perform c).1.variant? id = some v ↔ direct = v.direct) ∧
      ((fault = .structural .testedWithoutOutput ∧
          ∃ t, v.tested.bind w.variant? = some t ∧ t.role = .library none) ∨
        ∃ full l, Variant.fullDirect { v with direct := direct } (v.tested.bind w.variant?) = .ok full ∧
          fault = .structural (.libraryCycle (w.libraries.name l)) ∧
          Reached w.libraries.dependencies full l ∧
          TransGen (DependsOn w.libraries.dependencies) l l) := by
  have hfailed := failed h
  generalize (w.perform c).1 = w' at hfailed
  cases hfailed with
  | create => exact ⟨fun _ => rfl, nofun, nofun⟩
  | @setOutput id v output hv hkind =>
    refine ⟨fun _ => rfl, fun j o hc => ?_, nofun⟩
    cases hc
    exact ⟨v, hv, hkind, rfl⟩
  | @setLibraries id v direct fault hv hflattened =>
    refine ⟨fun hc => absurd rfl (hc id direct), nofun, fun j d hc => ?_⟩
    cases hc
    refine ⟨v, hv, rfl, ?_, ?_⟩
    · rw [variant?_replace_self hv, Option.some.injEq]
      constructor
      · intro hsame
        rw [← hsame]
      · rintro rfl
        rfl
    · rcases Variant.flattened_error hflattened with ⟨rfl, htested⟩ | ⟨full, l, hfull, rfl, hcycle⟩
      · exact .inl ⟨rfl, htested⟩
      · exact .inr ⟨full, l, hfull, rfl, hcycle⟩

/-- A library without an output, and a test of it. -/
def testWithoutOutput : World := run { libraries := .ofDependencies [[]] } (libraryAndTest.take 2)

theorem perform_error_keeps_all_but_direct_without_output :
    (testWithoutOutput.perform (.setLibraries 1 [0])).2 = .error (.structural .testedWithoutOutput) ∧
      ∃ v, testWithoutOutput.variant? 1 = some v ∧
        (testWithoutOutput.perform (.setLibraries 1 [0])).1 = testWithoutOutput.replace 1 { v with direct := [0] } := by
  have h : (testWithoutOutput.perform (.setLibraries 1 [0])).2 = .error (.structural .testedWithoutOutput) := by
    cbv
  obtain ⟨v, hv, heq, _⟩ := (perform_error_keeps_all_but_direct _ _ _ h).2.2 1 [0] rfl
  exact ⟨h, v, hv, heq⟩

/-- A variant with a library, next to one that depends on itself. -/
def besideCycle : World :=
  run { libraries := .ofDependencies [[], [1]] } [.createPlain .default none, .setLibraries 0 [0]]

/-- The cycle is declared by the call that fails, and the flattened libraries are the former. -/
theorem perform_error_declares_cycle :
    (besideCycle.perform (.setLibraries 0 [1])).2 = .error (.structural (.libraryCycle "")) ∧
      (besideCycle.variant? 0).map (fun v => (v.direct, v.flat)) = some ([0], [0]) ∧
      ((besideCycle.perform (.setLibraries 0 [1])).1.variant? 0).map (fun v => (v.direct, v.flat)) =
        some ([1], [0]) := by
  refine ⟨?_, ?_, ?_⟩ <;> cbv

/-! ## Calls that set libraries -/

theorem perform_setLibraries_ok (hv : w.variant? id = some v)
    (h : (w.perform (.setLibraries id direct)).2 = .ok ()) :
    ∃ full order, Variant.fullDirect { v with direct := direct } (v.tested.bind w.variant?) = .ok full ∧
      w.libraries.flatten full = .ok order ∧
      (w.perform (.setLibraries id direct)).1 = w.replace id { v with direct := direct, flat := order } := by
  simp only [perform, hv] at h ⊢
  have houtcome := Variant.setLibraries_outcome w.libraries v (v.tested.bind w.variant?) direct
  generalize v.setLibraries w.libraries (v.tested.bind w.variant?) direct = r at h houtcome
  cases houtcome with
  | ok hfull hflat => exact ⟨_, _, hfull, hflat, rfl⟩
  | error => cases h

theorem upToDate_of_setLibraries (hw : w.Sound) (hv : w.variant? id = some v)
    (h : (w.perform (.setLibraries id direct)).2 = .ok ()) :
    ∃ c, (w.perform (.setLibraries id direct)).1.configuration? id = some c ∧ c.UpToDate w.libraries := by
  obtain ⟨full, order, hfull, hflat, heq⟩ := perform_setLibraries_ok hv h
  obtain ⟨c, hc, hcv⟩ := (hw.perform (.setLibraries id direct)).exists_configuration
    (v := { v with direct := direct, flat := order }) (by rw [heq, variant?_replace_self hv])
  refine ⟨c, hc, full, ?_, by rw [hcv, hflat]⟩
  rw [(configuredAs hc).fullDirect, hcv, ← hfull]
  -- the call does not touch the variant that is tested
  show Variant.fullDirect _ (v.tested.bind _) = _
  cases ht : v.tested with
  | none => rfl
  | some t =>
    have hne : t ≠ id := Nat.ne_of_lt (hw.tested_lt _ _ _ hv ht)
    rw [Option.bind_some, Option.bind_some, heq, variant?_replace_of_ne hne]
    rfl

/-! ## What later commands keep -/

theorem Changed.kind {c : Command} {u : Variant} (h : w.Changed id v c u) : u.kind = v.kind := by
  cases h with
  | addFlavor => rfl
  | setLibraries =>
    unfold Variant.kind
    rw [(Variant.setLibraries_outcome ..).role]
  | setJars => rfl
  | setOutput hu =>
    obtain ⟨⟨o, hr⟩, rfl⟩ := Variant.setOutput_ok hu
    unfold Variant.kind
    rw [hr]
    rfl

theorem survives_without_setLibraries {commands : List Command} (h : ∀ d, .setLibraries id d ∉ commands)
    (hv : w.variant? id = some v) :
    ∃ u, (w.run commands).variant? id = some u ∧ u.direct = v.direct ∧ u.flat = v.flat ∧
      u.tested = v.tested := by
  refine survives_run (p := fun u => u.direct = v.direct ∧ u.flat = v.flat ∧ u.tested = v.tested)
    (fun c hc w x u hchanged hx => ?_) hv ⟨rfl, rfl, rfl⟩
  have htested := hchanged.tested
  cases hchanged with
  | addFlavor => exact hx
  | setLibraries => exact absurd hc (h _)
  | setJars => exact hx
  | setOutput hu =>
    obtain ⟨_, rfl⟩ := Variant.setOutput_ok hu
    exact ⟨hx.1, hx.2.1, htested.trans hx.2.2⟩

/-- A library lends the same until its output or its libraries are set; any other variant always. -/
theorem lends_same {commands : List Command}
    (h : v.kind = .library → (∀ o, .setOutput id o ∉ commands) ∧ ∀ d, .setLibraries id d ∉ commands)
    (hv : w.variant? id = some v) : ∃ u, (w.run commands).variant? id = some u ∧ u.lends = v.lends := by
  obtain ⟨u, hu, _, hlends⟩ := survives_run (p := fun u => u.kind = v.kind ∧ u.lends = v.lends)
    (fun c hc w x u hchanged hx => by
      have hkind := hchanged.kind.trans hx.1
      refine ⟨hkind, ?_⟩
      by_cases hlibrary : v.kind = .library
      · cases hchanged with
        | addFlavor => exact hx.2
        | setLibraries => exact absurd hc ((h hlibrary).2 _)
        | setJars => exact hx.2
        | setOutput => exact absurd hc ((h hlibrary).1 _)
      · rw [Variant.lends_of_kind_ne hlibrary, Variant.lends_of_kind_ne (hkind ▸ hlibrary)]) hv ⟨rfl, rfl⟩
  exact ⟨u, hu, hlends⟩

/-! ## Up to date -/

/-- None of the commands fails. -/
def Succeeds (w : World) : List Command → Prop
  | [] => True
  | c :: rest => (w.perform c).2 = .ok () ∧ Succeeds (w.perform c).1 rest

theorem Succeeds.at {before after : List Command} {c : Command} (h : w.Succeeds (before ++ c :: after)) :
    ((w.run before).perform c).2 = .ok () := by
  induction before generalizing w with
  | nil => exact h.1
  | cons b before ih => exact ih h.2

/-- The libraries of the variant are not set again, so its full direct libraries can only change with
what the tested variant lends. -/
theorem configuration_after {c : Configuration} {commands : List Command} (hw : w.Sound)
    (hc : w.configuration? id = some c) (hlast : ∀ d, .setLibraries id d ∉ commands) :
    ∃ later, (w.run commands).configuration? id = some later ∧
      later.variant.flat = c.variant.flat ∧
      ((∀ t below, c.variant.tested = some t → c.tested? = some below → below.variant.kind = .library →
        (∀ o, .setOutput t o ∉ commands) ∧ ∀ d, .setLibraries t d ∉ commands) →
        later.fullDirect = c.fullDirect) := by
  obtain ⟨u, hu, hdirect, hflat, htested⟩ := survives_without_setLibraries hlast (configuredAs hc).variant
  obtain ⟨later, hlater, rfl⟩ := (hw.run commands).exists_configuration hu
  refine ⟨later, hlater, hflat, fun hlent => ?_⟩
  rw [(configuredAs hlater).fullDirect, (configuredAs hc).fullDirect, htested]
  cases configuredAs hc with
  | @plain v _ ht =>
    show later.variant.fullDirect (v.tested.bind _) = v.fullDirect (v.tested.bind _)
    rw [ht, Option.bind_none, Option.bind_none, Variant.fullDirect, Variant.fullDirect, hdirect]
    rfl
  | @testOf v t below _ ht _ hbelow =>
    have hx := (configuredAs hbelow).variant
    obtain ⟨y, hy, hlends⟩ := lends_same (hlent t below ht rfl) hx
    show later.variant.fullDirect (v.tested.bind _) = v.fullDirect (v.tested.bind _)
    rw [ht, Option.bind_some, Option.bind_some, hx, hy, Variant.fullDirect_some, Variant.fullDirect_some,
      hlends, hdirect]
    rfl

/-- What a test takes from the variant that it tests is the only thing that can make its flattened
libraries out of date. -/
theorem run_upToDate_until_lent_otherwise (g : LibraryGraph) (before after : List Command)
    (id : VariantId) (direct : List LibraryId)
    (hrun : Succeeds { libraries := g } (before ++ .setLibraries id direct :: after))
    (hid : ((run { libraries := g } before).variant? id).isSome)
    (hlast : ∀ d, .setLibraries id d ∉ after) :
    ∃ c later, (run { libraries := g } (before ++ [.setLibraries id direct])).configuration? id = some c ∧
      (run { libraries := g } (before ++ .setLibraries id direct :: after)).configuration? id = some later ∧
      c.UpToDate g ∧ later.variant.flat = c.variant.flat ∧
      (later.fullDirect = c.fullDirect → later.UpToDate g) ∧
      ((∀ t below, c.variant.tested = some t → c.tested? = some below → below.variant.kind = .library →
        (∀ o, .setOutput t o ∉ after) ∧ ∀ d, .setLibraries t d ∉ after) → later.UpToDate g) := by
  have hsound := (sound_start g).run before
  obtain ⟨v, hv⟩ := Option.isSome_iff_exists.mp hid
  obtain ⟨c, hc, hup⟩ := upToDate_of_setLibraries hsound hv hrun.at
  rw [run_libraries] at hup
  rw [← run_concat] at hc
  obtain ⟨later, hlater, hflat, hfull⟩ := configuration_after ((sound_start g).run _) hc hlast
  have hsame : later.fullDirect = c.fullDirect → later.UpToDate g := by
    obtain ⟨full, hcfull, horder⟩ := hup
    intro h
    exact ⟨full, by rw [h, hcfull], by rw [hflat, horder]⟩
  refine ⟨c, later, hc, ?_, hup, hflat, hsame, fun hlent => hsame (hfull hlent)⟩
  rw [← List.singleton_append, ← List.append_assoc, run_append]
  exact hlater

theorem run_upToDate_until_lent_otherwise_set_twice :
    Succeeds { libraries := .ofDependencies [[3], [3], [], []] }
        ((libraryAndTest ++ [Command.setLibraries 1 [2]]) ++
          Command.setLibraries 1 [1] :: [Command.setJars 0 [], Command.setJars 1 []]) ∧
      ∃ c, (run { libraries := .ofDependencies [[3], [3], [], []] }
          ((libraryAndTest ++ [Command.setLibraries 1 [2]]) ++
            Command.setLibraries 1 [1] :: [Command.setJars 0 [], Command.setJars 1 []])).configuration? 1 = some c ∧
        c.UpToDate (.ofDependencies [[3], [3], [], []]) := by
  have hrun : Succeeds { libraries := .ofDependencies [[3], [3], [], []] }
      ((libraryAndTest ++ [Command.setLibraries 1 [2]]) ++
        Command.setLibraries 1 [1] :: [Command.setJars 0 [], Command.setJars 1 []]) := by
    refine ⟨?_, ?_, ?_, ?_, ?_, ?_, ?_, trivial⟩ <;> cbv
  obtain ⟨_, c, _, hc, _, _, _, hup⟩ :=
    run_upToDate_until_lent_otherwise _ _ _ 1 [1] hrun (by cbv) (by simp)
  exact ⟨hrun, c, hc, hup (by simp)⟩

/-- The tested library declares `2` when its test has been flattened. -/
def testedDeclaresMore : List Command := libraryAndTest ++ [.setLibraries 1 [1], .setLibraries 0 [2]]

theorem run_outdated_when_tested_declares_more :
    Succeeds { libraries := .ofDependencies [[], [], []] } testedDeclaresMore ∧
      ∃ c, (run { libraries := .ofDependencies [[], [], []] } testedDeclaresMore).configuration? 1 = some c ∧
        c.variant.flat = [1, 0] ∧ c.fullDirect = .ok [1, 0, 2] ∧
        LibraryGraph.flatten (.ofDependencies [[], [], []]) [1, 0, 2] = .ok [1, 0, 2] ∧
        ¬ c.UpToDate (.ofDependencies [[], [], []]) := by
  have hconfiguration : ((run { libraries := .ofDependencies [[], [], []] } testedDeclaresMore).configuration?
      1).map (fun c => (c.variant.flat, c.fullDirect)) = some ([1, 0], .ok [1, 0, 2]) := by
    cbv
  have horder : LibraryGraph.flatten (.ofDependencies [[], [], []]) [1, 0, 2] = .ok [1, 0, 2] := by cbv
  obtain ⟨c, hc, heq⟩ := Option.map_eq_some_iff.mp hconfiguration
  rw [Prod.mk.injEq] at heq
  refine ⟨?_, c, hc, heq.1, heq.2, horder, ?_⟩
  · refine ⟨?_, ?_, ?_, ?_, ?_, trivial⟩ <;> cbv
  · rintro ⟨full, hfull, hflat⟩
    rw [heq.2] at hfull
    cases hfull
    rw [heq.1, horder] at hflat
    cases hflat

/-! ## The libraries of a test of a library -/

/-- Those of the tested library stay in their order behind all others. -/
theorem test_flat_ends_with_tested (w : World) (test library : VariantId) (t l : Variant)
    (output : LibraryId) (own : List LibraryId) (ht : w.variant? test = some t)
    (hl : w.variant? library = some l) (htested : t.tested = some library)
    (hrole : l.role = .library (some output)) (hflat : w.libraries.flatten l.direct = .ok l.flat)
    (hset : (w.perform (.setLibraries test own)).2 = .ok ()) :
    ∃ u front, (w.perform (.setLibraries test own)).1.variant? test = some u ∧
      (w.perform (.setLibraries test own)).1.variant? library = some l ∧
      u.flat = front ++ l.flat ∧
      (∀ a, a ∈ front ↔ (Reached w.libraries.dependencies own a ∨
        Reached w.libraries.dependencies [output] a) ∧ a ∉ l.flat) ∧
      u.flat.Nodup := by
  obtain ⟨full, order, hfull, horder, heq⟩ := perform_setLibraries_ok ht hset
  have hne : library ≠ test := by
    rintro rfl
    rw [ht] at hl
    cases hl
    rw [Variant.tested, hrole] at htested
    cases htested
  have hfull' : full = (own ++ [output]) ++ l.direct := by
    rw [htested, Option.bind_some, hl, Variant.fullDirect_some, Variant.lends, hrole] at hfull
    cases hfull
    rw [List.append_assoc]
    rfl
  obtain ⟨front, hfront, rfl⟩ := LibraryGraph.exists_inFrontOf (hfull' ▸ horder) hflat
  refine ⟨_, front.filter (· ∉ l.flat), by rw [heq, variant?_replace_self ht],
    by rw [heq, variant?_replace_of_ne hne, hl], rfl, fun a => ?_, (LibraryGraph.flatten_ok horder).1⟩
  rw [List.mem_filter, (LibraryGraph.flatten_ok hfront).2.2, reached_append, decide_eq_true_iff]

/-- A library that declares `2`, and a test of it. Every library depends on `3`. -/
def testOfSharing : World :=
  run { libraries := .ofDependencies [[3], [3], [3], []] } (libraryAndTest ++ [.setLibraries 0 [2]])

theorem test_flat_ends_with_tested_sharing :
    (testOfSharing.perform (.setLibraries 1 [1, 2])).2 = .ok () ∧
      ∃ u front, (testOfSharing.perform (.setLibraries 1 [1, 2])).1.variant? 1 = some u ∧
        u.flat = front ++ [2, 3] ∧ 1 ∈ front ∧ 3 ∉ front ∧ u.flat.Nodup := by
  have hset : (testOfSharing.perform (.setLibraries 1 [1, 2])).2 = .ok () := by cbv
  have htest : (testOfSharing.variant? 1).map (·.tested) = some (some 0) := by cbv
  have hlibrary : (testOfSharing.variant? 0).map (fun l => (l.role, l.direct, l.flat)) =
      some (.library (some 0), [2], [2, 3]) := by
    cbv
  obtain ⟨t, ht, htested⟩ := Option.map_eq_some_iff.mp htest
  obtain ⟨l, hl, heq⟩ := Option.map_eq_some_iff.mp hlibrary
  simp only [Prod.mk.injEq] at heq
  obtain ⟨hrole, hdirect, hflat⟩ := heq
  have horder : testOfSharing.libraries.flatten l.direct = .ok l.flat := by
    rw [hdirect, hflat]
    cbv
  obtain ⟨u, front, hu, _, hends, hmem, hnodup⟩ :=
    test_flat_ends_with_tested testOfSharing 1 0 t l 0 [1, 2] ht hl htested hrole horder hset
  rw [hflat] at hends hmem
  refine ⟨hset, u, front, hu, hends, ?_, ?_, hnodup⟩
  · exact (hmem 1).mpr ⟨.inl (reached_of_mem (by simp)), by simp⟩
  · exact fun h => ((hmem 3).mp h).2 (by simp)

end World

end BuildVariants
