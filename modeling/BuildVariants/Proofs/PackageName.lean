import BuildVariants.Manifest
import BuildVariants.Proofs.Configurations
import BuildVariants.Variant.Package

/-!
# Package names along a chain of tests

The nearest test that names a package of its own gives the name; if none does, the variant at the end
gives it, from what flavors and build type say or from its main manifest. Every test in between adds
its suffix (`run_packageName`). The manifest is read at most once, and not at all where the name is
given. A manifest that is needed and declares no package, or cannot be read, fails the lookup, in the
second case with whatever its reader fails with.
-/

namespace BuildVariants

/-! ## Settings -/

namespace Setting

variable {α : Type} [Blankable α] {s : Setting α}

theorem eq_some_of_given? {a : α} (h : s.given? = some a) : s = some a := by
  unfold given? at h
  split at h
  · exact h
  · cases h

theorem given?_eq_none_iff : s.given? = none ↔ s.isSet = false := by
  unfold given?
  cases h : s.isSet with
  | false => simp
  | true =>
    cases s with
    | none => cases h
    | some a => simp

theorem isSet_of_given? {a : α} (h : s.given? = some a) : s.isSet = true := by
  by_contra hopen
  rw [Bool.not_eq_true] at hopen
  rw [given?_eq_none_iff.mpr hopen] at h
  cases h

theorem given?_text_eq_none_iff {s : Setting String} : s.given? = none ↔ s = none ∨ s = some "" := by
  rw [given?_eq_none_iff]
  cases s with
  | none => simp [isSet]
  | some a => simp [isSet, Blankable.isBlank]

theorem ne_empty_of_given? {s : Setting String} {a : String} (h : s.given? = some a) : a ≠ "" := by
  rintro rfl
  rw [given?_text_eq_none_iff.mpr (.inr (eq_some_of_given? h))] at h
  cases h

end Setting

/-! ## Suffixes -/

theorem composePackageName_of_open {suffix : Setting String} (h : suffix.given? = none) (base : String) :
    composePackageName base suffix = base := by
  rcases Setting.given?_text_eq_none_iff.mp h with rfl | rfl
  · rfl
  · rfl

theorem composePackageName_ne_empty {base : String} (h : base ≠ "") (suffix : Option String) :
    composePackageName base suffix ≠ "" := by
  unfold composePackageName
  split
  · exact h
  · split
    · exact h
    · simp [h]
    · simp [h]

/-- The suffix of that many tests, one upon the other. -/
def testSuffix (tests : Nat) : String := String.join (List.replicate tests ".test")

theorem testSuffix_succ (base : String) (tests : Nat) :
    base ++ testSuffix (tests + 1) = base ++ testSuffix tests ++ ".test" := by
  rw [testSuffix, List.replicate_succ', String.join, List.foldl_append, String.append_assoc]
  rfl

/-! ## Lookups -/

namespace Lookup

variable {α β : Type} {l : Lookup α} {f : α → Lookup β} {reads more : List Path}

/-- Whatever was read before, this is the result and these manifests are read. -/
def Gives (l : Lookup α) (result : Except Fault α) (reads : List Path) : Prop :=
  ∀ before, l.run.run before = (result, before ++ reads)

theorem Gives.outcome {result : Except Fault α} (h : l.Gives result reads) : l.outcome = (result, reads) :=
  h []

theorem gives_pure (a : α) : Gives (pure a) (.ok a) [] := fun before => by
  rw [List.append_nil]
  rfl

theorem gives_throw (fault : Fault) : Gives (throw fault : Lookup α) (.error fault) [] := fun before => by
  rw [List.append_nil]
  rfl

theorem gives_ask (reader : ManifestReader) (manifest : Path) :
    Gives (ask reader manifest) ((reader manifest).map Setting.given?) [manifest] := fun before => by
  unfold ask
  cases h : reader manifest with
  | ok package => rfl
  | error fault => rfl

theorem Gives.bind {a : α} {result : Except Fault β} (hl : l.Gives (.ok a) reads)
    (hf : (f a).Gives result more) : (l >>= f).Gives result (reads ++ more) := fun before => by
  simp only [ExceptT.run_bind, StateT.run_bind, hl before]
  rw [← List.append_assoc]
  exact hf (before ++ reads)

theorem Gives.bind_error {fault : Fault} (hl : l.Gives (.error fault) reads) :
    (l >>= f).Gives (.error fault) reads := fun before => by
  simp only [ExceptT.run_bind, StateT.run_bind, hl before]
  rfl

theorem Gives.map {result : Except Fault α} (hl : l.Gives result reads) (g : α → β) :
    Gives (do return g (← l)) (result.map g) reads := by
  cases result with
  | ok a =>
    rw [← List.append_nil reads]
    exact hl.bind (gives_pure (g a))
  | error fault => exact hl.bind_error

end Lookup

/-! ## Manifests with and without a package -/

namespace ManifestReader

/-- The manifest can be read and declares that package. -/
def Declares (reader : ManifestReader) (manifest : Path) (package : String) : Prop :=
  reader manifest = .ok (some package) ∧ package ≠ ""

/-- The manifest cannot be read, and its reader says why, or it is read and declares no package, and the report
says so. -/
def Withholds (reader : ManifestReader) (manifest : Path) (report : PackageFault) (fault : Fault) : Prop :=
  reader manifest = .error fault ∨
    (reader manifest = .ok none ∨ reader manifest = .ok (some "")) ∧ fault = .package report

/-- The package that the manifest declares, or that report if it is read and declares none. -/
def package (reader : ManifestReader) (manifest : Path) (report : PackageFault) : Except Fault String :=
  match reader manifest with
  | .error fault => .error fault
  | .ok package =>
    match Setting.given? package with
    | some p => .ok p
    | none => .error (.package report)

variable {reader : ManifestReader} {manifest : Path} {report : PackageFault}

theorem package_eq_ok_iff {p : String} : reader.package manifest report = .ok p ↔ reader.Declares manifest p := by
  unfold package Declares
  cases reader manifest with
  | error fault => simp
  | ok package =>
    cases hgiven : Setting.given? package with
    | none => rcases Setting.given?_text_eq_none_iff.mp hgiven with rfl | rfl <;> simp [hgiven, eq_comm]
    | some q =>
      obtain rfl := Setting.eq_some_of_given? hgiven
      have hq : q ≠ "" := Setting.ne_empty_of_given? hgiven
      simp only [hgiven, Except.ok.injEq, Option.some.injEq]
      constructor
      · rintro rfl
        exact ⟨rfl, hq⟩
      · exact And.left

theorem package_eq_error_iff {fault : Fault} :
    reader.package manifest report = .error fault ↔ reader.Withholds manifest report fault := by
  unfold package Withholds
  cases reader manifest with
  | error fault => simp
  | ok package =>
    cases hgiven : Setting.given? package with
    | none => rcases Setting.given?_text_eq_none_iff.mp hgiven with rfl | rfl <;> simp [hgiven, eq_comm]
    | some q =>
      obtain rfl := Setting.eq_some_of_given? hgiven
      simp [hgiven, Setting.ne_empty_of_given? hgiven]

theorem declares_iff_not_withholds (report : PackageFault) :
    (∃ p, reader.Declares manifest p) ↔ ¬∃ fault, reader.Withholds manifest report fault := by
  simp only [← @package_eq_ok_iff reader manifest report, ← package_eq_error_iff]
  cases reader.package manifest report <;> simp

end ManifestReader

/-- A manifest in an encoding that nobody knows. -/
def inUnknownEncoding : ByteArray :=
  "<?xml version=\"1.0\" encoding=\"unknown\"?><manifest package=\"com.lib\"/>".toUTF8

theorem reader_of_decode {files : Files} {manifest : Path} {bytes : ByteArray} {f : Xml.EncodingFault}
    (hread : files.read manifest = .ok bytes) (hdecode : (Xml.decode bytes.toList).map (fun _ => ()) = .error f) :
    Manifest.reader files manifest = .error (Manifest.fault manifest f) := by
  unfold Manifest.reader
  rw [hread]
  dsimp only [Manifest.packageOfBytes]
  cases hsource : Xml.decode bytes.toList with
  | error f' =>
    rw [hsource] at hdecode
    cases hdecode
    rfl
  | ok source =>
    rw [hsource] at hdecode
    cases hdecode

theorem reader_inUnknownEncoding {files : Files} {manifest : Path}
    (hread : files.read manifest = .ok inUnknownEncoding) :
    Manifest.reader files manifest = .error (.value .unknownEncoding) := by
  have hdecode : (Xml.decode inUnknownEncoding.toList).map (fun _ => ()) = .error .unknown := by decide +kernel
  exact reader_of_decode hread hdecode

/-- Asks one manifest for a package that it has to declare. -/
theorem Lookup.gives_package (reader : ManifestReader) (manifest : Path) (report : PackageFault) :
    Gives
      (do
        match ← ask reader manifest with
        | some package => pure package
        | none => throw (.package report))
      (reader.package manifest report) [manifest] := by
  have hask := gives_ask reader manifest
  unfold ManifestReader.package
  cases hread : reader manifest with
  | error fault =>
    rw [hread] at hask
    exact hask.bind_error
  | ok package =>
    rw [hread] at hask
    simp only [Except.map] at hask ⊢
    cases hgiven : Setting.given? package with
    | none =>
      rw [hgiven] at hask
      exact hask.bind (gives_throw _)
    | some p =>
      rw [hgiven] at hask
      exact hask.bind (gives_pure p)

/-! ## The end of the chain -/

/-- The package of the main manifest, if it has one. -/
def Variant.declaredPackage (v : Variant) : Except Fault String :=
  v.packageOf.package v.mainSources.manifest (.undeclared v.mainSources.manifest)

namespace Configuration

open Lookup (Gives gives_pure)

variable {c : Configuration} {v : Variant}

theorem gives_packageFromManifest (c : Configuration) :
    c.packageFromManifest.Gives c.variant.declaredPackage [c.variant.mainSources.manifest] :=
  Lookup.gives_package c.variant.packageOf c.variant.mainSources.manifest _

/-! ### Overrides -/

theorem gives_packageOverride_package {p : String} (hp : c.variant.merged.packageName.given? = some p) :
    c.packageOverride.Gives (.ok (some (composePackageName p c.variant.buildType.packageNameSuffix))) [] := by
  unfold packageOverride
  rw [hp]
  cases hs : c.variant.buildType.packageNameSuffix.given? with
  | none =>
    rw [composePackageName_of_open hs]
    exact gives_pure _
  | some suffix =>
    rw [Setting.eq_some_of_given? hs]
    exact gives_pure _

theorem gives_packageOverride_suffix {suffix : String} (hp : c.variant.merged.packageName.given? = none)
    (hs : c.variant.buildType.packageNameSuffix.given? = some suffix) :
    c.packageOverride.Gives
      (c.variant.declaredPackage.map fun p => some (composePackageName p c.variant.buildType.packageNameSuffix))
      [c.variant.mainSources.manifest] := by
  unfold packageOverride
  rw [hp, hs, Setting.eq_some_of_given? hs]
  exact (gives_packageFromManifest c).map fun p => some (composePackageName p (some suffix))

theorem gives_packageOverride_none (hp : c.variant.merged.packageName.given? = none)
    (hs : c.variant.buildType.packageNameSuffix.given? = none) : c.packageOverride.Gives (.ok none) [] := by
  unfold packageOverride
  rw [hp, hs]
  exact gives_pure none

/-! ### The variant at the end -/

theorem gives_packageName_package {p : String} (hp : v.merged.packageName.given? = some p) :
    (plain v).packageName.Gives (.ok (composePackageName p v.buildType.packageNameSuffix)) [] := by
  unfold packageName
  exact (gives_packageOverride_package (c := plain v) hp).bind (gives_pure _)

/-- The manifest is read for the suffix or for the name, and not for both. -/
theorem gives_packageName_manifest (hp : v.merged.packageName.given? = none) :
    (plain v).packageName.Gives
      (v.declaredPackage.map fun p => composePackageName p v.buildType.packageNameSuffix)
      [v.mainSources.manifest] := by
  unfold packageName
  cases hs : v.buildType.packageNameSuffix.given? with
  | none =>
    have hmanifest := gives_packageFromManifest (plain v)
    have hsame : (v.declaredPackage.map fun p => composePackageName p v.buildType.packageNameSuffix) =
        v.declaredPackage := by
      cases v.declaredPackage with
      | error fault => rfl
      | ok p => rw [Except.map, composePackageName_of_open hs]
    rw [hsame]
    exact (gives_packageOverride_none (c := plain v) hp hs).bind hmanifest
  | some suffix =>
    have hoverride := gives_packageOverride_suffix (c := plain v) hp hs
    cases hd : v.declaredPackage with
    | error fault =>
      rw [variant, hd] at hoverride
      exact hoverride.bind_error
    | ok p =>
      rw [variant, hd] at hoverride
      exact hoverride.bind (gives_pure _)

/-! ### The tests -/

theorem gives_packageName_named {name : String} (t : Configuration)
    (h : v.merged.testPackageName.given? = some name) : (testOf v t).packageName.Gives (.ok name) [] := by
  unfold packageName
  rw [h]
  exact gives_pure name

theorem gives_packageName_unnamed {t : Configuration} {result : Except Fault String} {reads : List Path}
    (h : v.merged.testPackageName.given? = none) (ht : t.packageName.Gives result reads) :
    (testOf v t).packageName.Gives (result.map (· ++ ".test")) reads := by
  unfold packageName
  rw [h]
  exact ht.map (· ++ ".test")

/-- The nearest test with a name of its own. -/
theorem gives_packageName_nearest {before after : List Variant} {u : Variant} {name : String}
    (hc : c.tests = before ++ u :: after) (hbefore : ∀ x ∈ before, x.merged.testPackageName.isSet = false)
    (hu : u.merged.testPackageName.given? = some name) :
    c.packageName.Gives (.ok (name ++ testSuffix before.length)) [] := by
  induction before generalizing c with
  | nil =>
    cases c with
    | plain v => cases hc
    | testOf v t =>
      cases hc
      rw [List.length_nil, show name ++ testSuffix 0 = name from String.append_empty]
      exact gives_packageName_named t hu
  | cons x before ih =>
    cases c with
    | plain v => cases hc
    | testOf v t =>
      rw [tests, List.cons_append, List.cons.injEq] at hc
      obtain ⟨rfl, ht⟩ := hc
      have hx := Setting.given?_eq_none_iff.mpr (hbefore v List.mem_cons_self)
      have hrest := ih ht fun y hy => hbefore y (List.mem_cons_of_mem _ hy)
      rw [List.length_cons, testSuffix_succ]
      exact gives_packageName_unnamed hx hrest

/-- No test has a name of its own. -/
theorem gives_packageName_last {result : Except Fault String} {reads : List Path}
    (hc : ∀ x ∈ c.tests, x.merged.testPackageName.isSet = false)
    (hlast : (plain c.last).packageName.Gives result reads) :
    c.packageName.Gives (result.map (· ++ testSuffix c.tests.length)) reads := by
  induction c with
  | plain v =>
    have hsame : result.map (· ++ testSuffix 0) = result := by
      cases result with
      | error fault => rfl
      | ok name => exact congrArg Except.ok String.append_empty
    rw [tests, List.length_nil, hsame]
    exact hlast
  | testOf v t ih =>
    have hv := Setting.given?_eq_none_iff.mpr (hc v List.mem_cons_self)
    have ht := gives_packageName_unnamed hv (ih (fun x hx => hc x (List.mem_cons_of_mem _ hx)) hlast)
    have hsame : (result.map (· ++ testSuffix t.tests.length)).map (· ++ ".test") =
        result.map (· ++ testSuffix (t.tests.length + 1)) := by
      cases result with
      | error fault => rfl
      | ok name => exact congrArg Except.ok (testSuffix_succ name _).symm
    rw [tests, List.length_cons, ← hsame]
    exact ht

/-! ### What comes out -/

theorem nearest_or_unnamed : ∀ vs : List Variant, (∀ x ∈ vs, x.merged.testPackageName.isSet = false) ∨
    ∃ before u after name, vs = before ++ u :: after ∧
      (∀ x ∈ before, x.merged.testPackageName.isSet = false) ∧ u.merged.testPackageName.given? = some name
  | [] => .inl fun x hx => absurd hx List.not_mem_nil
  | v :: vs => by
    cases hv : v.merged.testPackageName.given? with
    | some name => exact .inr ⟨[], v, vs, name, rfl, fun x hx => absurd hx List.not_mem_nil, hv⟩
    | none =>
      rw [Setting.given?_eq_none_iff] at hv
      rcases nearest_or_unnamed vs with hvs | ⟨before, u, after, name, rfl, hbefore, hu⟩
      · exact .inl (List.forall_mem_cons.mpr ⟨hv, hvs⟩)
      · exact .inr ⟨v :: before, u, after, name, rfl, List.forall_mem_cons.mpr ⟨hv, hbefore⟩, hu⟩

/-- Where the package name comes from, and which manifests are read for it. -/
inductive NamedBy (c : Configuration) : Except Fault String × List Path → Prop
  | nearest {before after : List Variant} {u : Variant} {name : String} : c.tests = before ++ u :: after →
    (∀ x ∈ before, x.merged.testPackageName.isSet = false) → u.merged.testPackageName.given? = some name →
    NamedBy c (.ok (name ++ testSuffix before.length), [])
  | package {p : String} : (∀ x ∈ c.tests, x.merged.testPackageName.isSet = false) →
    c.last.merged.packageName.given? = some p →
    NamedBy c (.ok (composePackageName p c.last.buildType.packageNameSuffix ++ testSuffix c.tests.length), [])
  | manifest : (∀ x ∈ c.tests, x.merged.testPackageName.isSet = false) →
    c.last.merged.packageName.isSet = false →
    NamedBy c (c.last.declaredPackage.map fun p =>
      composePackageName p c.last.buildType.packageNameSuffix ++ testSuffix c.tests.length,
      [c.last.mainSources.manifest])

theorem packageName_outcome_package {p : String} (hc : ∀ x ∈ c.tests, x.merged.testPackageName.isSet = false)
    (hp : c.last.merged.packageName.given? = some p) :
    c.packageName.outcome =
      (.ok (composePackageName p c.last.buildType.packageNameSuffix ++ testSuffix c.tests.length), []) :=
  (gives_packageName_last hc (gives_packageName_package hp)).outcome

theorem packageName_outcome_manifest (hc : ∀ x ∈ c.tests, x.merged.testPackageName.isSet = false)
    (hp : c.last.merged.packageName.isSet = false) :
    c.packageName.outcome =
      (c.last.declaredPackage.map fun p =>
        composePackageName p c.last.buildType.packageNameSuffix ++ testSuffix c.tests.length,
        [c.last.mainSources.manifest]) := by
  have hlast := gives_packageName_manifest (Setting.given?_eq_none_iff.mpr hp)
  rw [(gives_packageName_last hc hlast).outcome]
  cases c.last.declaredPackage with
  | error fault => rfl
  | ok p => rfl

theorem namedBy (c : Configuration) : c.NamedBy c.packageName.outcome := by
  rcases nearest_or_unnamed c.tests with hc | ⟨before, u, after, name, htests, hbefore, hu⟩
  · cases hp : c.last.merged.packageName.given? with
    | some p =>
      rw [packageName_outcome_package hc hp]
      exact .package hc hp
    | none =>
      rw [Setting.given?_eq_none_iff] at hp
      rw [packageName_outcome_manifest hc hp]
      exact .manifest hc hp
  · rw [(gives_packageName_nearest htests hbefore hu).outcome]
    exact .nearest htests hbefore hu

theorem packageName_ne_empty {name : String} (h : c.packageName.outcome.1 = .ok name) : name ≠ "" := by
  have hnamed := namedBy c
  generalize c.packageName.outcome = outcome at h hnamed
  cases hnamed with
  | nearest _ _ hu =>
    cases h
    simp [Setting.ne_empty_of_given? hu]
  | package _ hp =>
    cases h
    simp [composePackageName_ne_empty (Setting.ne_empty_of_given? hp)]
  | manifest =>
    cases hd : c.last.declaredPackage with
    | error fault =>
      rw [hd] at h
      cases h
    | ok p =>
      rw [hd] at h
      cases h
      simp [composePackageName_ne_empty (ManifestReader.package_eq_ok_iff.mp hd).2]

theorem packageName_error_iff {fault : Fault} :
    c.packageName.outcome.1 = .error fault ↔
      (∀ x ∈ c.tests, x.merged.testPackageName.isSet = false) ∧ c.last.merged.packageName.isSet = false ∧
        c.last.packageOf.Withholds c.last.mainSources.manifest (.undeclared c.last.mainSources.manifest) fault := by
  rw [← ManifestReader.package_eq_error_iff]
  constructor
  · intro h
    have hnamed := namedBy c
    generalize c.packageName.outcome = outcome at h hnamed
    cases hnamed with
    | nearest => cases h
    | package => cases h
    | manifest hc hp =>
      refine ⟨hc, hp, ?_⟩
      change c.last.declaredPackage = _
      cases hd : c.last.declaredPackage with
      | error f =>
        rw [hd] at h
        exact h
      | ok p =>
        rw [hd] at h
        cases h
  · rintro ⟨hc, hp, hd⟩
    rw [packageName_outcome_manifest hc hp, Variant.declaredPackage, hd]
    rfl

/-- A reader that reports what it cannot read fails the lookup with such a report only. -/
theorem packageName_unresolved_iff
    (h : ∀ fault, c.last.packageOf c.last.mainSources.manifest = .error fault → ∃ report, fault = .package report) :
    (∃ report, c.packageName.outcome.1 = .error (.package report)) ↔
      (∀ x ∈ c.tests, x.merged.testPackageName.isSet = false) ∧ c.last.merged.packageName.isSet = false ∧
        ¬∃ p, c.last.packageOf.Declares c.last.mainSources.manifest p := by
  rw [ManifestReader.declares_iff_not_withholds (.undeclared c.last.mainSources.manifest), not_not]
  constructor
  · rintro ⟨report, hreport⟩
    obtain ⟨hc, hp, hwithheld⟩ := packageName_error_iff.mp hreport
    exact ⟨hc, hp, _, hwithheld⟩
  · rintro ⟨hc, hp, fault, hwithheld⟩
    have hfault := packageName_error_iff.mpr ⟨hc, hp, hwithheld⟩
    rcases hwithheld with hread | ⟨_, rfl⟩
    · obtain ⟨report, rfl⟩ := h fault hread
      exact ⟨report, hfault⟩
    · exact ⟨_, hfault⟩

theorem packageOverride_none_iff (v : Variant) :
    (plain v).packageOverride.outcome.1 = .ok none ↔
      v.merged.packageName.isSet = false ∧ v.buildType.packageNameSuffix.isSet = false := by
  rw [← Setting.given?_eq_none_iff, ← Setting.given?_eq_none_iff]
  cases hp : v.merged.packageName.given? with
  | some p =>
    rw [(gives_packageOverride_package (c := plain v) hp).outcome]
    simp
  | none =>
    cases hs : v.buildType.packageNameSuffix.given? with
    | none =>
      rw [(gives_packageOverride_none (c := plain v) hp hs).outcome]
      simp
    | some suffix =>
      rw [(gives_packageOverride_suffix (c := plain v) hp hs).outcome]
      cases (plain v).variant.declaredPackage <;> simp [Except.map]

theorem packageName_of_packageOverride {name : String}
    (h : (plain v).packageOverride.outcome.1 = .ok (some name)) : (plain v).packageName.outcome.1 = .ok name := by
  cases hp : v.merged.packageName.given? with
  | some p =>
    rw [(gives_packageOverride_package (c := plain v) hp).outcome] at h
    cases h
    rw [(gives_packageName_package hp).outcome]
    rfl
  | none =>
    rw [(gives_packageName_manifest hp).outcome]
    cases hs : v.buildType.packageNameSuffix.given? with
    | none =>
      rw [(gives_packageOverride_none (c := plain v) hp hs).outcome] at h
      cases h
    | some suffix =>
      rw [(gives_packageOverride_suffix (c := plain v) hp hs).outcome] at h
      simp only [variant] at h
      cases hd : v.declaredPackage with
      | error fault =>
        rw [hd] at h
        cases h
      | ok p =>
        rw [hd] at h
        cases h
        rfl

end Configuration

/-! ## In every world -/

namespace World

/-- The variants on the way down are `c.tests`, and at its end stands `c.last`. -/
theorem run_packageName (g : LibraryGraph) (commands : List Command) (id : VariantId) (v : Variant)
    (h : (run { libraries := g } commands).variant? id = some v) :
    ∃ c, (run { libraries := g } commands).configuration? id = some c ∧ c.variant = v ∧
      (run { libraries := g } commands).TestedInTurn id c.tests c.last ∧
      (∀ before u after name, c.tests = before ++ u :: after →
        (∀ x ∈ before, x.merged.testPackageName.isSet = false) → u.merged.testPackageName.given? = some name →
        c.packageName.outcome = (.ok (name ++ testSuffix before.length), [])) ∧
      ((∀ x ∈ c.tests, x.merged.testPackageName.isSet = false) →
        (∀ p, c.last.merged.packageName.given? = some p → c.packageName.outcome =
          (.ok (composePackageName p c.last.buildType.packageNameSuffix ++ testSuffix c.tests.length), [])) ∧
        (c.last.merged.packageName.isSet = false → c.packageName.outcome =
          (c.last.declaredPackage.map fun p =>
            composePackageName p c.last.buildType.packageNameSuffix ++ testSuffix c.tests.length,
            [c.last.mainSources.manifest]))) ∧
      (∀ fault, c.packageName.outcome.1 = .error fault ↔
        (∀ x ∈ c.tests, x.merged.testPackageName.isSet = false) ∧ c.last.merged.packageName.isSet = false ∧
          c.last.packageOf.Withholds c.last.mainSources.manifest (.undeclared c.last.mainSources.manifest) fault) ∧
      ((∀ fault, c.last.packageOf c.last.mainSources.manifest = .error fault → ∃ report, fault = .package report) →
        ((∃ report, c.packageName.outcome.1 = .error (.package report)) ↔
          (∀ x ∈ c.tests, x.merged.testPackageName.isSet = false) ∧ c.last.merged.packageName.isSet = false ∧
            ¬∃ p, c.last.packageOf.Declares c.last.mainSources.manifest p)) ∧
      (∀ name, c.packageName.outcome.1 = .ok name → name ≠ "") ∧
      ((Configuration.plain c.last).packageOverride.outcome.1 = .ok none ↔
        c.last.merged.packageName.isSet = false ∧ c.last.buildType.packageNameSuffix.isSet = false) ∧
      ∀ name, (Configuration.plain c.last).packageOverride.outcome.1 = .ok (some name) →
        (Configuration.plain c.last).packageName.outcome.1 = .ok name := by
  obtain ⟨c, hc, hcv⟩ := ((sound_start g).run commands).exists_configuration h
  refine ⟨c, hc, hcv, testedInTurn hc, ?_, fun hunnamed => ⟨?_, ?_⟩, fun _ => Configuration.packageName_error_iff,
    Configuration.packageName_unresolved_iff, fun _ => Configuration.packageName_ne_empty,
    Configuration.packageOverride_none_iff c.last, fun _ => Configuration.packageName_of_packageOverride⟩
  · intro before u after name htests hbefore hu
    exact (Configuration.gives_packageName_nearest htests hbefore hu).outcome
  · exact fun p hp => Configuration.packageName_outcome_package hunnamed hp
  · exact Configuration.packageName_outcome_manifest hunnamed

/-- An application whose build type has a suffix. -/
def suffixedPlan (packageOf : ManifestReader) : Variant.Plan :=
  let sources : SourceSet := { name := "main", manifest := ⟨.here, ["main.xml"]⟩ }
  { defaults := { name := "main" }
    mainSources := sources
    buildType := { name := "debug", packageNameSuffix := some "debug" }
    buildTypeSources := sources
    packageOf := packageOf }

/-- The application, a test of it, and a test of that test. -/
def testOfTest : List Command :=
  let plan := suffixedPlan fun _ => .ok (some "com.app")
  [ .create ⟨.root, []⟩ (fun _ => true) plan,
    .create ⟨.root, []⟩ (fun _ => true) { plan with kind := .test, tested := some 0 },
    .create ⟨.root, []⟩ (fun _ => true) { plan with kind := .test, tested := some 1 } ]

theorem run_packageName_test_of_test :
    ∃ c, (run { libraries := .empty } testOfTest).configuration? 2 = some c ∧
      c.packageName.outcome = (.ok "com.app.debug.test.test", [⟨.here, ["main.xml"]⟩]) := by
  have hchain : ((run { libraries := .empty } testOfTest).configuration? 2).map
      (fun c => (c.tests.map (·.merged.testPackageName), c.last.merged.packageName,
        c.last.buildType.packageNameSuffix, c.last.declaredPackage, c.last.mainSources.manifest)) =
      some ([none, none], none, some "debug", .ok "com.app", ⟨.here, ["main.xml"]⟩) := by
    cbv
  obtain ⟨v, hv⟩ := Option.isSome_iff_exists.mp
    (show ((run { libraries := .empty } testOfTest).variant? 2).isSome by cbv)
  obtain ⟨c, hc, _, _, _, hlast, _⟩ := run_packageName .empty testOfTest 2 v hv
  rw [hc, Option.map_some, Option.some.injEq] at hchain
  simp only [Prod.mk.injEq] at hchain
  obtain ⟨htests, hpackage, hsuffix, hdeclared, hmanifest⟩ := hchain
  have hlength : c.tests.length = 2 := by simpa using congrArg List.length htests
  have hunnamed : ∀ x ∈ c.tests, x.merged.testPackageName.isSet = false := by
    intro x hx
    have hname := List.mem_map_of_mem (f := fun y : Variant => y.merged.testPackageName) hx
    rw [htests] at hname
    have : x.merged.testPackageName = none := by simpa using hname
    rw [this]
    rfl
  refine ⟨c, hc, ?_⟩
  rw [(hlast hunnamed).2 (by rw [hpackage]; rfl), hlength, hsuffix, hdeclared, hmanifest]
  rfl

/-- The fault is none that is put into words, although a package is needed and the manifest declares none
that can be read. -/
theorem run_packageName_of_unknownEncoding :
    let files : Files :=
      { workingDirectory := ⟨.root, []⟩
        isFile := fun _ => true
        isDirectory := fun _ => false
        read := fun _ => .ok inUnknownEncoding }
    ∃ c, (run { libraries := .empty }
        [.create ⟨.root, []⟩ files.isFile (suffixedPlan (Manifest.reader files))]).configuration? 0 = some c ∧
      c.packageName.outcome.1 = .error (.value .unknownEncoding) ∧
      ¬((∃ report, c.packageName.outcome.1 = .error (.package report)) ↔
        (∀ x ∈ c.tests, x.merged.testPackageName.isSet = false) ∧ c.last.merged.packageName.isSet = false ∧
          ¬∃ p, c.last.packageOf.Declares c.last.mainSources.manifest p) := by
  intro files
  have hread : Manifest.reader files ⟨.here, ["main.xml"]⟩ = .error (.value .unknownEncoding) :=
    reader_inUnknownEncoding rfl
  let c : Configuration := .plain { suffixedPlan (Manifest.reader files) with role := .default }
  have hunnamed : ∀ x ∈ c.tests, x.merged.testPackageName.isSet = false := by simp [c, Configuration.tests]
  have houtcome : c.packageName.outcome.1 = .error (.value .unknownEncoding) :=
    Configuration.packageName_error_iff.mpr ⟨hunnamed, rfl, .inl hread⟩
  refine ⟨c, by rw [configuration?]; rfl, houtcome, ?_⟩
  rw [houtcome]
  intro hiff
  have hnone : ¬∃ p, c.last.packageOf.Declares c.last.mainSources.manifest p := by
    rintro ⟨p, hp, _⟩
    cases hread.symm.trans hp
  obtain ⟨report, hreport⟩ := hiff.mpr ⟨hunnamed, rfl, hnone⟩
  cases hreport

end World

end BuildVariants
