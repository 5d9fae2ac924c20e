import BuildVariants.Proofs.Reports
import Mathlib

/-!
# The packages of the flattened libraries

The manifests of the flattened libraries are read one after another until one of them gives no package.
If all give one, the packages are joined with colons, and as long as none of them holds a colon itself
they can be read back from the result (`Configuration.libraryPackages_of_flat`).
-/

namespace BuildVariants

/-! ## Splitting at colons -/

def splitAtColons (s : String) : List String := (s.toList.splitOn ':').map String.ofList

theorem splitAtColons_intercalate {packages : List String} (hne : packages ≠ []) (h : ∀ p ∈ packages, ':' ∉ p.toList) :
    splitAtColons (String.intercalate ":" packages) = packages := by
  have hsplit : ((":".toList).intercalate (packages.map String.toList)).splitOn ':' = packages.map String.toList := by
    apply List.splitOn_intercalate
    · intro cs hcs
      obtain ⟨p, hp, rfl⟩ := List.mem_map.mp hcs
      exact h p hp
    · simp [hne]
  unfold splitAtColons
  rw [String.toList_intercalate, hsplit, List.map_map]
  simp [Function.comp_def, String.ofList_toList]

theorem LibraryGraph.map_get?_eq_map_some {g : LibraryGraph} {ids : List LibraryId} (h : ∀ l ∈ ids, l < g.size) :
    ids.map g.get? = (g.getAll ids).map some := by
  induction ids with
  | nil => rfl
  | cons l rest ih =>
    obtain ⟨hl, hrest⟩ := List.forall_mem_cons.mp h
    have hlt : l < g.libraries.size := hl
    have hget : g.get? l = some g.libraries[l] := Array.getElem?_eq_getElem hlt
    rw [List.map_cons, ih hrest, LibraryGraph.getAll, LibraryGraph.getAll, List.filterMap_cons_some hget, List.map_cons,
      hget]

/-! ## Libraries with and without a package -/

namespace Variant

/-- The manifest of the library declares that package. -/
def Declares (v : Variant) (l : Library) (package : String) : Prop :=
  v.packageOf.Declares l.manifest package

/-- The manifest of the library cannot be read, or it is read and declares no package. -/
def Withholds (v : Variant) (l : Library) (fault : Fault) : Prop :=
  v.packageOf.Withholds l.manifest (.undeclaredByLibrary l.manifest l.name) fault

variable {v : Variant} {l : Library}

theorem libraryPackage_eq_ok_iff {p : String} : v.libraryPackage l = .ok p ↔ v.Declares l p :=
  ManifestReader.package_eq_ok_iff

theorem libraryPackage_eq_error_iff {fault : Fault} : v.libraryPackage l = .error fault ↔ v.Withholds l fault :=
  ManifestReader.package_eq_error_iff

theorem declares_iff_not_withholds : (∃ p, v.Declares l p) ↔ ¬∃ fault, v.Withholds l fault :=
  ManifestReader.declares_iff_not_withholds _

theorem libraryReads_declared {libraries : List Library} (h : ∀ l ∈ libraries, ∃ p, v.libraryPackage l = .ok p) :
    v.libraryReads libraries = libraries.map (·.manifest) := by
  induction libraries with
  | nil => rfl
  | cons l rest ih =>
    obtain ⟨⟨p, hp⟩, hrest⟩ := List.forall_mem_cons.mp h
    rw [libraryReads, hp, List.map_cons, ih hrest]

theorem libraryReads_undeclared {before after : List Library} {fault : Fault}
    (hbefore : ∀ x ∈ before, ∃ p, v.libraryPackage x = .ok p) (hl : v.libraryPackage l = .error fault) :
    v.libraryReads (before ++ l :: after) = (before ++ [l]).map (·.manifest) := by
  induction before with
  | nil => rw [List.nil_append, libraryReads, hl, List.nil_append, List.map_singleton]
  | cons x before ih =>
    obtain ⟨⟨p, hp⟩, hrest⟩ := List.forall_mem_cons.mp hbefore
    rw [List.cons_append, libraryReads, hp, List.cons_append, List.map_cons, ih hrest]

end Variant

/-! ## The joined packages -/

namespace Configuration

variable {g : LibraryGraph} {c : Configuration}

theorem joinPackages_eq_none_iff {packages : List String} : joinPackages packages = none ↔ packages = [] := by
  cases packages with
  | nil => simp [joinPackages]
  | cons p rest => simp [joinPackages]

theorem libraryPackages_declared (h : ∀ l ∈ g.getAll c.variant.flat, ∃ p, c.variant.Declares l p) :
    ∃ packages, List.Forall₂ c.variant.Declares (g.getAll c.variant.flat) packages ∧
      (c.libraryPackages g).outcome =
        (.ok (joinPackages packages), (g.getAll c.variant.flat).map (·.manifest)) := by
  simp only [← Variant.libraryPackage_eq_ok_iff] at h
  obtain ⟨packages, hpairs, hgives⟩ := gives_libraryPackages_declared h
  refine ⟨packages, hpairs.imp fun l p => Variant.libraryPackage_eq_ok_iff.mp, ?_⟩
  rw [hgives.outcome, Variant.libraryReads_declared h]

theorem libraryPackages_undeclared {before after : List Library} {l : Library} {fault : Fault}
    (hlibraries : g.getAll c.variant.flat = before ++ l :: after)
    (hbefore : ∀ x ∈ before, ∃ p, c.variant.Declares x p) (hl : c.variant.Withholds l fault) :
    (c.libraryPackages g).outcome = (.error fault, (before ++ [l]).map (·.manifest)) := by
  simp only [← Variant.libraryPackage_eq_ok_iff] at hbefore
  rw [← Variant.libraryPackage_eq_error_iff] at hl
  rw [(gives_libraryPackages_undeclared hlibraries hbefore hl).outcome, hlibraries,
    Variant.libraryReads_undeclared hbefore hl]

/-- Either all flattened libraries declare a package, or there is a first one that withholds it. -/
theorem declared_or_first_withheld (g : LibraryGraph) (c : Configuration) :
    (∀ l ∈ g.getAll c.variant.flat, ∃ p, c.variant.Declares l p) ∨
      ∃ before l after fault, g.getAll c.variant.flat = before ++ l :: after ∧
        (∀ x ∈ before, ∃ p, c.variant.Declares x p) ∧ c.variant.Withholds l fault := by
  simp only [← Variant.libraryPackage_eq_ok_iff, ← Variant.libraryPackage_eq_error_iff]
  exact c.variant.declared_or_first_undeclared _

theorem libraryPackages_error_iff {fault : Fault} :
    (c.libraryPackages g).outcome.1 = .error fault ↔
      ∃ before l after, g.getAll c.variant.flat = before ++ l :: after ∧
        (∀ x ∈ before, ∃ p, c.variant.Declares x p) ∧ c.variant.Withholds l fault := by
  constructor
  · intro hfault
    rcases declared_or_first_withheld g c with h | ⟨before, l, after, fault', hlibraries, hbefore, hl⟩
    · obtain ⟨packages, _, houtcome⟩ := libraryPackages_declared h
      rw [houtcome] at hfault
      cases hfault
    · rw [libraryPackages_undeclared hlibraries hbefore hl] at hfault
      cases hfault
      exact ⟨before, l, after, hlibraries, hbefore, hl⟩
  · rintro ⟨before, l, after, hlibraries, hbefore, hl⟩
    rw [libraryPackages_undeclared hlibraries hbefore hl]

theorem libraryPackages_ok {joined : Option String} (h : (c.libraryPackages g).outcome.1 = .ok joined) :
    ∃ packages, List.Forall₂ c.variant.Declares (g.getAll c.variant.flat) packages ∧ joined = joinPackages packages ∧
      (c.libraryPackages g).outcome.2 = (g.getAll c.variant.flat).map (·.manifest) := by
  rcases declared_or_first_withheld g c with hdeclared | ⟨before, l, after, fault, hlibraries, hbefore, hl⟩
  · obtain ⟨packages, hpairs, houtcome⟩ := libraryPackages_declared hdeclared
    rw [houtcome] at h ⊢
    cases h
    exact ⟨packages, hpairs, rfl, rfl⟩
  · rw [libraryPackages_undeclared hlibraries hbefore hl] at h
    cases h

theorem libraryPackages_eq_none_iff :
    (c.libraryPackages g).outcome.1 = .ok none ↔ g.getAll c.variant.flat = [] := by
  constructor
  · intro h
    obtain ⟨packages, hpairs, hjoined, _⟩ := libraryPackages_ok h
    rw [joinPackages_eq_none_iff.mp hjoined.symm] at hpairs
    exact List.forall₂_nil_right_iff.mp hpairs
  · intro h
    obtain ⟨packages, hpairs, houtcome⟩ := libraryPackages_declared (g := g) (c := c) (by simp [h])
    rw [h] at hpairs
    rw [houtcome, List.forall₂_nil_left_iff.mp hpairs]
    rfl

theorem libraryPackages_eq_some {joined : String} (h : (c.libraryPackages g).outcome.1 = .ok (some joined)) :
    ∃ packages, List.Forall₂ c.variant.Declares (g.getAll c.variant.flat) packages ∧
      joined = String.intercalate ":" packages ∧
      ((∀ p ∈ packages, ':' ∉ p.toList) → splitAtColons joined = packages) := by
  obtain ⟨packages, hpairs, hjoined, _⟩ := libraryPackages_ok h
  have hne : packages ≠ [] := by
    intro hnil
    rw [joinPackages_eq_none_iff.mpr hnil] at hjoined
    cases hjoined
  cases packages with
  | nil => exact absurd rfl hne
  | cons p rest =>
    cases hjoined
    exact ⟨p :: rest, hpairs, rfl, splitAtColons_intercalate hne⟩

/-- A reader that reports what it cannot read fails the lookup with such a report only. -/
theorem libraryPackages_unresolved_iff
    (h : ∀ l ∈ g.getAll c.variant.flat, ∀ fault, c.variant.packageOf l.manifest = .error fault →
      ∃ report, fault = .package report) :
    (∃ report, (c.libraryPackages g).outcome.1 = .error (.package report)) ↔
      ∃ l ∈ g.getAll c.variant.flat, ¬∃ p, c.variant.Declares l p := by
  constructor
  · rintro ⟨report, hreport⟩
    obtain ⟨before, l, after, hlibraries, _, hl⟩ := libraryPackages_error_iff.mp hreport
    refine ⟨l, by simp [hlibraries], ?_⟩
    rw [Variant.declares_iff_not_withholds, not_not]
    exact ⟨_, hl⟩
  · rintro ⟨l, hmem, hl⟩
    rcases declared_or_first_withheld g c with hdeclared | ⟨before, x, after, fault, hlibraries, hbefore, hx⟩
    · exact absurd (hdeclared l hmem) hl
    · have hfault : (c.libraryPackages g).outcome.1 = .error fault :=
        libraryPackages_error_iff.mpr ⟨before, x, after, hlibraries, hbefore, hx⟩
      rcases hx with hread | ⟨_, rfl⟩
      · obtain ⟨report, rfl⟩ := h x (by simp [hlibraries]) fault hread
        exact ⟨report, hfault⟩
      · exact ⟨_, hfault⟩

/-- There is a result without libraries only; the lookup fails at the first library without a package,
having read the manifests up to it; and what is joined can be split again. -/
theorem libraryPackages_of_flat (g : LibraryGraph) (c : Configuration) (h : ∀ l ∈ c.variant.flat, l < g.size) :
    ∃ libraries, c.variant.flat.map g.get? = libraries.map some ∧
      ((c.libraryPackages g).outcome.1 = .ok none ↔ c.variant.flat = []) ∧
      (∀ fault, (c.libraryPackages g).outcome.1 = .error fault ↔
        ∃ before l after, libraries = before ++ l :: after ∧ (∀ x ∈ before, ∃ p, c.variant.Declares x p) ∧
          c.variant.Withholds l fault) ∧
      (∀ before l after, libraries = before ++ l :: after → (∀ x ∈ before, ∃ p, c.variant.Declares x p) →
        (¬∃ p, c.variant.Declares l p) → (c.libraryPackages g).outcome.2 = (before ++ [l]).map (·.manifest)) ∧
      ((∀ l ∈ libraries, ∀ fault, c.variant.packageOf l.manifest = .error fault → ∃ report, fault = .package report) →
        ((∃ report, (c.libraryPackages g).outcome.1 = .error (.package report)) ↔
          ∃ l ∈ libraries, ¬∃ p, c.variant.Declares l p)) ∧
      (∀ l : Library, (Fault.package (.undeclaredByLibrary l.manifest l.name)).message =
        "No package name declared in manifest " ++ l.manifest.text ++ " of library '" ++ l.name ++ "'") ∧
      ∀ joined, (c.libraryPackages g).outcome.1 = .ok (some joined) →
        (c.libraryPackages g).outcome.2 = libraries.map (·.manifest) ∧
        ∃ packages, List.Forall₂ c.variant.Declares libraries packages ∧
          joined = String.intercalate ":" packages ∧
          ((∀ p ∈ packages, ':' ∉ p.toList) → splitAtColons joined = packages) := by
  have hlibraries := LibraryGraph.map_get?_eq_map_some h
  refine ⟨g.getAll c.variant.flat, hlibraries, ?_, fun fault => libraryPackages_error_iff, ?_,
    libraryPackages_unresolved_iff, fun l => rfl, ?_⟩
  · rw [libraryPackages_eq_none_iff]
    constructor
    · intro hnil
      rw [hnil, List.map_nil] at hlibraries
      exact List.map_eq_nil_iff.mp hlibraries
    · intro hnil
      rw [hnil]
      rfl
  · intro before l after hsplit hbefore hl
    rw [Variant.declares_iff_not_withholds, not_not] at hl
    obtain ⟨fault, hl⟩ := hl
    rw [libraryPackages_undeclared hsplit hbefore hl]
  · intro joined hjoined
    obtain ⟨_, _, _, hreads⟩ := libraryPackages_ok hjoined
    exact ⟨hreads, libraryPackages_eq_some hjoined⟩

def withFlat (packageOf : ManifestReader) (flat : List LibraryId) : Configuration :=
  let sources : SourceSet := { name := "main", manifest := ⟨.here, ["main.xml"]⟩ }
  plain
    { defaults := { name := "main" }
      mainSources := sources
      buildType := { name := "debug" }
      buildTypeSources := sources
      role := .default
      packageOf := packageOf
      flat := flat }

def twoLibraries : LibraryGraph :=
  let library (name : String) : Library :=
    { name := name, manifest := ⟨.here, [name, "lib.xml"]⟩, jarFile := ⟨.here, [name, "lib.jar"]⟩ }
  ⟨#[library "core", library "util"]⟩

/-- Two libraries of one package count twice. -/
theorem libraryPackages_of_flat_same_package :
    let c := withFlat (fun _ => .ok (some "com.lib")) [1, 0]
    (∀ l ∈ c.variant.flat, l < twoLibraries.size) ∧
      (c.libraryPackages twoLibraries).outcome =
        (.ok (some "com.lib:com.lib"), [⟨.here, ["util", "lib.xml"]⟩, ⟨.here, ["core", "lib.xml"]⟩]) ∧
      splitAtColons "com.lib:com.lib" = ["com.lib", "com.lib"] := by
  intro c
  have hflat : ∀ l ∈ c.variant.flat, l < twoLibraries.size := by decide
  have houtcome : (c.libraryPackages twoLibraries).outcome =
      (.ok (some "com.lib:com.lib"), [⟨.here, ["util", "lib.xml"]⟩, ⟨.here, ["core", "lib.xml"]⟩]) := by
    cbv
  obtain ⟨libraries, hlibraries, _, _, _, _, _, hjoined⟩ := libraryPackages_of_flat twoLibraries c hflat
  obtain ⟨_, packages, hpairs, _, hsplit⟩ := hjoined "com.lib:com.lib" (by rw [houtcome])
  have hboth : libraries = twoLibraries.libraries.toList.reverse :=
    List.map_injective_iff.mpr (Option.some_injective _) (hlibraries.symm.trans rfl)
  have hpackages : packages = ["com.lib", "com.lib"] := by
    rw [hboth] at hpairs
    rcases hpairs with _ | ⟨hutil, _ | ⟨hcore, hnone⟩⟩
    cases hutil.1
    cases hcore.1
    cases hnone
    rfl
  refine ⟨hflat, houtcome, ?_⟩
  rw [hsplit (by rw [hpackages]; decide), hpackages]

/-- Its fault is none that is put into words, although the library has no package. -/
theorem libraryPackages_of_unknownEncoding :
    let files : Files :=
      { workingDirectory := ⟨.root, []⟩
        isFile := fun _ => true
        isDirectory := fun _ => false
        read := fun _ => .ok inUnknownEncoding }
    let c := withFlat (Manifest.reader files) [1, 0]
    (c.libraryPackages twoLibraries).outcome.1 = .error (.value .unknownEncoding) ∧
      ¬((∃ report, (c.libraryPackages twoLibraries).outcome.1 = .error (.package report)) ↔
        ∃ l ∈ twoLibraries.getAll c.variant.flat, ¬∃ p, c.variant.Declares l p) := by
  intro files c
  have hread : Manifest.reader files ⟨.here, ["util", "lib.xml"]⟩ = .error (.value .unknownEncoding) :=
    reader_inUnknownEncoding rfl
  have hflat :
      twoLibraries.getAll c.variant.flat = [] ++ twoLibraries.libraries[1] :: [twoLibraries.libraries[0]] := rfl
  have houtcome : (c.libraryPackages twoLibraries).outcome.1 = .error (.value .unknownEncoding) :=
    libraryPackages_error_iff.mpr ⟨[], _, _, hflat, by simp, .inl hread⟩
  refine ⟨houtcome, ?_⟩
  rw [houtcome, hflat]
  intro hiff
  have hutil : ¬∃ p, c.variant.Declares twoLibraries.libraries[1] p := by
    rintro ⟨p, hp, _⟩
    cases hread.symm.trans hp
  obtain ⟨report, hreport⟩ := hiff.mpr ⟨_, List.mem_cons_self, hutil⟩
  cases hreport

end Configuration

end BuildVariants
