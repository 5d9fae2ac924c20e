import BuildVariants.Proofs.Commands

/-!
# Configurations of a world

The configuration that a world has for a variant is that variant over the configuration of the one
that it tests (`World.ConfiguredAs`). Its variants are met from the first one on by going from each
test to what it tests, down to one that is no test (`World.TestedInTurn`). All that the libraries of
a test take from the tested variant is what that one lends (`Variant.lends`).
-/

namespace BuildVariants

/-! ## What a tested variant lends -/

namespace Variant

/-- The libraries that a variant adds to those of its tests. -/
def lends (v : Variant) : Except StructuralFault (List LibraryId) :=
  match v.role with
  | .library none => .error .testedWithoutOutput
  | .library (some output) => .ok (output :: v.direct)
  | _ => .ok []

theorem lends_of_kind_ne {v : Variant} (h : v.kind ≠ .library) : v.lends = .ok [] := by
  unfold kind at h
  unfold lends
  cases hr : v.role with
  | library output =>
    rw [hr] at h
    exact absurd rfl h
  | default => rfl
  | test => rfl

theorem fullDirect_some (v t : Variant) : v.fullDirect (some t) = t.lends.map (v.direct ++ ·) := by
  unfold fullDirect lends
  cases ht : t.role with
  | library output => cases output <;> simp [ht, Except.map]
  | default => simp [ht, Except.map]
  | test => simp [ht, Except.map]

end Variant

namespace World

variable {w : World} {id : VariantId} {c : Configuration}

/-! ## One step down -/

inductive ConfiguredAs (w : World) (id : VariantId) : Configuration → Prop
  | plain {v : Variant} : w.variant? id = some v → v.tested = none → ConfiguredAs w id (.plain v)
  | testOf {v : Variant} {t : VariantId} {below : Configuration} : w.variant? id = some v →
    v.tested = some t → t < id → w.configuration? t = some below → ConfiguredAs w id (.testOf v below)

theorem configuredAs (h : w.configuration? id = some c) : w.ConfiguredAs id c := by
  unfold configuration? at h
  cases hv : w.variant? id with
  | none =>
    rw [hv] at h
    cases h
  | some v =>
    simp only [hv] at h
    split at h
    · rename_i t hr
      split at h
      · rename_i hlt
        obtain ⟨below, hbelow, rfl⟩ := Option.map_eq_some_iff.mp h
        exact .testOf hv (by rw [Variant.tested, hr]) hlt hbelow
      · cases h
    · rename_i hr
      cases h
      refine .plain hv ?_
      unfold Variant.tested
      split
      · rename_i t ht
        exact absurd ht (hr t)
      · rfl

theorem ConfiguredAs.variant (h : w.ConfiguredAs id c) : w.variant? id = some c.variant := by
  cases h with
  | plain hv => exact hv
  | testOf hv => exact hv

theorem ConfiguredAs.tested? (h : w.ConfiguredAs id c) :
    c.tested?.map Configuration.variant = c.variant.tested.bind w.variant? := by
  cases h with
  | plain hv ht =>
    show none = _
    rw [Configuration.variant, ht]
    rfl
  | testOf hv ht _ hbelow =>
    show some _ = _
    rw [Configuration.variant, ht, Option.bind_some, (configuredAs hbelow).variant]

/-- What is asked of a configuration and what a call on the variant uses are the same. -/
theorem ConfiguredAs.fullDirect (h : w.ConfiguredAs id c) :
    c.fullDirect = c.variant.fullDirect (c.variant.tested.bind w.variant?) := by
  rw [Configuration.fullDirect, h.tested?]

/-! ## The whole way down -/

/-- Each of the variants tests the next one, and only the last one is no test. -/
inductive TestedInTurn (w : World) : VariantId → List Variant → Variant → Prop
  | last {id : VariantId} {v : Variant} : w.variant? id = some v → v.kind ≠ .test → TestedInTurn w id [] v
  | test {id t : VariantId} {v last : Variant} {tests : List Variant} : w.variant? id = some v →
    v.kind = .test → v.tested = some t → TestedInTurn w t tests last → TestedInTurn w id (v :: tests) last

end World

namespace Configuration

def tests : Configuration → List Variant
  | plain _ => []
  | testOf v t => v :: t.tests

/-- The variant at the end of the tests. -/
def last : Configuration → Variant
  | plain v => v
  | testOf _ t => t.last

end Configuration

theorem World.testedInTurn {w : World} {id : VariantId} {c : Configuration}
    (h : w.configuration? id = some c) : w.TestedInTurn id c.tests c.last := by
  induction c generalizing id with
  | plain v =>
    cases configuredAs h with
    | plain hv ht =>
      refine .last hv fun (hkind : v.kind = .test) => ?_
      rw [Variant.kind_eq_test_iff, ht] at hkind
      cases hkind
  | testOf v below ih =>
    cases configuredAs h with
    | testOf hv ht _ hbelow =>
      refine .test hv ?_ ht (ih hbelow)
      rw [Variant.kind_eq_test_iff, ht]
      rfl

/-- Makes a variant whose main manifest is there, and declares no package. -/
def World.Command.createPlain (kind : VariantKind) (tested : Option VariantId) : World.Command :=
  let sources : SourceSet := { name := "main", manifest := ⟨.here, ["main.xml"]⟩ }
  .create ⟨.root, []⟩ (fun _ => true)
    { defaults := { name := "main" }
      mainSources := sources
      buildType := { name := "debug" }
      buildTypeSources := sources
      kind := kind
      tested := tested
      packageOf := fun _ => .ok none }

end BuildVariants
