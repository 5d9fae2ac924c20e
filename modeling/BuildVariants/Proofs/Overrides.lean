import BuildVariants.Proofs.Commands

/-!
# Overrides over a run

The merged flavor is brought up to date flavor by flavor. Whatever commands come in between, each of its
fields has the value of the last added flavor that gives one, and the value of the defaults, given or
not, if none does (`run_merged_last_set`). Flavors may be merged in any groups, as long as their order is
kept (`Flavor.merge_in_any_grouping`).
-/

namespace BuildVariants

namespace Setting

theorem isSet_text_eq_false_iff {s : Setting String} : s.isSet = false ↔ s = none ∨ s = some "" := by
  cases s with
  | none => simp [isSet]
  | some a => simp [isSet, Blankable.isBlank]

theorem isSet_integer_eq_false_iff {s : Setting Int} : s.isSet = false ↔ s = none := by
  cases s with
  | none => simp [isSet]
  | some a => simp [isSet, Blankable.isBlank]

end Setting

/-! ## The fields of a flavor -/

namespace Flavor

inductive Field where
  | packageName
  | packageNameSuffix
  | versionCode
  | versionName
  | minSdkVersion
  | targetSdkVersion
  | testPackageName
  | testInstrumentationRunner
  deriving DecidableEq, Repr

def Field.Content : Field → Type
  | versionCode | minSdkVersion | targetSdkVersion => Int
  | packageName | packageNameSuffix | versionName | testPackageName | testInstrumentationRunner => String

instance Field.blankable : (f : Field) → Blankable f.Content
  | versionCode | minSdkVersion | targetSdkVersion => inferInstanceAs (Blankable Int)
  | packageName | packageNameSuffix | versionName | testPackageName | testInstrumentationRunner =>
    inferInstanceAs (Blankable String)

def get (flavor : Flavor) : (f : Field) → Setting f.Content
  | .packageName => flavor.packageName
  | .packageNameSuffix => flavor.packageNameSuffix
  | .versionCode => flavor.versionCode
  | .versionName => flavor.versionName
  | .minSdkVersion => flavor.minSdkVersion
  | .targetSdkVersion => flavor.targetSdkVersion
  | .testPackageName => flavor.testPackageName
  | .testInstrumentationRunner => flavor.testInstrumentationRunner

variable {flavor defaults : Flavor} {flavors before after : List Flavor} {f : Field}

theorem get_mergeOver (own base : Flavor) (f : Field) :
    (own.mergeOver base).get f = (own.get f).overlay (base.get f) := by
  cases f <;> rfl

theorem mergeAll_append (xs ys : List Flavor) (defaults : Flavor) :
    mergeAll (xs ++ ys) defaults = mergeAll ys (mergeAll xs defaults) := List.foldl_append

theorem get_mergeAll_of_open (h : ∀ x ∈ flavors, (x.get f).isSet = false) :
    (mergeAll flavors defaults).get f = defaults.get f := by
  induction flavors generalizing defaults with
  | nil => rfl
  | cons x rest ih =>
    have hx : (x.get f).isSet = false := h x List.mem_cons_self
    have hrest : (mergeAll rest (x.mergeOver defaults)).get f = (x.mergeOver defaults).get f :=
      ih fun y hy => h y (List.mem_cons_of_mem _ hy)
    rw [get_mergeOver, Setting.overlay_of_not_isSet hx] at hrest
    exact hrest

theorem get_mergeAll_of_last (hset : (flavor.get f).isSet = true) (hafter : ∀ x ∈ after, (x.get f).isSet = false) :
    (mergeAll (before ++ flavor :: after) defaults).get f = flavor.get f := by
  rw [mergeAll_append]
  have hopen : (mergeAll after (flavor.mergeOver (mergeAll before defaults))).get f =
      (flavor.mergeOver (mergeAll before defaults)).get f := get_mergeAll_of_open hafter
  rw [get_mergeOver, Setting.overlay_of_isSet hset] at hopen
  exact hopen

theorem name_mergeAll_of_last : (mergeAll (before ++ [flavor]) defaults).name = flavor.name := by
  rw [mergeAll_append]
  rfl

/-! ## Groups of flavors -/

theorem mergeOver_assoc (a b c : Flavor) : (a.mergeOver b).mergeOver c = a.mergeOver (b.mergeOver c) := by
  simp [mergeOver, Setting.overlay_assoc]

theorem mergeOver_self (a : Flavor) : a.mergeOver a = a := by
  simp [mergeOver, Setting.overlay_self]

theorem mergeAll_mergeOver (flavors : List Flavor) (top base : Flavor) :
    mergeAll flavors (top.mergeOver base) = (mergeAll flavors top).mergeOver base := by
  induction flavors generalizing top with
  | nil => rfl
  | cons x rest ih =>
    have hx : mergeAll rest (x.mergeOver (top.mergeOver base)) =
        (mergeAll rest (x.mergeOver top)).mergeOver base := by
      rw [← mergeOver_assoc, ih]
    exact hx

/-- A field is taken from below exactly where it is left open, so it does not matter which flavors are
merged first: a value that counts as open is passed on as it stands. -/
theorem merge_in_any_grouping :
    (∀ own base : Flavor, (own.mergeOver base).name = own.name ∧
      ∀ f, (own.mergeOver base).get f = if (own.get f).isSet then own.get f else base.get f) ∧
    (∀ a b c : Flavor, (a.mergeOver b).mergeOver c = a.mergeOver (b.mergeOver c)) ∧
    (∀ a : Flavor, a.mergeOver a = a) ∧
    ∀ (xs ys : List Flavor) (y defaults : Flavor),
      mergeAll (xs ++ y :: ys) defaults = (mergeAll ys y).mergeOver (mergeAll xs defaults) := by
  refine ⟨fun own base => ⟨rfl, get_mergeOver own base⟩, mergeOver_assoc, mergeOver_self, ?_⟩
  intro xs ys y defaults
  rw [mergeAll_append, ← mergeAll_mergeOver]
  rfl

end Flavor

/-! ## Runs -/

theorem Variant.create_flavors {workingDirectory : Path} {isFile : Path → Bool} {p : Plan} {v : Variant}
    (h : create workingDirectory isFile p = .ok v) : v.defaults = p.defaults ∧ v.merged = p.defaults := by
  obtain ⟨_, _, rfl⟩ := create_eq h
  exact ⟨rfl, rfl⟩

namespace World

variable {w : World} {id : VariantId} {v : Variant} {c : Command} {commands : List Command}

/-- The flavors that the commands are to add to the variant, in their order. -/
def flavorsAdded (id : VariantId) (commands : List Command) : List Flavor :=
  (layersAdded id commands).map (·.flavor)

theorem flavorsAdded_append (id : VariantId) (xs ys : List Command) :
    flavorsAdded id (xs ++ ys) = flavorsAdded id xs ++ flavorsAdded id ys := by
  simp [flavorsAdded, layersAdded]

theorem flavorsAdded_addFlavor (id : VariantId) (flavor : Flavor) (sources : SourceSet) (rest : List Command) :
    flavorsAdded id (.addFlavor id flavor sources :: rest) = flavor :: flavorsAdded id rest := by
  simp [flavorsAdded, layersAdded, Command.layer?]

theorem mem_flavorsAdded {flavor : Flavor} (h : flavor ∈ flavorsAdded id commands) :
    ∃ sources, Command.addFlavor id flavor sources ∈ commands := by
  obtain ⟨layer, hlayer, rfl⟩ := List.mem_map.mp h
  obtain ⟨c, hc, hadds⟩ := List.mem_filterMap.mp hlayer
  cases c with
  | addFlavor j x sources =>
    rw [Command.layer?] at hadds
    split at hadds
    · rename_i hj
      subst hj
      cases hadds
      exact ⟨sources, hc⟩
    · cases hadds
  | _ => cases hadds

theorem flavorsAdded_eq_nil (h : ∀ x s, Command.addFlavor id x s ∉ commands) : flavorsAdded id commands = [] := by
  refine List.eq_nil_iff_forall_not_mem.mpr fun x hx => ?_
  obtain ⟨s, hs⟩ := mem_flavorsAdded hx
  exact h x s hs

theorem Changed.merged {u : Variant} (h : w.Changed id v c u) :
    u.merged = Flavor.mergeAll (flavorsAdded id [c]) v.merged := by
  cases h with
  | addFlavor =>
    rw [flavorsAdded_addFlavor]
    rfl
  | setLibraries => exact (Variant.setLibraries_outcome ..).merged
  | setJars => rfl
  | setOutput hu =>
    obtain ⟨_, rfl⟩ := Variant.setOutput_ok hu
    rfl

/-- A command merges the flavor that it adds to the variant, if it adds one. -/
theorem perform_merged (hv : w.variant? id = some v) (c : Command) :
    ∃ u, (w.perform c).1.variant? id = some u ∧ u.defaults = v.defaults ∧
      u.merged = Flavor.mergeAll (flavorsAdded id [c]) v.merged := by
  obtain ⟨u, hu, ⟨rfl, hlayer⟩ | hchanged⟩ := perform_same_or_changed hv c
  · refine ⟨u, hu, rfl, ?_⟩
    simp [flavorsAdded, layersAdded, hlayer, Flavor.mergeAll]
  · exact ⟨u, hu, hchanged.sameBase.defaults, hchanged.merged⟩

theorem run_merged (hv : w.variant? id = some v) (commands : List Command) :
    ∃ u, (w.run commands).variant? id = some u ∧ u.defaults = v.defaults ∧
      u.merged = Flavor.mergeAll (flavorsAdded id commands) v.merged := by
  induction commands using List.reverseRecOn with
  | nil => exact ⟨v, hv, rfl, rfl⟩
  | append_singleton commands c ih =>
    obtain ⟨x, hx, hdefaults, hmerged⟩ := ih
    obtain ⟨u, hu, hdefaults', hmerged'⟩ := perform_merged hx c
    refine ⟨u, ?_, hdefaults'.trans hdefaults, ?_⟩
    · rw [run_concat]
      exact hu
    · rw [hmerged', hmerged, flavorsAdded_append, Flavor.mergeAll_append]

/-- A variant that was not there before the command has been made by it. -/
theorem created_of_perform {u : Variant} (hnew : w.variant? id = none)
    (hu : (w.perform c).1.variant? id = some u) :
    ∃ workingDirectory isFile plan, c = .create workingDirectory isFile plan ∧
      Variant.create workingDirectory isFile plan = .ok u := by
  cases (perform_outcome w c).became hu with
  | kept hkept =>
    rw [hnew] at hkept
    cases hkept
  | created hc hcreate => exact ⟨_, _, _, hc, hcreate⟩
  | changed hv =>
    rw [hnew] at hv
    cases hv

/-- For each field, the last flavor that gives it decides, whatever else the commands do; the last
added flavor decides the name. The empty text gives nothing, any number does. -/
theorem run_merged_last_set (w : World) (id : VariantId) (workingDirectory : Path) (isFile : Path → Bool)
    (plan : Variant.Plan) (made : Variant) (commands : List Command) (hnew : w.variant? id = none)
    (hmade : (w.perform (.create workingDirectory isFile plan)).1.variant? id = some made) :
    (∀ s : Setting String, s.isSet = false ↔ s = none ∨ s = some "") ∧
    (∀ n : Setting Int, n.isSet = false ↔ n = none) ∧
    ∃ v, ((w.perform (.create workingDirectory isFile plan)).1.run commands).variant? id = some v ∧
      v.defaults = plan.defaults ∧
      (∀ f : Flavor.Field,
        (∀ early flavor sources late, commands = early ++ .addFlavor id flavor sources :: late →
          (flavor.get f).isSet = true →
          (∀ x s, Command.addFlavor id x s ∈ late → (x.get f).isSet = false) →
          v.merged.get f = flavor.get f) ∧
        ((∀ x s, Command.addFlavor id x s ∈ commands → (x.get f).isSet = false) →
          v.merged.get f = plan.defaults.get f)) ∧
      (∀ early flavor sources late, commands = early ++ .addFlavor id flavor sources :: late →
        (∀ x s, Command.addFlavor id x s ∉ late) → v.merged.name = flavor.name) ∧
      ((∀ x s, Command.addFlavor id x s ∉ commands) → v.merged = plan.defaults) ∧
      ∀ early c late, commands = early ++ c :: late → (∀ x s, c ≠ .addFlavor id x s) →
        ∃ before after,
          ((w.perform (.create workingDirectory isFile plan)).1.run early).variant? id = some before ∧
          ((w.perform (.create workingDirectory isFile plan)).1.run (early ++ [c])).variant? id = some after ∧
          after.merged = before.merged := by
  obtain ⟨_, _, _, hc, hcreate⟩ := created_of_perform hnew hmade
  cases hc
  have hstart : made.defaults = plan.defaults ∧ made.merged = plan.defaults := Variant.create_flavors hcreate
  obtain ⟨v, hv, hdefaults, hmerged⟩ := run_merged hmade commands
  rw [hstart.2] at hmerged
  refine ⟨fun _ => Setting.isSet_text_eq_false_iff, fun _ => Setting.isSet_integer_eq_false_iff, v, hv,
    hdefaults.trans hstart.1, fun f => ⟨?_, fun hopen => ?_⟩, ?_, fun hnone => ?_, ?_⟩
  · rintro early flavor sources late rfl hset hlate
    rw [hmerged, flavorsAdded_append, flavorsAdded_addFlavor]
    refine Flavor.get_mergeAll_of_last hset fun x hx => ?_
    obtain ⟨s, hs⟩ := mem_flavorsAdded hx
    exact hlate x s hs
  · rw [hmerged]
    refine Flavor.get_mergeAll_of_open fun x hx => ?_
    obtain ⟨s, hs⟩ := mem_flavorsAdded hx
    exact hopen x s hs
  · rintro early flavor sources late rfl hlate
    rw [hmerged, flavorsAdded_append, flavorsAdded_addFlavor, flavorsAdded_eq_nil hlate]
    exact Flavor.name_mergeAll_of_last
  · rw [hmerged, flavorsAdded_eq_nil hnone]
    rfl
  · rintro early c late - hc
    obtain ⟨before, hbefore, _⟩ := run_merged hmade early
    obtain ⟨after, hafter, _, hsame⟩ := perform_merged hbefore c
    refine ⟨before, after, hbefore, by rw [run_concat]; exact hafter, ?_⟩
    rw [hsame, flavorsAdded_eq_nil fun x s hx => hc x s (List.mem_singleton.mp hx).symm]
    rfl

/-- The defaults give an empty text, which is kept where no flavor gives another. -/
def emptyVersion : Variant.Plan :=
  let sources : SourceSet := { name := "main", manifest := ⟨.here, ["main.xml"]⟩ }
  { defaults := { name := "main", versionName := some "" }
    mainSources := sources
    buildType := { name := "debug" }
    buildTypeSources := sources
    packageOf := fun _ => .ok none }

def freeAndPaid : List Command :=
  let sources : SourceSet := { name := "free", manifest := ⟨.here, ["free.xml"]⟩ }
  [ .addFlavor 0 { name := "free", packageName := some "com.free", versionCode := some 7 } sources,
    .setJars 0 [],
    .addFlavor 0 { name := "paid", packageName := some "", versionCode := some 0 } sources,
    .setOutput 0 0 ]

theorem run_merged_last_set_free_and_paid :
    ∃ v, ((perform {} (.create ⟨.root, []⟩ (fun _ => true) emptyVersion)).1.run freeAndPaid).variant? 0 = some v ∧
      v.merged.packageName = some "com.free" ∧ v.merged.versionCode = some 0 ∧ v.merged.versionName = some "" ∧
      v.merged.name = "paid" := by
  obtain ⟨made, hmade⟩ := Option.isSome_iff_exists.mp
    (show ((perform {} (.create ⟨.root, []⟩ (fun _ => true) emptyVersion)).1.variant? 0).isSome by cbv)
  obtain ⟨_, _, v, hv, _, hfield, hname, _⟩ := run_merged_last_set {} 0 _ _ _ made freeAndPaid rfl hmade
  refine ⟨v, hv, ?_, ?_, ?_, ?_⟩
  · refine (hfield .packageName).1 [] _ _ _ rfl rfl fun x s h => ?_
    simp only [List.mem_cons, List.not_mem_nil, reduceCtorEq, or_false, false_or, Command.addFlavor.injEq] at h
    obtain ⟨_, rfl, _⟩ := h
    rfl
  · exact (hfield .versionCode).1 [_, _] _ _ _ rfl rfl fun x s h => by simp at h
  · refine (hfield .versionName).2 fun x s h => ?_
    simp only [freeAndPaid, List.mem_cons, List.not_mem_nil, reduceCtorEq, or_false, false_or,
      Command.addFlavor.injEq] at h
    rcases h with ⟨_, rfl, _⟩ | ⟨_, rfl, _⟩ <;> rfl
  · exact hname [_, _] _ _ _ rfl fun x s h => by simp at h

end World

end BuildVariants
