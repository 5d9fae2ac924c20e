import BuildVariants.Proofs.FlatLibraries

/-!
# The order of configuration calls

Each of the four calls sets an aspect of one variant, and calls that set different aspects of it do not
read what the other sets. So only the order among calls of one kind counts (`World.sameRun_of_filters`).
Calls on two variants commute, too, unless one flattens the libraries of a test and the other changes
what the tested library lends (`World.Interferes`).
-/

namespace BuildVariants

/-! ## Calls on one variant -/

namespace Variant

/-- All that counts of the tested variant is what it lends. -/
theorem setLibraries_congr (g : LibraryGraph) (v : Variant) {tested tested' : Option Variant} (direct : List LibraryId)
    (h : tested.map lends = tested'.map lends) :
    v.setLibraries g tested direct = v.setLibraries g tested' direct := by
  have hfull : ∀ u : Variant, u.fullDirect tested = u.fullDirect tested' := by
    intro u
    cases tested with
    | none => cases tested' <;> simp_all
    | some t =>
      cases tested' with
      | none => cases h
      | some t' => rw [fullDirect_some, fullDirect_some, Option.some.inj h]
  simp only [setLibraries, flattened, hfull]

/-- Of the variant itself nothing is read. -/
theorem setLibraries_of_any (g : LibraryGraph) (tested : Option Variant) (direct : List LibraryId) :
    (∃ fault, ∀ v, setLibraries g v tested direct = ({ v with direct := direct }, .error fault)) ∨
      ∃ order, ∀ v, setLibraries g v tested direct = ({ v with direct := direct, flat := order }, .ok ()) := by
  have hfull : ∃ full, ∀ v : Variant, fullDirect { v with direct := direct } tested = full := by
    cases tested with
    | none => exact ⟨.ok direct, fun _ => rfl⟩
    | some t => exact ⟨t.lends.map (direct ++ ·), fun v => fullDirect_some _ t⟩
  obtain ⟨full, hfull⟩ := hfull
  cases full with
  | error fault =>
    left
    exact ⟨fault, fun v => by simp [setLibraries, flattened, hfull]⟩
  | ok full =>
    cases horder : g.flatten full with
    | error l =>
      left
      exact ⟨.libraryCycle (g.name l), fun v => by simp [setLibraries, flattened, hfull, horder]⟩
    | ok order =>
      right
      exact ⟨order, fun v => by simp [setLibraries, flattened, hfull, horder]⟩

theorem setOutput_of_role (v : Variant) (output : LibraryId) :
    (∃ fault, ∀ u : Variant, u.role = v.role → u.setOutput output = .error fault) ∨
      (v.tested = none ∧
        ∀ u : Variant, u.role = v.role → u.setOutput output = .ok { u with role := .library (some output) }) := by
  unfold tested
  cases hr : v.role with
  | library o =>
    right
    exact ⟨rfl, fun u hu => by rw [setOutput, hu]⟩
  | default =>
    left
    exact ⟨_, fun u hu => by rw [setOutput, hu]⟩
  | test t =>
    left
    exact ⟨_, fun u hu => by rw [setOutput, hu]⟩

end Variant

namespace World

variable {w : World} {c c' : Command} {id id' : VariantId} {u v : Variant}

/-- What a call sets. -/
inductive Aspect where
  | flavors
  | libraries
  | jars
  | output
  deriving DecidableEq, Repr

def Command.sets? : Command → Option (VariantId × Aspect)
  | .create .. => none
  | .addFlavor id .. => some (id, .flavors)
  | .setLibraries id _ => some (id, .libraries)
  | .setJars id _ => some (id, .jars)
  | .setOutput id _ => some (id, .output)

/-- What a call makes of its variant, and how it ends. -/
def Command.applied (w : World) (v : Variant) : Command → Variant × Except Fault Unit
  | .create .. => (v, .ok ())
  | .addFlavor _ flavor sources => (v.addFlavor flavor sources, .ok ())
  | .setLibraries _ direct =>
    let r := v.setLibraries w.libraries (v.tested.bind w.variant?) direct
    (r.1, r.2.mapError .structural)
  | .setJars _ jars => (v.setJars jars, .ok ())
  | .setOutput _ output =>
    match v.setOutput output with
    | .error fault => (v, .error (.structural fault))
    | .ok changed => (changed, .ok ())

@[simp] theorem libraries_replace (u : Variant) : (w.replace id u).libraries = w.libraries := rfl

theorem replace_self (hv : w.variant? id = some v) : w.replace id v = w := by
  obtain ⟨hlt, hget⟩ := Array.getElem?_eq_some_iff.mp hv
  have hsame : w.variants.setIfInBounds id v = w.variants := by
    subst hget
    simp [Array.setIfInBounds, hlt]
  rw [replace, hsame]

theorem replace_comm (h : id ≠ id') (u v : Variant) :
    (w.replace id u).replace id' v = (w.replace id' v).replace id u := by
  simp only [replace]
  rw [Array.setIfInBounds_comm _ _ h]

theorem replace_replace (u v : Variant) : (w.replace id u).replace id v = w.replace id v := by
  simp [replace]

theorem perform_of_none (hc : (c.sets?.map Prod.fst) = some id) (hv : w.variant? id = none) :
    w.perform c = (w, .ok ()) := by
  cases c <;> cases hc <;> simp only [perform, hv]

theorem perform_of_some (hc : (c.sets?.map Prod.fst) = some id) (hv : w.variant? id = some v) :
    w.perform c = (w.replace id (c.applied w v).1, (c.applied w v).2) := by
  cases c with
  | create => cases hc
  | setOutput id output =>
    cases hc
    simp only [perform, Command.applied, hv]
    cases v.setOutput output with
    | error fault => simp only [replace_self hv]
    | ok changed => rfl
  | _ =>
    cases hc
    simp only [perform, Command.applied, hv]

theorem Command.applied_changed (w : World) (v : Variant) (hc : c.sets?.map Prod.fst = some id) :
    (c.applied w v).1 = v ∨ w.Changed id v c (c.applied w v).1 := by
  cases c with
  | create => cases hc
  | addFlavor =>
    cases hc
    exact .inr .addFlavor
  | setLibraries =>
    cases hc
    exact .inr .setLibraries
  | setJars =>
    cases hc
    exact .inr .setJars
  | setOutput _ output =>
    cases hc
    simp only [applied]
    cases hu : v.setOutput output with
    | error => exact .inl rfl
    | ok u => exact .inr (.setOutput hu)

theorem Command.applied_tested (w : World) (v : Variant) (hc : c.sets?.map Prod.fst = some id) :
    (c.applied w v).1.tested = v.tested := by
  rcases applied_changed w v hc with h | h
  · rw [h]
  · exact h.tested

theorem Command.applied_kind (w : World) (v : Variant) (hc : c.sets?.map Prod.fst = some id) :
    (c.applied w v).1.kind = v.kind := by
  rcases applied_changed w v hc with h | h
  · rw [h]
  · exact h.kind

/-- A call reads of the other variants only what the tested one lends. -/
theorem Command.applied_replace (u : Variant) (c : Command)
    (h : (v.tested.bind (w.replace id u).variant?).map Variant.lends = (v.tested.bind w.variant?).map Variant.lends) :
    c.applied (w.replace id u) v = c.applied w v := by
  cases c with
  | setLibraries _ direct =>
    simp only [applied, libraries_replace]
    rw [Variant.setLibraries_congr w.libraries v direct h]
  | _ => rfl

/-- On this variant the two calls do the same in both orders, and end as they would alone. -/
structure Command.Independent (w : World) (v : Variant) (c c' : Command) : Prop where
  variant : (c'.applied w (c.applied w v).1).1 = (c.applied w (c'.applied w v).1).1
  first : (c.applied w (c'.applied w v).1).2 = (c.applied w v).2
  second : (c'.applied w (c.applied w v).1).2 = (c'.applied w v).2

theorem Command.Independent.symm (h : Command.Independent w v c c') : Command.Independent w v c' c :=
  ⟨h.variant.symm, h.second, h.first⟩

theorem Command.independent_setLibraries {a : Aspect} (w : World) (v : Variant) (direct : List LibraryId)
    (ha : c.sets? = some (id, a)) (hne : a ≠ .libraries) : Independent w v (.setLibraries id direct) c := by
  have hset := Variant.setLibraries_of_any w.libraries (v.tested.bind w.variant?) direct
  cases c with
  | create => cases ha
  | setLibraries =>
    cases ha
    exact absurd rfl hne
  | addFlavor _ flavor sources =>
    have htested : (v.addFlavor flavor sources).tested = v.tested := rfl
    rcases hset with ⟨_, h⟩ | ⟨_, h⟩ <;> constructor <;> simp only [applied, htested, h] <;> rfl
  | setJars _ jars =>
    have htested : (v.setJars jars).tested = v.tested := rfl
    rcases hset with ⟨_, h⟩ | ⟨_, h⟩ <;> constructor <;> simp only [applied, htested, h] <;> rfl
  | setOutput _ output =>
    rcases v.setOutput_of_role output with ⟨_, ho⟩ | ⟨ht, ho⟩
    · rcases hset with ⟨_, h⟩ | ⟨_, h⟩ <;> constructor <;> simp only [applied, h, ho]
    · have htested (u : Variant) : ({ u with role := .library (some output) } : Variant).tested = none := rfl
      simp only [ht] at hset
      rcases hset with ⟨_, h⟩ | ⟨_, h⟩ <;> constructor <;> simp only [applied, ho, htested, ht, h]

theorem Command.independent_setOutput {a : Aspect} (w : World) (v : Variant) (output : LibraryId)
    (ha : c.sets? = some (id, a)) (hne : a ≠ .output) : Independent w v (.setOutput id output) c := by
  cases c with
  | create => cases ha
  | setLibraries _ direct =>
    cases ha
    have hset : (setOutput id output).sets? = some (id, .output) := rfl
    exact (independent_setLibraries w v direct hset nofun).symm
  | setOutput =>
    cases ha
    exact absurd rfl hne
  | addFlavor _ flavor sources =>
    rcases v.setOutput_of_role output with ⟨_, h⟩ | ⟨_, h⟩ <;> constructor <;> simp [applied, h, Variant.addFlavor]
  | setJars _ jars =>
    rcases v.setOutput_of_role output with ⟨_, h⟩ | ⟨_, h⟩ <;> constructor <;> simp [applied, h, Variant.setJars]

/-- Calls that set different aspects do not meet in any field. -/
theorem Command.independent {a a' : Aspect} (w : World) (v : Variant) (ha : c.sets? = some (id, a))
    (ha' : c'.sets? = some (id, a')) (hne : a ≠ a') : Independent w v c c' := by
  cases c with
  | create => cases ha
  | setLibraries =>
    cases ha
    exact independent_setLibraries w v _ ha' hne.symm
  | setOutput =>
    cases ha
    exact independent_setOutput w v _ ha' hne.symm
  | addFlavor =>
    cases c' with
    | create => cases ha'
    | setLibraries =>
      cases ha'
      exact (independent_setLibraries w v _ ha hne).symm
    | setOutput =>
      cases ha'
      exact (independent_setOutput w v _ ha hne).symm
    | addFlavor =>
      cases ha
      cases ha'
      exact absurd rfl hne
    | setJars => exact ⟨rfl, rfl, rfl⟩
  | setJars =>
    cases c' with
    | create => cases ha'
    | setLibraries =>
      cases ha'
      exact (independent_setLibraries w v _ ha hne).symm
    | setOutput =>
      cases ha'
      exact (independent_setOutput w v _ ha hne).symm
    | addFlavor => exact ⟨rfl, rfl, rfl⟩
    | setJars =>
      cases ha
      cases ha'
      exact absurd rfl hne

/-! ## Calls on a world -/

/-- Both calls leave the same world in either order, and each ends as it would without the other. -/
structure Commute (w : World) (c c' : Command) : Prop where
  world : ((w.perform c).1.perform c').1 = ((w.perform c').1.perform c).1
  first : ((w.perform c').1.perform c).2 = (w.perform c).2
  second : ((w.perform c).1.perform c').2 = (w.perform c').2

/-- One call flattens the libraries of a test, the other changes what the tested library lends. -/
inductive Interferes (w : World) : Command → Command → Prop
  | setOutput {test library : VariantId} {t l : Variant} {direct : List LibraryId} {output : LibraryId} :
    w.variant? test = some t → t.tested = some library → w.variant? library = some l → l.kind = .library →
    Interferes w (.setLibraries test direct) (.setOutput library output)
  | setLibraries {test library : VariantId} {t l : Variant} {direct lent : List LibraryId} :
    w.variant? test = some t → t.tested = some library → w.variant? library = some l → l.kind = .library →
    Interferes w (.setLibraries test direct) (.setLibraries library lent)

theorem Commute.symm (h : w.Commute c c') : w.Commute c' c :=
  ⟨h.world.symm, h.second, h.first⟩

/-- A variant does not test itself, so what it becomes has no effect on what it flattens. -/
theorem Sound.tested_replace (hw : w.Sound) (hv : w.variant? id = some v) (u : Variant) :
    v.tested.bind (w.replace id u).variant? = v.tested.bind w.variant? := by
  cases ht : v.tested with
  | none => rfl
  | some t => exact variant?_replace_of_ne (Nat.ne_of_lt (hw.tested_lt _ _ _ hv ht)) u

theorem perform_perform (hw : w.Sound) (hv : w.variant? id = some v) (hc : c.sets?.map Prod.fst = some id)
    (hc' : c'.sets?.map Prod.fst = some id) :
    (w.perform c).1.perform c' =
      (w.replace id (c'.applied w (c.applied w v).1).1, (c'.applied w (c.applied w v).1).2) := by
  rw [perform_of_some hc hv, perform_of_some hc' (variant?_replace_self hv _), replace_replace,
    Command.applied_replace _ c' (by rw [Command.applied_tested w v hc, hw.tested_replace hv])]

theorem commute_of_aspect_ne {a a' : Aspect} (hw : w.Sound) (ha : c.sets? = some (id, a))
    (ha' : c'.sets? = some (id, a')) (hne : a ≠ a') : w.Commute c c' := by
  have hid : c.sets?.map Prod.fst = some id := by rw [ha]; rfl
  have hid' : c'.sets?.map Prod.fst = some id := by rw [ha']; rfl
  cases hv : w.variant? id with
  | none =>
    have hc := perform_of_none hid hv
    have hc' := perform_of_none hid' hv
    constructor <;> simp only [hc, hc']
  | some v =>
    obtain ⟨hvariant, hfirst, hsecond⟩ := Command.independent w v ha ha' hne
    constructor
    · rw [perform_perform hw hv hid hid', perform_perform hw hv hid' hid, hvariant]
    · rw [perform_perform hw hv hid' hid, perform_of_some hid hv, hfirst]
    · rw [perform_perform hw hv hid hid', perform_of_some hid' hv, hsecond]

theorem Command.applied_lends (w : World) (v : Variant) (hc : c.sets?.map Prod.fst = some id)
    (h : v.kind = .library → (∀ output, c ≠ .setOutput id output) ∧ ∀ direct, c ≠ .setLibraries id direct) :
    (c.applied w v).1.lends = v.lends := by
  by_cases hkind : v.kind = .library
  · cases c with
    | create => cases hc
    | addFlavor => rfl
    | setJars => rfl
    | setLibraries _ direct =>
      cases hc
      exact absurd rfl ((h hkind).2 direct)
    | setOutput _ output =>
      cases hc
      exact absurd rfl ((h hkind).1 output)
  · rw [Variant.lends_of_kind_ne hkind, Variant.lends_of_kind_ne (applied_kind w v hc ▸ hkind)]

/-- What a call does is not changed by a call on another variant that does not interfere. -/
theorem perform_after (hc : c.sets?.map Prod.fst = some id) (hc' : c'.sets?.map Prod.fst = some id')
    (hne : id ≠ id') (hfree : ¬ w.Interferes c c') (hv : w.variant? id = some v) :
    (w.perform c').1.perform c = ((w.perform c').1.replace id (c.applied w v).1, (c.applied w v).2) := by
  cases hv' : w.variant? id' with
  | none => rw [perform_of_none hc' hv', perform_of_some hc hv]
  | some v' =>
    rw [perform_of_some hc' hv']
    have hsame : (w.replace id' (c'.applied w v').1).variant? id = some v := by
      rw [variant?_replace_of_ne hne, hv]
    have hread : c.applied (w.replace id' (c'.applied w v').1) v = c.applied w v := by
      cases c with
      | setLibraries _ direct =>
        cases hc
        refine Command.applied_replace _ _ ?_
        cases ht : v.tested with
        | none => rfl
        | some t =>
          simp only [Option.bind_some]
          by_cases htid : t = id'
          · subst htid
            rw [variant?_replace_self hv', hv', Option.map_some, Option.map_some,
              Command.applied_lends w v' hc' fun hkind => ⟨?_, ?_⟩]
            · rintro output rfl
              exact hfree (.setOutput hv ht hv' hkind)
            · rintro lent rfl
              exact hfree (.setLibraries hv ht hv' hkind)
          · rw [variant?_replace_of_ne htid]
      | _ => rfl
    rw [perform_of_some hc hsame, hread]

theorem commute_of_none (hc : c.sets?.map Prod.fst = some id) (hc' : c'.sets?.map Prod.fst = some id')
    (hne : id ≠ id') (hv : w.variant? id = none) : w.Commute c c' := by
  have hlater : (w.perform c').1.variant? id = none := by
    cases hv' : w.variant? id' with
    | none => rw [perform_of_none hc' hv', hv]
    | some v' => rw [perform_of_some hc' hv', variant?_replace_of_ne hne, hv]
  have hbefore := perform_of_none hc hv
  have hafter := perform_of_none hc hlater
  constructor <;> simp only [hbefore, hafter]

theorem commute_of_variant_ne (hc : c.sets?.map Prod.fst = some id) (hc' : c'.sets?.map Prod.fst = some id')
    (hne : id ≠ id') (hfree : ¬ w.Interferes c c') (hfree' : ¬ w.Interferes c' c) : w.Commute c c' := by
  cases hv : w.variant? id with
  | none => exact commute_of_none hc hc' hne hv
  | some v =>
    cases hv' : w.variant? id' with
    | none => exact (commute_of_none hc' hc hne.symm hv').symm
    | some v' =>
      constructor
      · rw [perform_after hc hc' hne hfree hv, perform_after hc' hc hne.symm hfree' hv',
          perform_of_some hc hv, perform_of_some hc' hv', replace_comm hne]
      · rw [perform_after hc hc' hne hfree hv, perform_of_some hc hv]
      · rw [perform_after hc' hc hne.symm hfree' hv', perform_of_some hc' hv']

/-! ## Runs -/

/-- The calls of a run, each with how it ends. -/
def record (w : World) : List Command → List (Command × Except Fault Unit)
  | [] => []
  | c :: rest => (c, (w.perform c).2) :: record (w.perform c).1 rest

/-- Two runs leave the same world, and for each aspect of the variant their calls end the same. -/
structure SameRun (id : VariantId) (w : World) (cs cs' : List Command) : Prop where
  world : w.run cs = w.run cs'
  record (a : Aspect) : (w.record cs).filter (fun r => r.1.sets? = some (id, a)) =
    (w.record cs').filter (fun r => r.1.sets? = some (id, a))

theorem SameRun.refl (id : VariantId) (w : World) (cs : List Command) : SameRun id w cs cs :=
  ⟨rfl, fun _ => rfl⟩

theorem SameRun.trans {cs₁ cs₂ cs₃ : List Command} (h : SameRun id w cs₁ cs₂) (h' : SameRun id w cs₂ cs₃) :
    SameRun id w cs₁ cs₃ :=
  ⟨h.world.trans h'.world, fun a => (h.record a).trans (h'.record a)⟩

theorem SameRun.cons {cs cs' : List Command} (c : Command) (h : SameRun id (w.perform c).1 cs cs') :
    SameRun id w (c :: cs) (c :: cs') :=
  ⟨h.world, fun a => by simp only [World.record, List.filter_cons, h.record a]⟩

theorem sameRun_swap {a a' : Aspect} (hw : w.Sound) (ha : c.sets? = some (id, a))
    (ha' : c'.sets? = some (id, a')) (hne : a ≠ a') (rest : List Command) :
    SameRun id w (c :: c' :: rest) (c' :: c :: rest) := by
  obtain ⟨hworld, hfirst, hsecond⟩ := commute_of_aspect_ne hw ha ha' hne
  constructor
  · show run ((w.perform c).1.perform c').1 rest = run ((w.perform c').1.perform c).1 rest
    rw [hworld]
  · intro b
    -- at most one of the two calls is in the list
    have hnot : ¬(a = b ∧ a' = b) := fun h => hne (h.1.trans h.2.symm)
    simp only [World.record, hworld, hfirst, hsecond, List.filter_cons, ha, ha', Option.some.injEq, Prod.mk.injEq,
      true_and, decide_eq_true_eq]
    split <;> split <;> simp_all

/-- A call moves in front of calls that set other aspects. -/
theorem sameRun_bubble {a : Aspect} {before : List Command} (hw : w.Sound) (ha : c.sets? = some (id, a))
    (hbefore : ∀ b ∈ before, ∃ a', b.sets? = some (id, a') ∧ a' ≠ a) (after : List Command) :
    SameRun id w (before ++ c :: after) (c :: (before ++ after)) := by
  induction before generalizing w with
  | nil => exact .refl id w _
  | cons b before ih =>
    obtain ⟨a', hb, hne⟩ := hbefore b List.mem_cons_self
    have hrest := ih (hw.perform b) fun x hx => hbefore x (List.mem_cons_of_mem _ hx)
    exact (hrest.cons b).trans (sameRun_swap hw hb ha hne _)

theorem sameRun_of_filters {cs cs' : List Command} (hw : w.Sound)
    (hcs : ∀ c ∈ cs, ∃ a, c.sets? = some (id, a)) (hcs' : ∀ c ∈ cs', ∃ a, c.sets? = some (id, a))
    (hfilters : ∀ a, cs.filter (fun c => c.sets? = some (id, a)) = cs'.filter (fun c => c.sets? = some (id, a))) :
    SameRun id w cs cs' := by
  induction cs generalizing w cs' with
  | nil =>
    cases cs' with
    | nil => exact .refl id w _
    | cons c rest =>
      obtain ⟨a, ha⟩ := hcs' c List.mem_cons_self
      have h := hfilters a
      rw [List.filter_cons_of_pos (by rw [ha, decide_eq_true_iff])] at h
      cases h
  | cons c rest ih =>
    obtain ⟨a, ha⟩ := hcs c List.mem_cons_self
    have h := hfilters a
    rw [List.filter_cons_of_pos (by rw [ha, decide_eq_true_iff])] at h
    obtain ⟨before, after, rfl, hbefore, _, hafter⟩ := List.filter_eq_cons_iff.mp h.symm
    have hother : ∀ b ∈ before, ∃ a', b.sets? = some (id, a') ∧ a' ≠ a := by
      intro b hb
      obtain ⟨a', ha'⟩ := hcs' b (List.mem_append_left _ hb)
      refine ⟨a', ha', ?_⟩
      rintro rfl
      exact hbefore b hb (decide_eq_true ha')
    have hrest : SameRun id (w.perform c).1 rest (before ++ after) := by
      refine ih (hw.perform c) (fun x hx => hcs x (List.mem_cons_of_mem _ hx)) (fun x hx => hcs' x ?_) fun a' => ?_
      · rcases List.mem_append.mp hx with hx | hx
        · exact List.mem_append_left _ hx
        · exact List.mem_append_right _ (List.mem_cons_of_mem _ hx)
      · have h' := hfilters a'
        by_cases haa' : a' = a
        · subst haa'
          rw [List.filter_append, hafter, List.filter_eq_nil_iff.mpr hbefore, List.nil_append]
        · have hc : c.sets? ≠ some (id, a') := by
            rw [ha]
            rintro ⟨⟩
            exact haa' rfl
          simpa [List.filter_cons, hc] using h'
    have hmove := sameRun_bubble hw ha hother after
    exact (hrest.cons c).trans ⟨hmove.world.symm, fun a => (hmove.record a).symm⟩

/-- The order of calls on a variant counts only among those that set the same aspect of it. Calls on two
variants have no order, unless one changes what the other flattens. -/
theorem calls_commute_unless_lent (g : LibraryGraph) (before : List Command) :
    (∀ (id : VariantId) (cs cs' : List Command),
      (∀ c ∈ cs, ∃ a, c.sets? = some (id, a)) → (∀ c ∈ cs', ∃ a, c.sets? = some (id, a)) →
      (∀ a, cs.filter (fun c => c.sets? = some (id, a)) = cs'.filter (fun c => c.sets? = some (id, a))) →
      (run { libraries := g } before).run cs = (run { libraries := g } before).run cs' ∧
      ∀ a, ((run { libraries := g } before).record cs).filter (fun r => r.1.sets? = some (id, a)) =
        ((run { libraries := g } before).record cs').filter (fun r => r.1.sets? = some (id, a))) ∧
    ∀ (id id' : VariantId) (a a' : Aspect) (c c' : Command), id ≠ id' →
      c.sets? = some (id, a) → c'.sets? = some (id', a') →
      ¬ (run { libraries := g } before).Interferes c c' → ¬ (run { libraries := g } before).Interferes c' c →
      (run { libraries := g } before).Commute c c' := by
  have hw := (sound_start g).run before
  constructor
  · intro id cs cs' hcs hcs' hfilters
    obtain ⟨hworld, hrecord⟩ := sameRun_of_filters hw hcs hcs' hfilters
    exact ⟨hworld, hrecord⟩
  · intro id id' a a' c c' hne ha ha' hfree hfree'
    have hid : c.sets?.map Prod.fst = some id := by rw [ha]; rfl
    have hid' : c'.sets?.map Prod.fst = some id' := by rw [ha']; rfl
    exact commute_of_variant_ne hid hid' hne hfree hfree'

/-- On the test of a library two of the calls fail: the libraries depend on themselves, and a test has
no output. -/
theorem calls_commute_unless_lent_test_of_library :
    let w := run { libraries := .ofDependencies [[], [3], [2], []] } libraryAndTest
    let free : Command := .addFlavor 1 { name := "free" } { name := "free", manifest := ⟨.here, ["free.xml"]⟩ }
    w.run [.setLibraries 1 [2], free, .setOutput 1 0, .setLibraries 1 [1]] =
      w.run [.setOutput 1 0, .setLibraries 1 [2], .setLibraries 1 [1], free] ∧
    w.Commute (.setLibraries 1 [1]) (.setJars 0 []) := by
  intro w free
  obtain ⟨hone, htwo⟩ := calls_commute_unless_lent (.ofDependencies [[], [3], [2], []]) libraryAndTest
  constructor
  · refine (hone 1 [.setLibraries 1 [2], free, .setOutput 1 0, .setLibraries 1 [1]]
      [.setOutput 1 0, .setLibraries 1 [2], .setLibraries 1 [1], free] ?_ ?_ ?_).1
    · simp [Command.sets?, free]
    · simp [Command.sets?, free]
    · intro a
      cases a <;> rfl
  · exact htwo 1 0 .libraries .jars _ _ (by decide) rfl rfl nofun nofun

/-- A test of a library without output can have no libraries, so the output comes first. -/
example : (testWithoutOutput.perform (.setLibraries 1 [])).2 = .error (.structural .testedWithoutOutput) ∧
    ((testWithoutOutput.perform (.setOutput 0 0)).1.perform (.setLibraries 1 [])).2 = .ok () := by
  constructor <;> cbv

end World

end BuildVariants
