import BuildVariants.Proofs.Instances

/-!
# The known keys of a layer

The table of a flavor or of a build type is read by a list of known keys, each with the type of its
values. The keys are checked in the order of this list (`Table.checkAll`), so of several values of a wrong
type always the same one is reported, wherever it stands in the table. A record that is read holds the
values of the known keys and what stands for the missing ones, and nothing else in the table counts
(`ofTable_reads_known_keys`).
-/

namespace BuildVariants

structure KnownKey where
  name : String
  type : ValueType
  /-- What stands for the value where the key is missing. -/
  missing : Value := .nothing

def Value.integer? : Value → Option Int
  | .integer n => some n
  | _ => none

def Value.flag? : Value → Option Bool
  | .flag b => some b
  | _ => none

namespace Table

variable {t t' : Table} {owner : String} {k : KnownKey} {known : List KnownKey} {fault : DescriptionFault}

/-! ## Checking the keys -/

/-- The key is missing, or its value has the type that belongs to it. -/
def Fits (t : Table) (k : KnownKey) : Prop := ∀ v, t.get? k.name = some v → v.type = k.type

/-- Of the known keys that do not fit, the first one in their list, with its value. -/
def FirstMisfit (t : Table) (known : List KnownKey) (k : KnownKey) (v : Value) : Prop :=
  ∃ before after, known = before ++ k :: after ∧ (∀ k' ∈ before, t.Fits k') ∧
    t.get? k.name = some v ∧ v.type ≠ k.type

def check (t : Table) (owner key : String) (type : ValueType) : Except DescriptionFault Unit :=
  match t.get? key with
  | none => .ok ()
  | some v => if v.type = type then .ok () else .error (.wrongType key owner type v.type)

def checkAll (t : Table) (owner : String) : List KnownKey → Except DescriptionFault Unit
  | [] => pure ()
  | k :: rest => do
    t.check owner k.name k.type
    t.checkAll owner rest

/-- A record that is made once the known keys have been checked. -/
def checked {α : Type} (t : Table) (owner : String) (known : List KnownKey) (made : α) : Except DescriptionFault α := do
  t.checkAll owner known
  pure made

theorem check_eq_ok : t.check owner k.name k.type = .ok () ↔ t.Fits k := by
  unfold check Fits
  cases t.get? k.name with
  | none => simp
  | some v =>
    by_cases hv : v.type = k.type
    · simp [hv]
    · simp [hv]

theorem check_eq_error :
    t.check owner k.name k.type = .error fault ↔
      ∃ v, t.get? k.name = some v ∧ v.type ≠ k.type ∧ fault = .wrongType k.name owner k.type v.type := by
  unfold check
  cases t.get? k.name with
  | none => simp
  | some v =>
    by_cases hv : v.type = k.type
    · simp [hv]
    · dsimp only
      rw [if_neg hv]
      constructor
      · intro h
        cases h
        exact ⟨v, rfl, hv, rfl⟩
      · rintro ⟨w, hw, _, rfl⟩
        cases hw
        rfl

theorem firstMisfit_cons {rest : List KnownKey} {k' : KnownKey} {v : Value} :
    t.FirstMisfit (k :: rest) k' v ↔
      (k' = k ∧ t.get? k.name = some v ∧ v.type ≠ k.type) ∨ (t.Fits k ∧ t.FirstMisfit rest k' v) := by
  constructor
  · rintro ⟨before, after, hsplit, hbefore, hv, htype⟩
    cases before with
    | nil =>
      obtain ⟨rfl, _⟩ := List.cons.inj hsplit
      exact .inl ⟨rfl, hv, htype⟩
    | cons b before =>
      obtain ⟨rfl, hrest⟩ := List.cons.inj hsplit
      obtain ⟨hk, hbefore⟩ := List.forall_mem_cons.mp hbefore
      exact .inr ⟨hk, before, after, hrest, hbefore, hv, htype⟩
  · rintro (⟨rfl, hv, htype⟩ | ⟨hk, before, after, rfl, hbefore, hv, htype⟩)
    · exact ⟨[], rest, rfl, by simp, hv, htype⟩
    · exact ⟨k :: before, after, rfl, List.forall_mem_cons.mpr ⟨hk, hbefore⟩, hv, htype⟩

theorem checkAll_eq_ok : t.checkAll owner known = .ok () ↔ ∀ k ∈ known, t.Fits k := by
  induction known with
  | nil => simp [checkAll, pure_eq_ok]
  | cons k rest ih =>
    rw [checkAll, bind_eq_ok, List.forall_mem_cons]
    constructor
    · rintro ⟨_, hk, hrest⟩
      exact ⟨check_eq_ok.mp hk, ih.mp hrest⟩
    · rintro ⟨hk, hrest⟩
      exact ⟨(), check_eq_ok.mpr hk, ih.mpr hrest⟩

theorem checkAll_eq_error :
    t.checkAll owner known = .error fault ↔
      ∃ k v, t.FirstMisfit known k v ∧ fault = .wrongType k.name owner k.type v.type := by
  -- Along the list of the known keys: where a misfit stands in the table plays no part.
  induction known with
  | nil => simp [checkAll, FirstMisfit, pure, Except.pure]
  | cons k rest ih =>
    rw [checkAll, bind_eq_error]
    simp only [firstMisfit_cons]
    constructor
    · rintro (hk | ⟨_, hk, hrest⟩)
      · obtain ⟨v, hv, htype, rfl⟩ := check_eq_error.mp hk
        exact ⟨k, v, .inl ⟨rfl, hv, htype⟩, rfl⟩
      · obtain ⟨k', v, hfirst, rfl⟩ := ih.mp hrest
        exact ⟨k', v, .inr ⟨check_eq_ok.mp hk, hfirst⟩, rfl⟩
    · rintro ⟨k', v, ⟨rfl, hv, htype⟩ | ⟨hk, hfirst⟩, rfl⟩
      · exact .inl (check_eq_error.mpr ⟨v, hv, htype, rfl⟩)
      · exact .inr ⟨(), check_eq_ok.mpr hk, ih.mpr ⟨k', v, hfirst, rfl⟩⟩

theorem checkAll_congr (h : ∀ k ∈ known, t'.get? k.name = t.get? k.name) :
    t'.checkAll owner known = t.checkAll owner known := by
  induction known with
  | nil => rfl
  | cons k rest ih =>
    obtain ⟨hk, hrest⟩ := List.forall_mem_cons.mp h
    rw [checkAll, checkAll, check, check, hk, ih hrest]

theorem checked_eq_ok {α : Type} {made a : α} :
    t.checked owner known made = .ok a ↔ (∀ k ∈ known, t.Fits k) ∧ made = a := by
  rw [checked, bind_eq_ok, ← checkAll_eq_ok]
  constructor
  · rintro ⟨_, hcheck, hmade⟩
    exact ⟨hcheck, pure_eq_ok.mp hmade⟩
  · rintro ⟨hcheck, hmade⟩
    exact ⟨(), hcheck, pure_eq_ok.mpr hmade⟩

theorem checked_eq_error {α : Type} {made : α} :
    t.checked owner known made = .error fault ↔
      ∃ k v, t.FirstMisfit known k v ∧ fault = .wrongType k.name owner k.type v.type := by
  rw [checked, bind_eq_error, ← checkAll_eq_error]
  constructor
  · rintro (hcheck | ⟨_, _, hpure⟩)
    · exact hcheck
    · cases hpure
  · exact .inl

/-! ## Reading a key -/

/-- `accept` takes the content out of the values of the type and of no others, and `give` puts it back. -/
structure Unwraps {α : Type} (type : ValueType) (accept : Value → Option α) (give : α → Value) : Prop where
  of_type : ∀ v, v.type = type → ∃ a, accept v = some a ∧ give a = v
  of_other : ∀ v, v.type ≠ type → accept v = none

theorem unwraps_text : Unwraps .string Value.text? .string where
  of_type v h := by
    cases v with
    | string s => exact ⟨s, rfl, rfl⟩
    | _ => cases h
  of_other v h := by
    cases v with
    | string => exact absurd rfl h
    | _ => rfl

theorem unwraps_integer : Unwraps .integer Value.integer? .integer where
  of_type v h := by
    cases v with
    | integer n => exact ⟨n, rfl, rfl⟩
    | _ => cases h
  of_other v h := by
    cases v with
    | integer => exact absurd rfl h
    | _ => rfl

theorem unwraps_flag : Unwraps .flag Value.flag? .flag where
  of_type v h := by
    cases v with
    | flag b => exact ⟨b, rfl, rfl⟩
    | _ => cases h
  of_other v h := by
    cases v with
    | flag => exact absurd rfl h
    | _ => rfl

theorem field_eq {α : Type} {type : ValueType} {accept : Value → Option α} {give : α → Value}
    (h : Unwraps type accept give) (t : Table) (owner key : String) :
    t.field owner key type accept = (do t.check owner key type; pure ((t.get? key).bind accept)) := by
  unfold field check
  cases t.get? key with
  | none => rfl
  | some v =>
    by_cases hv : v.type = type
    · obtain ⟨a, ha, _⟩ := h.of_type v hv
      simp only [if_pos hv, ha, Option.bind_some]
      rfl
    · simp only [if_neg hv, h.of_other v hv]
      rfl

theorem elim_of_fits {α : Type} {accept : Value → Option α} {give : α → Value} (h : Unwraps k.type accept give)
    (hk : t.Fits k) : ((t.get? k.name).bind accept).elim k.missing give = t.getD k.name k.missing := by
  cases hv : t.get? k.name with
  | none => rw [getD_of_none hv, Option.bind_none, Option.elim_none]
  | some v =>
    obtain ⟨a, ha, hgive⟩ := h.of_type v (hk v hv)
    rw [getD_of_some hv, Option.bind_some, ha, Option.elim_some, hgive]

def text? (t : Table) (key : String) : Option String := (t.get? key).bind Value.text?

def integer? (t : Table) (key : String) : Option Int := (t.get? key).bind Value.integer?

def flag? (t : Table) (key : String) : Option Bool := (t.get? key).bind Value.flag?

theorem textField_eq (t : Table) (owner key : String) :
    t.textField owner key = (do t.check owner key .string; pure (t.text? key)) := field_eq unwraps_text t owner key

theorem integerField_eq (t : Table) (owner key : String) :
    t.integerField owner key = (do t.check owner key .integer; pure (t.integer? key)) :=
  field_eq unwraps_integer t owner key

theorem flagField_eq (t : Table) (owner key : String) :
    t.flagField owner key = (do t.check owner key .flag; pure (t.flag? key)) := field_eq unwraps_flag t owner key

theorem text_of_fits {key : String} (h : t.Fits ⟨key, .string, .nothing⟩) :
    (t.text? key).elim .nothing .string = t.getD key .nothing := elim_of_fits unwraps_text h

theorem integer_of_fits {key : String} (h : t.Fits ⟨key, .integer, .nothing⟩) :
    (t.integer? key).elim .nothing .integer = t.getD key .nothing := elim_of_fits unwraps_integer h

theorem flag_of_fits {key : String} {b : Bool} (h : t.Fits ⟨key, .flag, .flag b⟩) :
    .flag ((t.flag? key).getD b) = t.getD key (.flag b) := by
  have helim : (t.flag? key).elim (.flag b) .flag = t.getD key (.flag b) := elim_of_fits unwraps_flag h
  rw [← helim]
  cases t.flag? key with
  | none => rfl
  | some => rfl

/-! ## Other entries of the table -/

theorem get?_append_of_unknown {extra : Table} {key : String} (h : key ∉ extra.keys) :
    get? (t ++ extra) key = t.get? key := by
  have hnone : extra.find? (fun e => e.1 = key) = none := by
    apply List.find?_eq_none.mpr
    intro e he hkey
    exact h (List.mem_map.mpr ⟨e, he, of_decide_eq_true hkey⟩)
  rw [get?, get?, List.find?_append, hnone, Option.or_none]

theorem get?_of_added {extra : Table} {key : String} (hkeys : t'.keys.Nodup) (hperm : t'.Perm (t ++ extra))
    (h : key ∉ extra.keys) : t'.get? key = t.get? key := by
  rw [← get?_eq_of_perm hkeys hperm key, get?_append_of_unknown h]

end Table

/-! ## Records of known keys -/

/-- A table is read by the known keys: it is accepted if every one fits, and then all of them are kept;
else the first misfit is reported. The order of the table and its other keys do not count, as long as no key
stands in it twice. -/
structure ReadsKnown {α : Type} (known : List KnownKey) (read : Table → String → Except DescriptionFault α)
    (name : α → String) (entries : α → Table) : Prop where
  accepts_iff : ∀ t owner, (∃ a, read t owner = .ok a) ↔ ∀ k ∈ known, t.Fits k
  keeps : ∀ t owner a, read t owner = .ok a →
    name a = owner ∧ entries a = known.map fun k => (k.name, t.getD k.name k.missing)
  rejects_iff : ∀ t owner fault, read t owner = .error fault ↔
    ∃ k v, t.FirstMisfit known k v ∧ fault = .wrongType k.name owner k.type v.type
  rejects_nothing : ∀ t owner k, k ∈ known → t.get? k.name = some .nothing → ∃ fault, read t owner = .error fault
  unordered : ∀ t t' extra : Table, t'.keys.Nodup → t'.Perm (t ++ extra) → (∀ k ∈ known, k.name ∉ extra.keys) →
    ∀ owner, read t' owner = read t owner

/-- What is left to show of a reading that checks the keys and then makes its record. -/
theorem ReadsKnown.of_checked {α : Type} {known : List KnownKey} {read : Table → String → Except DescriptionFault α}
    {name : α → String} {entries : α → Table} (made : Table → String → α)
    (hread : ∀ t owner, read t owner = t.checked owner known (made t owner))
    (hname : ∀ t owner, name (made t owner) = owner)
    (hentries : ∀ t owner, (∀ k ∈ known, t.Fits k) →
      entries (made t owner) = known.map fun k => (k.name, t.getD k.name k.missing))
    (hmade : ∀ t t' owner, (∀ k ∈ known, t'.get? k.name = t.get? k.name) → made t' owner = made t owner)
    (htypes : ∀ k ∈ known, k.type ≠ .nothing) :
    ReadsKnown known read name entries where
  accepts_iff t owner := by
    simp only [hread, Table.checked_eq_ok]
    constructor
    · rintro ⟨_, hfits, _⟩
      exact hfits
    · intro hfits
      exact ⟨made t owner, hfits, rfl⟩
  keeps t owner a h := by
    rw [hread] at h
    obtain ⟨hfits, rfl⟩ := Table.checked_eq_ok.mp h
    exact ⟨hname t owner, hentries t owner hfits⟩
  rejects_iff t owner fault := by
    rw [hread]
    exact Table.checked_eq_error
  rejects_nothing t owner k hk hnull := by
    cases hresult : read t owner with
    | error fault => exact ⟨fault, rfl⟩
    | ok a =>
      rw [hread] at hresult
      obtain ⟨hfits, _⟩ := Table.checked_eq_ok.mp hresult
      exact absurd (hfits k hk .nothing hnull).symm (htypes k hk)
  unordered t t' extra hkeys hperm hextra owner := by
    have hget : ∀ k ∈ known, t'.get? k.name = t.get? k.name := by
      intro k hk
      exact Table.get?_of_added hkeys hperm (hextra k hk)
    rw [hread, hread, Table.checked, Table.checked, Table.checkAll_congr hget, hmade t t' owner hget]

/-! ## Flavors -/

namespace Flavor

/-- The keys of a flavor in the order in which they are checked. -/
def known : List KnownKey :=
  [{ name := "package_name", type := .string }, { name := "package_name_suffix", type := .string },
    { name := "version_code", type := .integer }, { name := "version_name", type := .string },
    { name := "min_sdk_version", type := .integer }, { name := "target_sdk_version", type := .integer },
    { name := "test_package_name", type := .string }, { name := "test_instrumentation_runner", type := .string }]

/-- A flavor as a table with all known keys. -/
def entries (flavor : Flavor) : Table :=
  let text (s : Setting String) : Value := s.elim .nothing .string
  let integer (n : Setting Int) : Value := n.elim .nothing .integer
  [("package_name", text flavor.packageName), ("package_name_suffix", text flavor.packageNameSuffix),
    ("version_code", integer flavor.versionCode), ("version_name", text flavor.versionName),
    ("min_sdk_version", integer flavor.minSdkVersion), ("target_sdk_version", integer flavor.targetSdkVersion),
    ("test_package_name", text flavor.testPackageName),
    ("test_instrumentation_runner", text flavor.testInstrumentationRunner)]

/-- The flavor of a table whose known keys fit. -/
def taken (t : Table) (name : String) : Flavor where
  name := name
  packageName := t.text? "package_name"
  packageNameSuffix := t.text? "package_name_suffix"
  versionCode := t.integer? "version_code"
  versionName := t.text? "version_name"
  minSdkVersion := t.integer? "min_sdk_version"
  targetSdkVersion := t.integer? "target_sdk_version"
  testPackageName := t.text? "test_package_name"
  testInstrumentationRunner := t.text? "test_instrumentation_runner"

theorem ofTable_eq (t : Table) (name : String) : ofTable t name = t.checked name known (taken t name) := by
  -- Each field is a check and a content that needs no check, so that the checks alone remain in their order.
  simp only [ofTable, Table.textField_eq, Table.integerField_eq, Table.checked, Table.checkAll, known, bind_assoc,
    pure_bind]
  rfl

theorem entries_taken {t : Table} (h : ∀ k ∈ known, t.Fits k) (name : String) :
    (taken t name).entries = known.map fun k => (k.name, t.getD k.name k.missing) := by
  simp only [known, List.forall_mem_cons] at h
  obtain ⟨h₁, h₂, h₃, h₄, h₅, h₆, h₇, h₈, _⟩ := h
  simp only [entries, taken, known, List.map_cons, List.map_nil, Table.text_of_fits h₁, Table.text_of_fits h₂,
    Table.integer_of_fits h₃, Table.text_of_fits h₄, Table.integer_of_fits h₅, Table.integer_of_fits h₆,
    Table.text_of_fits h₇, Table.text_of_fits h₈]

theorem taken_congr {t t' : Table} (h : ∀ k ∈ known, t'.get? k.name = t.get? k.name) (name : String) :
    taken t' name = taken t name := by
  simp only [known, List.forall_mem_cons] at h
  obtain ⟨h₁, h₂, h₃, h₄, h₅, h₆, h₇, h₈, _⟩ := h
  simp only [taken, Table.text?, Table.integer?, h₁, h₂, h₃, h₄, h₅, h₆, h₇, h₈]

end Flavor

/-! ## Build types -/

namespace BuildType

/-- The keys of a build type in the order in which they are checked. -/
def known : List KnownKey :=
  [{ name := "debuggable", type := .flag, missing := .flag false },
    { name := "jni_debug_build", type := .flag, missing := .flag false },
    { name := "package_name_suffix", type := .string },
    { name := "zip_align", type := .flag, missing := .flag true }]

/-- A build type as a table with all known keys. -/
def entries (type : BuildType) : Table :=
  [("debuggable", .flag type.debuggable), ("jni_debug_build", .flag type.jniDebugBuild),
    ("package_name_suffix", type.packageNameSuffix.elim .nothing .string), ("zip_align", .flag type.zipAlign)]

/-- The build type of a table whose known keys fit. -/
def taken (t : Table) (name : String) : BuildType where
  name := name
  debuggable := (t.flag? "debuggable").getD false
  jniDebugBuild := (t.flag? "jni_debug_build").getD false
  packageNameSuffix := t.text? "package_name_suffix"
  zipAlign := (t.flag? "zip_align").getD true

theorem ofTable_eq (t : Table) (name : String) : ofTable t name = t.checked name known (taken t name) := by
  simp only [ofTable, Table.textField_eq, Table.flagField_eq, Table.checked, Table.checkAll, known, bind_assoc,
    pure_bind]
  rfl

theorem entries_taken {t : Table} (h : ∀ k ∈ known, t.Fits k) (name : String) :
    (taken t name).entries = known.map fun k => (k.name, t.getD k.name k.missing) := by
  simp only [known, List.forall_mem_cons] at h
  obtain ⟨h₁, h₂, h₃, h₄, _⟩ := h
  simp only [entries, taken, known, List.map_cons, List.map_nil, Table.flag_of_fits h₁, Table.flag_of_fits h₂,
    Table.text_of_fits h₃, Table.flag_of_fits h₄]

theorem taken_congr {t t' : Table} (h : ∀ k ∈ known, t'.get? k.name = t.get? k.name) (name : String) :
    taken t' name = taken t name := by
  simp only [known, List.forall_mem_cons] at h
  obtain ⟨h₁, h₂, h₃, h₄, _⟩ := h
  simp only [taken, Table.text?, Table.flag?, h₁, h₂, h₃, h₄]

end BuildType

/-- Flavors and build types are read by their known keys alone, in the order of these keys. -/
theorem ofTable_reads_known_keys :
    ReadsKnown Flavor.known Flavor.ofTable Flavor.name Flavor.entries ∧
      ReadsKnown BuildType.known BuildType.ofTable BuildType.name BuildType.entries := by
  constructor
  · apply ReadsKnown.of_checked Flavor.taken Flavor.ofTable_eq
    · intro t owner
      rfl
    · intro t owner hfits
      exact Flavor.entries_taken hfits owner
    · intro t t' owner hget
      exact Flavor.taken_congr hget owner
    · decide
  · apply ReadsKnown.of_checked BuildType.taken BuildType.ofTable_eq
    · intro t owner
      rfl
    · intro t owner hfits
      exact BuildType.entries_taken hfits owner
    · intro t t' owner hget
      exact BuildType.taken_congr hget owner
    · decide

/-- A flag for a version of the platform comes first here, but the version code is checked before it. -/
def mistyped : Table :=
  [("min_sdk_version", .flag true), ("label", .nothing), ("version_code", .string "7"), ("zip_align", .flag false),
    ("package_name", .string "com.app")]

/-- For a build type there is nothing wrong with that table. -/
theorem ofTable_reads_known_keys_mistyped :
    let t : Table := ("colour", .nothing) :: mistyped.reverse
    t.keys.Nodup ∧ t.Perm (mistyped ++ [("colour", .nothing)]) ∧
      Flavor.ofTable mistyped "free" = .error (.wrongType "version_code" "free" .integer .string) ∧
      Flavor.ofTable t "free" = Flavor.ofTable mistyped "free" ∧
      BuildType.ofTable t "debug" = BuildType.ofTable mistyped "debug" ∧
      ∃ type, BuildType.ofTable mistyped "debug" = .ok type ∧ type.name = "debug" ∧
        type.entries = [("debuggable", .flag false), ("jni_debug_build", .flag false),
          ("package_name_suffix", .nothing), ("zip_align", .flag false)] := by
  intro t
  obtain ⟨hflavor, hbuildType⟩ := ofTable_reads_known_keys
  have hkeys : t.keys.Nodup := by decide
  have hperm : t.Perm (mistyped ++ [("colour", .nothing)]) :=
    ((List.reverse_perm mistyped).cons _).trans (List.perm_append_singleton _ _).symm
  have hmisfit : mistyped.FirstMisfit Flavor.known { name := "version_code", type := .integer } (.string "7") := by
    refine ⟨[_, _], _, rfl, ?_, rfl, by decide⟩
    intro k hk v hv
    rcases List.mem_pair.mp hk with rfl | rfl
    · cases hv
      rfl
    · cases hv
  have hfits : ∀ k ∈ BuildType.known, mistyped.Fits k := by
    intro k hk v hv
    simp only [BuildType.known, List.mem_cons, List.not_mem_nil, or_false] at hk
    rcases hk with rfl | rfl | rfl | rfl
    · cases hv
    · cases hv
    · cases hv
    · cases hv
      rfl
  obtain ⟨type, htype⟩ := (hbuildType.accepts_iff mistyped "debug").mpr hfits
  obtain ⟨hname, hentries⟩ := hbuildType.keeps mistyped "debug" type htype
  refine ⟨hkeys, hperm, (hflavor.rejects_iff _ _ _).mpr ⟨_, _, hmisfit, rfl⟩, ?_, ?_, type, htype, hname, hentries⟩
  · exact hflavor.unordered _ _ _ hkeys hperm (by decide) "free"
  · exact hbuildType.unordered _ _ _ hkeys hperm (by decide) "debug"

end BuildVariants
