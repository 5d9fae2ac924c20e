import BuildVariants.Proofs.WellShaped

/-!
# Tables in another order

A table is read by its keys, so the order of its entries counts only where a table stands for a list. Two
values are `Value.Reordered` if they are tables that give reordered values for every key, or else the same
value; lists are never reordered. What a build reads for the layers of a variant is then the same
(`Description.layered_agree`), where the shape is as documented. Only the fault of an unknown kind may show
the entries of a table in their order, so failing builds are not compared further (`Agree`).
-/

namespace BuildVariants

/-! ## Computations that agree -/

/-- Both fail, or both give a value and the values are related. -/
inductive Agree {ε ε' α β : Type} (R : α → β → Prop) : Except ε α → Except ε' β → Prop
  | ok {a : α} {b : β} : R a b → Agree R (.ok a) (.ok b)
  | error {e : ε} {e' : ε'} : Agree R (.error e) (.error e')

namespace Agree

variable {ε ε' α β γ δ : Type} {R : α → β → Prop} {S : γ → δ → Prop} {x : Except ε α} {y : Except ε' β}

theorem bind {f : α → Except ε γ} {g : β → Except ε' δ} (h : Agree R x y)
    (hfg : ∀ a b, x = .ok a → y = .ok b → R a b → Agree S (f a) (g b)) : Agree S (x >>= f) (y >>= g) := by
  cases h with
  | ok hab => exact hfg _ _ rfl rfl hab
  | error => exact .error

theorem bind_eq {x y : Except ε α} {f : α → Except ε γ} {g : α → Except ε δ} (h : x = y)
    (hfg : ∀ a, x = .ok a → Agree S (f a) (g a)) : Agree S (x >>= f) (y >>= g) := by
  cases h
  cases x with
  | ok a => exact hfg a rfl
  | error e => exact .error

theorem of_eq {R : α → α → Prop} {x y : Except ε α} (h : x = y) (hR : ∀ a, R a a) : Agree R x y := by
  cases h
  cases x with
  | ok a => exact .ok (hR a)
  | error e => exact .error

theorem of_iff (h : (∃ b, y = .ok b) ↔ ∃ a, x = .ok a) (hR : ∀ a b, x = .ok a → y = .ok b → R a b) : Agree R x y := by
  cases x with
  | ok a =>
    obtain ⟨b, rfl⟩ := h.mpr ⟨a, rfl⟩
    exact .ok (hR a b rfl rfl)
  | error e =>
    cases y with
    | error e' => exact .error
    | ok b =>
      obtain ⟨a, ha⟩ := h.mp ⟨b, rfl⟩
      cases ha

theorem exists_ok {a : α} (h : Agree R (.ok a : Except ε α) y) : ∃ b, y = .ok b ∧ R a b := by
  cases h with
  | ok hab => exact ⟨_, rfl, hab⟩

theorem exists_error {e : ε} (h : Agree R (.error e : Except ε α) y) : ∃ e', y = .error e' := by
  cases h with
  | error => exact ⟨_, rfl⟩

end Agree

/-! ## Values with reordered tables -/

/-- The same keys with reordered values, in any order; a value that is no table is the same. -/
inductive Value.Reordered : Value → Value → Prop
  | same (v : Value) : Reordered v v
  | table {t t' : Table} : (∀ key, Option.Rel Reordered (t.get? key) (t'.get? key)) →
    Reordered (.table t) (.table t')

def Table.Reordered (t t' : Table) : Prop := ∀ key, Option.Rel Value.Reordered (t.get? key) (t'.get? key)

namespace Value.Reordered

variable {v v' : Value} {o o' : Option Value}

theorem refl_option : ∀ o : Option Value, Option.Rel Value.Reordered o o
  | none => .none
  | some v => .some (.same v)

theorem getD (h : Option.Rel Value.Reordered o o') (missing : Value) :
    Value.Reordered (o.getD missing) (o'.getD missing) := by
  cases h with
  | none => exact .same missing
  | some h => exact h

theorem exists_table {t : Table} (h : Value.Reordered (.table t) v') : ∃ t', v' = .table t' ∧ t.Reordered t' := by
  cases h with
  | same => exact ⟨t, rfl, fun key => refl_option _⟩
  | table h => exact ⟨_, rfl, h⟩

theorem exists_table_right {t : Table} (h : Option.Rel Value.Reordered (some (.table t)) o') :
    ∃ t' : Table, o' = some (.table t') ∧ t.Reordered t' := by
  cases h with
  | some h =>
    obtain ⟨t', rfl, htt'⟩ := h.exists_table
    exact ⟨t', rfl, htt'⟩

theorem exists_table_left {t' : Table} (h : Option.Rel Value.Reordered o (some (.table t'))) :
    ∃ t : Table, o = some (.table t) ∧ t.Reordered t' := by
  cases h with
  | some h =>
    cases h with
    | same => exact ⟨t', rfl, fun key => refl_option _⟩
    | table h => exact ⟨_, rfl, h⟩

theorem eq_of_not_isTable (h : v.Reordered v') (hv : ¬v.IsTable) : v' = v := by
  cases h with
  | same => rfl
  | table => exact absurd ⟨_, rfl⟩ hv

theorem eq_of_isTexts (h : v.Reordered v') (hv : v.IsTexts) : v' = v :=
  h.eq_of_not_isTable fun ⟨_, ht⟩ => by
    obtain ⟨_, hns⟩ := hv
    cases ht.symm.trans hns

end Value.Reordered

namespace Table

variable {t t' : Table}

theorem get?_isSome {key : String} : (t.get? key).isSome ↔ key ∈ t.keys := by
  constructor
  · intro h
    obtain ⟨v, hv⟩ := Option.isSome_iff_exists.mp h
    exact mem_keys_of_get? hv
  · intro h
    obtain ⟨v, hv⟩ := exists_get? h
    rw [hv]
    rfl

theorem isEmpty_iff : t.isEmpty ↔ ∀ key, ¬(t.get? key).isSome := by
  simp only [get?_isSome]
  cases t with
  | nil => exact ⟨fun _ _ => List.not_mem_nil, fun _ => rfl⟩
  | cons e rest => exact ⟨nofun, fun h => absurd List.mem_cons_self (h e.1)⟩

theorem has_eq (t : Table) (key : String) : t.has key = (t.get? key).isSome := by
  rw [has, get?, Option.isSome_map, Bool.eq_iff_iff, List.any_eq_true, List.find?_isSome]

theorem isSome_of_rel {o o' : Option Value} (h : Option.Rel Value.Reordered o o') : o'.isSome = o.isSome := by
  cases h <;> rfl

theorem Reordered.refl (t : Table) : t.Reordered t := fun _ => Value.Reordered.refl_option _

theorem Reordered.mem_keys (h : t.Reordered t') {key : String} : key ∈ t'.keys ↔ key ∈ t.keys := by
  rw [← get?_isSome, ← get?_isSome, isSome_of_rel (h key)]

theorem Reordered.isEmpty_eq (h : t.Reordered t') : t'.isEmpty = t.isEmpty := by
  rw [Bool.eq_iff_iff, isEmpty_iff, isEmpty_iff]
  exact forall_congr' fun key => by rw [isSome_of_rel (h key)]

theorem Reordered.getD (h : t.Reordered t') (key : String) (missing : Value) :
    Value.Reordered (t.getD key missing) (t'.getD key missing) := Value.Reordered.getD (h key) missing

theorem getD_eq_of_texts {key : String} (h : Option.Rel Value.Reordered (t.get? key) (t'.get? key))
    (ht : t.Holds key Value.IsTexts) : t'.getD key (.list []) = t.getD key (.list []) :=
  (Value.Reordered.getD h _).eq_of_isTexts (ht.getD isTexts_nil)

/-- Keys in another order, and so on in the tables that the entries hold. -/
theorem reordered_of_perm {u : Table} (hin : List.Forall₂ (fun e e' => e.1 = e'.1 ∧ Value.Reordered e.2 e'.2) t u)
    (hkeys : u.keys.Nodup) (h : u.Perm t') : t.Reordered t' := by
  intro key
  rw [get?_eq_of_perm hkeys h]
  clear hkeys h
  induction hin with
  | nil => exact .none
  | @cons e e' _ _ he _ ih =>
    obtain ⟨hkey, hvalue⟩ := he
    simp only [get?, List.find?_cons, ← hkey] at ih ⊢
    split
    · exact .some hvalue
    · exact ih

/-! ## Reading by keys -/

theorem Reordered.field_eq {α : Type} (h : t.Reordered t') (owner key : String) (expected : ValueType)
    {accept : Value → Option α} (haccept : ∀ u, accept (.table u) = none) :
    t'.field owner key expected accept = t.field owner key expected accept := by
  have hkey := h key
  unfold field
  generalize t.get? key = o at hkey
  generalize t'.get? key = o' at hkey
  cases hkey with
  | none => rfl
  | some hv =>
    cases hv with
    | same => rfl
    | table =>
      dsimp only
      rw [haccept, haccept]
      rfl

theorem Reordered.textField_eq (h : t.Reordered t') (owner key : String) :
    t'.textField owner key = t.textField owner key := h.field_eq _ _ _ fun _ => rfl

theorem Reordered.integerField_eq (h : t.Reordered t') (owner key : String) :
    t'.integerField owner key = t.integerField owner key := h.field_eq _ _ _ fun _ => rfl

theorem Reordered.flagField_eq (h : t.Reordered t') (owner key : String) :
    t'.flagField owner key = t.flagField owner key := h.field_eq _ _ _ fun _ => rfl

theorem Reordered.flavor_eq (h : t.Reordered t') (name : String) : Flavor.ofTable t' name = Flavor.ofTable t name := by
  simp only [Flavor.ofTable, h.textField_eq, h.integerField_eq]

theorem Reordered.buildType_eq (h : t.Reordered t') (name : String) :
    BuildType.ofTable t' name = BuildType.ofTable t name := by
  simp only [BuildType.ofTable, h.textField_eq, h.flagField_eq]

/-- The same name, and tables that differ in their order only. -/
def NamedAlike (p p' : String × Table) : Prop := p'.1 = p.1 ∧ p.2.Reordered p'.2

theorem named_text_agree {sort : TableSort} {s : String} (h : Option.Rel Value.Reordered (t.get? s) (t'.get? s)) :
    Agree NamedAlike (named sort (.table t) (.string s)) (named sort (.table t') (.string s)) := by
  by_cases hfound : ∃ u : Table, t.get? s = some (.table u)
  · obtain ⟨u, hu⟩ := hfound
    obtain ⟨u', hu', huu'⟩ := Value.Reordered.exists_table_right (hu ▸ h)
    rw [named_of_get? hu, named_of_get? hu']
    exact .ok ⟨rfl, huu'⟩
  · have hmissing : ∀ u' : Table, t'.get? s ≠ some (.table u') := by
      intro u' hu'
      obtain ⟨u, hu, _⟩ := Value.Reordered.exists_table_left (hu' ▸ h)
      exact hfound ⟨u, hu⟩
    rw [named_missing fun u hu => hfound ⟨u, hu⟩, named_missing hmissing]
    exact .error

theorem named_agree {sort : TableSort} {parent parent' : Value} (h : parent.Reordered parent') (name : Value) :
    Agree NamedAlike (named sort parent name) (named sort parent' name) := by
  cases h with
  | same => exact .of_eq rfl fun p => ⟨rfl, .refl p.2⟩
  | table h =>
    cases name with
    | string s => exact named_text_agree (h s)
    | _ => exact .of_eq rfl fun p => ⟨rfl, .refl p.2⟩

theorem named_table {sort : TableSort} {parent name : Value} {s : String} (h : named sort parent name = .ok (s, t)) :
    ∃ tables : Table, parent = .table tables ∧ tables.get? s = some (.table t) := by
  cases name with
  | string n =>
    obtain ⟨rfl, htables⟩ := named_ok h
    exact htables
  | _ =>
    unfold named at h
    obtain ⟨_, _, h⟩ := bind_eq_ok.mp h
    dsimp only at h
    split at h
    · obtain ⟨_, _, h⟩ := bind_eq_ok.mp h
      cases h
    · cases h

end Table

namespace Description

variable {files : Files} {reader : ManifestReader} {d d' : Description} {v v' : Value} {t t' : Table}

theorem path_eq (hbase : d'.baseDirectory = d.baseDirectory) (h : v.Reordered v') : d'.path v' = d.path v := by
  cases h with
  | same => rw [path, path, hbase]
  | table => rfl

theorem optionalPath_eq (hbase : d'.baseDirectory = d.baseDirectory) (h : v.Reordered v') :
    d'.optionalPath v' = d.optionalPath v := by
  have hempty : v'.isEmpty = v.isEmpty := by
    cases h with
    | same => rfl
    | table h => exact Table.Reordered.isEmpty_eq h
  rw [optionalPath, optionalPath, hempty, path_eq hbase h]

theorem paths_eq (hbase : d'.baseDirectory = d.baseDirectory) (v : Value) : d'.paths v = d.paths v := by
  have hpath : d'.path = d.path := funext fun w => path_eq hbase (.same w)
  rw [paths, paths, hpath]

/-- The table of a source set, which may be missing. -/
theorem exists_rawSources (h : t.Reordered t') (ht : t.LayerShape) :
    ∃ raw raw' : Table, t.getD "source_set" (.table []) = .table raw ∧ t'.getD "source_set" (.table []) = .table raw' ∧
      raw.Reordered raw' ∧ raw.SourceSetShape := by
  have hset := h "source_set"
  unfold Table.LayerShape Table.Holds at ht
  unfold Table.getD
  generalize t.get? "source_set" = o at hset ht
  generalize t'.get? "source_set" = o' at hset
  cases hset with
  | none => exact ⟨[], [], rfl, rfl, .refl [], nofun, nofun, nofun⟩
  | some hv =>
    obtain ⟨raw, rfl, hshape⟩ := ht _ rfl
    obtain ⟨raw', rfl, hrel⟩ := hv.exists_table
    exact ⟨raw, raw', rfl, rfl, hrel, hshape⟩

theorem sourceSet_eq (hbase : d'.baseDirectory = d.baseDirectory) (h : t.Reordered t') (ht : t.LayerShape)
    (name : String) : d'.sourceSet t' name = d.sourceSet t name := by
  obtain ⟨raw, raw', hset, hset', hrel, hshape⟩ := exists_rawSources h ht
  have hclasspath : raw'.getD "compile_classpath" (.list []) = raw.getD "compile_classpath" (.list []) :=
    Table.getD_eq_of_texts (hrel _) hshape.classpath
  unfold sourceSet
  rw [hset, hset']
  simp only [Value.asTable, bind, Except.bind, path_eq hbase (hrel.getD _ _), optionalPath_eq hbase (hrel.getD _ _),
    hclasspath, paths_eq hbase]

theorem table_agree {name : String} (h : Option.Rel Value.Reordered (d.data.get? name) (d'.data.get? name)) :
    Agree Table.Reordered (d.table name) (d'.table name) := by
  unfold table
  exact (Table.named_text_agree h).bind fun _ _ _ _ hp => .ok hp.2

theorem kind_agree (h : Option.Rel Value.Reordered (d.data.get? "variant_type") (d'.data.get? "variant_type")) :
    Agree Eq d.kind d'.kind := by
  have hvalue : Value.Reordered (d.data.getD "variant_type" (.string "default"))
      (d'.data.getD "variant_type" (.string "default")) := Value.Reordered.getD h _
  unfold kind
  generalize d.data.getD "variant_type" (.string "default") = v at hvalue
  generalize d'.data.getD "variant_type" (.string "default") = v' at hvalue
  cases hvalue with
  | same => exact .of_eq rfl fun _ => rfl
  | @table t t' _ =>
    have hfails : ∀ x : Except Fault String,
        ∃ e, (x.bind fun s => .error (.description (.unknownKind s)) : Except Fault VariantKind) = .error e := by
      intro x
      cases x <;> exact ⟨_, rfl⟩
    obtain ⟨e, he⟩ := hfails (Value.table t).shown
    obtain ⟨e', he'⟩ := hfails (Value.table t').shown
    dsimp only
    rw [he, he']
    exact .error

/-! ## The layers -/

/-- Equal but for the order of tables and the declared libraries. -/
structure SameButLibraries (d d' : Description) : Prop where
  baseDirectory : d'.baseDirectory = d.baseDirectory
  data : ∀ key, key ≠ "libraries" → Option.Rel Value.Reordered (d.data.get? key) (d'.data.get? key)

theorem addFlavors_agree (h : d.SameButLibraries d') (hshape : ∀ t : Table, d.IsLayer t → t.LayerShape)
    (names : List Value) (v : Variant) : Agree Eq (d.addFlavors names v) (d'.addFlavors names v) := by
  have hflavors : d.flavors.Reordered d'.flavors := Value.Reordered.getD (h.data "flavors" (by decide)) _
  induction names generalizing v with
  | nil => exact .ok rfl
  | cons name names ih =>
    refine (Table.named_agree hflavors name).bind fun ⟨s, t⟩ ⟨s', t'⟩ hst _ ⟨hs, ht⟩ => ?_
    obtain rfl : s' = s := hs
    obtain ⟨tables, htables, hget⟩ := Table.named_table hst
    have hsources : d'.sourceSet t' s' = d.sourceSet t s' :=
      sourceSet_eq h.baseDirectory ht (hshape t (.flavor htables hget)) s'
    dsimp only
    refine .bind_eq (by rw [ht.flavor_eq]) fun flavor _ => .bind_eq hsources.symm fun sources _ => ih _

theorem layered_agree (h : d.SameButLibraries d') (hshape : ∀ t : Table, d.IsLayer t → t.LayerShape)
    (buildType flavors : Value) :
    Agree Eq (d.layered files reader buildType flavors) (d'.layered files reader buildType flavors) := by
  have hbuildTypes : d.buildTypes.Reordered d'.buildTypes := Value.Reordered.getD (h.data "build_types" (by decide)) _
  unfold layered
  refine (table_agree (h.data "default" (by decide))).bind fun t t' ht _ htt' => ?_
  refine (Table.named_agree hbuildTypes buildType).bind fun ⟨s, u⟩ ⟨s', u'⟩ hu _ ⟨hs, huu'⟩ => ?_
  obtain rfl : s' = s := hs
  obtain ⟨tables, htables, hget⟩ := Table.named_table hu
  have hmain : d'.sourceSet t' "main" = d.sourceSet t "main" :=
    sourceSet_eq h.baseDirectory htt' (hshape t (.default (table_ok ht))) _
  have htype : d'.sourceSet u' s' = d.sourceSet u s' :=
    sourceSet_eq h.baseDirectory huu' (hshape u (.buildType htables hget)) _
  dsimp only
  refine .bind_eq (by rw [htt'.flavor_eq]) fun defaults _ => .bind_eq hmain.symm fun mainSources _ => ?_
  refine .bind_eq (by rw [huu'.buildType_eq]) fun type _ => .bind_eq htype.symm fun typeSources _ => ?_
  refine (kind_agree (h.data "variant_type" (by decide))).bind fun kind kind' _ _ hkind => ?_
  subst hkind
  exact .bind_eq rfl fun v _ => .bind_eq rfl fun names _ => addFlavors_agree h hshape names v

end Description

end BuildVariants
