import BuildVariants.Proofs.KnownKeys
import BuildVariants.Proofs.Making

/-!
# Values that are read without a check

A description says what is wrong with its named tables and its overrides. Paths, lists of names and the
tables in between are read as they come, and a value of another type ends the reading with a fault of
no words. `Value.NoPaths` and its kin say of each reading which values these are; whatever else goes
wrong in it is a fault of the description.

Each reading is shown to fail with no other faults than those of a family `P` (`FailsOnly`), from what `P`
has to hold for this reading.
-/

namespace BuildVariants

section
variable {ε ε' α : Type} {x : Except ε α}

theorem mapError_eq_ok {f : ε → ε'} {a : α} : x.mapError f = .ok a ↔ x = .ok a := by
  cases x with
  | error e => simp [Except.mapError]
  | ok b => simp [Except.mapError]

theorem mapError_eq_error {f : ε → ε'} {e : ε'} : x.mapError f = .error e ↔ ∃ c, x = .error c ∧ f c = e := by
  cases x with
  | error c => simp [Except.mapError]
  | ok b => simp [Except.mapError]

end

/-! ## Computations with few faults -/

/-- Every fault with which the computation can end belongs to `P`. -/
def FailsOnly {α : Type} (x : Except Fault α) (P : Fault → Prop) : Prop := ∀ e, x = .error e → P e

namespace FailsOnly

variable {α β : Type} {P : Fault → Prop} {x : Except Fault α}

theorem ok (a : α) : FailsOnly (.ok a) P := nofun

theorem bind {f : α → Except Fault β} (hx : FailsOnly x P) (hf : ∀ a, x = .ok a → FailsOnly (f a) P) :
    FailsOnly (x >>= f) P := by
  intro e h
  rcases bind_eq_error.mp h with h | ⟨a, ha, h⟩
  · exact hx e h
  · exact hf a ha e h

theorem map {f : α → β} (hx : FailsOnly x P) : FailsOnly (f <$> x) P := by
  rw [map_eq_pure_bind]
  exact hx.bind fun a _ => .ok (f a)

theorem mapM {l : List β} {f : β → Except Fault α} (h : ∀ b ∈ l, FailsOnly (f b) P) : FailsOnly (l.mapM f) P := by
  induction l with
  | nil => exact .ok []
  | cons b l ih =>
    rw [List.mapM_cons]
    refine .bind (h b List.mem_cons_self) fun a _ => .bind (ih fun c hc => ?_) fun as _ => .ok (a :: as)
    exact h c (List.mem_cons_of_mem _ hc)

end FailsOnly

/-! ## Values -/

namespace Value

def IsText (v : Value) : Prop := ∃ s, v = .string s

def IsTable (v : Value) : Prop := ∃ t, v = .table t

/-- Why a value cannot be read as paths. -/
inductive NoPaths (v : Value) : ValueFault → Prop
  | notIterable {e : Fault} : v.elements = .error e → NoPaths v .notIterable
  | notText {values : List Value} {w : Value} : v.elements = .ok values → w ∈ values → ¬w.IsText →
    NoPaths v .notText

/-- Why the names in a value cannot be looked up. -/
inductive NoNames (v : Value) : ValueFault → Prop
  | notIterable {e : Fault} : v.elements = .error e → NoNames v .notIterable
  | notName {values : List Value} {w : Value} : v.elements = .ok values → w ∈ values → w.isName = false →
    NoNames v .notName
  | notText {values : List Value} {w : Value} : v.elements = .ok values → w ∈ values → ¬w.IsText →
    NoNames v .notText

/-- Why the libraries that are named in a value cannot be made. -/
inductive NoDependencies (v : Value) : ValueFault → Prop
  | notIterable {e : Fault} : v.elements = .error e → NoDependencies v .notIterable
  | notName {values : List Value} {w : Value} : v.elements = .ok values → w ∈ values → w.isName = false →
    NoDependencies v .notName
  | notShowable {values : List Value} {w : Value} : v.elements = .ok values → w ∈ values →
    w.isShowable = false → NoDependencies v .notShowable

/-- Why a value cannot be read as the tables of libraries. -/
inductive NoLibraries (v : Value) : ValueFault → Prop
  | notIterable {e : Fault} : v.elements = .error e → NoLibraries v .notIterable
  | notTable {first : Value} {rest : List Value} : ¬v.IsTable → v.elements = .ok (first :: rest) →
    NoLibraries v .notTable
  | notName {first : Value} {rest : List Value} : ¬v.IsTable → v.elements = .ok (first :: rest) →
    first.isName = false → NoLibraries v .notName

variable {v : Value} {e : Fault}

theorem elements_error (h : v.elements = .error e) : e = .value .notIterable := by
  cases v with
  | list | string | table => cases h
  | _ =>
    cases h
    rfl

theorem asText_error (h : v.asText = .error e) : e = .value .notText ∧ ¬v.IsText := by
  cases v with
  | string => cases h
  | _ =>
    cases h
    exact ⟨rfl, nofun⟩

theorem asTable_error (h : v.asTable = .error e) : e = .value .notTable ∧ ¬v.IsTable := by
  cases v with
  | table => cases h
  | _ =>
    cases h
    exact ⟨rfl, nofun⟩

theorem asText_ok {s : String} (h : v.asText = .ok s) : v = .string s := by
  cases v with
  | string =>
    cases h
    rfl
  | _ => cases h

theorem asTable_ok {t : Table} (h : v.asTable = .ok t) : v = .table t := by
  cases v with
  | table =>
    cases h
    rfl
  | _ => cases h

theorem shown_error (h : v.shown = .error e) : e = .value .notShowable ∧ v.isShowable = false := by
  unfold shown at h
  split at h
  · cases h
  · rename_i hno
    cases h
    exact ⟨rfl, by simpa using hno⟩

theorem shown_of_not_showable (h : v.isShowable = false) : v.shown = .error (.value .notShowable) := by
  rw [shown, if_neg (by simp [h])]

end Value

/-! ## Tables -/

namespace Table

/-- Why a table has no source set. -/
inductive NoSourceSet (t : Table) : ValueFault → Prop
  | notTable {v : Value} : t.get? "source_set" = some v → ¬v.IsTable → NoSourceSet t .notTable
  | manifest {raw : Table} {v : Value} : t.get? "source_set" = some (.table raw) →
    raw.get? "manifest" = some v → ¬v.IsText → NoSourceSet t .notText
  | resources {raw : Table} {v : Value} : t.get? "source_set" = some (.table raw) →
    raw.get? "resources" = some v → v.isEmpty = false → ¬v.IsText → NoSourceSet t .notText
  | classpath {raw : Table} {v : Value} {f : ValueFault} : t.get? "source_set" = some (.table raw) →
    raw.get? "compile_classpath" = some v → v.NoPaths f → NoSourceSet t f

/-- Why the files of a library cannot be had. -/
inductive NoFiles (t : Table) : ValueFault → Prop
  | folder {v : Value} : t.get? "folder" = some v → ¬v.IsText → NoFiles t .notText
  | file {key : String} {v : Value} : t.get? "folder" = none → key = "manifest" ∨ key = "jar_file" →
    t.get? key = some v → ¬v.IsText → NoFiles t .notText
  | resources {v : Value} : t.get? "folder" = none → t.get? "res_folder" = some v → v.isEmpty = false →
    ¬v.IsText → NoFiles t .notText

theorem named_fails {P : Fault → Prop} {sort : TableSort} {parent : Value} {s : String}
    (hmissing : P (.description (.missing sort s))) (hparent : ¬parent.IsTable → P (.value .notTable)) :
    FailsOnly (named sort parent (.string s)) P := by
  unfold named
  refine .bind (fun e h => ?_) fun t _ => ?_
  · obtain ⟨rfl, hno⟩ := Value.asTable_error h
    exact hparent hno
  · dsimp only
    split
    · exact .ok _
    · intro e h
      cases h
      exact hmissing

theorem named_of_get? {sort : TableSort} {t u : Table} {s : String} (h : t.get? s = some (.table u)) :
    named sort (.table t) (.string s) = .ok (s, u) := by
  unfold named
  refine bind_eq_ok.mpr ⟨t, rfl, ?_⟩
  dsimp only
  rw [h]
  rfl

theorem named_missing {sort : TableSort} {t : Table} {s : String} (h : ∀ u : Table, t.get? s ≠ some (.table u)) :
    named sort (.table t) (.string s) = .error (.description (.missing sort s)) := by
  unfold named
  refine bind_eq_error.mpr (.inr ⟨t, rfl, ?_⟩)
  dsimp only
  split
  · rename_i hget
    exact absurd hget (h _)
  · rfl

theorem named_ok {sort : TableSort} {parent : Value} {s name : String} {t : Table}
    (h : named sort parent (.string s) = .ok (name, t)) :
    name = s ∧ ∃ tables : Table, parent = .table tables ∧ tables.get? s = some (.table t) := by
  unfold named at h
  obtain ⟨tables, htables, hfound⟩ := bind_eq_ok.mp h
  dsimp only at hfound
  split at hfound
  · rename_i hget
    cases pure_eq_ok.mp hfound
    exact ⟨rfl, tables, Value.asTable_ok htables, hget⟩
  · cases hfound

end Table

theorem Flavor.ofTable_wrongType {t : Table} {name : String} {f : DescriptionFault} (h : Flavor.ofTable t name = .error f) :
    ∃ key expected found, f = .wrongType key name expected found := by
  rw [Flavor.ofTable_eq, Table.checked_eq_error] at h
  obtain ⟨k, v, _, rfl⟩ := h
  exact ⟨_, _, _, rfl⟩

theorem BuildType.ofTable_wrongType {t : Table} {name : String} {f : DescriptionFault}
    (h : BuildType.ofTable t name = .error f) : ∃ key expected found, f = .wrongType key name expected found := by
  rw [BuildType.ofTable_eq, Table.checked_eq_error] at h
  obtain ⟨k, v, _, rfl⟩ := h
  exact ⟨_, _, _, rfl⟩

/-! ## Names -/

namespace Instances

variable {P : Fault → Prop} {made : List (String × LibraryId)} {values : List Value}

theorem knows_error {v : Value} {e : Fault} (h : knows made v = .error e) :
    e = .value .notName ∧ v.isName = false := by
  unfold knows at h
  split at h
  · cases h
  · split at h
    · cases h
    · rename_i hno
      cases h
      exact ⟨rfl, by simpa using hno⟩

theorem unknown_fails (h : ∀ w ∈ values, w.isName = false → P (.value .notName)) :
    FailsOnly (unknown made values) P := by
  induction values with
  | nil => exact .ok []
  | cons v vs ih =>
    rw [unknown]
    refine .bind (fun e he => ?_) fun known _ => .bind (ih fun w hw => ?_) fun rest _ => .ok _
    · obtain ⟨rfl, hno⟩ := knows_error he
      exact h v List.mem_cons_self hno
    · exact h w (List.mem_cons_of_mem _ hw)

theorem mem_of_unknown {missing : List Value} (h : unknown made values = .ok missing) {w : Value}
    (hw : w ∈ missing) : w ∈ values ∧ knows made w = .ok false := by
  induction values generalizing missing with
  | nil =>
    cases h
    exact absurd hw List.not_mem_nil
  | cons v vs ih =>
    rw [unknown] at h
    obtain ⟨known, hknown, h⟩ := bind_eq_ok.mp h
    obtain ⟨rest, hrest, h⟩ := bind_eq_ok.mp h
    obtain rfl := pure_eq_ok.mp h
    cases known with
    | true =>
      obtain ⟨hmem, hno⟩ := ih hrest hw
      exact ⟨List.mem_cons_of_mem _ hmem, hno⟩
    | false =>
      rcases List.mem_cons.mp hw with rfl | hw
      · exact ⟨List.mem_cons_self, hknown⟩
      · obtain ⟨hmem, hno⟩ := ih hrest hw
        exact ⟨List.mem_cons_of_mem _ hmem, hno⟩

theorem lookUp_fails {v : Value}
    (hunknown : ∀ s ∈ v.texts, find? made s = none → ∀ f, P (.description f))
    (hno : ∀ f, v.NoNames f → P (.value f)) : FailsOnly (lookUp made v) P := by
  unfold lookUp
  refine .bind (fun e h => ?_) fun values hvalues => ?_
  · obtain rfl := Value.elements_error h
    exact hno _ (.notIterable h)
  refine .bind (unknown_fails fun w hw hname => hno _ (.notName hvalues hw hname)) fun missing hmissing => ?_
  split
  · exact .ok _
  rename_i hsome
  refine .bind (.mapM fun w hw e h => ?_) fun ns hns e h => ?_
  · obtain ⟨rfl, htext⟩ := Value.asText_error h
    exact hno _ (.notText hvalues (mem_of_unknown hmissing hw).1 htext)
  -- all that are missing are texts, and there is a first one
  · cases h
    obtain ⟨w, ws, rfl⟩ := List.exists_cons_of_ne_nil hsome
    obtain ⟨hw, hfalse⟩ := mem_of_unknown hmissing List.mem_cons_self
    rw [List.mapM_cons] at hns
    obtain ⟨s, hs, _⟩ := bind_eq_ok.mp hns
    obtain rfl := Value.asText_ok hs
    have hnone : (find? made s).isSome = false := Except.ok.inj hfalse
    exact hunknown s ((Value.mem_texts hvalues).mpr hw) (by simpa using hnone) _

end Instances

namespace Description

open Instances (lookUp)

variable {P : Fault → Prop} {files : Files} {d : Description}

/-! ## Paths and source sets -/

theorem table_fails {name : String} (hmissing : P (.description (.missing .table name))) :
    FailsOnly (d.table name) P := by
  unfold table
  exact .bind (Table.named_fails hmissing fun hno => absurd ⟨_, rfl⟩ hno) fun _ _ => .ok _

theorem path_fails {w : Value} (h : ¬w.IsText → P (.value .notText)) : FailsOnly (d.path w) P := by
  unfold path
  refine .bind (fun e he => ?_) fun _ _ => .ok _
  obtain ⟨rfl, hno⟩ := Value.asText_error he
  exact h hno

theorem optionalPath_fails {w : Value} (h : w.isEmpty = false → ¬w.IsText → P (.value .notText)) :
    FailsOnly (d.optionalPath w) P := by
  unfold optionalPath
  split
  · exact .ok _
  · rename_i hempty
    exact .map (path_fails (h (by simpa using hempty)))

theorem paths_fails {w : Value} (h : ∀ f, w.NoPaths f → P (.value f)) : FailsOnly (d.paths w) P := by
  unfold paths
  refine .bind (fun e he => ?_) fun values hvalues => .mapM fun x hx => path_fails fun hno => ?_
  · obtain rfl := Value.elements_error he
    exact h _ (.notIterable he)
  · exact h _ (.notText hvalues hx hno)

theorem sourceSet_fails {t : Table} {name : String} (h : ∀ f, t.NoSourceSet f → P (.value f)) :
    FailsOnly (d.sourceSet t name) P := by
  unfold sourceSet
  cases hset : t.get? "source_set" with
  | none =>
    rw [Table.getD_of_none hset]
    exact nofun
  | some w =>
    rw [Table.getD_of_some hset]
    refine .bind (fun e he => ?_) fun raw hraw => ?_
    · obtain ⟨rfl, hno⟩ := Value.asTable_error he
      exact h _ (.notTable hset hno)
    obtain rfl := Value.asTable_ok hraw
    refine .bind (path_fails fun hno => ?_) fun _ _ => .bind (optionalPath_fails fun hempty hno => ?_)
      fun _ _ => .bind (paths_fails fun f hno => ?_) fun _ _ => .ok _
    · cases hm : raw.get? "manifest" with
      | none => exact absurd ⟨_, Table.getD_of_none hm⟩ hno
      | some m => exact h _ (.manifest hset hm (Table.getD_of_some hm ▸ hno))
    · cases hr : raw.get? "resources" with
      | none =>
        rw [Table.getD_of_none hr] at hempty
        cases hempty
      | some r =>
        rw [Table.getD_of_some hr] at hempty hno
        exact h _ (.resources hset hr hempty hno)
    · cases hc : raw.get? "compile_classpath" with
      | none =>
        rw [Table.getD_of_none hc] at hno
        cases hno with
        | notIterable he => cases he
        | notText hvalues hw =>
          cases hvalues
          exact absurd hw List.not_mem_nil
      | some c => exact h _ (.classpath hset hc (Table.getD_of_some hc ▸ hno))

/-! ## Libraries -/

theorem needed_fails {library key : String} {t : Table} (hneeds : P (.description (.libraryNeeds library key))) :
    FailsOnly (needed library key t) P := by
  unfold needed
  split
  · exact .ok _
  · intro e h
    cases h
    exact hneeds

theorem needed_ok {library key : String} {t : Table} {w : Value} (h : needed library key t = .ok w) :
    t.get? key = some w := by
  unfold needed at h
  split at h
  · rename_i hget
    cases h
    exact hget
  · cases h

theorem library_fails {made : List (String × LibraryId)} {name : String} {t : Table}
    (hnames : FailsOnly (lookUp made t.dependencyValue) P) (hneeds : ∀ key, P (.description (.libraryNeeds name key)))
    (hfiles : ∀ f, t.NoFiles f → P (.value f)) : FailsOnly (d.library files made name t) P := by
  unfold library
  refine .bind hnames fun _ _ => ?_
  split
  · rename_i folder hfolder
    exact .bind (path_fails fun hno => hfiles _ (.folder hfolder hno)) fun _ _ => .ok _
  · rename_i hfolder
    refine .bind (needed_fails (hneeds _)) fun manifest hmanifest => .bind (path_fails fun hno => ?_) fun _ _ => ?_
    · exact hfiles _ (.file hfolder (.inl rfl) (needed_ok hmanifest) hno)
    refine .bind (needed_fails (hneeds _)) fun jarFile hjar => .bind (path_fails fun hno => ?_) fun _ _ => ?_
    · exact hfiles _ (.file hfolder (.inr rfl) (needed_ok hjar) hno)
    refine .bind (optionalPath_fails fun hempty hno => ?_) fun _ _ => .ok _
    cases hres : t.get? "res_folder" with
    | none =>
      rw [Table.getD_of_none hres] at hempty
      cases hempty
    | some w =>
      rw [Table.getD_of_some hres] at hempty hno
      exact hfiles _ (.resources hfolder hres hempty hno)

end Description

end BuildVariants
