import BuildVariants.Proofs.Instances

/-!
# Making the libraries of a description

A making is a sequence of steps, each of which adds one declared library that does not wait and whose
dependencies are made (`Description.MakeStep`), so what it gives represents the declared names. A
making that fails has a reason in the tables (`Description.MakeFault`); a cycle is reported only where
there is one, since every waiting name depends on the one that is asked for.
-/

namespace BuildVariants

open Relation (ReflTransGen TransGen)

namespace Description

open Instances (find? names lookUp)

/-! ## Steps of a making -/

theorem library_ok {files : Files} {d : Description} {made : List (String × LibraryId)} {name : String}
    {t : Table} {l : Library} (h : d.library files made name t = .ok l) :
    l.name = name ∧ lookUp made t.dependencyValue = .ok l.dependencies := by
  simp only [library, bind_eq_ok] at h
  obtain ⟨ids, hids, h⟩ := h
  split at h
  · simp only [bind_eq_ok, pure_eq_ok] at h
    obtain ⟨_, _, rfl⟩ := h
    exact ⟨rfl, hids⟩
  · simp only [bind_eq_ok, pure_eq_ok] at h
    obtain ⟨_, _, _, _, _, _, _, _, _, _, rfl⟩ := h
    exact ⟨rfl, hids⟩

section
variable (files : Files) (d : Description) (tables : Table)

/-- One more declared library is made. Its name does not wait, and what it depends on is made. -/
inductive MakeStep (making : List String) (i : Instances) : Instances → Prop
  | add {s t l} : tables.get? s = some (.table t) → s ∉ making → find? i.made s = none →
    d.library files i.made s t = .ok l → MakeStep making i (i.add s l)

def MakeSteps (making : List String) : Instances → Instances → Prop :=
  ReflTransGen (MakeStep files d tables making)

end

section
variable {files : Files} {d : Description} {tables : Table} {making : List String} {i j : Instances}

theorem MakeStep.graph_extends (h : MakeStep files d tables making i j) : j.graph.Extends i.graph := by
  cases h with
  | add => exact LibraryGraph.extends_add _ _

theorem MakeStep.find?_eq (h : MakeStep files d tables making i j) {n : String} {id : LibraryId}
    (hn : find? i.made n = some id) : find? j.made n = some id := by
  cases h with
  | add => exact Instances.find?_append hn

theorem MakeStep.mem_names (h : MakeStep files d tables making i j) {n : String} (hn : n ∈ names j.made) :
    n ∈ names i.made ∨ n ∉ making ∧ n ∈ tables.keys := by
  cases h with
  | @add s t l ht hs _ _ =>
    rw [Instances.names_add, List.mem_append, List.mem_singleton] at hn
    rcases hn with hn | rfl
    · exact .inl hn
    · exact .inr ⟨hs, Table.mem_keys_of_get? ht⟩

theorem MakeStep.represents (h : MakeStep files d tables making i j)
    (hi : i.Represents tables.dependencyNames) : j.Represents tables.dependencyNames := by
  cases h with
  | @add s t l ht _ hnew hl =>
    obtain ⟨rfl, hids⟩ := library_ok hl
    obtain ⟨ns, hns, hids⟩ := Instances.lookUp_eq_ok.mp hids
    refine hi.add hnew ?_
    rw [Table.dependencyNames_eq ht, Value.texts_eq hns, hids]

theorem MakeStep.weaken {s : String} (h : MakeStep files d tables (s :: making) i j) :
    MakeStep files d tables making i j := by
  cases h with
  | add ht hs hnew hl => exact .add ht (fun hm => hs (List.mem_cons_of_mem _ hm)) hnew hl

namespace MakeSteps

theorem graph_extends (h : MakeSteps files d tables making i j) : j.graph.Extends i.graph := by
  induction h with
  | refl => exact .refl _
  | tail _ h ih => exact h.graph_extends.trans ih

theorem find?_eq (h : MakeSteps files d tables making i j) {n : String} {id : LibraryId}
    (hn : find? i.made n = some id) : find? j.made n = some id := by
  induction h with
  | refl => exact hn
  | tail _ h ih => exact h.find?_eq ih

theorem mem_names_of_mem (h : MakeSteps files d tables making i j) {n : String} (hn : n ∈ names i.made) :
    n ∈ names j.made := by
  obtain ⟨id, hid⟩ := Option.isSome_iff_exists.mp (Instances.find?_isSome.mpr hn)
  rw [← Instances.find?_isSome, h.find?_eq hid]
  rfl

/-- What is made on the way is declared and does not wait. -/
theorem mem_names (h : MakeSteps files d tables making i j) {n : String} (hn : n ∈ names j.made) :
    n ∈ names i.made ∨ n ∉ making ∧ n ∈ tables.keys := by
  induction h with
  | refl => exact .inl hn
  | tail _ h ih => exact (h.mem_names hn).elim ih .inr

theorem represents (h : MakeSteps files d tables making i j)
    (hi : i.Represents tables.dependencyNames) : j.Represents tables.dependencyNames := by
  induction h with
  | refl => exact hi
  | tail _ h ih => exact h.represents ih

theorem weaken {s : String} (h : MakeSteps files d tables (s :: making) i j) :
    MakeSteps files d tables making i j := by
  induction h with
  | refl => exact .refl
  | tail _ h ih => exact ih.tail h.weaken

end MakeSteps

/-! ## A making that succeeds -/

theorem make_table {s : String} {t : Table} (hfind : ¬(find? i.made s).isSome) (hnew : s ∉ making)
    (ht : tables.get? s = some (.table t)) :
    d.make files tables making (.string s) i = (do
      let values ← t.dependencyValue.elements
      let i ← d.makeAll files tables (s :: making) values i
      let l ← d.library files i.made s t
      pure (i.add s l)) := by
  rw [make, if_neg hfind, dif_neg hnew]
  split
  · rename_i t' ht'
    rw [ht] at ht'
    cases ht'
    rfl
  · rename_i hno
    exact absurd ht (hno t)

theorem make_undeclared {s : String} (hfind : ¬(find? i.made s).isSome) (hnew : s ∉ making)
    (ht : ∀ t, tables.get? s = some (.table t) → False) :
    d.make files tables making (.string s) i = .error (.description (.missing .library s)) := by
  rw [make, if_neg hfind, dif_neg hnew]
  split
  · rename_i t ht'
    exact (ht t ht').elim
  · rfl

theorem make_other {v : Value} (hv : ∀ s, v = .string s → False) :
    d.make files tables making v i =
      if v.isName then v.shown.bind fun shown => .error (.description (.missing .library shown))
      else .error (.value .notName) := by
  cases v with
  | string s => exact (hv s rfl).elim
  | _ => rw [make]; exact hv

theorem make_other_ne_ok {v : Value} (hv : ∀ s, v = .string s → False) :
    d.make files tables making v i ≠ .ok j := by
  rw [make_other hv]
  split
  · cases v.shown with
    | error e => exact fun h => by cases h
    | ok shown => exact fun h => by cases h
  · exact fun h => by cases h

/-- The induction of a making: a declared library waits while its dependencies are made. The measure
is the number of declared libraries that do not wait. -/
theorem making_induction (tables : Table) (P : List String → Value → Instances → Prop)
    (Q : List String → List Value → Instances → Prop)
    (made : ∀ making i s, (find? i.made s).isSome → P making (.string s) i)
    (waiting : ∀ making i s, ¬(find? i.made s).isSome → s ∈ making → P making (.string s) i)
    (declared : ∀ making i s, ¬(find? i.made s).isSome → s ∉ making →
      ∀ t, tables.get? s = some (.table t) → (∀ values, Q (s :: making) values i) → P making (.string s) i)
    (undeclared : ∀ making i s, ¬(find? i.made s).isSome → s ∉ making →
      (∀ t, tables.get? s = some (.table t) → False) → P making (.string s) i)
    (other : ∀ making i v, (∀ s, v = .string s → False) → P making v i)
    (nil : ∀ making i, Q making [] i)
    (cons : ∀ making i v vs, P making v i → (∀ j, Q making vs j) → Q making (v :: vs) i) :
    (∀ making v i, P making v i) ∧ ∀ making vs i, Q making vs i := by
  have hall : ∀ n making, untouched tables making = n →
      (∀ v i, P making v i) ∧ ∀ vs i, Q making vs i := by
    intro n
    induction n using Nat.strongRecOn with
    | ind n ih =>
      intro making hn
      have hvalue : ∀ v i, P making v i := by
        intro v i
        by_cases hv : ∃ s, v = .string s
        · obtain ⟨s, rfl⟩ := hv
          by_cases hfind : (find? i.made s).isSome
          · exact made making i s hfind
          by_cases hwait : s ∈ making
          · exact waiting making i s hfind hwait
          by_cases ht : ∃ t, tables.get? s = some (.table t)
          · obtain ⟨t, ht⟩ := ht
            have hlt := hn ▸ untouched_cons_lt ht hwait
            exact declared making i s hfind hwait t ht fun values => (ih _ hlt _ rfl).2 values i
          · exact undeclared making i s hfind hwait fun t h => ht ⟨t, h⟩
        · exact other making i v fun s h => hv ⟨s, h⟩
      refine ⟨hvalue, fun vs => ?_⟩
      induction vs with
      | nil => exact nil making
      | cons v vs ihvs => exact fun i => cons making i v vs (hvalue v i) ihvs
  exact ⟨fun making => (hall _ making rfl).1, fun making => (hall _ making rfl).2⟩

/-- A making that succeeds goes in steps, after which all that was asked for is made. -/
theorem make_steps (files : Files) (d : Description) (tables : Table) :
    (∀ making v i j, d.make files tables making v i = .ok j →
      MakeSteps files d tables making i j ∧ ∃ s, v = .string s ∧ s ∈ names j.made) ∧
    ∀ making vs i j, d.makeAll files tables making vs i = .ok j →
      MakeSteps files d tables making i j ∧
        ∃ ns : List String, vs = ns.map .string ∧ ∀ n ∈ ns, n ∈ names j.made := by
  apply making_induction tables
    (fun making v i => ∀ j, d.make files tables making v i = .ok j →
      MakeSteps files d tables making i j ∧ ∃ s, v = .string s ∧ s ∈ names j.made)
    (fun making vs i => ∀ j, d.makeAll files tables making vs i = .ok j →
      MakeSteps files d tables making i j ∧
        ∃ ns : List String, vs = ns.map .string ∧ ∀ n ∈ ns, n ∈ names j.made)
  -- made before
  · intro making i s hfind j h
    rw [make, if_pos hfind] at h
    cases h
    exact ⟨.refl, s, rfl, Instances.find?_isSome.mp hfind⟩
  -- waiting
  · intro making i s hfind hwait j h
    rw [make, if_neg hfind, dif_pos hwait] at h
    cases h
  -- declared: its dependencies are made first, while it waits
  · intro making i s hfind hnew t ht ih j h
    rw [make_table hfind hnew ht] at h
    obtain ⟨values, _, h⟩ := bind_eq_ok.mp h
    obtain ⟨k, hk, h⟩ := bind_eq_ok.mp h
    obtain ⟨l, hl, h⟩ := bind_eq_ok.mp h
    obtain rfl := pure_eq_ok.mp h
    have hsteps : MakeSteps files d tables (s :: making) i k := (ih values k hk).1
    have hfresh : find? k.made s = none := by
      rw [← Option.not_isSome_iff_eq_none, Instances.find?_isSome]
      intro hs
      rcases hsteps.mem_names hs with hs | ⟨hs, _⟩
      · exact hfind (Instances.find?_isSome.mpr hs)
      · exact hs List.mem_cons_self
    refine ⟨hsteps.weaken.tail (.add ht hnew hfresh hl), s, rfl, ?_⟩
    rw [Instances.names_add]
    exact List.mem_append_right _ (List.mem_singleton_self s)
  -- not declared
  · intro making i s hfind hnew ht j h
    rw [make_undeclared hfind hnew ht] at h
    cases h
  -- no text
  · intro making i v hv j h
    exact absurd h (make_other_ne_ok hv)
  -- none left
  · intro making i j h
    rw [makeAll] at h
    cases h
    exact ⟨.refl, [], rfl, fun _ h => absurd h List.not_mem_nil⟩
  -- the first, then the others
  · intro making i v vs ih₁ ih₂ j h
    rw [makeAll] at h
    obtain ⟨k, hk, hj⟩ := bind_eq_ok.mp h
    obtain ⟨hik, s, rfl, hs⟩ := ih₁ k hk
    obtain ⟨hkj, ns, rfl, hns⟩ := ih₂ k j hj
    refine ⟨hik.trans hkj, s :: ns, rfl, fun n hn => ?_⟩
    rcases List.mem_cons.mp hn with rfl | hn
    · exact hkj.mem_names_of_mem hs
    · exact hns n hn

/-- Whatever stands for the dependencies of a library, once all of it has been made all of it is found. -/
theorem exists_lookUp_of_makeAll {v : Value} {values : List Value} (hv : v.elements = .ok values)
    (h : d.makeAll files tables making values i = .ok j) : ∃ ids, lookUp j.made v = .ok ids := by
  obtain ⟨_, ns, rfl, hns⟩ := (make_steps files d tables).2 _ _ _ _ h
  exact Instances.exists_lookUp hv fun n hn => Instances.find?_isSome.mpr (hns n hn)

/-! ## A making that fails -/

/-- What is asked for: declared names, and what declared libraries give as their dependencies. -/
inductive Asked (tables : Table) : Value → Prop
  | key {s : String} : s ∈ tables.keys → Asked tables (.string s)
  | dependency {s : String} {t : Table} {values : List Value} {v : Value} :
    tables.get? s = some (.table t) → t.dependencyValue.elements = .ok values → v ∈ values →
    Asked tables v

/-- Why a making fails. -/
inductive MakeFault (files : Files) (d : Description) (tables : Table) : Fault → Prop
  | cycle {s : String} : TransGen (DependsOn tables.dependencyNames) s s →
    MakeFault files d tables (.description (.libraryCycle s))
  | undeclared {s : String} : Asked tables (.string s) → (∀ t, tables.get? s = some (.table t) → False) →
    MakeFault files d tables (.description (.missing .library s))
  | noText {v : Value} {e : Fault} : Asked tables v → (∀ s, v = .string s → False) →
    (v.shown = .error e ∨ (∃ shown, e = .description (.missing .library shown)) ∨
      v.isName = false ∧ e = .value .notName) →
    MakeFault files d tables e
  | dependencies {s : String} {t : Table} {e : Fault} : tables.get? s = some (.table t) →
    t.dependencyValue.elements = .error e → MakeFault files d tables e
  | library {s : String} {t : Table} {made : List (String × LibraryId)} {ids : List LibraryId} {e : Fault} :
    tables.get? s = some (.table t) → lookUp made t.dependencyValue = .ok ids →
    d.library files made s t = .error e → MakeFault files d tables e

/-- A value that is asked for while some names wait, each of which depends on it. -/
structure Pending (tables : Table) (making : List String) (v : Value) : Prop where
  asked : Asked tables v
  waiting : ∀ s, v = .string s → ∀ w ∈ making, TransGen (DependsOn tables.dependencyNames) w s

theorem Pending.dependency {s : String} {t : Table} {values : List Value}
    (h : Pending tables making (.string s)) (ht : tables.get? s = some (.table t))
    (hvalues : t.dependencyValue.elements = .ok values) {v : Value} (hv : v ∈ values) :
    Pending tables (s :: making) v := by
  refine ⟨.dependency ht hvalues hv, ?_⟩
  rintro m rfl w hw
  have hm : DependsOn tables.dependencyNames s m := by
    rw [DependsOn, Table.dependencyNames_eq ht, Value.mem_texts hvalues]
    exact hv
  rcases List.mem_cons.mp hw with rfl | hw
  · exact .single hm
  · exact (h.waiting s rfl w hw).tail hm

theorem make_other_fault {v : Value} {e : Fault} (ha : Asked tables v) (hv : ∀ s, v = .string s → False)
    (h : d.make files tables making v i = .error e) : MakeFault files d tables e := by
  rw [make_other hv] at h
  refine .noText ha hv ?_
  split at h
  · cases hs : v.shown with
    | error e' =>
      rw [hs] at h
      cases h
      exact .inl rfl
    | ok shown =>
      rw [hs] at h
      cases h
      exact .inr (.inl ⟨shown, rfl⟩)
  · rename_i hno
    cases h
    exact .inr (.inr ⟨by simpa using hno, rfl⟩)

/-- The induction keeps that what is asked for is pending: a name that waits and is asked for again
depends on itself. -/
theorem makeFault_of_pending (files : Files) (d : Description) (tables : Table) :
    (∀ making v i e, Pending tables making v → d.make files tables making v i = .error e →
      MakeFault files d tables e) ∧
    ∀ making vs i e, (∀ v ∈ vs, Pending tables making v) →
      d.makeAll files tables making vs i = .error e → MakeFault files d tables e := by
  apply making_induction tables
    (fun making v i => ∀ e, Pending tables making v → d.make files tables making v i = .error e →
      MakeFault files d tables e)
    (fun making vs i => ∀ e, (∀ v ∈ vs, Pending tables making v) →
      d.makeAll files tables making vs i = .error e → MakeFault files d tables e)
  -- made before
  · intro making i s hfind e _ h
    rw [make, if_pos hfind] at h
    cases h
  -- waiting
  · intro making i s hfind hwait e hp h
    rw [make, if_neg hfind, dif_pos hwait] at h
    cases h
    exact .cycle (hp.waiting s rfl s hwait)
  -- declared
  · intro making i s hfind hnew t ht ih e hp h
    rw [make_table hfind hnew ht, bind_eq_error] at h
    rcases h with h | ⟨values, hvalues, h⟩
    · exact .dependencies ht h
    rcases bind_eq_error.mp h with h | ⟨k, hk, h⟩
    · exact ih values e (fun v hv => hp.dependency ht hvalues hv) h
    rcases bind_eq_error.mp h with hl | ⟨l, _, h⟩
    · obtain ⟨ids, hids⟩ := exists_lookUp_of_makeAll hvalues hk
      exact .library ht hids hl
    · cases h
  -- not declared
  · intro making i s hfind hnew ht e hp h
    rw [make_undeclared hfind hnew ht] at h
    cases h
    exact .undeclared hp.asked ht
  -- no text
  · intro making i v hv e hp h
    exact make_other_fault hp.asked hv h
  -- none left
  · intro making i e _ h
    rw [makeAll] at h
    cases h
  -- the first, then the others
  · intro making i v vs ih₁ ih₂ e hp h
    rw [makeAll] at h
    rcases bind_eq_error.mp h with h | ⟨k, _, h⟩
    · exact ih₁ e (hp v List.mem_cons_self) h
    · exact ih₂ k e (fun w hw => hp w (List.mem_cons_of_mem _ hw)) h

/-! ## All declared libraries -/

/-- The tables of the declared libraries; a value that is no table declares none. -/
def libraryTables (d : Description) : Table :=
  match d.data.getD "libraries" (.table []) with
  | .table tables => tables
  | _ => []

variable {g : LibraryGraph}

theorem libraryTables_eq (h : d.data.getD "libraries" (.table []) = .table tables) :
    d.libraryTables = tables := by
  rw [libraryTables, h]

theorem makeLibraries_eq (h : d.data.getD "libraries" (.table []) = .table tables) :
    d.makeLibraries files g = d.makeAll files tables [] (tables.keys.map .string) ⟨g, []⟩ := by
  unfold makeLibraries
  rw [h]
  rfl

theorem makeLibraries_steps (h : d.makeLibraries files g = .ok i) :
    MakeSteps files d d.libraryTables [] ⟨g, []⟩ i ∧ ∀ n ∈ d.libraryTables.keys, n ∈ names i.made := by
  by_cases hd : ∃ tables, d.data.getD "libraries" (.table []) = .table tables
  · obtain ⟨tables, hd⟩ := hd
    rw [makeLibraries_eq hd] at h
    rw [libraryTables_eq hd]
    obtain ⟨hsteps, ns, hns, hmade⟩ := (make_steps files d tables).2 _ _ _ _ h
    refine ⟨hsteps, fun n hn => hmade n ?_⟩
    rw [← Value.texts_eq (v := .list (ns.map .string)) rfl, ← hns, Value.mem_texts rfl]
    exact List.mem_map_of_mem hn
  · have hnone : d.libraryTables = [] := by
      unfold libraryTables
      split
      · rename_i ht
        exact absurd ⟨_, ht⟩ hd
      · rfl
    obtain rfl : i = ⟨g, []⟩ := by
      unfold makeLibraries at h
      obtain ⟨values, _, h⟩ := bind_eq_ok.mp h
      split at h
      · rename_i ht _
        exact absurd ⟨_, ht⟩ hd
      · exact (pure_eq_ok.mp h).symm
      · cases h
    rw [hnone]
    exact ⟨.refl, fun _ h => absurd h List.not_mem_nil⟩

theorem makeLibraries_ok (h : d.makeLibraries files g = .ok i) :
    i.Represents d.libraryTables.dependencyNames ∧ i.graph.Extends g ∧
      ∀ n, n ∈ names i.made ↔ n ∈ d.libraryTables.keys := by
  obtain ⟨hsteps, hall⟩ := makeLibraries_steps h
  refine ⟨hsteps.represents (Instances.represents_start _ _), hsteps.graph_extends,
    fun n => ⟨fun hn => ?_, hall n⟩⟩
  exact (hsteps.mem_names hn).elim (fun h => absurd h List.not_mem_nil) (·.2)

theorem makeLibraries_fault (hd : d.data.getD "libraries" (.table []) = .table tables) {e : Fault}
    (h : d.makeLibraries files g = .error e) : MakeFault files d tables e := by
  rw [makeLibraries_eq hd] at h
  refine (makeFault_of_pending files d tables).2 _ _ _ _ (fun v hv => ?_) h
  obtain ⟨s, hs, rfl⟩ := List.mem_map.mp hv
  exact ⟨.key hs, fun _ _ _ hw => absurd hw List.not_mem_nil⟩

end

end Description

end BuildVariants
