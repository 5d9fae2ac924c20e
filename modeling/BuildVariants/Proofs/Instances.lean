import BuildVariants.Description.Libraries
import BuildVariants.Proofs.Dependency
import Mathlib.Data.List.Nodup

/-!
# Libraries made from names

The tables of a description declare a graph of names (`Table.dependencyNames`). Made libraries
represent a graph of names if there is one library for each made name, with the libraries of its
dependencies in their order. They still do when the library graph grows, and when one more library is
made whose dependencies are made (`Instances.Represents.add`).
-/

namespace BuildVariants

/-! ## Steps of a computation that may fail -/

section
variable {ε α β : Type} {x : Except ε α} {f : α → Except ε β}

theorem bind_eq_ok {b : β} : x >>= f = .ok b ↔ ∃ a, x = .ok a ∧ f a = .ok b := by
  cases x with
  | error e => simp [bind, Except.bind]
  | ok a => simp [bind, Except.bind]

theorem bind_eq_error {e : ε} :
    x >>= f = .error e ↔ x = .error e ∨ ∃ a, x = .ok a ∧ f a = .error e := by
  cases x with
  | error e' => simp [bind, Except.bind]
  | ok a => simp [bind, Except.bind]

theorem pure_eq_ok {a b : α} : (pure a : Except ε α) = .ok b ↔ a = b := by
  simp [pure, Except.pure]

theorem eq_ok_of_toOption {a : α} (h : x.toOption = some a) : x = .ok a := by
  cases x with
  | error e => cases h
  | ok b => exact congrArg Except.ok (Option.some.inj h)

end

/-! ## The graph of the declared names -/

def Value.text? : Value → Option String
  | .string s => some s
  | _ => none

/-- The texts among the elements of a value. -/
def Value.texts (v : Value) : List String :=
  match v.elements with
  | .ok values => values.filterMap Value.text?
  | .error _ => []

theorem Value.texts_eq {v : Value} {names : List String} (h : v.elements = .ok (names.map .string)) :
    v.texts = names := by
  unfold texts
  rw [h]
  simp only [List.filterMap_map]
  exact List.filterMap_some

theorem Value.mem_texts {v : Value} {values : List Value} (h : v.elements = .ok values) {s : String} :
    s ∈ v.texts ↔ .string s ∈ values := by
  unfold texts
  rw [h]
  simp only [List.mem_filterMap]
  constructor
  · rintro ⟨w, hw, hs⟩
    cases w with
    | string s' =>
      cases hs
      exact hw
    | _ => cases hs
  · exact fun hs => ⟨_, hs, rfl⟩

namespace Table

theorem mem_of_get? {t : Table} {key : String} {v : Value} (h : t.get? key = some v) : (key, v) ∈ t := by
  simp only [get?, Option.map_eq_some_iff] at h
  obtain ⟨e, he, rfl⟩ := h
  have hkey : e.1 = key := by simpa using List.find?_some he
  exact hkey ▸ List.mem_of_find?_eq_some he

theorem mem_keys_of_get? {t : Table} {key : String} {v : Value} (h : t.get? key = some v) :
    key ∈ t.keys :=
  List.mem_map.mpr ⟨_, mem_of_get? h, rfl⟩

theorem exists_get? {t : Table} {key : String} (h : key ∈ t.keys) : ∃ v, t.get? key = some v := by
  obtain ⟨e, he, hkey⟩ := List.mem_map.mp h
  have hsome : (t.find? fun e => e.1 = key).isSome := List.find?_isSome.mpr ⟨e, he, by simp [hkey]⟩
  obtain ⟨e', he'⟩ := Option.isSome_iff_exists.mp hsome
  exact ⟨e'.2, by rw [get?, he', Option.map_some]⟩

theorem getD_of_some {t : Table} {key : String} {v missing : Value} (h : t.get? key = some v) :
    t.getD key missing = v := by
  rw [getD, h, Option.getD_some]

theorem getD_of_none {t : Table} {key : String} {missing : Value} (h : t.get? key = none) :
    t.getD key missing = missing := by
  rw [getD, h, Option.getD_none]

theorem get?_of_mem {t : Table} (hkeys : t.keys.Nodup) {key : String} {v : Value} (h : (key, v) ∈ t) :
    t.get? key = some v := by
  obtain ⟨w, hw⟩ := exists_get? (List.mem_map.mpr ⟨_, h, rfl⟩)
  have heq := List.inj_on_of_nodup_map hkeys (mem_of_get? hw) h rfl
  rw [hw, (Prod.mk.inj heq).2]

theorem get?_eq_of_perm {t t' : Table} (hkeys : t.keys.Nodup) (h : t.Perm t') (key : String) :
    t'.get? key = t.get? key := by
  have hkeys' : t'.keys.Nodup := (h.map _).nodup_iff.mp hkeys
  cases hv : t.get? key with
  | some v => exact get?_of_mem hkeys' (h.mem_iff.mp (mem_of_get? hv))
  | none =>
    cases hv' : t'.get? key with
    | none => rfl
    | some v => cases hv.symm.trans (get?_of_mem hkeys (h.mem_iff.mpr (mem_of_get? hv')))

/-- What a library gives as its dependencies. -/
def dependencyValue (t : Table) : Value := t.getD "dependencies" (.list [])

/-- The names that the table of a library gives as its dependencies. -/
def dependencyNames (tables : Table) (name : String) : List String :=
  match tables.get? name with
  | some (.table t) => (dependencyValue t).texts
  | _ => []

theorem dependencyNames_eq {tables t : Table} {name : String} (h : tables.get? name = some (.table t)) :
    tables.dependencyNames name = t.dependencyValue.texts := by
  rw [dependencyNames, h]

end Table

/-! ## Looking up made libraries -/

namespace Instances

variable {made : List (String × LibraryId)}

def names (made : List (String × LibraryId)) : List String := made.map (·.1)

theorem find?_isSome {n : String} : (find? made n).isSome ↔ n ∈ names made := by
  simp [find?, names, List.mem_map]

theorem mem_of_find? {n : String} {id : LibraryId} (h : find? made n = some id) : (n, id) ∈ made := by
  simp only [find?, Option.map_eq_some_iff] at h
  obtain ⟨e, he, rfl⟩ := h
  have hname : e.1 = n := by simpa using List.find?_some he
  exact hname ▸ List.mem_of_find?_eq_some he

theorem find?_of_mem {n : String} {id : LibraryId} (hn : (names made).Nodup) (h : (n, id) ∈ made) :
    find? made n = some id := by
  have hsome : (find? made n).isSome := find?_isSome.mpr (List.mem_map.mpr ⟨_, h, rfl⟩)
  obtain ⟨id', hid⟩ := Option.isSome_iff_exists.mp hsome
  have heq := List.inj_on_of_nodup_map hn (mem_of_find? hid) h rfl
  rw [hid, (Prod.mk.inj heq).2]

theorem find?_append {n : String} {id : LibraryId} {more : List (String × LibraryId)}
    (h : find? made n = some id) : find? (made ++ more) n = some id := by
  simp only [find?, Option.map_eq_some_iff] at h
  obtain ⟨e, he, rfl⟩ := h
  rw [find?, List.find?_append, he]
  rfl

/-- No value is unknown exactly if all are names that have been made. -/
theorem unknown_eq_nil {values : List Value} :
    unknown made values = .ok [] ↔
      ∃ ns : List String, values = ns.map .string ∧ ∀ n ∈ ns, (find? made n).isSome := by
  induction values with
  | nil => exact ⟨fun _ => ⟨[], rfl, fun _ h => absurd h List.not_mem_nil⟩, fun _ => rfl⟩
  | cons v vs ih =>
    simp only [unknown, bind_eq_ok, pure_eq_ok]
    constructor
    · rintro ⟨known, hknown, rest, hrest, h⟩
      cases known with
      | false => cases h
      | true =>
        obtain rfl : rest = [] := h
        obtain ⟨ns, rfl, hns⟩ := ih.mp hrest
        cases v with
        | string s =>
          refine ⟨s :: ns, rfl, fun n hn => ?_⟩
          rcases List.mem_cons.mp hn with rfl | hn
          · exact Except.ok.inj hknown
          · exact hns n hn
        | _ => cases hknown
    · rintro ⟨ns, hvs, hns⟩
      cases ns with
      | nil => cases hvs
      | cons n ns =>
        obtain ⟨rfl, rfl⟩ := List.cons.inj hvs
        have hrest := ih.mpr ⟨ns, rfl, fun m hm => hns m (List.mem_cons_of_mem _ hm)⟩
        exact ⟨true, by rw [knows, hns n List.mem_cons_self], [], hrest, rfl⟩

/-- Each name is found, and what is found are the identities. -/
theorem map_eq_map_some {α β : Type} {f : α → Option β} {as : List α} {bs : List β} :
    as.map f = bs.map some ↔ (∀ a ∈ as, (f a).isSome) ∧ as.filterMap f = bs := by
  constructor
  · intro h
    refine ⟨fun a ha => ?_, ?_⟩
    · obtain ⟨b, _, hb⟩ := List.mem_map.mp (h ▸ List.mem_map_of_mem ha)
      rw [← hb]
      rfl
    · have hid : (as.map f).filterMap id = as.filterMap f := List.filterMap_map ..
      rw [← hid, h, List.filterMap_map]
      exact List.filterMap_some
  · rintro ⟨hall, rfl⟩
    induction as with
    | nil => rfl
    | cons a as ih =>
      obtain ⟨b, hb⟩ := Option.isSome_iff_exists.mp (hall a List.mem_cons_self)
      rw [List.map_cons, hb, List.filterMap_cons_some hb, List.map_cons,
        ih fun c hc => hall c (List.mem_cons_of_mem _ hc)]

/-- Every name is found, and the libraries come in the order of the names. -/
theorem lookUp_eq_ok {v : Value} {ids : List LibraryId} :
    lookUp made v = .ok ids ↔
      ∃ ns : List String, v.elements = .ok (ns.map .string) ∧ ns.map (find? made) = ids.map some := by
  simp only [lookUp, bind_eq_ok, map_eq_map_some]
  constructor
  · rintro ⟨values, hvalues, missing, hmissing, h⟩
    cases missing with
    | cons m ms =>
      obtain ⟨_, _, h⟩ := bind_eq_ok.mp h
      cases h
    | nil =>
      obtain ⟨ns, rfl, hns⟩ := unknown_eq_nil.mp hmissing
      rw [pure_eq_ok, List.filterMap_map] at h
      exact ⟨ns, hvalues, hns, h⟩
  · rintro ⟨ns, hvalues, hns, hids⟩
    refine ⟨_, hvalues, [], unknown_eq_nil.mpr ⟨ns, rfl, hns⟩, ?_⟩
    rw [pure_eq_ok, List.filterMap_map]
    exact hids

theorem exists_lookUp {v : Value} {ns : List String} (hv : v.elements = .ok (ns.map .string))
    (hns : ∀ n ∈ ns, (find? made n).isSome) : ∃ ids, lookUp made v = .ok ids :=
  ⟨_, lookUp_eq_ok.mpr ⟨ns, hv, map_eq_map_some.mpr ⟨hns, rfl⟩⟩⟩

end Instances

/-! ## Graphs that grow -/

/-- Every library of `h` stands in `g` under its place. -/
def LibraryGraph.Extends (g h : LibraryGraph) : Prop := ∀ id l, h.get? id = some l → g.get? id = some l

namespace LibraryGraph

variable {g h k : LibraryGraph}

theorem Extends.refl (g : LibraryGraph) : g.Extends g := fun _ _ h => h

theorem Extends.trans (hgh : g.Extends h) (hhk : h.Extends k) : g.Extends k :=
  fun id l hl => hgh id l (hhk id l hl)

theorem lt_size_of_get? {id : LibraryId} {l : Library} (hl : g.get? id = some l) : id < g.size :=
  (Array.getElem?_eq_some_iff.mp hl).1

theorem extends_add (g : LibraryGraph) (l : Library) : (g.add l).Extends g := fun id m hm => by
  rw [get?_add_of_lt l (lt_size_of_get? hm), hm]

theorem name_eq {id : LibraryId} {l : Library} (hl : g.get? id = some l) : g.name id = l.name := by
  rw [name, hl]

theorem dependencies_eq {id : LibraryId} {l : Library} (hl : g.get? id = some l) :
    g.dependencies id = l.dependencies := by
  rw [dependencies, hl]

end LibraryGraph

/-! ## What made libraries stand for -/

/-- One library for each made name, with the libraries of its dependencies in their order; each name
is made after the names that it depends on. -/
structure Instances.Represents (i : Instances) (deps : String → List String) : Prop where
  nodup : (names i.made).Nodup
  grounded : Grounded deps (names i.made).reverse
  library : ∀ n id, find? i.made n = some id → ∃ l, i.graph.get? id = some l ∧ l.name = n ∧
    (deps n).map (find? i.made) = l.dependencies.map some

namespace Instances

variable {i : Instances} {deps : String → List String}

theorem names_add (i : Instances) (s : String) (l : Library) :
    names (i.add s l).made = names i.made ++ [s] := by
  rw [names, names, add, List.map_append]
  rfl

theorem represents_start (g : LibraryGraph) (deps : String → List String) :
    Represents ⟨g, []⟩ deps where
  nodup := List.nodup_nil
  grounded := trivial
  library := fun _ _ h => by cases h

theorem Represents.extends (hi : i.Represents deps) {g : LibraryGraph} (hg : g.Extends i.graph) :
    Represents ⟨g, i.made⟩ deps where
  nodup := hi.nodup
  grounded := hi.grounded
  library := fun n id h => by
    obtain ⟨l, hl, hname, hdeps⟩ := hi.library n id h
    exact ⟨l, hg id l hl, hname, hdeps⟩

theorem Represents.mem_of_dep (hi : i.Represents deps) {n m : String} (hn : n ∈ names i.made)
    (hm : m ∈ deps n) : m ∈ names i.made :=
  List.mem_reverse.mp (hi.grounded.closed (List.mem_reverse.mpr hn) hm)

/-- A library whose dependencies are made keeps to what it stands for. -/
theorem Represents.add (hi : i.Represents deps) {l : Library} (hnew : find? i.made l.name = none)
    (hl : (deps l.name).map (find? i.made) = l.dependencies.map some) :
    (i.add l.name l).Represents deps := by
  have hfresh : l.name ∉ names i.made := fun h => by
    rw [← find?_isSome, hnew] at h
    cases h
  have hmade : ∀ m ∈ deps l.name, m ∈ names i.made := fun m hm =>
    find?_isSome.mp ((map_eq_map_some.mp hl).1 m hm)
  have hkeep : ∀ m ∈ names i.made, find? (i.add l.name l).made m = find? i.made m := by
    intro m hm
    obtain ⟨id, hid⟩ := Option.isSome_iff_exists.mp (find?_isSome.mpr hm)
    rw [hid]
    exact find?_append hid
  have hnodup : (names (i.add l.name l).made).Nodup := by
    rw [names_add, List.nodup_append_comm]
    exact List.nodup_cons.mpr ⟨hfresh, hi.nodup⟩
  refine ⟨hnodup, ?_, fun n id h => ?_⟩
  · rw [names_add, List.reverse_append]
    exact ⟨fun m hm => List.mem_reverse.mpr (hmade m hm), hi.grounded⟩
  · rcases List.mem_append.mp (mem_of_find? h) with hmem | hmem
    · have hn : n ∈ names i.made := List.mem_map.mpr ⟨_, hmem, rfl⟩
      obtain ⟨m, hm, hname, hdeps⟩ := hi.library n id (find?_of_mem hi.nodup hmem)
      refine ⟨m, LibraryGraph.extends_add _ _ id m hm, hname, ?_⟩
      rw [← hdeps]
      exact List.map_congr_left fun k hk => hkeep k (hi.mem_of_dep hn hk)
    · obtain ⟨rfl, rfl⟩ := Prod.mk.inj (List.mem_singleton.mp hmem)
      refine ⟨l, LibraryGraph.get?_add_size _ _, rfl, ?_⟩
      rw [← hl]
      exact List.map_congr_left fun k hk => hkeep k (hmade k hk)

end Instances

end BuildVariants
