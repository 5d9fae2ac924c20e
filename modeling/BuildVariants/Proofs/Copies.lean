import BuildVariants.Proofs.BuildFaults

/-!
# Copies of made libraries

The libraries of a description can be made in any library graph. Where they are made again, either making
fails with the same fault, or the libraries of one are copies of those of the other: they differ in nothing
but their places (`Description.makeLibraries_alike`). A build that goes on from copies ends alike, too
(`Description.finish_alike`).
-/

namespace BuildVariants

/-! ## Computations that end alike -/

/-- Both fail with the same fault, or both give a value and the values are related. -/
inductive Alike {ε α β : Type} (R : α → β → Prop) : Except ε α → Except ε β → Prop
  | ok {a : α} {b : β} : R a b → Alike R (.ok a) (.ok b)
  | error {e : ε} : Alike R (.error e) (.error e)

namespace Alike

variable {ε α β γ δ : Type} {R : α → β → Prop} {S : γ → δ → Prop}

theorem bind {x : Except ε α} {y : Except ε β} {f : α → Except ε γ} {g : β → Except ε δ} (h : Alike R x y)
    (hfg : ∀ a b, R a b → Alike S (f a) (g b)) : Alike S (x >>= f) (y >>= g) := by
  cases h with
  | ok hab => exact hfg _ _ hab
  | error => exact .error

theorem bind_same {x : Except ε α} {f : α → Except ε γ} {g : α → Except ε δ}
    (hfg : ∀ a, x = .ok a → Alike S (f a) (g a)) : Alike S (x >>= f) (x >>= g) := by
  cases x with
  | ok a => exact hfg a rfl
  | error e => exact .error

theorem map_right (x : Except ε α) (f : α → β) : Alike (fun a b => x = .ok a ∧ b = f a) x (f <$> x) := by
  cases x with
  | ok a => exact .ok ⟨rfl, rfl⟩
  | error e => exact .error

theorem map {x : Except ε α} {y : Except ε β} {f : α → γ} {g : β → δ} (h : Alike R x y)
    (hfg : ∀ a b, R a b → S (f a) (g b)) : Alike S (f <$> x) (g <$> y) := by
  cases h with
  | ok hab => exact .ok (hfg _ _ hab)
  | error => exact .error

theorem exists_ok {a : α} {y : Except ε β} (h : Alike R (.ok a) y) : ∃ b, y = .ok b ∧ R a b := by
  cases h with
  | ok hab => exact ⟨_, rfl, hab⟩

theorem eq_error {e : ε} {y : Except ε β} (h : Alike R (.error e) y) : y = .error e := by
  cases h with
  | error => rfl

end Alike

/-! ## Moved libraries -/

def Library.moved (ρ : LibraryId → LibraryId) (l : Library) : Library :=
  { l with dependencies := l.dependencies.map ρ }

namespace Instances

variable {ρ : LibraryId → LibraryId} {made : List (String × LibraryId)} {i i' : Instances}

def moved (ρ : LibraryId → LibraryId) (made : List (String × LibraryId)) : List (String × LibraryId) :=
  made.map fun e => (e.1, ρ e.2)

theorem find?_moved (ρ : LibraryId → LibraryId) (made : List (String × LibraryId)) (s : String) :
    find? (moved ρ made) s = (find? made s).map ρ := by
  simp [find?, moved, List.find?_map, Function.comp_def]

theorem find?_moved_isSome (ρ : LibraryId → LibraryId) (made : List (String × LibraryId)) (s : String) :
    (find? (moved ρ made) s).isSome = (find? made s).isSome := by
  simp [find?_moved]

theorem unknown_moved (ρ : LibraryId → LibraryId) (made : List (String × LibraryId)) (values : List Value) :
    unknown (moved ρ made) values = unknown made values := by
  have hknows : ∀ v, knows (moved ρ made) v = knows made v := by
    intro v
    cases v with
    | string s => rw [knows, knows, find?_moved_isSome]
    | _ => rfl
  induction values with
  | nil => rfl
  | cons v vs ih => rw [unknown, unknown, hknows, ih]

theorem lookUp_moved (ρ : LibraryId → LibraryId) (made : List (String × LibraryId)) (v : Value) :
    lookUp (moved ρ made) v = List.map ρ <$> lookUp made v := by
  unfold lookUp
  cases v.elements with
  | error e => rfl
  | ok values =>
    simp only [bind, Except.bind, unknown_moved]
    cases unknown made values with
    | error e => rfl
    | ok missing =>
      cases missing with
      | cons m ms =>
        dsimp only
        cases (m :: ms).mapM Value.asText with
        | error e => rfl
        | ok ns => rfl
      | nil =>
        refine congrArg Except.ok ?_
        rw [List.map_filterMap]
        refine List.filterMap_congr fun w _ => ?_
        cases w with
        | string s => exact find?_moved ρ made s
        | _ => rfl

/-- The libraries of the same names, at the places that `ρ` gives. -/
structure Copy (ρ : LibraryId → LibraryId) (i i' : Instances) : Prop where
  made : i'.made = moved ρ i.made
  library : ∀ e ∈ i.made, ∃ l, i.graph.get? e.2 = some l ∧ i'.graph.get? (ρ e.2) = some (l.moved ρ)

theorem Copy.find?_isSome (h : Copy ρ i i') (s : String) : (find? i'.made s).isSome = (find? i.made s).isSome := by
  rw [h.made, find?_moved_isSome]

theorem Copy.extends (h : Copy ρ i i') {g g' : LibraryGraph} (hg : g.Extends i.graph) (hg' : g'.Extends i'.graph) :
    Copy ρ ⟨g, i.made⟩ ⟨g', i'.made⟩ where
  made := h.made
  library := fun e he => by
    obtain ⟨l, hl, hl'⟩ := h.library e he
    exact ⟨l, hg _ _ hl, hg' _ _ hl'⟩

theorem Copy.add (h : Copy ρ i i') (hsize : i'.graph.size = ρ i.graph.size) (s : String) (l : Library) :
    Copy ρ (i.add s l) (i'.add s (l.moved ρ)) where
  made := by
    simp only [Instances.add, moved, List.map_append, h.made, hsize]
    rfl
  library := by
    intro e he
    rcases List.mem_append.mp he with he | he
    · obtain ⟨m, hm, hm'⟩ := h.library e he
      exact ⟨m, LibraryGraph.extends_add _ _ _ _ hm, LibraryGraph.extends_add _ _ _ _ hm'⟩
    · obtain rfl := List.mem_singleton.mp he
      refine ⟨l, LibraryGraph.get?_add_size _ _, ?_⟩
      rw [← hsize]
      exact LibraryGraph.get?_add_size _ _

theorem Copy.of_isMade (h : Copy ρ i i') {a : LibraryId} (ha : IsMade i.made a) :
    ∃ l, i.graph.get? a = some l ∧ i'.graph.get? (ρ a) = some (l.moved ρ) := by
  obtain ⟨n, hn⟩ := ha
  exact h.library _ (mem_of_find? hn)

theorem Copy.isMade (h : Copy ρ i i') {a : LibraryId} (ha : IsMade i.made a) : IsMade i'.made (ρ a) := by
  obtain ⟨n, hn⟩ := ha
  exact ⟨n, by rw [h.made, find?_moved, hn]; rfl⟩

/-- Copies depend on the copies, and no two libraries have the same one. -/
theorem Copy.renaming (h : Copy ρ i i') {deps : String → List String} (hi : i.Represents deps) :
    Renaming i.graph.dependencies i'.graph.dependencies (IsMade i.made) ρ where
  closed := fun _ ha _ hb => hi.isMade_of_dependency ha hb
  deps_apply := fun a ha => by
    obtain ⟨l, hl, hl'⟩ := h.of_isMade ha
    rw [LibraryGraph.dependencies_eq hl, LibraryGraph.dependencies_eq hl']
    rfl
  injective := fun a b ha hb hab => by
    obtain ⟨l, hl, hl'⟩ := h.of_isMade ha
    obtain ⟨m, hm, hm'⟩ := h.of_isMade hb
    rw [hab, hm'] at hl'
    have hname : (m.moved ρ).name = (l.moved ρ).name := congrArg Library.name (Option.some.inj hl')
    refine hi.name_injective ha hb ?_
    rw [LibraryGraph.name_eq hl, LibraryGraph.name_eq hm]
    exact hname.symm

end Instances

namespace Description

open Instances (Copy IsMade find? lookUp lookUp_moved moved)

variable {files : Files} {d : Description} {tables : Table} {ρ : LibraryId → LibraryId} {i i' : Instances}

/-! ## Making again -/

theorem library_moved (files : Files) (d : Description) (ρ : LibraryId → LibraryId)
    (made : List (String × LibraryId)) (name : String) (t : Table) :
    d.library files (moved ρ made) name t = Library.moved ρ <$> d.library files made name t := by
  unfold library
  rw [lookUp_moved]
  cases t.get? "folder" with
  | some folder => simp only [map_bind, bind_map_left, map_pure, Library.ofFolder, Library.moved]
  | none => simp only [map_bind, bind_map_left, map_pure, Library.moved]

/-- A place, counted from `n'` instead of `n`. -/
def shift (n n' : Nat) (a : LibraryId) : LibraryId := a - n + n'

/-- The same has been made since the graphs had the sizes `n` and `n'`. -/
structure MadeAlike (n n' : Nat) (i i' : Instances) : Prop where
  copy : Copy (shift n n') i i'
  le_size : n ≤ i.graph.size
  size : i'.graph.size = shift n n' i.graph.size

theorem MadeAlike.add {n n' : Nat} (h : MadeAlike n n' i i') (s : String) (l : Library) :
    MadeAlike n n' (i.add s l) (i'.add s (l.moved (shift n n'))) where
  copy := h.copy.add h.size s l
  le_size := by
    have hle := h.le_size
    simp only [Instances.add, LibraryGraph.size_add]
    omega
  size := by
    have hle := h.le_size
    have hsize := h.size
    simp only [Instances.add, LibraryGraph.size_add, shift] at *
    omega

/-- The induction keeps that the same has been made, so that the same is found, waits or is missing. -/
theorem make_alike (files : Files) (d : Description) (tables : Table) (n n' : Nat) :
    (∀ making v i i', MadeAlike n n' i i' →
      Alike (MadeAlike n n') (d.make files tables making v i) (d.make files tables making v i')) ∧
    ∀ making vs i i', MadeAlike n n' i i' →
      Alike (MadeAlike n n') (d.makeAll files tables making vs i) (d.makeAll files tables making vs i') := by
  apply making_induction tables
    (fun making v i => ∀ i', MadeAlike n n' i i' →
      Alike (MadeAlike n n') (d.make files tables making v i) (d.make files tables making v i'))
    (fun making vs i => ∀ i', MadeAlike n n' i i' →
      Alike (MadeAlike n n') (d.makeAll files tables making vs i) (d.makeAll files tables making vs i'))
  -- made before
  · intro making i s hfind i' h
    have hfind' : (find? i'.made s).isSome := by rwa [h.copy.find?_isSome]
    rw [make, make, if_pos hfind, if_pos hfind']
    exact .ok h
  -- waiting
  · intro making i s hfind hwait i' h
    have hfind' : ¬(find? i'.made s).isSome := by rwa [h.copy.find?_isSome]
    rw [make, make, if_neg hfind, if_neg hfind', dif_pos hwait, dif_pos hwait]
    exact .error
  -- declared
  · intro making i s hfind hnew t ht ih i' h
    have hfind' : ¬(find? i'.made s).isSome := by rwa [h.copy.find?_isSome]
    rw [make_table hfind hnew ht, make_table hfind' hnew ht]
    refine .bind_same fun values _ => .bind (ih values i' h) fun j j' hj => ?_
    rw [hj.copy.made, library_moved]
    refine .bind (.map_right _ _) fun l l' hl => ?_
    obtain ⟨_, rfl⟩ := hl
    exact .ok (hj.add s l)
  -- not declared
  · intro making i s hfind hnew ht i' h
    have hfind' : ¬(find? i'.made s).isSome := by rwa [h.copy.find?_isSome]
    rw [make_undeclared hfind hnew ht, make_undeclared hfind' hnew ht]
    exact .error
  -- no text
  · intro making i v hv i' h
    cases hmake : d.make files tables making v i with
    | ok j => exact absurd hmake (make_other_ne_ok hv)
    | error e =>
      rw [make_other hv] at hmake ⊢
      rw [hmake]
      exact .error
  -- none left
  · intro making i i' h
    rw [makeAll, makeAll]
    exact .ok h
  -- the first, then the others
  · intro making i v vs ih₁ ih₂ i' h
    rw [makeAll, makeAll]
    exact .bind (ih₁ i' h) fun j j' hj => ih₂ j j' hj

theorem madeAlike_start (g g' : LibraryGraph) : MadeAlike g.size g'.size ⟨g, []⟩ ⟨g', []⟩ where
  copy := ⟨rfl, fun _ he => absurd he List.not_mem_nil⟩
  le_size := Nat.le_refl _
  size := by simp [shift]

theorem makeLibraries_alike (files : Files) (d : Description) (g g' : LibraryGraph) :
    Alike (MadeAlike g.size g'.size) (d.makeLibraries files g) (d.makeLibraries files g') := by
  have hstart := madeAlike_start g g'
  unfold makeLibraries
  refine .bind_same fun values _ => ?_
  generalize d.data.getD "libraries" (.table []) = declared
  cases declared with
  | table tables => exact (make_alike files d tables g.size g'.size).2 [] values _ _ hstart
  | _ =>
    cases values with
    | nil => exact .ok hstart
    | cons => exact .error

end Description

/-! ## Building on copies -/

def Role.moved (ρ : LibraryId → LibraryId) : Role → Role
  | .library (some output) => .library (some (ρ output))
  | role => role

namespace Variant

def moved (ρ : LibraryId → LibraryId) (v : Variant) : Variant :=
  { v with role := v.role.moved ρ, direct := v.direct.map ρ, flat := v.flat.map ρ }

def libraries (v : Variant) : List LibraryId := v.direct ++ v.flat ++ v.output.toList

/-- The variants are equal but for the places of their libraries. Under `ρ` the places of all libraries
that `v` leads to correspond one to one, and so do the libraries there. -/
structure CopiedBy (ρ : LibraryId → LibraryId) (g g' : LibraryGraph) (v v' : Variant) : Prop where
  moved : v' = v.moved ρ
  library : ∀ a, Reached g.dependencies v.libraries a →
    ∃ l, g.get? a = some l ∧ g'.get? (ρ a) = some (l.moved ρ)
  injective : ∀ a b, Reached g.dependencies v.libraries a → Reached g.dependencies v.libraries b →
    ρ a = ρ b → a = b

theorem setLibraries_of_flatten {g : LibraryGraph} {v : Variant} {direct order : List LibraryId}
    (h : g.flatten direct = .ok order) :
    v.setLibraries g none direct = ({ v with direct := direct, flat := order }, .ok ()) := by
  simp [setLibraries, flattened, fullDirect, h]

end Variant

/-- A renaming takes the order along, where its image leads to no cycle. -/
theorem Renaming.flatten {g g' : LibraryGraph} {p : LibraryId → Prop} {ρ : LibraryId → LibraryId}
    (r : Renaming g.dependencies g'.dependencies p ρ) {direct order : List LibraryId} (hp : ∀ a ∈ direct, p a)
    (hacyclic : ¬ReachesCycle g'.dependencies (direct.map ρ)) (h : g.flatten direct = .ok order) :
    g'.flatten (direct.map ρ) = .ok (order.map ρ) := by
  obtain ⟨hrun, _⟩ :=
    r.frontInserted (LibraryGraph.frontInserted_of_flatten h) hp fun _ ha => absurd ha List.not_mem_nil
  exact LibraryGraph.flatten_of_frontInserted hacyclic hrun

theorem Library.moved_congr {ρ ρ' : LibraryId → LibraryId} {l : Library} (h : ∀ a ∈ l.dependencies, ρ' a = ρ a) :
    l.moved ρ' = l.moved ρ := by
  rw [Library.moved, Library.moved, List.map_congr_left h]

namespace Instances

variable {ρ ρ' : LibraryId → LibraryId} {i i' : Instances} {deps : String → List String}

theorem Represents.isMade_of_mem (hi : i.Represents deps) {e : String × LibraryId} (he : e ∈ i.made) :
    IsMade i.made e.2 :=
  ⟨e.1, find?_of_mem hi.nodup he⟩

theorem Copy.congr (h : Copy ρ i i') (hi : i.Represents deps) (hρ : ∀ a, IsMade i.made a → ρ' a = ρ a) :
    Copy ρ' i i' where
  made := by
    rw [h.made]
    refine List.map_congr_left fun e he => ?_
    rw [hρ e.2 (hi.isMade_of_mem he)]
  library := fun e he => by
    obtain ⟨l, hl, hl'⟩ := h.library e he
    have he' := hi.isMade_of_mem he
    refine ⟨l, hl, ?_⟩
    have hdeps : ∀ a ∈ l.dependencies, ρ' a = ρ a := by
      intro a ha
      rw [← LibraryGraph.dependencies_eq hl] at ha
      exact hρ a (hi.isMade_of_dependency he' ha)
    rw [hρ e.2 he', hl', Library.moved_congr hdeps]

end Instances

namespace Description

open Instances (Copy IsMade find? lookUp lookUp_moved moved)

variable {files : Files} {d : Description} {ρ : LibraryId → LibraryId} {i i' : Instances}
  {deps : String → List String} {v : Variant}

theorem Bare.moved (hv : Bare v) (ρ : LibraryId → LibraryId) : v.moved ρ = v := by
  have hrole : v.role.moved ρ = v.role := by
    rcases hv.role with h | h
    · rw [h]
      rfl
    · rw [h]
      rfl
  have hdirect : v.direct.map ρ = v.direct := by
    rw [hv.direct]
    rfl
  have hflat : v.flat.map ρ = v.flat := by
    rw [hv.flat]
    rfl
  rw [Variant.moved, hrole, hdirect, hflat]

theorem Bare.setOutput (hv : Bare v) (hkind : v.kind = .library) (o : LibraryId) :
    v.setOutput o = .ok { v with role := .library (some o) } := by
  have hrole : v.role = .library none := by
    refine hv.role.resolve_left fun h => ?_
    rw [Variant.kind, h] at hkind
    cases hkind
  rw [Variant.setOutput, hrole]

/-- What a build has on both sides before it declares the libraries of the variant. -/
structure Copied (ρ : LibraryId → LibraryId) (made made' : List (String × LibraryId))
    (r r' : LibraryGraph × Variant) : Prop where
  copy : Copy ρ ⟨r.1, made⟩ ⟨r'.1, made'⟩
  variant : r'.2 = r.2.moved ρ
  output : ∀ o, r.2.output = some o →
    (∃ l, r.1.get? o = some l ∧ r'.1.get? (ρ o) = some (l.moved ρ) ∧ ∀ b ∈ l.dependencies, IsMade made b) ∧
      ∀ a, IsMade made a → ρ a ≠ ρ o

/-- Outputs come at the ends of both graphs, behind all that was made. -/
theorem Copied.add_output (hc : Copy ρ i i') (hi : i.Represents deps) (hv : Bare v) {l : Library}
    (hdeps : ∀ b ∈ l.dependencies, IsMade i.made b) :
    ∃ ρ', Copied ρ' i.made i'.made (i.graph.add l, { v with role := .library (some i.graph.size) })
      (i'.graph.add (l.moved ρ), { v with role := .library (some i'.graph.size) }) := by
  have hlt : ∀ a, IsMade i.made a → a < i.graph.size ∧ ρ a < i'.graph.size := by
    intro a ha
    obtain ⟨m, hm, hm'⟩ := hc.of_isMade ha
    exact ⟨LibraryGraph.lt_size_of_get? hm, LibraryGraph.lt_size_of_get? hm'⟩
  let ρ' : LibraryId → LibraryId := fun a => if a = i.graph.size then i'.graph.size else ρ a
  have hself : ρ' i.graph.size = i'.graph.size := if_pos rfl
  have hρ : ∀ a, IsMade i.made a → ρ' a = ρ a := fun a ha => if_neg (Nat.ne_of_lt (hlt a ha).1)
  have hmoved : l.moved ρ' = l.moved ρ := Library.moved_congr fun b hb => hρ b (hdeps b hb)
  refine ⟨ρ', (hc.congr hi hρ).extends (LibraryGraph.extends_add _ _) (LibraryGraph.extends_add _ _), ?_, ?_⟩
  · have hsame : { v.moved ρ' with role := .library (some (ρ' i.graph.size)) } =
        { v with role := .library (some i'.graph.size) } := by rw [hv.moved, hself]
    exact hsame.symm
  · intro o ho
    obtain rfl := Option.some.inj ho
    rw [hself]
    refine ⟨⟨l, LibraryGraph.get?_add_size _ _, ?_, hdeps⟩, fun a ha => ?_⟩
    · rw [hmoved]
      exact LibraryGraph.get?_add_size _ _
    · rw [hρ a ha]
      exact Nat.ne_of_lt (hlt a ha).2

theorem addOutput_alike (hc : Copy ρ i i') (hi : i.Represents deps) (hv : Bare v) :
    Alike (fun r r' => (∃ ρ, Copied ρ i.made i'.made r r') ∧ r.1.Extends i.graph ∧ r'.1.Extends i'.graph)
      (d.addOutput files i v) (d.addOutput files i' v) := by
  unfold addOutput
  by_cases hout : v.kind = .library ∧ d.data.has "output"
  · rw [if_pos hout, if_pos hout]
    refine .bind_same fun t _ => ?_
    rw [hc.made, library_moved]
    refine .bind (.map_right _ _) fun l l' hl => ?_
    obtain ⟨hl, rfl⟩ := hl
    obtain ⟨_, _, hids⟩ := Instances.lookUp_eq_ok.mp (library_ok hl).2
    have hcopied := Copied.add_output hc hi hv (Instances.isMade_of_lookUp hids)
    rw [hc.made] at hcopied
    rw [hv.setOutput hout.1, hv.setOutput hout.1]
    exact .ok ⟨hcopied, LibraryGraph.extends_add _ _, LibraryGraph.extends_add _ _⟩
  · rw [if_neg hout, if_neg hout]
    have hnone : v.output = none := by
      rcases hv.role with h | h
      · rw [Variant.output, h]
      · rw [Variant.output, h]
    refine .ok ⟨⟨ρ, hc, (hv.moved ρ).symm, fun o ho => ?_⟩, .refl _, .refl _⟩
    cases hnone.symm.trans ho

theorem addLibraries_alike {made made' : List (String × LibraryId)} {r r' : LibraryGraph × Variant}
    (hr : Copied ρ made made' r r') (hi : Instances.Represents ⟨r.1, made⟩ deps)
    (hi' : Instances.Represents ⟨r'.1, made'⟩ deps) (ns : Value) :
    Alike (Variant.CopiedBy ρ r.1 r'.1) (addLibraries made r.1 none ns r.2) (addLibraries made' r'.1 none ns r'.2) := by
  have hmoved : made' = moved ρ made := hr.copy.made
  unfold addLibraries
  rw [hmoved, lookUp_moved]
  refine .bind (.map_right _ _) fun direct direct' hdirect => ?_
  obtain ⟨hdirect, rfl⟩ := hdirect
  obtain ⟨_, _, hids⟩ := Instances.lookUp_eq_ok.mp hdirect
  have hmade : ∀ a ∈ direct, IsMade made a := Instances.isMade_of_lookUp hids
  have hmade' : ∀ a ∈ direct.map ρ, IsMade made' a := by
    intro a ha
    obtain ⟨b, hb, rfl⟩ := List.mem_map.mp ha
    exact hr.copy.isMade (hmade b hb)
  have hren := hr.copy.renaming hi
  obtain ⟨order, horder⟩ := LibraryGraph.flatten_of_not_reachesCycle (hi.not_reachesCycle hmade)
  have horder' := hren.flatten hmade (hi'.not_reachesCycle hmade') horder
  rw [Variant.setLibraries_of_flatten horder, Variant.setLibraries_of_flatten horder']
  -- what the variant leads to are its output and made libraries
  have hclosed : ∀ b, IsMade made b ∨ r.2.output = some b → ∀ c ∈ r.1.dependencies b,
      IsMade made c ∨ r.2.output = some c := by
    intro b hb c hc
    rcases hb with hb | hb
    · exact .inl (hi.isMade_of_dependency hb hc)
    · obtain ⟨⟨l, hl, _, hdeps⟩, _⟩ := hr.output b hb
      rw [LibraryGraph.dependencies_eq hl] at hc
      exact .inl (hdeps c hc)
  have hreached : ∀ a, Reached r.1.dependencies (Variant.libraries { r.2 with direct := direct, flat := order }) a →
      IsMade made a ∨ r.2.output = some a := by
    intro a ha
    refine ha.of_closed (fun b hb => ?_) hclosed
    rw [Variant.libraries, List.append_assoc, List.mem_append, List.mem_append, Option.mem_toList] at hb
    rcases hb with hb | hb | hb
    · exact .inl (hmade b hb)
    · exact .inl (hi.isMade_of_flatten hmade horder b hb)
    · exact .inr hb
  refine .ok ⟨?_, fun a ha => ?_, fun a b ha hb hab => ?_⟩
  · rw [hr.variant]
    rfl
  · rcases hreached a ha with ha | ha
    · exact hr.copy.of_isMade ha
    · obtain ⟨⟨l, hl, hl', _⟩, _⟩ := hr.output a ha
      exact ⟨l, hl, hl'⟩
  · rcases hreached a ha with ha | ha
    · rcases hreached b hb with hb | hb
      · exact hren.injective a b ha hb hab
      · exact absurd hab ((hr.output b hb).2 a ha)
    · rcases hreached b hb with hb | hb
      · exact absurd hab.symm ((hr.output a ha).2 b hb)
      · exact Option.some.inj (ha.symm.trans hb)

theorem finish_alike (hc : Copy ρ i i') (hi : i.Represents deps) (hi' : i'.Represents deps) (hv : Bare v) :
    Alike (fun r r' => ∃ ρ, r.2.CopiedBy ρ r.1 r'.1 r'.2) (d.finish files i v) (d.finish files i' v) := by
  unfold finish
  refine .bind_same fun v' hv' => ?_
  obtain ⟨jars, rfl⟩ := addJars_ok hv'
  have hbare : Bare (v.setJars jars) := ⟨hv.role, hv.direct, hv.flat⟩
  refine .bind (addOutput_alike hc hi hbare) fun r r' hr => ?_
  obtain ⟨⟨ρ', hr⟩, hext, hext'⟩ := hr
  refine .bind (addLibraries_alike hr (hi.extends hext) (hi'.extends hext') _) fun w w' hw => ?_
  exact .ok ⟨ρ', hw⟩

end Description

end BuildVariants
