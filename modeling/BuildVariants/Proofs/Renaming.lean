import BuildVariants.Proofs.FrontInsertion

/-!
# Renaming

A graph under other names. A renaming carries over the dependencies of all nodes that satisfy some
property, and takes no two of these nodes together; what they depend on satisfies the property too.
Where the plain recursion starts from such nodes, it gives the same order under both kinds of names
(`Renaming.frontInserted`), and a cycle that is reached is one under the new names (`Renaming.reachesCycle`).
-/

namespace BuildVariants

open Relation (TransGen)

section
variable {α β : Type}

structure Renaming (deps : α → List α) (deps' : β → List β) (p : α → Prop) (f : α → β) : Prop where
  closed : ∀ a, p a → ∀ b ∈ deps a, p b
  deps_apply : ∀ a, p a → deps' (f a) = (deps a).map f
  injective : ∀ a b, p a → p b → f a = f b → a = b

namespace Renaming

/-- Names may be kept where the dependencies are the same. -/
theorem of_eq {deps deps' : α → List α} {p : α → Prop} (hclosed : ∀ a, p a → ∀ b ∈ deps a, p b)
    (h : ∀ a, p a → deps' a = deps a) : Renaming deps deps' p id where
  closed := hclosed
  deps_apply := fun a ha => (h a ha).trans (List.map_id _).symm
  injective := fun _ _ _ _ hab => hab

variable {deps : α → List α} {deps' : β → List β} {p : α → Prop} {f : α → β}

theorem transGen (r : Renaming deps deps' p f) {a b : α} (ha : p a) (h : TransGen (DependsOn deps) a b) :
    TransGen (DependsOn deps') (f a) (f b) ∧ p b := by
  have hstep : ∀ {a b : α}, p a → DependsOn deps a b → DependsOn deps' (f a) (f b) := by
    intro a b ha hb
    rw [DependsOn, r.deps_apply a ha]
    exact List.mem_map_of_mem hb
  induction h with
  | single hb => exact ⟨.single (hstep ha hb), r.closed a ha _ hb⟩
  | tail _ hb ih =>
    obtain ⟨hab, hp⟩ := ih
    exact ⟨hab.tail (hstep hp hb), r.closed _ hp _ hb⟩

theorem reachesCycle (r : Renaming deps deps' p f) {direct : List α} (hd : ∀ a ∈ direct, p a)
    (h : ReachesCycle deps direct) : ReachesCycle deps' (direct.map f) := by
  obtain ⟨c, ⟨a, ha, hac⟩, hcc⟩ := h
  have hfa : f a ∈ direct.map f := List.mem_map_of_mem ha
  rcases Relation.reflTransGen_iff_eq_or_transGen.mp hac with rfl | hac
  · exact ⟨f c, reached_of_mem hfa, (r.transGen (hd c ha) hcc).1⟩
  · obtain ⟨hfac, hc⟩ := r.transGen (hd a ha) hac
    exact ⟨f c, ⟨f a, hfa, hfac.to_reflTransGen⟩, (r.transGen hc hcc).1⟩

variable [DecidableEq α] [DecidableEq β]

theorem map_insert (r : Renaming deps deps' p f) {a : α} {l : List α} (ha : p a) (hl : ∀ b ∈ l, p b) :
    (l.insert a).map f = (l.map f).insert (f a) := by
  by_cases h : a ∈ l
  · rw [List.insert_of_mem h, List.insert_of_mem (List.mem_map_of_mem h)]
  · have hf : f a ∉ l.map f := by
      intro hm
      obtain ⟨b, hb, hba⟩ := List.mem_map.mp hm
      exact h (r.injective b a (hl b hb) ha hba ▸ hb)
    rw [List.insert_of_not_mem h, List.insert_of_not_mem hf, List.map_cons]

theorem frontInserted (r : Renaming deps deps' p f) {as placed order : List α}
    (h : FrontInserted deps as placed order) (has : ∀ a ∈ as, p a) (hp : ∀ a ∈ placed, p a) :
    FrontInserted deps' (as.map f) (placed.map f) (order.map f) ∧ ∀ a ∈ order, p a := by
  induction h with
  | nil => exact ⟨.nil, hp⟩
  | @cons a as placed behind below _ _ ih₁ ih₂ =>
    have ha : p a := has a List.mem_cons_self
    obtain ⟨hbehind, hpb⟩ := ih₁ (fun b hb => has b (List.mem_cons_of_mem _ hb)) hp
    obtain ⟨hbelow, hpo⟩ := ih₂ (r.closed a ha) hpb
    rw [← r.deps_apply a ha] at hbelow
    refine ⟨?_, fun b hb => ?_⟩
    · rw [r.map_insert ha hpo]
      exact .cons hbehind hbelow
    · rcases List.mem_insert_iff.mp hb with rfl | hb
      · exact ha
      · exact hpo b hb

end Renaming

end

end BuildVariants
