import BuildVariants.Library.Graph
import Mathlib.Data.List.Basic
import Mathlib.Logic.Relation

/-!
# Dependencies

What is reached from some declared members along their dependencies, and lists that are grounded:
every member stands before its dependencies. A grounded list holds all that its members reach, and
nothing that is reached from it depends on itself.
-/

namespace BuildVariants

open Relation (ReflTransGen TransGen)

section
variable {α : Type} (deps : α → List α)

def DependsOn (a b : α) : Prop := b ∈ deps a

def Reached (direct : List α) (b : α) : Prop := ∃ a ∈ direct, ReflTransGen (DependsOn deps) a b

/-- Something that depends on itself, directly or through others, is reached. -/
def ReachesCycle (direct : List α) : Prop :=
  ∃ a, Reached deps direct a ∧ TransGen (DependsOn deps) a a

def Grounded : List α → Prop
  | [] => True
  | a :: l => (∀ b ∈ deps a, b ∈ l) ∧ Grounded l

instance Grounded.decidable [DecidableEq α] : ∀ l, Decidable (Grounded deps l)
  | [] => inferInstanceAs (Decidable True)
  | _ :: l =>
    have := Grounded.decidable l
    inferInstanceAs (Decidable (_ ∧ _))

end

section
variable {α : Type} {deps : α → List α}

/-! ## What is reached -/

theorem reached_of_mem {direct : List α} {a : α} (h : a ∈ direct) : Reached deps direct a :=
  ⟨a, h, .refl⟩

theorem Reached.dependsOn {direct : List α} {a b : α} (h : Reached deps direct a) (hb : b ∈ deps a) :
    Reached deps direct b := by
  obtain ⟨d, hd, hda⟩ := h
  exact ⟨d, hd, hda.tail hb⟩

theorem Reached.trans {direct middle : List α} {b : α} (h : Reached deps middle b)
    (hm : ∀ a ∈ middle, Reached deps direct a) : Reached deps direct b := by
  obtain ⟨m, hmm, hmb⟩ := h
  obtain ⟨d, hd, hdm⟩ := hm m hmm
  exact ⟨d, hd, hdm.trans hmb⟩

theorem Reached.of_closed {direct : List α} {p : α → Prop} {b : α} (h : Reached deps direct b)
    (hd : ∀ a ∈ direct, p a) (hp : ∀ a, p a → ∀ c ∈ deps a, p c) : p b := by
  obtain ⟨a, ha, hab⟩ := h
  induction hab with
  | refl => exact hd a ha
  | tail _ hbc ih => exact hp _ ih _ hbc

theorem reached_append {xs ys : List α} {b : α} :
    Reached deps (xs ++ ys) b ↔ Reached deps xs b ∨ Reached deps ys b := by
  simp only [Reached, List.mem_append, or_and_right, exists_or]

theorem ReachesCycle.mono {xs ys : List α} (h : ReachesCycle deps xs)
    (hxy : ∀ a ∈ xs, Reached deps ys a) : ReachesCycle deps ys := by
  obtain ⟨a, ha, haa⟩ := h
  exact ⟨a, ha.trans hxy, haa⟩

theorem reachesCycle_append {xs ys : List α} :
    ReachesCycle deps (xs ++ ys) ↔ ReachesCycle deps xs ∨ ReachesCycle deps ys := by
  simp only [ReachesCycle, reached_append, or_and_right, exists_or]

theorem reachesCycle_singleton {a : α} : ReachesCycle deps [a] ↔ ReachesCycle deps (deps a) := by
  constructor
  · rintro ⟨c, ⟨a', ha', hac⟩, hcc⟩
    obtain rfl := List.mem_singleton.mp ha'
    obtain ⟨d, hd, hdc⟩ := TransGen.head'_iff.mp (hcc.trans_right hac)
    exact ⟨c, ⟨d, hd, hdc⟩, hcc⟩
  · intro h
    exact h.mono fun b hb => (reached_of_mem (List.mem_singleton_self a)).dependsOn hb

/-! ## Grounded lists -/

theorem Grounded.closed : ∀ {l : List α}, Grounded deps l → ∀ {a b : α}, a ∈ l → b ∈ deps a → b ∈ l
  | c :: l, h, a, b, ha, hb => by
    rcases List.mem_cons.mp ha with rfl | ha
    · exact List.mem_cons_of_mem _ (h.1 b hb)
    · exact List.mem_cons_of_mem _ (h.2.closed ha hb)

/-- The dependencies of a member are found behind the head. -/
theorem Grounded.deps_mem_tail {a b : α} {l : List α} (h : Grounded deps (b :: l)) (ha : a ∈ b :: l) :
    ∀ d ∈ deps a, d ∈ l := by
  rcases List.mem_cons.mp ha with rfl | ha
  · exact h.1
  · exact fun d hd => h.2.closed ha hd

theorem Grounded.mem_of_reached {l direct : List α} (h : Grounded deps l) (hd : ∀ a ∈ direct, a ∈ l)
    {b : α} (hb : Reached deps direct b) : b ∈ l :=
  hb.of_closed hd fun _ ha _ hc => h.closed ha hc

theorem Grounded.of_append {front back : List α} (h : Grounded deps (front ++ back)) : Grounded deps back := by
  induction front with
  | nil => exact h
  | cons a front ih => exact ih h.2

theorem Grounded.pair_sublist {l : List α} {a b : α} (h : Grounded deps l) (ha : a ∈ l)
    (hab : TransGen (DependsOn deps) a b) : [a, b].Sublist l := by
  obtain ⟨front, back, rfl⟩ := List.append_of_mem ha
  obtain ⟨hdeps, hback⟩ := h.of_append
  obtain ⟨c, hac, hcb⟩ := TransGen.head'_iff.mp hab
  have hb : b ∈ back := hback.mem_of_reached hdeps ⟨c, hac, hcb⟩
  have hpair : [a, b].Sublist (a :: back) := (List.singleton_sublist.mpr hb).cons_cons a
  exact hpair.trans (List.sublist_append_right ..)

variable [DecidableEq α]

theorem Grounded.idxOf_lt_of_mem : ∀ {l : List α}, Grounded deps l → l.Nodup → ∀ {a b : α}, a ∈ l →
    b ∈ deps a → l.idxOf a < l.idxOf b
  | c :: l, h, hn, a, b, ha, hb => by
    obtain ⟨hc, hn⟩ := List.nodup_cons.mp hn
    have hbl : b ∈ l := h.deps_mem_tail ha b hb
    have hcb : c ≠ b := fun e => hc (e ▸ hbl)
    rw [List.idxOf_cons_ne l hcb]
    rcases List.mem_cons.mp ha with rfl | ha
    · rw [List.idxOf_cons_self]
      exact Nat.succ_pos _
    · have hca : c ≠ a := fun e => hc (e ▸ ha)
      rw [List.idxOf_cons_ne l hca]
      exact Nat.succ_lt_succ (h.2.idxOf_lt_of_mem hn ha hb)

/-- Also an indirect dependency stands behind. -/
theorem Grounded.idxOf_lt {l : List α} (h : Grounded deps l) (hn : l.Nodup) {a b : α} (ha : a ∈ l)
    (hab : TransGen (DependsOn deps) a b) : l.idxOf a < l.idxOf b := by
  induction hab with
  | single hb => exact h.idxOf_lt_of_mem hn ha hb
  | tail hac hb ih =>
    have hreached : Reached deps l _ := ⟨a, ha, hac.to_reflTransGen⟩
    have hc := h.mem_of_reached (fun _ h => h) hreached
    exact Nat.lt_trans ih (h.idxOf_lt_of_mem hn hc hb)

theorem grounded_of_idxOf_lt : ∀ {l : List α}, l.Nodup →
    (∀ a ∈ l, ∀ b ∈ deps a, b ∈ l ∧ l.idxOf a < l.idxOf b) → Grounded deps l
  | [], _, _ => trivial
  | c :: l, hn, h => by
    obtain ⟨hc, hn⟩ := List.nodup_cons.mp hn
    -- what stands behind a member is not the head
    have htail : ∀ a ∈ c :: l, ∀ b ∈ deps a, b ∈ l ∧ c ≠ b := by
      intro a ha b hb
      obtain ⟨hbl, hlt⟩ := h a ha b hb
      have hcb : c ≠ b := by
        rintro rfl
        rw [List.idxOf_cons_self] at hlt
        exact Nat.not_lt_zero _ hlt
      exact ⟨(List.mem_cons.mp hbl).resolve_left hcb.symm, hcb⟩
    refine ⟨fun b hb => (htail c List.mem_cons_self b hb).1, grounded_of_idxOf_lt hn ?_⟩
    intro a ha b hb
    have hca : c ≠ a := fun e => hc (e ▸ ha)
    obtain ⟨hbl, hcb⟩ := htail a (List.mem_cons_of_mem _ ha) b hb
    have hlt := (h a (List.mem_cons_of_mem _ ha) b hb).2
    rw [List.idxOf_cons_ne l hca, List.idxOf_cons_ne l hcb] at hlt
    exact ⟨hbl, Nat.lt_of_succ_lt_succ hlt⟩

theorem grounded_iff_idxOf_lt {l : List α} (hn : l.Nodup) :
    Grounded deps l ↔ ∀ a ∈ l, ∀ b ∈ deps a, b ∈ l ∧ l.idxOf a < l.idxOf b :=
  ⟨fun h _ ha _ hb => ⟨h.closed ha hb, h.idxOf_lt_of_mem hn ha hb⟩, grounded_of_idxOf_lt hn⟩

theorem Grounded.not_reachesCycle {l direct : List α} (h : Grounded deps l) (hn : l.Nodup)
    (hd : ∀ a ∈ direct, a ∈ l) : ¬ ReachesCycle deps direct := by
  rintro ⟨a, ha, haa⟩
  exact Nat.lt_irrefl _ (h.idxOf_lt hn (h.mem_of_reached hd ha) haa)

end

/-- Libraries of no name with these dependencies. -/
def LibraryGraph.ofDependencies (dependencies : List (List LibraryId)) : LibraryGraph :=
  ⟨(dependencies.map fun ds => { (default : Library) with dependencies := ds }).toArray⟩

end BuildVariants
