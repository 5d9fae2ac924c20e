import BuildVariants.Library.Graph

/-!
# The priority order of libraries

`LibraryGraph.flatten` lists the libraries that are reached from some declared ones, the highest
priority first. The declared libraries are visited from the last to the first; each library waits
until its own dependencies are placed, in the same order, and then goes in front of all placed
before it. A library that is met while it still waits lies on a cycle.

The visit is a loop over a stack of frames. It ends because every step either expands a library
that was not expanded before or leaves less to read.
-/

namespace BuildVariants

/-- Libraries still to be read, the next one first, on behalf of an owner that waits for them. -/
structure Frame where
  owner : Option LibraryId
  unread : List LibraryId
  deriving DecidableEq, Repr

structure Visit where
  /-- The innermost frame first. -/
  stack : List Frame
  /-- Libraries that wait for their dependencies. -/
  expanding : List LibraryId
  /-- Libraries that are placed. -/
  seen : List LibraryId
  /-- The placed libraries, the last placed first. -/
  collected : List LibraryId
  deriving DecidableEq, Repr

inductive Visit.Next where
  | continued (v : Visit)
  | finished (order : List LibraryId)
  | cycle (library : LibraryId)
  deriving DecidableEq, Repr

/-- A predicate that loses a member of a list holds less often in it. -/
theorem countP_lt_of_imp {α : Type} {p q : α → Bool} {x : α} (hpx : p x = false)
    (hqx : q x = true) :
    ∀ {l : List α}, (∀ a ∈ l, p a = true → q a = true) → x ∈ l → l.countP p < l.countP q
  | [], _, hx => by simp at hx
  | a :: l, h, hx => by
    have hl : ∀ b ∈ l, p b = true → q b = true := fun b hb => h b (List.mem_cons_of_mem _ hb)
    rw [List.countP_cons, List.countP_cons]
    rcases List.mem_cons.mp hx with rfl | hx
    · rw [if_neg (by simp [hpx]), if_pos hqx]
      exact Nat.lt_succ_of_le (List.countP_mono_left hl)
    · have ih := countP_lt_of_imp hpx hqx hl hx
      have ha := h a List.mem_cons_self
      split
      · rw [if_pos (ha ‹_›)]
        exact Nat.add_lt_add_right ih 1
      · exact Nat.lt_add_right _ ih

namespace Visit

def start (direct : List LibraryId) : Visit where
  stack := [⟨none, direct.reverse⟩]
  expanding := []
  seen := []
  collected := []

def step (g : LibraryGraph) (v : Visit) : Next :=
  match v.stack with
  | [] => .finished v.collected
  | ⟨none, []⟩ :: rest => .continued { v with stack := rest }
  | ⟨some owner, []⟩ :: rest =>
    .continued
      { stack := rest
        expanding := v.expanding.erase owner
        seen := owner :: v.seen
        collected := owner :: v.collected }
  | ⟨owner, l :: ls⟩ :: rest =>
    if l ∈ v.seen then .continued { v with stack := ⟨owner, ls⟩ :: rest }
    else if l ∈ v.expanding then .cycle l
    else .continued
      { v with
        stack := ⟨some l, (g.dependencies l).reverse⟩ :: ⟨owner, ls⟩ :: rest
        expanding := l :: v.expanding }

/-! ## The loop ends -/

def isOpen (v : Visit) (l : LibraryId) : Bool := !(v.seen.contains l) && !(v.expanding.contains l)

/-- Libraries of the graph that neither wait nor are placed. -/
def openCount (g : LibraryGraph) (v : Visit) : Nat :=
  (List.range g.size).countP v.isOpen

def load (v : Visit) : Nat :=
  v.stack.foldr (fun f rest => 2 * f.unread.length + 1 + rest) 0

/-- Each step expands a new library of the graph or leaves less to read. -/
theorem step_decreases {g : LibraryGraph} {v w : Visit} (h : v.step g = .continued w) :
    w.openCount g < v.openCount g ∨ (w.openCount g ≤ v.openCount g ∧ w.load < v.load) := by
  unfold step at h
  split at h
  · cases h
  · rename_i rest hs
    cases h
    exact .inr ⟨Nat.le_refl _, by simp [load, hs]⟩
  · rename_i owner rest hs
    cases h
    refine .inr ⟨List.countP_mono_left fun a _ => ?_, by simp [load, hs]⟩
    by_cases ha : a = owner
    · simp [isOpen, ha]
    · simp [isOpen, ha, List.mem_erase_of_ne ha]
  · rename_i owner l ls rest hs
    split at h
    · cases h
      exact .inr ⟨Nat.le_refl _, by simp [load, hs]⟩
    · split at h
      · cases h
      · rename_i hseen hexp
        cases h
        have himp : ∀ a ∈ List.range g.size,
            isOpen { v with
              stack := ⟨some l, (g.dependencies l).reverse⟩ :: ⟨owner, ls⟩ :: rest
              expanding := l :: v.expanding } a = true → v.isOpen a = true := by
          intro a _
          simp +contextual [isOpen]
        by_cases hl : l < g.size
        · exact .inl (countP_lt_of_imp (by simp [isOpen]) (by simp [isOpen, hseen, hexp]) himp
            (List.mem_range.mpr hl))
        · refine .inr ⟨List.countP_mono_left himp, ?_⟩
          have : g.dependencies l = [] := by
            simp only [LibraryGraph.size] at hl
            simp [LibraryGraph.dependencies, LibraryGraph.get?, hl]
          simp [load, hs, this]
          omega

/-- The order, or a library on a cycle. -/
def run (g : LibraryGraph) (v : Visit) : Except LibraryId (List LibraryId) :=
  match _h : v.step g with
  | .finished order => .ok order
  | .cycle l => .error l
  | .continued w => run g w
termination_by (v.openCount g, v.load)
decreasing_by
  rcases step_decreases _h with h | ⟨hle, h⟩
  · exact Prod.Lex.left _ _ h
  · rcases Nat.lt_or_eq_of_le hle with hlt | heq
    · exact Prod.Lex.left _ _ hlt
    · rw [heq]
      exact Prod.Lex.right _ h

end Visit

/-- Every library reached from the declared ones once, or a library on a cycle among them. -/
def LibraryGraph.flatten (g : LibraryGraph) (direct : List LibraryId) :
    Except LibraryId (List LibraryId) :=
  (Visit.start direct).run g

end BuildVariants
