import BuildVariants.Proofs.Dependency

/-!
# Front insertion

The plain recursive form of the priority order. Libraries are taken from the last to the first;
each one's dependencies are put in place by the same recursion, and then the library goes in front
unless it is there already. `FrontInserted` tells what the recursion gives where it ends, and
`frontInsert` runs it down to some depth.

Nothing is skipped: what is placed already is walked again, and that changes nothing
(`FrontInserted.of_subset`). What is placed before only filters the order that the recursion would
give from nothing (`FrontInserted.seeded`).
-/

namespace BuildVariants

section
variable {α : Type} [DecidableEq α] (deps : α → List α)

/-- The recursion on the first list, with the second one in place, ends and gives the third. -/
inductive FrontInserted : List α → List α → List α → Prop
  | nil {placed} : FrontInserted [] placed placed
  | cons {a as placed behind below} : FrontInserted as placed behind →
    FrontInserted (deps a) behind below → FrontInserted (a :: as) placed (below.insert a)

/-- No result where the recursion goes deeper. -/
def frontInsert : Nat → List α → List α → Option (List α)
  | _, [], placed => some placed
  | 0, _ :: _, _ => none
  | depth + 1, a :: as, placed => do
    let behind ← frontInsert (depth + 1) as placed
    let below ← frontInsert depth (deps a) behind
    some (below.insert a)
termination_by depth as => (depth, as.length)

end

section
variable {α : Type} [DecidableEq α] {deps : α → List α}

/-! ## The recursion down to some depth -/

theorem frontInserted_of_frontInsert {depth : Nat} {as placed order : List α}
    (h : frontInsert deps depth as placed = some order) : FrontInserted deps as placed order := by
  fun_induction frontInsert deps depth as placed generalizing order with
  | case1 =>
    cases h
    exact .nil
  | case2 => cases h
  | case3 depth a as placed ih₁ ih₂ =>
    simp only [Option.bind_eq_bind, Option.bind_eq_some_iff, Option.some.injEq] at h
    obtain ⟨behind, hbehind, below, hbelow, rfl⟩ := h
    exact .cons (ih₁ hbehind) (ih₂ behind hbelow)

/-- The induction is on a grounded list in which all is found: the dependencies of a member are
found in the part behind it, so the recursion goes no deeper than the list is long. -/
theorem exists_frontInsert : ∀ {l : List α}, Grounded deps l → ∀ {depth : Nat}, l.length ≤ depth →
    ∀ {as : List α}, (∀ a ∈ as, a ∈ l) → ∀ placed, ∃ order, frontInsert deps depth as placed = some order
  | _, _, _, _, [], _, placed => ⟨placed, by rw [frontInsert]⟩
  | [], _, _, _, a :: _, has, _ => absurd (has a List.mem_cons_self) List.not_mem_nil
  | b :: l, hl, depth + 1, hd, a :: as, has, placed => by
    obtain ⟨behind, hbehind⟩ := exists_frontInsert hl hd (fun c hc => has c (List.mem_cons_of_mem _ hc)) placed
    obtain ⟨below, hbelow⟩ := exists_frontInsert hl.2 (Nat.le_of_succ_le_succ hd)
      (hl.deps_mem_tail (has a List.mem_cons_self)) behind
    exact ⟨below.insert a, by rw [frontInsert, hbehind, Option.bind_eq_bind, Option.bind_some, hbelow]; rfl⟩
termination_by l _ _ _ as => (l.length, as.length)

namespace FrontInserted

theorem unique {as placed order order' : List α} (h : FrontInserted deps as placed order)
    (h' : FrontInserted deps as placed order') : order = order' := by
  induction h generalizing order' with
  | nil =>
    cases h'
    rfl
  | cons _ _ ih₁ ih₂ =>
    cases h' with
    | cons h₁ h₂ =>
      cases ih₁ h₁
      rw [ih₂ h₂]

theorem append {xs ys placed behind order : List α} (hx : FrontInserted deps xs behind order)
    (hy : FrontInserted deps ys placed behind) : FrontInserted deps (xs ++ ys) placed order := by
  induction hx with
  | nil => exact hy
  | cons _ h ih _ => exact .cons (ih hy) h

theorem singleton {a : α} {placed below : List α} (h : FrontInserted deps (deps a) placed below) :
    FrontInserted deps [a] placed (below.insert a) :=
  .cons .nil h

/-! ## Walking again what is placed -/

theorem of_subset : ∀ {l : List α}, Grounded deps l → ∀ {as placed : List α},
    (∀ a ∈ l, a ∈ placed) → (∀ a ∈ as, a ∈ l) → FrontInserted deps as placed placed
  | _, _, [], _, _, _ => .nil
  | [], _, a :: _, _, _, has => absurd (has a List.mem_cons_self) List.not_mem_nil
  | b :: l, hl, a :: as, placed, hp, has => by
    have ha : a ∈ b :: l := has a List.mem_cons_self
    have hrest : FrontInserted deps as placed placed :=
      of_subset hl hp fun c hc => has c (List.mem_cons_of_mem _ hc)
    have hdeps : FrontInserted deps (deps a) placed placed :=
      of_subset hl.2 (fun c hc => hp c (List.mem_cons_of_mem _ hc)) (hl.deps_mem_tail ha)
    have hcons := hrest.cons hdeps
    rwa [List.insert_of_mem (hp a ha)] at hcons
termination_by l _ as => (l.length, as.length)

theorem of_mem {a : α} {placed : List α} (hp : Grounded deps placed) (ha : a ∈ placed) :
    FrontInserted deps [a] placed placed :=
  of_subset hp (fun _ h => h) fun _ h => List.mem_singleton.mp h ▸ ha

/-- A grounded list without repetition is placed as it stands. -/
theorem of_grounded : ∀ {l : List α}, Grounded deps l → l.Nodup → FrontInserted deps l [] l
  | [], _, _ => .nil
  | a :: l, hl, hn => by
    obtain ⟨ha, hn⟩ := List.nodup_cons.mp hn
    have hrest : FrontInserted deps l [] l := of_grounded hl.2 hn
    have hdeps : FrontInserted deps (deps a) l l := of_subset hl.2 (fun _ h => h) hl.1
    have hcons := hrest.cons hdeps
    rwa [List.insert_of_not_mem ha] at hcons

/-! ## What the recursion gives -/

theorem grounded {as placed order : List α} (h : FrontInserted deps as placed order)
    (hp : Grounded deps placed) :
    Grounded deps order ∧ (∀ a ∈ placed, a ∈ order) ∧ ∀ a ∈ as, a ∈ order := by
  induction h with
  | nil => exact ⟨hp, fun _ h => h, fun _ h => absurd h List.not_mem_nil⟩
  | @cons a as placed behind below _ _ ih₁ ih₂ =>
    obtain ⟨hbehind, hplaced, has⟩ := ih₁ hp
    obtain ⟨hbelow, hin, hdeps⟩ := ih₂ hbehind
    have hsub : ∀ b ∈ below, b ∈ below.insert a := fun b hb => List.mem_insert_of_mem hb
    refine ⟨?_, fun b hb => hsub b (hin b (hplaced b hb)), fun b hb => ?_⟩
    · by_cases ha : a ∈ below
      · rwa [List.insert_of_mem ha]
      · rw [List.insert_of_not_mem ha]
        exact ⟨hdeps, hbelow⟩
    · rcases List.mem_cons.mp hb with rfl | hb
      · exact List.mem_insert_self
      · exact hsub b (hin b (has b hb))

/-- The recursion need not go deeper than its result is long. -/
theorem frontInsert_eq {as order : List α} (h : FrontInserted deps as [] order) {depth : Nat}
    (hd : order.length ≤ depth) : frontInsert deps depth as [] = some order := by
  obtain ⟨hgrounded, _, has⟩ := h.grounded trivial
  obtain ⟨order', hr⟩ := exists_frontInsert hgrounded hd has []
  rw [hr, (frontInserted_of_frontInsert hr).unique h]

end FrontInserted

/-! ## What is placed before -/

/-- `l`, without what is in `s`, in front of `s`. -/
def inFrontOf (s l : List α) : List α := l.filter (· ∉ s) ++ s

theorem mem_inFrontOf {s l : List α} {a : α} : a ∈ inFrontOf s l ↔ a ∈ l ∨ a ∈ s := by
  by_cases ha : a ∈ s
  · simp [inFrontOf, ha]
  · simp [inFrontOf, ha]

theorem insert_inFrontOf (s l : List α) (a : α) : (inFrontOf s l).insert a = inFrontOf s (l.insert a) := by
  by_cases hl : a ∈ l
  · rw [List.insert_of_mem hl, List.insert_of_mem (mem_inFrontOf.mpr (.inl hl))]
  · rw [List.insert_of_not_mem hl]
    by_cases hs : a ∈ s
    · rw [List.insert_of_mem (mem_inFrontOf.mpr (.inr hs))]
      simp [inFrontOf, hs]
    · rw [List.insert_of_not_mem (fun h => (mem_inFrontOf.mp h).elim hl hs)]
      simp [inFrontOf, hs]

theorem FrontInserted.seeded (s : List α) {as placed order : List α} (h : FrontInserted deps as placed order) :
    FrontInserted deps as (inFrontOf s placed) (inFrontOf s order) := by
  induction h with
  | nil => exact .nil
  | cons _ _ ih₁ ih₂ =>
    rw [← insert_inFrontOf]
    exact .cons ih₁ ih₂

end

end BuildVariants
