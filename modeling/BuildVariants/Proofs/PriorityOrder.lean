import BuildVariants.Proofs.FrontInsertion
import BuildVariants.Proofs.Visit

/-!
# The priority order

What `LibraryGraph.flatten` gives. An order comes out exactly where no cycle is reached; it holds
what is reached, each library once and before all it depends on, and it is the order of the plain
recursion (`frontInsert`). Of libraries declared in two parts, the later part is ordered as if it
stood alone, and the earlier one goes in front of it without what is there already.
-/

namespace BuildVariants

open Relation (TransGen)

namespace Visit

variable {g : LibraryGraph} {direct : List LibraryId} {v w : Visit}

/-! ## The stack as what the recursion has left to do -/

/-- The plain recursion on the unread parts of the frames, from the innermost one, ends and gives
the last list. -/
inductive Remaining (g : LibraryGraph) : List Frame → List LibraryId → List LibraryId → Prop
  | ended {placed} : Remaining g [] placed placed
  | bottom {unread rest placed below order} : FrontInserted g.dependencies unread.reverse placed below →
    Remaining g rest below order → Remaining g (⟨none, unread⟩ :: rest) placed order
  | above {owner unread rest placed below order} :
    FrontInserted g.dependencies unread.reverse placed below →
    Remaining g rest (below.insert owner) order → Remaining g (⟨some owner, unread⟩ :: rest) placed order

theorem Remaining.top {owner : Option LibraryId} {unread unread' placed placed' order : List LibraryId}
    {rest : List Frame} (h : Remaining g (⟨owner, unread⟩ :: rest) placed order)
    (hu : ∀ below, FrontInserted g.dependencies unread.reverse placed below →
      FrontInserted g.dependencies unread'.reverse placed' below) :
    Remaining g (⟨owner, unread'⟩ :: rest) placed' order := by
  cases h with
  | bottom hunread hrest => exact .bottom (hu _ hunread) hrest
  | above hunread hrest => exact .above (hu _ hunread) hrest

/-- What is left to do after a step was left to do before it. -/
theorem remaining_step {order : List LibraryId} (hv : Inv g direct v) (h : Step g v w)
    (hw : Remaining g w.stack w.collected order) : Remaining g v.stack v.collected order := by
  cases h with
  | close => exact .bottom .nil hw
  | @place owner rest expanding seen collected =>
    have hfresh : owner ∉ collected := fun hm =>
      (List.nodup_append.mp hv.nodup).2.2 owner List.mem_cons_self owner hm rfl
    refine .above .nil ?_
    rwa [List.insert_of_not_mem hfresh]
  | @skip owner l ls rest expanding seen collected hl =>
    obtain rfl : seen = collected := hv.seen_eq
    refine hw.top fun below hls => ?_
    rw [List.reverse_cons]
    exact hls.append (.of_mem hv.grounded hl)
  | @expand owner l ls rest expanding seen collected =>
    cases hw with
    | above hdeps hrest =>
      rw [List.reverse_reverse] at hdeps
      refine hrest.top fun below hls => ?_
      rw [List.reverse_cons]
      exact hls.append hdeps.singleton

theorem remaining_steps {order : List LibraryId} (h : Steps g (start direct) v)
    (hv : Remaining g v.stack v.collected order) : FrontInserted g.dependencies direct [] order := by
  induction h with
  | refl =>
    cases hv with
    | bottom hdirect hrest =>
      cases hrest
      rwa [List.reverse_reverse] at hdirect
  | tail hsteps hstep ih => exact ih (remaining_step (inv_steps hsteps) (step_continued hstep) hv)

end Visit

namespace LibraryGraph

open Visit (Ends Steps ends_run inv_steps remaining_steps step_finished wellFounded_step)

variable {g : LibraryGraph} {direct order : List LibraryId}

/-! ## What comes out -/

theorem ends_flatten (g : LibraryGraph) (direct : List LibraryId) :
    Ends g (Visit.start direct) (g.flatten direct) :=
  ends_run g _

theorem exists_finished (h : g.flatten direct = .ok order) :
    ∃ v, Steps g (Visit.start direct) v ∧ v.step g = .finished order := by
  have hends := ends_flatten g direct
  rw [h] at hends
  exact hends

theorem exists_cycle {l : LibraryId} (h : g.flatten direct = .error l) :
    ∃ v, Steps g (Visit.start direct) v ∧ v.step g = .cycle l := by
  have hends := ends_flatten g direct
  rw [h] at hends
  exact hends

theorem flatten_ok (h : g.flatten direct = .ok order) :
    order.Nodup ∧ Grounded g.dependencies order ∧ ∀ l, l ∈ order ↔ Reached g.dependencies direct l := by
  obtain ⟨v, hv, hend⟩ := exists_finished h
  exact (inv_steps hv).finished hend

theorem flatten_error {l : LibraryId} (h : g.flatten direct = .error l) :
    Reached g.dependencies direct l ∧ TransGen (DependsOn g.dependencies) l l := by
  obtain ⟨v, hv, hend⟩ := exists_cycle h
  exact (inv_steps hv).cycle hend

theorem frontInserted_of_flatten (h : g.flatten direct = .ok order) :
    FrontInserted g.dependencies direct [] order := by
  obtain ⟨v, hv, hend⟩ := exists_finished h
  obtain ⟨hstack, rfl⟩ := step_finished hend
  refine remaining_steps hv ?_
  rw [hstack]
  exact .ended

theorem not_reachesCycle_of_flatten (h : g.flatten direct = .ok order) :
    ¬ ReachesCycle g.dependencies direct := by
  obtain ⟨hnodup, hgrounded, hmem⟩ := flatten_ok h
  exact hgrounded.not_reachesCycle hnodup fun a ha => (hmem a).mpr (reached_of_mem ha)

theorem flatten_of_not_reachesCycle (h : ¬ ReachesCycle g.dependencies direct) :
    ∃ order, g.flatten direct = .ok order := by
  cases hf : g.flatten direct with
  | ok order => exact ⟨order, rfl⟩
  | error l => exact absurd ⟨l, flatten_error hf⟩ h

theorem flatten_error_iff :
    (∃ l, g.flatten direct = .error l) ↔ ReachesCycle g.dependencies direct := by
  constructor
  · rintro ⟨l, h⟩
    exact ⟨l, flatten_error h⟩
  · intro hcycle
    cases hf : g.flatten direct with
    | ok order => exact absurd hcycle (not_reachesCycle_of_flatten hf)
    | error l => exact ⟨l, rfl⟩

/-- Where no cycle is reached, the recursion tells the order. -/
theorem flatten_of_frontInserted (h : ¬ ReachesCycle g.dependencies direct)
    (hr : FrontInserted g.dependencies direct [] order) : g.flatten direct = .ok order := by
  obtain ⟨order', hf⟩ := flatten_of_not_reachesCycle h
  rw [hf, (frontInserted_of_flatten hf).unique hr]

/-! ## Parts of what is declared -/

theorem flatten_append {xs ys front back : List LibraryId} (hx : g.flatten xs = .ok front)
    (hy : g.flatten ys = .ok back) : g.flatten (xs ++ ys) = .ok (inFrontOf back front) := by
  have hcycle : ¬ ReachesCycle g.dependencies (xs ++ ys) := fun h =>
    (reachesCycle_append.mp h).elim (not_reachesCycle_of_flatten hx) (not_reachesCycle_of_flatten hy)
  -- `back` is the empty list in front of `back`
  have hseeded : FrontInserted g.dependencies xs back (inFrontOf back front) :=
    (frontInserted_of_flatten hx).seeded back
  exact flatten_of_frontInserted hcycle (hseeded.append (frontInserted_of_flatten hy))

/-- The part in front is the order of the earlier libraries, without what the later ones reach. -/
theorem exists_inFrontOf {xs ys back : List LibraryId} (h : g.flatten (xs ++ ys) = .ok order)
    (hy : g.flatten ys = .ok back) : ∃ front, g.flatten xs = .ok front ∧ order = inFrontOf back front := by
  have hcycle := not_reachesCycle_of_flatten h
  rw [reachesCycle_append, not_or] at hcycle
  obtain ⟨front, hfront⟩ := flatten_of_not_reachesCycle hcycle.1
  refine ⟨front, hfront, ?_⟩
  rw [flatten_append hfront hy] at h
  cases h
  rfl

theorem flatten_singleton {a : LibraryId} {rest : List LibraryId}
    (h : g.flatten (g.dependencies a) = .ok rest) : g.flatten [a] = .ok (a :: rest) := by
  have hcycle : ¬ ReachesCycle g.dependencies [a] := fun ha =>
    not_reachesCycle_of_flatten h (reachesCycle_singleton.mp ha)
  have hnot : a ∉ rest := by
    intro hm
    obtain ⟨d, hd, hda⟩ := ((flatten_ok h).2.2 a).mp hm
    exact hcycle ⟨a, reached_of_mem (List.mem_singleton_self a), TransGen.head' hd hda⟩
  have hsingleton := (frontInserted_of_flatten h).singleton
  rw [List.insert_of_not_mem hnot] at hsingleton
  exact flatten_of_frontInserted hcycle hsingleton

/-! ## Orders that are kept -/

theorem flatten_of_grounded {l : List LibraryId} (hl : Grounded g.dependencies l) (hn : l.Nodup) :
    g.flatten l = .ok l :=
  flatten_of_frontInserted (hl.not_reachesCycle hn fun _ h => h) (.of_grounded hl hn)

/-! ## The laws of the order -/

/-- The plain recursion, run at least as deep as there are libraries in the order, gives the order. -/
theorem flatten_eq_frontInsert (g : LibraryGraph) (direct : List LibraryId)
    (h : ¬ ReachesCycle g.dependencies direct) :
    ∃ order, g.flatten direct = .ok order ∧
      ∀ depth, order.length ≤ depth → frontInsert g.dependencies depth direct [] = some order := by
  obtain ⟨order, hf⟩ := flatten_of_not_reachesCycle h
  refine ⟨order, hf, fun depth hdepth => ?_⟩
  obtain ⟨_, hgrounded, hmem⟩ := flatten_ok hf
  obtain ⟨order', hr⟩ := exists_frontInsert hgrounded hdepth (fun a ha => (hmem a).mpr (reached_of_mem ha)) []
  rw [hr, (frontInserted_of_frontInsert hr).unique (frontInserted_of_flatten hf)]

/-- Libraries and dependencies that are declared twice, and one that is shared. -/
theorem flatten_eq_frontInsert_shared :
    ¬ ReachesCycle (ofDependencies [[1, 2, 1], [3], [3, 3], []]).dependencies [0, 2, 0] ∧
      ∃ order, (ofDependencies [[1, 2, 1], [3], [3, 3], []]).flatten [0, 2, 0] = .ok order ∧
        ∀ depth, order.length ≤ depth →
          frontInsert (ofDependencies [[1, 2, 1], [3], [3, 3], []]).dependencies depth [0, 2, 0] [] =
            some order := by
  have hgrounded : Grounded (ofDependencies [[1, 2, 1], [3], [3, 3], []]).dependencies [0, 1, 2, 3] := by
    decide
  have hcycle : ¬ ReachesCycle (ofDependencies [[1, 2, 1], [3], [3, 3], []]).dependencies [0, 2, 0] :=
    hgrounded.not_reachesCycle (by decide) (by decide)
  exact ⟨hcycle, flatten_eq_frontInsert _ _ hcycle⟩

/-- The order holds what is reached, each library once and before all that it depends on. -/
theorem flatten_reached_in_order (g : LibraryGraph) (direct order : List LibraryId)
    (h : g.flatten direct = .ok order) :
    order.Nodup ∧ (∀ l, l ∈ order ↔ Reached g.dependencies direct l) ∧
      ∀ a ∈ order, ∀ b, TransGen (DependsOn g.dependencies) a b → order.idxOf a < order.idxOf b := by
  obtain ⟨hnodup, hgrounded, hmem⟩ := flatten_ok h
  exact ⟨hnodup, hmem, fun a ha b hab => hgrounded.idxOf_lt hnodup ha hab⟩

theorem flatten_reached_in_order_diamond :
    (ofDependencies [[], [0], [0], [1, 2]]).flatten [0, 3] = .ok [3, 1, 2, 0] ∧
      [3, 1, 2, 0].Nodup ∧
      (∀ l, l ∈ [3, 1, 2, 0] ↔ Reached (ofDependencies [[], [0], [0], [1, 2]]).dependencies [0, 3] l) ∧
      ∀ a ∈ [3, 1, 2, 0], ∀ b, TransGen (DependsOn (ofDependencies [[], [0], [0], [1, 2]]).dependencies) a b →
        [3, 1, 2, 0].idxOf a < [3, 1, 2, 0].idxOf b := by
  have h : (ofDependencies [[], [0], [0], [1, 2]]).flatten [0, 3] = .ok [3, 1, 2, 0] := by cbv
  exact ⟨h, flatten_reached_in_order _ _ _ h⟩

/-- No visit goes on forever; it reports a cycle exactly where one is reached, and the library that
it reports is reached and on a cycle. -/
theorem flatten_ends_with_cycle_iff (g : LibraryGraph) (direct : List LibraryId) :
    (WellFounded fun w v : Visit => v.step g = .continued w) ∧
      Ends g (Visit.start direct) (g.flatten direct) ∧
      ((∃ l, g.flatten direct = .error l) ↔ ReachesCycle g.dependencies direct) ∧
      ∀ l, g.flatten direct = .error l →
        TransGen (DependsOn g.dependencies) l l ∧ Reached g.dependencies direct l :=
  ⟨wellFounded_step g, ends_flatten g direct, flatten_error_iff, fun _ h => (flatten_error h).symm⟩

/-- A cycle behind a library that is shared and is not on it. -/
theorem flatten_ends_with_cycle_iff_behind_shared :
    (ofDependencies [[1, 2], [3], [3], [4], [5], [4]]).flatten [0] = .error 4 ∧
      TransGen (DependsOn (ofDependencies [[1, 2], [3], [3], [4], [5], [4]]).dependencies) 4 4 ∧
      Reached (ofDependencies [[1, 2], [3], [3], [4], [5], [4]]).dependencies [0] 4 := by
  have h : (ofDependencies [[1, 2], [3], [3], [4], [5], [4]]).flatten [0] = .error 4 := by cbv
  exact ⟨h, (flatten_ends_with_cycle_iff _ _).2.2.2 4 h⟩

/-- The later part stands as it would alone, and the earlier part goes in front without what is
there already; a single library goes in front of its dependencies. -/
theorem flatten_blocks (g : LibraryGraph) :
    (∀ xs ys, ¬ ReachesCycle g.dependencies xs → ¬ ReachesCycle g.dependencies ys →
      ∃ front back, g.flatten xs = .ok front ∧ g.flatten ys = .ok back ∧
        g.flatten (xs ++ ys) = .ok (front.filter (· ∉ back) ++ back)) ∧
      (∀ a, ¬ ReachesCycle g.dependencies [a] →
        ∃ rest, g.flatten (g.dependencies a) = .ok rest ∧ g.flatten [a] = .ok (a :: rest)) ∧
      ∀ a, (∃ l, g.flatten [a] = .error l) ↔ ∃ l, g.flatten (g.dependencies a) = .error l := by
  refine ⟨fun xs ys hx hy => ?_, fun a ha => ?_, fun a => ?_⟩
  · obtain ⟨front, hfront⟩ := flatten_of_not_reachesCycle hx
    obtain ⟨back, hback⟩ := flatten_of_not_reachesCycle hy
    exact ⟨front, back, hfront, hback, flatten_append hfront hback⟩
  · obtain ⟨rest, hrest⟩ := flatten_of_not_reachesCycle (mt reachesCycle_singleton.mpr ha)
    exact ⟨rest, hrest, flatten_singleton hrest⟩
  · rw [flatten_error_iff, flatten_error_iff, reachesCycle_singleton]

theorem flatten_blocks_shared :
    ¬ ReachesCycle (ofDependencies [[2], [2], [3], []]).dependencies [0, 3] ∧
      ¬ ReachesCycle (ofDependencies [[2], [2], [3], []]).dependencies [1] ∧
      (∃ front back, (ofDependencies [[2], [2], [3], []]).flatten [0, 3] = .ok front ∧
        (ofDependencies [[2], [2], [3], []]).flatten [1] = .ok back ∧
        (ofDependencies [[2], [2], [3], []]).flatten ([0, 3] ++ [1]) =
          .ok (front.filter (· ∉ back) ++ back)) ∧
      ∃ rest, (ofDependencies [[2], [2], [3], []]).flatten
          ((ofDependencies [[2], [2], [3], []]).dependencies 1) = .ok rest ∧
        (ofDependencies [[2], [2], [3], []]).flatten [1] = .ok (1 :: rest) := by
  have hgrounded : Grounded (ofDependencies [[2], [2], [3], []]).dependencies [0, 1, 2, 3] := by decide
  have hx : ¬ ReachesCycle (ofDependencies [[2], [2], [3], []]).dependencies [0, 3] :=
    hgrounded.not_reachesCycle (by decide) (by decide)
  have hy : ¬ ReachesCycle (ofDependencies [[2], [2], [3], []]).dependencies [1] :=
    hgrounded.not_reachesCycle (by decide) (by decide)
  have hblocks := flatten_blocks (ofDependencies [[2], [2], [3], []])
  exact ⟨hx, hy, hblocks.1 _ _ hx hy, hblocks.2.1 _ hy⟩

/-- `2` is declared by `0` too, and keeps its place behind `1`. -/
example : (ofDependencies [[2], [2], []]).flatten [0, 1] = .ok [0, 1, 2] := by cbv

/-- The lists that are kept as they are: no library twice, and each before its dependencies, which
are all there. What comes out is such a list. -/
theorem flatten_eq_self_iff (g : LibraryGraph) :
    (∀ l, g.flatten l = .ok l ↔
      l.Nodup ∧ ∀ a ∈ l, ∀ b ∈ g.dependencies a, b ∈ l ∧ l.idxOf a < l.idxOf b) ∧
      ∀ direct order, g.flatten direct = .ok order → g.flatten order = .ok order := by
  refine ⟨fun l => ⟨fun h => ?_, fun ⟨hn, hl⟩ => ?_⟩, fun direct order h => ?_⟩
  · obtain ⟨hn, hl, _⟩ := flatten_ok h
    exact ⟨hn, (grounded_iff_idxOf_lt hn).mp hl⟩
  · exact flatten_of_grounded ((grounded_iff_idxOf_lt hn).mpr hl) hn
  · obtain ⟨hn, hl, _⟩ := flatten_ok h
    exact flatten_of_grounded hl hn

theorem flatten_eq_self_iff_diamond :
    (ofDependencies [[], [0, 0], [0], [1, 2, 1]]).flatten [2, 3, 2] = .ok [3, 1, 2, 0] ∧
      (ofDependencies [[], [0, 0], [0], [1, 2, 1]]).flatten [3, 1, 2, 0] = .ok [3, 1, 2, 0] := by
  have h : (ofDependencies [[], [0, 0], [0], [1, 2, 1]]).flatten [2, 3, 2] = .ok [3, 1, 2, 0] := by cbv
  exact ⟨h, (flatten_eq_self_iff _).2 _ _ h⟩

end LibraryGraph

end BuildVariants
