import BuildVariants.Library.Flatten
import BuildVariants.Proofs.Dependency

/-!
# The visit of a library graph

`Visit.Step` lists what one step of the visit can do. `Visit.Inv` is what every state of a visit
keeps: the placed libraries are grounded, the waiting ones are the owners on the stack, each a
dependency of the owner below it, and what a frame has read is placed, except the library that it
waits for. Hence the order holds what is reached, and a library met while it waits depends on
itself. `Visit.Kept` says position by position what this means for the frames.
-/

namespace BuildVariants

open Relation (ReflTransGen TransGen)

namespace Visit

/-! ## Steps and runs -/

inductive Step (g : LibraryGraph) : Visit → Visit → Prop
  | close {rest expanding seen collected} :
    Step g ⟨⟨none, []⟩ :: rest, expanding, seen, collected⟩ ⟨rest, expanding, seen, collected⟩
  | place {owner rest expanding seen collected} :
    Step g ⟨⟨some owner, []⟩ :: rest, expanding, seen, collected⟩
      ⟨rest, expanding.erase owner, owner :: seen, owner :: collected⟩
  | skip {owner l ls rest expanding seen collected} : l ∈ seen →
    Step g ⟨⟨owner, l :: ls⟩ :: rest, expanding, seen, collected⟩
      ⟨⟨owner, ls⟩ :: rest, expanding, seen, collected⟩
  | expand {owner l ls rest expanding seen collected} : l ∉ seen → l ∉ expanding →
    Step g ⟨⟨owner, l :: ls⟩ :: rest, expanding, seen, collected⟩
      ⟨⟨some l, (g.dependencies l).reverse⟩ :: ⟨owner, ls⟩ :: rest, l :: expanding, seen, collected⟩

variable {g : LibraryGraph} {direct : List LibraryId} {v w : Visit}

theorem step_continued (h : v.step g = .continued w) : Step g v w := by
  obtain ⟨stack, expanding, seen, collected⟩ := v
  unfold step at h
  split at h
  · cases h
  · rename_i rest hs
    cases h; cases hs
    exact .close
  · rename_i owner rest hs
    cases h; cases hs
    exact .place
  · rename_i owner l ls rest hs
    cases hs
    split at h
    · rename_i hseen
      cases h
      exact .skip hseen
    · split at h
      · cases h
      · rename_i hseen hexp
        cases h
        exact .expand hseen hexp

theorem step_finished {order : List LibraryId} (h : v.step g = .finished order) :
    v.stack = [] ∧ v.collected = order := by
  unfold step at h
  split at h
  · rename_i hs
    cases h
    exact ⟨hs, rfl⟩
  · cases h
  · cases h
  · split at h
    · cases h
    · split at h <;> cases h

theorem step_cycle {l : LibraryId} (h : v.step g = .cycle l) :
    l ∈ v.expanding ∧ ∃ owner ls rest, v.stack = ⟨owner, l :: ls⟩ :: rest := by
  unfold step at h
  split at h
  · cases h
  · cases h
  · cases h
  · rename_i owner l' ls rest hs
    split at h
    · cases h
    · split at h
      · rename_i hexp
        cases h
        exact ⟨hexp, owner, ls, rest, hs⟩
      · cases h

def Steps (g : LibraryGraph) : Visit → Visit → Prop := ReflTransGen fun v w => v.step g = .continued w

/-- The steps from `v` come to a state in which the visit ends with this result. -/
def Ends (g : LibraryGraph) (v : Visit) (result : Except LibraryId (List LibraryId)) : Prop :=
  ∃ w, Steps g v w ∧
    match result with
    | .ok order => w.step g = .finished order
    | .error l => w.step g = .cycle l

theorem ends_run (g : LibraryGraph) (v : Visit) : Ends g v (v.run g) := by
  fun_induction run g v with
  | case1 v order h => exact ⟨v, .refl, h⟩
  | case2 v l h => exact ⟨v, .refl, h⟩
  | case3 v w h ih =>
    obtain ⟨u, hu, hend⟩ := ih
    exact ⟨u, hu.head h, hend⟩

/-- No visit goes on forever. -/
theorem wellFounded_step (g : LibraryGraph) : WellFounded fun w v : Visit => v.step g = .continued w := by
  have hlex := (Prod.lex Nat.lt_wfRel Nat.lt_wfRel).wf
  refine Subrelation.wf (fun {w v} h => ?_) (InvImage.wf (fun v => (v.openCount g, v.load)) hlex)
  rcases step_decreases h with hopen | ⟨hopen, hload⟩
  · exact Prod.Lex.left _ _ hopen
  · rcases Nat.lt_or_eq_of_le hopen with hlt | heq
    · exact Prod.Lex.left _ _ hlt
    · simp only [InvImage, WellFoundedRelation.rel, heq]
      exact Prod.Lex.right _ hload

/-! ## The frames of the stack -/

/-- Of these children the unread ones are left to read, `up` is waited for, and the others are
placed. -/
def Read (seen children : List LibraryId) (up : Option LibraryId) (unread : List LibraryId) : Prop :=
  ∃ read, children.reverse = read ++ up.toList ++ unread ∧ ∀ l ∈ read, l ∈ seen

/-- The frames of a visit of `direct`, where the innermost one waits for `up`. Each frame waits for
the owner of the one above it. -/
inductive Waits (g : LibraryGraph) (direct seen : List LibraryId) : Option LibraryId → List Frame → Prop
  | ended : (∀ l ∈ direct, l ∈ seen) → Waits g direct seen none []
  | bottom {up unread} : Read seen direct up unread → Waits g direct seen up [⟨none, unread⟩]
  | above {up owner unread rest} : Read seen (g.dependencies owner) up unread →
    Waits g direct seen (some owner) rest → Waits g direct seen up (⟨some owner, unread⟩ :: rest)

def owners (stack : List Frame) : List LibraryId := stack.filterMap (·.owner)

section
variable {seen children unread : List LibraryId} {up : Option LibraryId} {l : LibraryId}

theorem Read.mono {seen' : List LibraryId} (h : Read seen children up unread) (hs : ∀ a ∈ seen, a ∈ seen') :
    Read seen' children up unread := by
  obtain ⟨read, heq, hread⟩ := h
  exact ⟨read, heq, fun a ha => hs a (hread a ha)⟩

theorem read_start (seen children : List LibraryId) : Read seen children none children.reverse :=
  ⟨[], rfl, fun _ h => absurd h List.not_mem_nil⟩

theorem Read.all (h : Read seen children none []) : ∀ l ∈ children, l ∈ seen := by
  obtain ⟨read, heq, hread⟩ := h
  intro l hl
  have : l ∈ children.reverse := List.mem_reverse.mpr hl
  rw [heq] at this
  exact hread l (by simpa using this)

/-- The next child is taken up. -/
theorem Read.next (h : Read seen children none (l :: unread)) : Read seen children (some l) unread := by
  obtain ⟨read, heq, hread⟩ := h
  exact ⟨read, by simp [heq], hread⟩

/-- The child that was waited for is placed. -/
theorem Read.placed (h : Read seen children (some l) unread) (hl : l ∈ seen) :
    Read seen children none unread := by
  obtain ⟨read, heq, hread⟩ := h
  refine ⟨read ++ [l], by simp [heq], fun a ha => ?_⟩
  rcases List.mem_append.mp ha with ha | ha
  · exact hread a ha
  · exact List.mem_singleton.mp ha ▸ hl

theorem Read.mem (h : Read seen children (some l) unread) : l ∈ children := by
  obtain ⟨read, heq, _⟩ := h
  rw [← List.mem_reverse, heq]
  simp

variable {stack rest : List Frame} {owner : Option LibraryId} {unread' : List LibraryId}
  {up' : Option LibraryId}

theorem Waits.mono {seen' : List LibraryId} (h : Waits g direct seen up stack)
    (hs : ∀ a ∈ seen, a ∈ seen') : Waits g direct seen' up stack := by
  induction h with
  | ended hd => exact .ended fun l hl => hs l (hd l hl)
  | bottom hr => exact .bottom (hr.mono hs)
  | above hr _ ih => exact .above (hr.mono hs) ih

/-- Only the innermost frame is read on. -/
theorem Waits.top (h : Waits g direct seen up (⟨owner, unread⟩ :: rest))
    (hr : ∀ children, Read seen children up unread → Read seen children up' unread') :
    Waits g direct seen up' (⟨owner, unread'⟩ :: rest) := by
  cases h with
  | bottom h => exact .bottom (hr _ h)
  | above h hw => exact .above (hr _ h) hw

theorem Waits.placed (h : Waits g direct seen (some l) stack) (hl : l ∈ seen) :
    Waits g direct seen none stack := by
  cases h with
  | bottom hr => exact .bottom (hr.placed hl)
  | above hr hw => exact .above (hr.placed hl) hw

/-- What is waited for is reached. -/
theorem Waits.reached (h : Waits g direct seen (some l) stack) : Reached g.dependencies direct l := by
  generalize hu : some l = up at h
  induction h generalizing l with
  | ended => cases hu
  | bottom hr =>
    subst hu
    exact reached_of_mem hr.mem
  | above hr _ ih =>
    subst hu
    exact (ih rfl).dependsOn hr.mem

/-- Every owner on the stack depends on what the innermost frame waits for. -/
theorem Waits.transGen (h : Waits g direct seen (some l) stack) :
    ∀ o ∈ owners stack, TransGen (DependsOn g.dependencies) o l := by
  generalize hu : some l = up at h
  induction h generalizing l with
  | ended => cases hu
  | bottom _ => simp [owners]
  | @above _ owner _ rest hr _ ih =>
    subst hu
    intro o ho
    have hl : DependsOn g.dependencies owner l := hr.mem
    rcases List.mem_cons.mp (show o ∈ owner :: owners rest from ho) with rfl | ho
    · exact .single hl
    · exact (ih rfl o ho).tail hl

end

/-! ## The invariant -/

structure Inv (g : LibraryGraph) (direct : List LibraryId) (v : Visit) : Prop where
  seen_eq : v.seen = v.collected
  expanding_eq : v.expanding = owners v.stack
  /-- Nothing is placed twice or waits twice, and what waits is not placed. -/
  nodup : (owners v.stack ++ v.collected).Nodup
  grounded : Grounded g.dependencies v.collected
  reached : ∀ l ∈ v.collected, Reached g.dependencies direct l
  waits : Waits g direct v.collected none v.stack

theorem inv_start (g : LibraryGraph) (direct : List LibraryId) : Inv g direct (start direct) where
  seen_eq := rfl
  expanding_eq := rfl
  nodup := List.nodup_nil
  grounded := trivial
  reached := fun _ h => absurd h List.not_mem_nil
  waits := .bottom (read_start _ _)

theorem inv_step (hv : Inv g direct v) (h : Step g v w) : Inv g direct w := by
  obtain ⟨hseen, hexp, hnodup, hgrounded, hreached, hwaits⟩ := hv
  cases h with
  | close =>
    refine ⟨hseen, hexp, hnodup, hgrounded, hreached, ?_⟩
    cases hwaits with
    | bottom hr => exact .ended hr.all
  | @place owner rest expanding seen collected =>
    simp only at hseen hexp hnodup hgrounded hreached hwaits
    subst hseen
    cases hwaits with
    | above hr hw =>
      have hsub : ∀ a ∈ seen, a ∈ owner :: seen := fun a => List.mem_cons_of_mem _
      refine ⟨rfl, ?_, ?_, ⟨hr.all, hgrounded⟩, ?_, (hw.mono hsub).placed List.mem_cons_self⟩
      · rw [hexp]
        exact List.erase_cons_head ..
      · exact (List.perm_middle.nodup_iff).mpr hnodup
      · intro l hl
        rcases List.mem_cons.mp hl with rfl | hl
        · exact hw.reached
        · exact hreached l hl
  | skip hl =>
    simp only at hseen hwaits
    subst hseen
    exact ⟨rfl, hexp, hnodup, hgrounded, hreached, hwaits.top fun _ hr => hr.next.placed hl⟩
  | @expand owner l ls rest expanding seen collected hl hle =>
    simp only at hseen hexp hnodup hwaits
    subst hseen hexp
    have hfresh : l ∉ owners (⟨owner, l :: ls⟩ :: rest) ++ seen := fun hm =>
      (List.mem_append.mp hm).elim hle hl
    exact ⟨rfl, rfl, List.nodup_cons.mpr ⟨hfresh, hnodup⟩, hgrounded, hreached,
      .above (read_start _ _) (hwaits.top fun _ hr => hr.next)⟩

theorem inv_steps (h : Steps g (start direct) v) : Inv g direct v := by
  induction h with
  | refl => exact inv_start g direct
  | tail _ h ih => exact inv_step ih (step_continued h)

/-! ## The ends of a visit -/

/-- What the visit orders when it has come to its end. -/
theorem Inv.finished {order : List LibraryId} (hv : Inv g direct v) (h : v.step g = .finished order) :
    order.Nodup ∧ Grounded g.dependencies order ∧ ∀ l, l ∈ order ↔ Reached g.dependencies direct l := by
  obtain ⟨hstack, rfl⟩ := step_finished h
  have hwaits := hv.waits
  rw [hstack] at hwaits
  cases hwaits with
  | ended hdirect =>
    exact ⟨(List.nodup_append.mp hv.nodup).2.1, hv.grounded,
      fun l => ⟨hv.reached l, hv.grounded.mem_of_reached hdirect⟩⟩

/-- A library that is met while it waits depends on itself. -/
theorem Inv.cycle {l : LibraryId} (hv : Inv g direct v) (h : v.step g = .cycle l) :
    Reached g.dependencies direct l ∧ TransGen (DependsOn g.dependencies) l l := by
  obtain ⟨hexp, owner, ls, rest, hstack⟩ := step_cycle h
  have hwaits := hv.waits
  rw [hv.expanding_eq, hstack] at hexp
  rw [hstack] at hwaits
  have hw : Waits g direct v.collected (some l) (⟨owner, ls⟩ :: rest) := hwaits.top fun _ hr => hr.next
  exact ⟨hw.reached, hw.transGen l hexp⟩

end Visit

/-! ## Positions -/

/-- What a frame reads: the dependencies of its owner, and without an owner what is visited. -/
def Frame.children (g : LibraryGraph) (direct : List LibraryId) (f : Frame) : List LibraryId :=
  match f.owner with
  | none => direct
  | some owner => g.dependencies owner

/-- The children from this position on have been read. -/
def Frame.index (f : Frame) : Nat := f.unread.length

namespace Visit

section
variable {seen children unread : List LibraryId} {up : Option LibraryId} {f : Frame} {stack below : List Frame}

theorem Read.children_eq (h : Read seen children up unread) :
    ∃ read, children = unread.reverse ++ (up.toList ++ read) ∧ ∀ l ∈ read, l ∈ seen := by
  obtain ⟨read, heq, hread⟩ := h
  refine ⟨read.reverse, ?_, fun l hl => hread l (List.mem_reverse.mp hl)⟩
  rw [← List.reverse_reverse children, heq]
  cases up <;> simp

theorem Read.unread_eq (h : Read seen children up unread) : unread = (children.take unread.length).reverse := by
  obtain ⟨read, rfl, _⟩ := h.children_eq
  rw [List.take_left' (List.length_reverse ..), List.reverse_reverse]

/-- What is waited for stands at the index. -/
theorem Read.getElem?_length {l : LibraryId} (h : Read seen children (some l) unread) :
    children[unread.length]? = some l := by
  obtain ⟨read, rfl, _⟩ := h.children_eq
  rw [List.getElem?_append_right (by simp)]
  simp

theorem Read.seen_or_waited {l : LibraryId} {i : Nat} (h : Read seen children up unread) (hi : unread.length ≤ i)
    (hl : children[i]? = some l) : l ∈ seen ∨ i = unread.length ∧ up = some l := by
  obtain ⟨read, rfl, hread⟩ := h.children_eq
  rw [List.getElem?_append_right (by simpa using hi), List.length_reverse] at hl
  cases up with
  | none => exact .inl (hread l (List.mem_of_getElem? hl))
  | some u =>
    cases hd : i - unread.length with
    | zero =>
      rw [hd] at hl
      exact .inr ⟨by omega, hl⟩
    | succ n =>
      rw [hd] at hl
      exact .inl (hread l (List.mem_of_getElem? hl))

theorem Waits.read (h : Waits g direct seen up (f :: below)) : Read seen (f.children g direct) up f.unread := by
  cases h with
  | bottom hr => exact hr
  | above hr _ => exact hr

theorem Waits.owner_eq_none_iff (h : Waits g direct seen up (f :: below)) : f.owner = none ↔ below = [] := by
  cases h with
  | bottom _ => simp
  | above _ hw => cases hw <;> simp

/-- A frame has its owner among the children of the frame below it. -/
theorem Waits.owner_mem {owner : LibraryId} (h : Waits g direct seen up (f :: below)) (ho : f.owner = some owner) :
    ∃ under rest, below = under :: rest ∧ owner ∈ under.children g direct := by
  cases h with
  | bottom _ => cases ho
  | above _ hw =>
    cases ho
    cases below with
    | nil => cases hw
    | cons under rest => exact ⟨under, rest, rfl, hw.read.mem⟩

/-- A frame waits for the owner of the frame above it. -/
theorem Waits.frame {above : List Frame} (h : Waits g direct seen up (above ++ f :: below)) :
    Waits g direct seen (above.getLast?.elim up (·.owner)) (f :: below) := by
  induction above generalizing up with
  | nil => exact h
  | cons a rest ih =>
    have hrest : Waits g direct seen a.owner (rest ++ f :: below) := by
      generalize hstack : a :: rest ++ f :: below = stack at h
      cases h with
      | ended => cases hstack
      | bottom _ => simp at hstack
      | above _ hw =>
        obtain ⟨rfl, rfl⟩ := List.cons.inj hstack
        exact hw
    have hup := ih hrest
    rw [List.getLast?_cons]
    cases hlast : rest.getLast? with
    | none => simpa [hlast] using hup
    | some u => simpa [hlast] using hup

end

/-- What the loop keeps, with the stack from its innermost frame and the placed libraries from the last. -/
structure Kept (g : LibraryGraph) (direct : List LibraryId) (v : Visit) : Prop where
  collected_nodup : v.collected.Nodup
  seen : ∀ l, l ∈ v.seen ↔ l ∈ v.collected
  /-- A library is placed after its dependencies. -/
  closed : ∀ l ∈ v.seen, ∀ m ∈ g.dependencies l, m ∈ v.seen ∧ [m, l].Sublist v.collected.reverse
  owners_nodup : (owners v.stack).Nodup
  expanding : ∀ l, l ∈ v.expanding ↔ l ∈ owners v.stack
  disjoint : ∀ l ∈ owners v.stack, l ∉ v.seen
  /-- The frame at the bottom, and no other, is without an owner. -/
  bottom : ∀ above f below, v.stack = above ++ f :: below → (f.owner = none ↔ below = [])
  owner : ∀ above f below o, v.stack = above ++ f :: below → f.owner = some o →
    ∃ under rest, below = under :: rest ∧ o ∈ under.children g direct
  unread : ∀ f ∈ v.stack, f.unread = ((f.children g direct).take f.index).reverse
  /-- The next frame up expands the child at the index. -/
  waited : ∀ above up f below, v.stack = above ++ up :: f :: below → (f.children g direct)[f.index]? = up.owner
  /-- All other children from the index on are placed. -/
  read : ∀ above f below i l, v.stack = above ++ f :: below → f.index ≤ i →
    (f.children g direct)[i]? = some l →
    l ∈ v.seen ∨ i = f.index ∧ ∃ up ∈ above.getLast?, up.owner = some l

theorem Inv.waits_frame {above below : List Frame} {f : Frame} (hv : Inv g direct v)
    (h : v.stack = above ++ f :: below) :
    Waits g direct v.collected (above.getLast?.elim none (·.owner)) (f :: below) := by
  have hwaits := hv.waits
  rw [h] at hwaits
  exact hwaits.frame

/-- Every iteration of the loop begins with this. -/
theorem kept_of_steps (h : Steps g (start direct) v) : Kept g direct v := by
  have hv := inv_steps h
  obtain ⟨howners, hcollected, hdisjoint⟩ := List.nodup_append.mp hv.nodup
  refine ⟨hcollected, ?_, ?_, howners, ?_, ?_, ?_, ?_, ?_, ?_, ?_⟩
  · intro l
    rw [hv.seen_eq]
  · intro l hl m hm
    rw [hv.seen_eq] at hl ⊢
    have hpair : [l, m].Sublist v.collected := hv.grounded.pair_sublist hl (.single hm)
    exact ⟨hv.grounded.closed hl hm, by simpa using List.reverse_sublist.mpr hpair⟩
  · intro l
    rw [hv.expanding_eq]
  · intro l hl hseen
    rw [hv.seen_eq] at hseen
    exact hdisjoint l hl l hseen rfl
  · intro above f below hstack
    exact (hv.waits_frame hstack).owner_eq_none_iff
  · intro above f below o hstack ho
    exact (hv.waits_frame hstack).owner_mem ho
  · intro f hf
    obtain ⟨above, below, hstack⟩ := List.append_of_mem hf
    exact (hv.waits_frame hstack).read.unread_eq
  · intro above up f below hstack
    cases hup : up.owner with
    | none =>
      have hbottom := (hv.waits_frame hstack).owner_eq_none_iff.mp hup
      cases hbottom
    | some o =>
      have hsplit : v.stack = (above ++ [up]) ++ f :: below := by rw [hstack, List.append_assoc, List.singleton_append]
      have hwaits := hv.waits_frame hsplit
      rw [List.getLast?_concat, Option.elim_some, hup] at hwaits
      exact hwaits.read.getElem?_length
  · intro above f below i l hstack hi hl
    rw [hv.seen_eq]
    rcases (hv.waits_frame hstack).read.seen_or_waited hi hl with hseen | ⟨hindex, hup⟩
    · exact .inl hseen
    · refine .inr ⟨hindex, ?_⟩
      cases hlast : above.getLast? with
      | none =>
        rw [hlast] at hup
        cases hup
      | some u =>
        rw [hlast] at hup
        exact ⟨u, rfl, hup⟩

/-- `0` depends on `1` and `2`, which both depend on `3`. -/
def diamond : LibraryGraph := .ofDependencies [[1, 2], [3], [3], []]

/-- In a visit of `0`, when `1` is expanded after `2` has been placed. -/
def insideDiamond : Visit where
  stack := [⟨some 1, [3]⟩, ⟨some 0, []⟩, ⟨none, []⟩]
  expanding := [1, 0]
  seen := [2, 3]
  collected := [2, 3]

theorem kept_of_steps_insideDiamond :
    Steps diamond (start [0]) insideDiamond ∧ Kept diamond [0] insideDiamond ∧
      ∀ l, (Frame.children diamond [0] ⟨some 0, []⟩)[1]? = some l → l ∈ insideDiamond.seen := by
  -- `0`, `2` and `3` are expanded, `3` and `2` are placed, and then `1` is expanded
  have hsteps : Steps diamond (start [0]) insideDiamond :=
    .head rfl (.head rfl (.head rfl (.head rfl (.head rfl (.head rfl .refl)))))
  have hkept := kept_of_steps hsteps
  refine ⟨hsteps, hkept, ?_⟩
  intro l hl
  rcases hkept.read [⟨some 1, [3]⟩] ⟨some 0, []⟩ [⟨none, []⟩] 1 l rfl (Nat.zero_le 1) hl with hseen | ⟨hindex, _⟩
  · exact hseen
  · cases hindex

end Visit

end BuildVariants
