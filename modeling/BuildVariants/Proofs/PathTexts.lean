import BuildVariants.Path
import Mathlib

/-!
# Texts of paths

A path that is made from a text is normal: its names are not empty, are no single dot and hold no slash.
A normal path is read back from its text, so the rising list of the texts of some paths has each of these
paths once.
-/

namespace BuildVariants

/-! ## Repetitions in rising lists -/

section
variable {α : Type}

theorem eraseReps_loop [BEq α] (a : α) (l acc : List α) :
    List.eraseRepsBy.loop (· == ·) a l acc = acc.reverse ++ (a :: l).eraseReps := by
  induction l generalizing a acc with
  | nil => simp [List.eraseReps, List.eraseRepsBy, List.eraseRepsBy.loop]
  | cons b l ih =>
    simp only [List.eraseReps, List.eraseRepsBy, List.eraseRepsBy.loop] at ih ⊢
    split
    · exact ih a acc
    · rw [ih b (a :: acc), ih b [a]]
      simp

theorem eraseReps_cons_cons [BEq α] (a b : α) (l : List α) :
    (a :: b :: l).eraseReps = if a == b then (a :: l).eraseReps else a :: (b :: l).eraseReps := by
  have hstep : (a :: b :: l).eraseReps = List.eraseRepsBy.loop (· == ·) a (b :: l) [] := rfl
  rw [hstep]
  simp only [List.eraseRepsBy.loop]
  by_cases h : (a == b) = true
  · simp [h, eraseReps_loop]
  · simp [h, eraseReps_loop]

theorem mem_eraseReps [DecidableEq α] {x : α} : ∀ {l : List α}, x ∈ l.eraseReps ↔ x ∈ l
  | [] => Iff.rfl
  | [a] => by simp [List.eraseReps, List.eraseRepsBy, List.eraseRepsBy.loop]
  | a :: b :: l => by
    rw [eraseReps_cons_cons]
    by_cases h : a = b
    · subst h
      simp [mem_eraseReps (l := a :: l)]
    · simp [h, mem_eraseReps (l := b :: l)]

theorem pairwise_lt_eraseReps [LinearOrder α] : ∀ {l : List α}, l.Pairwise (· ≤ ·) → l.eraseReps.Pairwise (· < ·)
  | [], _ => List.Pairwise.nil
  | [a], _ => List.pairwise_singleton _ a
  | a :: b :: l, h => by
    have htail : (b :: l).Pairwise (· ≤ ·) := h.tail
    rw [eraseReps_cons_cons]
    by_cases hab : a = b
    · subst hab
      simp only [beq_self_eq_true, if_true]
      exact pairwise_lt_eraseReps htail
    · simp only [beq_iff_eq, hab, if_false]
      refine List.pairwise_cons.mpr ⟨?_, pairwise_lt_eraseReps htail⟩
      intro x hx
      have hlt : a < b := lt_of_le_of_ne (List.rel_of_pairwise_cons h List.mem_cons_self) hab
      rcases List.mem_cons.mp (mem_eraseReps.mp hx) with rfl | hx
      · exact hlt
      · exact hlt.trans_le (List.rel_of_pairwise_cons htail hx)

end

namespace Path

/-! ## Normal paths -/

/-- Every name is one that a text can give. -/
def IsNormal (p : Path) : Prop := ∀ n ∈ p.names, n ≠ "" ∧ n ≠ "." ∧ '/' ∉ n.toList

theorem pieces_eq (before : List (List Char)) (read cs : List Char) :
    pieces before read cs = before.reverse ++ (cs.splitOn '/').modifyHead (read.reverse ++ ·) := by
  induction cs generalizing before read with
  | nil => simp [pieces]
  | cons c r ih =>
    rw [pieces, List.splitOn_cons_eq_if_modifyHead]
    by_cases h : c = '/'
    · subst h
      simp only [if_true, beq_self_eq_true, ih]
      cases r.splitOn '/' <;> simp
    · simp only [h, beq_iff_eq, if_false, ih]
      cases r.splitOn '/' <;> simp

theorem namesOfChars_eq (cs : List Char) :
    namesOfChars cs = ((cs.splitOn '/').filter fun w => w ≠ [] ∧ w ≠ ['.']).map String.ofList := by
  have h : pieces [] [] cs = cs.splitOn '/' := by
    rw [pieces_eq]
    cases cs.splitOn '/' <;> simp
  rw [namesOfChars, h]

theorem not_mem_of_mem_splitOn {c : Char} {cs w : List Char} (h : w ∈ cs.splitOn c) : c ∉ w := by
  induction cs generalizing w with
  | nil =>
    rw [List.splitOn_nil, List.mem_singleton] at h
    simp [h]
  | cons d r ih =>
    rw [List.splitOn_cons_eq_if_modifyHead] at h
    cases hr : r.splitOn c with
    | nil => exact absurd hr (List.splitOn_ne_nil c r)
    | cons x xs =>
      rw [hr] at h ih
      by_cases hd : d = c
      · simp only [hd, beq_self_eq_true, if_true, List.mem_cons (a := w)] at h
        rcases h with rfl | h
        · exact List.not_mem_nil
        · exact ih (List.mem_cons.mpr h)
      · simp only [beq_iff_eq, hd, if_false, List.modifyHead_cons, List.mem_cons (a := w)] at h
        rcases h with rfl | h
        · have hx : c ∉ x := ih List.mem_cons_self
          simp [hx, Ne.symm hd]
        · exact ih (List.mem_cons_of_mem _ h)

theorem isNormal_ofString (s : String) : (ofString s).IsNormal := by
  intro n hn
  have hmem : n ∈ namesOfChars s.toList := hn
  rw [namesOfChars_eq] at hmem
  obtain ⟨w, hw, rfl⟩ := List.mem_map.mp hmem
  obtain ⟨hsplit, hne⟩ := List.mem_filter.mp hw
  simp only [decide_eq_true_eq] at hne
  refine ⟨?_, ?_, ?_⟩
  · intro h
    exact hne.1 (by simpa using congrArg String.toList h)
  · intro h
    exact hne.2 (by simpa using congrArg String.toList h)
  · rw [String.toList_ofList]
    exact not_mem_of_mem_splitOn hsplit

/-! ## Reading a text back -/

theorem text_toList (p : Path) : p.text.toList =
    if p.start = .here ∧ p.names = [] then ['.']
    else p.start.text.toList ++ ['/'].intercalate (p.names.map String.toList) := by
  unfold text
  split
  · rfl
  · rw [String.toList_append, String.toList_intercalate]
    rfl

theorem namesOfChars_slash (cs : List Char) : namesOfChars ('/' :: cs) = namesOfChars cs := by
  rw [namesOfChars_eq, namesOfChars_eq, List.splitOn_cons_eq_if_modifyHead]
  simp

theorem namesOfChars_start (s : Start) (cs : List Char) : namesOfChars (s.text.toList ++ cs) = namesOfChars cs := by
  cases s with
  | here => rfl
  | root => exact namesOfChars_slash cs
  | doubleRoot =>
    have h : namesOfChars ('/' :: '/' :: cs) = namesOfChars cs := by
      rw [namesOfChars_slash, namesOfChars_slash]
    exact h

section
variable {p : Path}

theorem IsNormal.namesOfChars_intercalate (hp : p.IsNormal) :
    namesOfChars (['/'].intercalate (p.names.map String.toList)) = p.names := by
  by_cases hne : p.names = []
  · rw [hne]
    rfl
  · have hsplit : (['/'].intercalate (p.names.map String.toList)).splitOn '/' = p.names.map String.toList := by
      apply List.splitOn_intercalate
      · intro w hw
        obtain ⟨n, hn, rfl⟩ := List.mem_map.mp hw
        exact (hp n hn).2.2
      · simpa using hne
    have hkept : (p.names.map String.toList).filter (fun w => w ≠ [] ∧ w ≠ ['.']) = p.names.map String.toList := by
      apply List.filter_eq_self.mpr
      intro w hw
      obtain ⟨n, hn, rfl⟩ := List.mem_map.mp hw
      obtain ⟨hempty, hdot, _⟩ := hp n hn
      simp only [decide_eq_true_eq]
      exact ⟨fun h => hempty (String.toList_injective h), fun h => hdot (String.toList_injective h)⟩
    rw [namesOfChars_eq, hsplit, hkept]
    simp

theorem IsNormal.namesOfChars_text (hp : p.IsNormal) : namesOfChars p.text.toList = p.names := by
  rw [text_toList]
  split
  · rename_i h
    rw [h.2]
    rfl
  · rw [namesOfChars_start, hp.namesOfChars_intercalate]

theorem Start.ofChars_of_ne {c : Char} (hc : c ≠ '/') (s : Start) (cs : List Char) :
    Start.ofChars (s.text.toList ++ c :: cs) = s := by
  cases s with
  | here =>
    show Start.ofChars (c :: cs) = _
    simp [Start.ofChars, hc]
  | root =>
    show Start.ofChars ('/' :: c :: cs) = _
    simp [Start.ofChars, hc]
  | doubleRoot =>
    show Start.ofChars ('/' :: '/' :: c :: cs) = _
    simp [Start.ofChars, hc]

theorem IsNormal.ofChars_text (hp : p.IsNormal) : Start.ofChars p.text.toList = p.start := by
  rw [text_toList]
  cases hn : p.names with
  | nil => cases hs : p.start <;> rfl
  | cons n ns =>
    obtain ⟨hempty, _, hslash⟩ := hp n (hn ▸ List.mem_cons_self)
    cases hc : n.toList with
    | nil => exact absurd (String.toList_injective hc) hempty
    | cons c r =>
      rw [hc] at hslash
      have hne : c ≠ '/' := fun h => hslash (h ▸ List.mem_cons_self)
      have hhead : ∃ cs, ['/'].intercalate ((n :: ns).map String.toList) = c :: cs := by
        cases ns with
        | nil => exact ⟨r, by simp [hc]⟩
        | cons m ms => exact ⟨_, by rw [List.map_cons, List.map_cons, List.intercalate_cons_cons, hc]; rfl⟩
      obtain ⟨cs, hcs⟩ := hhead
      rw [if_neg (by simp), hcs]
      exact Start.ofChars_of_ne hne p.start cs

/-- A normal path is read back from its text. -/
theorem IsNormal.ofString_text (hp : p.IsNormal) : ofString p.text = p := by
  unfold ofString
  rw [hp.ofChars_text, hp.namesOfChars_text]

end

/-! ## Rising lists of texts -/

theorem mem_sortedTexts {paths : List Path} {s : String} : s ∈ sortedTexts paths ↔ ∃ p ∈ paths, p.text = s := by
  unfold sortedTexts
  rw [mem_eraseReps, List.mem_mergeSort, List.mem_map]

theorem pairwise_sortedTexts (paths : List Path) : (sortedTexts paths).Pairwise (· < ·) :=
  pairwise_lt_eraseReps List.sortedLE_mergeSort.pairwise

theorem sortedTexts_eq {paths paths' : List Path} (h : ∀ p, p ∈ paths ↔ p ∈ paths') :
    sortedTexts paths = sortedTexts paths' := by
  apply (pairwise_sortedTexts paths).eq_of_mem_iff (pairwise_sortedTexts paths')
  intro s
  simp [mem_sortedTexts, h]

/-- Each of some normal paths has one place in the list of their texts. -/
theorem exists_map_text {paths : List Path} (h : ∀ p ∈ paths, p.IsNormal) :
    ∃ entries : List Path, entries.Nodup ∧ (∀ p, p ∈ entries ↔ p ∈ paths) ∧ entries.map text = sortedTexts paths := by
  have htext : ((sortedTexts paths).map ofString).map text = sortedTexts paths := by
    rw [List.map_map, List.map_congr_left (g := id), List.map_id]
    intro s hs
    obtain ⟨p, hp, rfl⟩ := mem_sortedTexts.mp hs
    exact congrArg text (h p hp).ofString_text
  refine ⟨(sortedTexts paths).map ofString, ?_, ?_, htext⟩
  · apply List.Nodup.of_map text
    rw [htext]
    exact (pairwise_sortedTexts paths).imp fun hlt => ne_of_lt hlt
  · intro p
    constructor
    · intro hp
      obtain ⟨s, hs, rfl⟩ := List.mem_map.mp hp
      obtain ⟨q, hq, rfl⟩ := mem_sortedTexts.mp hs
      rw [(h q hq).ofString_text]
      exact hq
    · intro hp
      exact List.mem_map.mpr ⟨p.text, mem_sortedTexts.mpr ⟨p, hp, rfl⟩, (h p hp).ofString_text⟩

end Path

end BuildVariants
