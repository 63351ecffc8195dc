/-
DeckKeywords/Proofs/Segments.lean

Lists that separators cut into segments.  What is counted over the segments is
counted by going through the list once: `countP_splitOnP_concat` says what one
more element at the end adds.
-/
import Mathlib.Data.List.Dedup
import Mathlib.Data.List.DropRight

namespace DeckKeywords

variable {α : Type} {p : α → Bool}

/-! ### The last segment -/

theorem rtakeWhile_filterMap {β : Type} (f : α → Option β) (r : β → Bool) (xs : List α) :
    (xs.filterMap f).rtakeWhile r = (xs.rtakeWhile fun x => (f x).all r).filterMap f := by
  induction xs using List.reverseRecOn with
  | nil => rfl
  | append_singleton xs x ih =>
    rw [List.filterMap_append]
    rcases h : f x with - | b
    · rw [List.rtakeWhile_concat_pos _ _ _ (by simp [h]), List.filterMap_append]
      simp [h, ih]
    · by_cases hr : r b
      · rw [List.rtakeWhile_concat_pos _ _ _ (by simp [h, hr]), List.filterMap_append]
        simp [h, hr, ih]
      · rw [List.rtakeWhile_concat_neg _ _ _ (by simp [h, hr])]
        simp [h, hr]

/-- The last segment of `xs` is what follows its last separator, and grows with the list by any `ys`
without one. -/
theorem splitOnP_append_of_none (xs : List α) :
    ∃ earlier, ∀ ys : List α, (∀ y ∈ ys, p y = false) →
      (xs ++ ys).splitOnP p = earlier ++ [xs.rtakeWhile (fun x => !p x) ++ ys] := by
  -- what follows is kept general: an element that is no separator joins it
  induction xs using List.reverseRecOn with
  | nil => exact ⟨[], fun ys hys => List.splitOnP_eq_singleton hys⟩
  | append_singleton xs x ih =>
    by_cases hx : p x
    · refine ⟨xs.splitOnP p, fun ys hys => ?_⟩
      rw [List.append_assoc, List.singleton_append, List.splitOnP_append_cons xs ys hx,
        List.splitOnP_eq_singleton hys, List.rtakeWhile_concat_neg _ _ _ (by simpa using hx),
        List.nil_append]
    · obtain ⟨earlier, h⟩ := ih
      refine ⟨earlier, fun ys hys => ?_⟩
      rw [List.append_assoc, List.singleton_append, h,
        List.rtakeWhile_concat_pos _ _ _ (by simpa using hx), List.append_assoc,
        List.singleton_append]
      intro y hy
      rcases List.mem_cons.mp hy with rfl | hy
      · simpa using hx
      · exact hys y hy

/-- One more element `x` adds a segment that has an element with `q` exactly when it is the first
such one in the last segment. -/
theorem countP_splitOnP_concat {q : α → Bool} (xs : List α) {x : α} (hx : p x → q x = false) :
    ((xs ++ [x]).splitOnP p).countP (·.any q)
      = (xs.splitOnP p).countP (·.any q) +
        if q x ∧ ¬ (xs.rtakeWhile fun a => !p a).any q then 1 else 0 := by
  by_cases hp : p x
  · rw [List.splitOnP_append_cons xs [] hp, List.countP_append, hx hp]
    simp
  · obtain ⟨earlier, h⟩ := splitOnP_append_of_none (p := p) xs
    have hnow := h [] (by simp)
    rw [List.append_nil, List.append_nil] at hnow
    rw [h [x] (by simpa using hp), hnow, List.countP_append, List.countP_append]
    by_cases hany : (xs.rtakeWhile fun a => !p a).any q <;>
      by_cases hq : q x <;> simp_all

/-- What `f` gathers from the segments in turn is what it gathers from the whole list `xs`, if the
separators give nothing. -/
theorem flatMap_splitOnP {β : Type} {f : α → Option β} (hf : ∀ x, p x → f x = none)
    (xs : List α) : (xs.splitOnP p).flatMap (List.filterMap f) = xs.filterMap f := by
  induction xs using List.reverseRecOn with
  | nil => rw [List.splitOnP_nil]; rfl
  | append_singleton xs x ih =>
    rw [List.filterMap_append, ← ih]
    by_cases hx : p x
    · rw [List.splitOnP_append_cons xs [] hx, List.flatMap_append]
      simp [hf x hx]
    · obtain ⟨earlier, h⟩ := splitOnP_append_of_none (p := p) xs
      have hnow := h [] (by simp)
      rw [List.append_nil, List.append_nil] at hnow
      rw [h [x] (by simpa using hx), hnow, List.flatMap_append, List.flatMap_append]
      simp

/-! ### Counting without repetitions -/

/-- A list `xs` without repetitions is as long as any list `ys` of the same elements is without its
repetitions. -/
theorem length_eq_length_dedup [DecidableEq α] {xs ys : List α} (hxs : xs.Nodup)
    (hmem : ∀ a, a ∈ xs ↔ a ∈ ys) : xs.length = ys.dedup.length := by
  refine List.Perm.length_eq ((List.perm_ext_iff_of_nodup hxs ys.nodup_dedup).mpr fun a => ?_)
  rw [List.mem_dedup]
  exact hmem a

end DeckKeywords
