/-
DeckKeywords/Proofs/Text/Recased.lean

Texts put into upper case and then into lower case, against the same texts put into lower
case at once.  One may be part of the other only if they are equal, and they are equal if
it goes well at each character, `KeepsLower`:

  * A small sigma must have the form that a capital one has in its place.
  * Every other character must have the lower case of its upper case, `Steady`.

For if the one is part of the other, then it has no more of the characters that are lost in
upper case.  So the text has none of them, and then both are equally long.  Of such a text
each character has an upper case that counts like it for the sigmas around it, so the
sigmas may be looked at in the text as it is, and the two forms compared place by place.

Main results: `lower_upper_eq_iff`, `lower_infix_lower_upper_iff`.
-/
import DeckKeywords.Proofs.Text.Letters
import DeckKeywords.Proofs.Text.Sigma
import Mathlib.Algebra.Order.BigOperators.Group.List
import Mathlib.Algebra.Order.Group.Nat

namespace DeckKeywords.Text

variable {before before' xs rest rest' : List Char} {c d : Char}

/-! ### Lengths and lost characters -/

section Counts

variable {p : Char → Bool}

/-- Where both small sigmas count alike for `p`, the form of a sigma does not matter. -/
theorem countP_lowerAt (hp : p 'ς' = p 'σ') (before : List Char) (c : Char) (rest : List Char) :
    (lowerAt before c rest).countP p = (lowerChar c).countP p := by
  rw [lowerAt, sigmaForm]
  by_cases hsigma : c = 'Σ'
  · have hlower : lowerChar 'Σ' = ['σ'] := by decide +kernel
    rw [if_pos hsigma, hsigma, hlower]
    split
    · rw [List.countP_singleton, hp, List.countP_singleton]
    · rfl
  · rw [if_neg hsigma]

theorem countP_lowerAfter (hp : p 'ς' = p 'σ') (before xs : List Char) :
    (lowerAfter before xs).countP p = (xs.flatMap lowerChar).countP p := by
  induction xs generalizing before with
  | nil => rfl
  | cons c xs ih =>
    rw [lowerAfter_cons, List.flatMap_cons, List.countP_append, List.countP_append,
      countP_lowerAt hp, ih]

end Counts

@[simp] theorem length_lowerAt (before : List Char) (c : Char) (rest : List Char) :
    (lowerAt before c rest).length = (lowerChar c).length := by
  rw [← List.countP_true]
  exact countP_lowerAt rfl before c rest

@[simp] theorem length_lowerAfter (before xs : List Char) :
    (lowerAfter before xs).length = (xs.flatMap lowerChar).length := by
  rw [← List.countP_true]
  exact countP_lowerAfter rfl before xs

/-- No sigma is lost: `lowerAfter` gives as many lost characters as `lowerChar` does. -/
theorem countP_isLost_lowerAfter (before xs : List Char) :
    (lowerAfter before xs).countP isLost = (xs.flatMap lowerChar).countP isLost :=
  countP_lowerAfter (by decide +kernel) before xs

theorem flatMap_upper (xs : List Char) :
    (xs.flatMap upperChar).flatMap lowerChar = xs.flatMap recased := List.flatMap_assoc

/-- A text `xs` with lost characters has more of them than its upper case has in lower case. -/
theorem countP_lowerAfter_upper_lt (h : ∃ c ∈ xs, isLost c) :
    (lowerAfter [] (xs.flatMap upperChar)).countP isLost < (lowerAfter [] xs).countP isLost := by
  rw [countP_isLost_lowerAfter, countP_isLost_lowerAfter, flatMap_upper, List.countP_flatMap,
    List.countP_flatMap]
  obtain ⟨c, hc, hlost⟩ := h
  exact List.sum_lt_sum _ _ (fun c _ => countP_isLost_le c) ⟨c, hc, countP_isLost_lt hlost⟩

theorem not_isLost_of_part (h : lowerAfter [] xs <:+: lowerAfter [] (xs.flatMap upperChar)) :
    ∀ c ∈ xs, ¬ isLost c := fun c hc hlost =>
  Nat.not_lt_of_le h.sublist.countP_le (countP_lowerAfter_upper_lt ⟨c, hc, hlost⟩)

/-- A text `xs` without lost characters is as long as its upper case, both in lower case. -/
theorem length_lowerAfter_upper (h : ∀ c ∈ xs, ¬ isLost c) :
    (lowerAfter [] (xs.flatMap upperChar)).length = (lowerAfter [] xs).length := by
  rw [length_lowerAfter, length_lowerAfter, flatMap_upper, List.length_flatMap, List.length_flatMap]
  refine congrArg List.sum (List.map_congr_left fun c hc => ?_)
  obtain ⟨d, hd, -, hlength⟩ := exists_upperChar (h c hc)
  rw [recased, hd, List.flatMap_singleton, hlength]

/-! ### Surroundings -/

theorem meetsCased_of_alike {xs ys : List Char} (h : List.Forall₂ Alike xs ys) :
    meetsCased xs = meetsCased ys := by
  rw [meetsCased_eq, meetsCased_eq]
  induction h with
  | nil => rfl
  | @cons c d xs ys hcd _ ih =>
    rw [nearest?, nearest?, List.find?_cons, List.find?_cons, ← hcd.ignorable]
    rcases caseIgnorableRanges.has c with - | -
    · exact hcd.cased
    · exact ih

/-- The lower case of a character `c` is the same in surroundings that count alike. -/
theorem lowerAt_congr (hbefore : List.Forall₂ Alike before before')
    (hrest : List.Forall₂ Alike rest rest') (c : Char) :
    lowerAt before c rest = lowerAt before' c rest' := by
  rw [lowerAt, lowerAt, sigmaForm, sigmaForm, meetsCased_of_alike hbefore,
    meetsCased_of_alike hrest]

theorem alike_upper (h : ∀ c ∈ xs, ¬ isLost c) : List.Forall₂ Alike xs (xs.flatMap upperChar) := by
  induction xs with
  | nil => exact .nil
  | cons c xs ih =>
    obtain ⟨d, hd, halike, -⟩ := exists_upperChar (h c List.mem_cons_self)
    rw [List.flatMap_cons, hd]
    exact .cons halike (ih fun c hc => h c (List.mem_cons_of_mem _ hc))

/-! ### Character by character -/

/-- A character `c` has the lower case of its upper case, both looked at on their own. -/
def Steady (c : Char) : Prop := recased c = lowerChar c

instance : DecidablePred Steady := fun c => inferInstanceAs (Decidable (recased c = lowerChar c))

/-- Behind the first list (kept backwards), upper-casing the second one changes nothing about its
lower case: a small sigma has the form that a capital one has there, and every other character is
steady. -/
def KeepsLower : List Char → List Char → Prop
  | _, [] => True
  | before, c :: rest =>
    (if c = 'σ' ∨ c = 'ς' then sigmaForm before rest = c else Steady c) ∧
      KeepsLower (c :: before) rest

instance decidableKeepsLower : ∀ before xs, Decidable (KeepsLower before xs)
  | _, [] => inferInstanceAs (Decidable True)
  | before, c :: rest =>
    have := decidableKeepsLower (c :: before) rest
    inferInstanceAs (Decidable (_ ∧ _))

/-- What becomes of the upper case of a character `c` in its place is what becomes of the character
itself, or it is a matter of a sigma's form. -/
theorem flatMap_lowerAt_upperChar_iff :
    (upperChar c).flatMap (lowerAt before · rest) = lowerAt before c rest ↔
      if c = 'σ' ∨ c = 'ς' then sigmaForm before rest = c else Steady c := by
  have hcapital : lowerAt before 'Σ' rest = [sigmaForm before rest] := rfl
  -- both small sigmas have the one capital, whose lower case depends on the place
  by_cases hsmall : c = 'σ' ∨ c = 'ς'
  · obtain ⟨hupper, hlower, hsigma⟩ : upperChar c = ['Σ'] ∧ lowerChar c = [c] ∧ c ≠ 'Σ' := by
      rcases hsmall with rfl | rfl
      · decide +kernel
      · decide +kernel
    rw [if_pos hsmall, hupper, List.flatMap_singleton, hcapital, lowerAt, if_neg hsigma, hlower,
      List.singleton_inj]
  · rw [if_neg hsmall]
    by_cases hsigma : c = 'Σ'
    · have hsame : upperChar 'Σ' = ['Σ'] := by decide +kernel
      rw [hsigma, Steady, recased, hsame, List.flatMap_singleton, List.flatMap_singleton]
      exact iff_of_true rfl rfl
    -- any other character has a lower case that does not depend on the place
    · have hnone : 'Σ' ∉ upperChar c := by
        intro h
        rcases eq_sigma_of_mem_upperChar h with h | h | h
        · exact hsmall (.inl h)
        · exact hsmall (.inr h)
        · exact hsigma h
      have halone : (upperChar c).flatMap (lowerAt before · rest) = recased c :=
        List.flatMap_congr fun d hd => if_neg (ne_of_mem_of_not_mem hd hnone)
      rw [halone, lowerAt, if_neg hsigma, Steady]

/-- Compared place by place, the two lower-case forms of `xs` are equal exactly if it
`KeepsLower`. -/
theorem lowerAfter_upper_eq_iff (h : ∀ c ∈ xs, ¬ isLost c)
    (hbefore : List.Forall₂ Alike before before') :
    lowerAfter before' (xs.flatMap upperChar) = lowerAfter before xs ↔ KeepsLower before xs := by
  induction xs generalizing before before' with
  | nil => exact iff_of_true rfl trivial
  | cons c rest ih =>
    obtain ⟨d, hd, halike, hlength⟩ := exists_upperChar (h c List.mem_cons_self)
    have hrest : ∀ c ∈ rest, ¬ isLost c := fun c hc => h c (List.mem_cons_of_mem _ hc)
    have hplace : lowerAt before' d (rest.flatMap upperChar) = lowerAt before d rest :=
      (lowerAt_congr hbefore (alike_upper hrest) d).symm
    -- at this place both have equally many characters, so the comparison may be cut behind it
    have hlengths : (lowerAt before d rest).length = (lowerAt before c rest).length := by
      rw [length_lowerAt, length_lowerAt, hlength]
    rw [List.flatMap_cons, hd, List.singleton_append, lowerAfter_cons, lowerAfter_cons, hplace,
      KeepsLower, ← flatMap_lowerAt_upperChar_iff, hd, List.flatMap_singleton,
      ← ih hrest (.cons halike hbefore)]
    exact ⟨fun heq => List.append_inj heq hlengths, fun ⟨h₁, h₂⟩ => by rw [h₁, h₂]⟩

/-- A text `xs` that keeps its lower case loses no character. -/
theorem KeepsLower.not_isLost (h : KeepsLower before xs) : ∀ c ∈ xs, ¬ isLost c := by
  induction xs generalizing before with
  | nil => exact fun c hc => absurd hc List.not_mem_nil
  | cons c rest ih =>
    obtain ⟨hc, hrest⟩ := h
    refine List.forall_mem_cons.mpr ⟨fun hlost => ?_, ih hrest⟩
    have hsmall : ¬ (c = 'σ' ∨ c = 'ς') := by
      rintro (rfl | rfl)
      · exact absurd hlost (by decide +kernel)
      · exact absurd hlost (by decide +kernel)
    rw [if_neg hsmall, Steady] at hc
    exact Nat.ne_of_lt (countP_isLost_lt hlost) (congrArg _ hc)

/-! ### Texts -/

/-- A text `xs` in ASCII keeps its lower case. -/
theorem keepsLower_of_ascii (h : ∀ c ∈ xs, c.toNat < 0x80) : KeepsLower before xs := by
  have hall : ∀ n < 0x80, Steady (Char.ofNat n) ∧ Char.ofNat n ≠ 'σ' ∧ Char.ofNat n ≠ 'ς' := by
    decide +kernel
  induction xs generalizing before with
  | nil => trivial
  | cons c rest ih =>
    obtain ⟨hc, hrest⟩ := List.forall_mem_cons.mp h
    have hsteady := hall c.toNat hc
    rw [Char.ofNat_toNat] at hsteady
    refine ⟨?_, ih hrest⟩
    rw [if_neg (not_or.mpr hsteady.2)]
    exact hsteady.1

theorem lower_upper_eq_iff (s : String) : lower (upper s) = lower s ↔ KeepsLower [] s.toList := by
  simp only [← String.toList_inj, toList_lower, toList_upper]
  refine ⟨fun heq => ?_, fun h => (lowerAfter_upper_eq_iff h.not_isLost .nil).mpr h⟩
  refine (lowerAfter_upper_eq_iff (not_isLost_of_part ?_) .nil).mp heq
  rw [heq]

-- an umlaut has a capital of its own, a sharp s is lost
example : KeepsLower [] "träger".toList ∧ ¬ KeepsLower [] "straße".toList := by decide +kernel

/-- In lower case a text `s` is part of its upper case only if both are equal. -/
theorem lower_infix_lower_upper_iff (s : String) :
    (lower s).toList <:+: (lower (upper s)).toList ↔ lower (upper s) = lower s := by
  constructor
  · intro hpart
    have hlength : (lower s).toList.length = (lower (upper s)).toList.length := by
      rw [toList_lower, toList_lower, toList_upper] at hpart ⊢
      exact (length_lowerAfter_upper (not_isLost_of_part hpart)).symm
    exact (String.toList_inj.mp (hpart.eq_of_length hlength)).symm
  · intro heq
    rw [heq]

end DeckKeywords.Text
