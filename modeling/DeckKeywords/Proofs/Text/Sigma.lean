/-
DeckKeywords/Proofs/Text/Sigma.lean

Lower-casing a text inside a longer one.  Nothing in the text but its capital
sigmas depends on what stands around it, and of that a sigma sees the nearest
character on each side that is not case-ignorable, `nearest?`.  So the text gives the
same inside a longer one as alone wherever its sigmas keep the forms that they have
alone, `SigmasKept`.

A sigma is settled if the text itself decides about its form: by a character
before it that is not cased, by a cased one behind it, or by having a nearest one on
both sides.  Any other sigma changes its form when an `A` is put before the text or
behind it.  No sigma changes the other way there, so one of the two forms becomes
rarer, and what the text gives alone is no part of what the longer one gives.

Main result: `lower_infix_iff`, which texts are part of every longer text in lower
case as well.
-/
import DeckKeywords.Text.Case
import Mathlib.Data.List.Forall2
import Mathlib.Data.List.Infix
import Mathlib.Data.List.TakeWhile

namespace DeckKeywords.Text

/-! ### The form of one sigma -/

/-- The first character of `cs` that is not case-ignorable. -/
def nearest? (cs : List Char) : Option Char := cs.find? fun c => !caseIgnorableRanges.has c

theorem meetsCased_eq (cs : List Char) : meetsCased cs = (nearest? cs).any casedRanges.has := by
  have hhead : nearest? cs = (cs.dropWhile caseIgnorableRanges.has).head? := by
    rw [nearest?, List.find?_not_eq_head?_dropWhile]
  rw [meetsCased, hhead]
  rcases cs.dropWhile caseIgnorableRanges.has with - | ⟨c, rest⟩ <;> rfl

theorem meetsCased_append (cs more : List Char) :
    meetsCased (cs ++ more) = ((nearest? cs).or (nearest? more)).any casedRanges.has := by
  rw [meetsCased_eq, nearest?, List.find?_append]
  rfl

/-- The form of a capital sigma behind `before` (kept backwards) and before `rest`. -/
def sigmaForm (before rest : List Char) : Char :=
  if meetsCased before && !meetsCased rest then 'ς' else 'σ'

/-- The form of a sigma between `before` and `rest` is decided by them, whatever else is put around
them. -/
inductive SigmaSettled (before rest : List Char) : Prop
  | uncased (c : Char) (hbefore : nearest? before = some c) (hcased : casedRanges.has c = false)
  | cased (c : Char) (hrest : nearest? rest = some c) (hcased : casedRanges.has c = true)
  | between (c d : Char) (hbefore : nearest? before = some c) (hrest : nearest? rest = some d)

variable {before rest : List Char}

/-- A settled sigma keeps its form with `outer` and `behind` put around the text. -/
theorem SigmaSettled.sigmaForm_eq (h : SigmaSettled before rest) (outer behind : List Char) :
    sigmaForm (before ++ outer) (rest ++ behind) = sigmaForm before rest := by
  simp only [sigmaForm, meetsCased_append, meetsCased_eq before, meetsCased_eq rest]
  cases h with
  | uncased c hbefore hcased => simp [hbefore, hcased]
  | cased c hrest hcased => simp [hrest, hcased]
  | between c d hbefore hrest => simp [hbefore, hrest]

/-- A sigma that is not settled has nothing in `before` that counts and no cased character in
`rest`, or a cased character in `before` and nothing in `rest` that counts. -/
theorem not_sigmaSettled_cases (h : ¬SigmaSettled before rest) :
    nearest? before = none ∧ meetsCased rest = false ∨
      meetsCased before = true ∧ nearest? rest = none := by
  rcases hbefore : nearest? before with - | c
  · refine .inl ⟨rfl, ?_⟩
    rcases hrest : nearest? rest with - | d
    · rw [meetsCased_eq, hrest]
      rfl
    · rw [meetsCased_eq, hrest, Option.any_some, ← Bool.not_eq_true]
      exact fun hcased => h (.cased d hrest hcased)
  · refine .inr ⟨?_, ?_⟩
    · rw [meetsCased_eq, hbefore, Option.any_some, ← Bool.not_eq_false]
      exact fun hcased => h (.uncased c hbefore hcased)
    · rw [Option.eq_none_iff_forall_ne_some]
      exact fun d hrest => h (.between c d hbefore hrest)

/-! ### The text between two others -/

/-- The lower case of one character `c` between `before` (kept backwards) and `rest`. -/
def lowerAt (before : List Char) (c : Char) (rest : List Char) : List Char :=
  if c = 'Σ' then [sigmaForm before rest] else lowerChar c

/-- The lower case of the second list between the first one (kept backwards) and the third: each
character by `lowerAt`. -/
def lowerBetween : List Char → List Char → List Char → List Char
  | _, [], _ => []
  | before, c :: rest, behind =>
    lowerAt before c (rest ++ behind) ++ lowerBetween (c :: before) rest behind

theorem lowerAfter_cons (before : List Char) (c : Char) (rest : List Char) :
    lowerAfter before (c :: rest) = lowerAt before c rest ++ lowerAfter (c :: before) rest := by
  rw [lowerAfter, lowerAt, sigmaForm]
  by_cases hsigma : c = 'Σ'
  · rw [if_pos hsigma, if_pos hsigma]
    rcases meetsCased before && !meetsCased rest with - | - <;> rfl
  · rw [if_neg hsigma, if_neg hsigma]

theorem lowerAfter_append (before xs behind : List Char) :
    lowerAfter before (xs ++ behind)
      = lowerBetween before xs behind ++ lowerAfter (xs.reverse ++ before) behind := by
  induction xs generalizing before with
  | nil => rfl
  | cons c xs ih =>
    rw [List.cons_append, lowerAfter_cons, ih, lowerBetween, List.append_assoc,
      List.reverse_cons, List.append_assoc]
    rfl

theorem lowerBetween_nil (before xs : List Char) :
    lowerBetween before xs [] = lowerAfter before xs := by
  have h := lowerAfter_append before xs []
  rw [List.append_nil] at h
  rw [h, lowerAfter, List.append_nil]

theorem lowerBetween_append (before xs ys behind : List Char) :
    lowerBetween before (xs ++ ys) behind
      = lowerBetween before xs (ys ++ behind) ++ lowerBetween (xs.reverse ++ before) ys behind := by
  induction xs generalizing before with
  | nil => rfl
  | cons c xs ih =>
    rw [List.cons_append, lowerBetween, ih, lowerBetween, List.append_assoc, List.append_assoc,
      List.reverse_cons, List.append_assoc]
    rfl

/-- The lower case of a text with a part `xs` in it. -/
theorem lowerAfter_part (before xs behind : List Char) :
    lowerAfter [] (before ++ xs ++ behind)
      = lowerBetween [] before (xs ++ behind) ++ lowerBetween before.reverse xs behind ++
        lowerAfter (xs.reverse ++ before.reverse) behind := by
  rw [List.append_assoc, lowerAfter_append, lowerAfter_append, List.append_nil, List.append_assoc]

/-! ### Comparing two surroundings -/

variable {xs before' behind behind' : List Char} {d : Char}

/-- Two lower-case forms of a text `xs` are related by `R` as the forms of its sigmas are. -/
theorem forall₂_lowerBetween {R : Char → Char → Prop} (hrefl : ∀ c, R c c)
    (hforms : ∀ front rest, xs = front ++ 'Σ' :: rest →
      R (sigmaForm (front.reverse ++ before) (rest ++ behind))
        (sigmaForm (front.reverse ++ before') (rest ++ behind'))) :
    List.Forall₂ R (lowerBetween before xs behind) (lowerBetween before' xs behind') := by
  induction xs generalizing before before' with
  | nil => exact .nil
  | cons c xs ih =>
    refine List.rel_append ?_ (ih fun front rest hxs => ?_)
    · by_cases hsigma : c = 'Σ'
      · rw [lowerAt, lowerAt, if_pos hsigma, if_pos hsigma]
        exact .cons (hforms [] xs (by rw [hsigma]; rfl)) .nil
      · rw [lowerAt, lowerAt, if_neg hsigma, if_neg hsigma]
        exact List.forall₂_same.mpr fun c _ => hrefl c
    · have hfront := hforms (c :: front) rest (by rw [hxs]; rfl)
      rwa [List.reverse_cons, List.append_assoc, List.append_assoc] at hfront

theorem count_le_of_forall₂ {ys zs : List Char}
    (h : List.Forall₂ (fun y z => y = d → z = d) ys zs) : ys.count d ≤ zs.count d := by
  induction h with
  | nil => exact Nat.le_refl _
  | @cons y z ys zs hyz _ ih =>
    rw [List.count_cons, List.count_cons]
    by_cases hy : y = d
    · rw [hy, hyz hy]
      exact Nat.add_le_add_right ih _
    · rw [beq_false_of_ne hy]
      exact Nat.le_trans ih (Nat.le_add_right _ _)

/-- A text `xs` has the sigmas between `before` and `behind` that it has alone. -/
def SigmasKept (before xs behind : List Char) : Prop :=
  ∀ front rest, xs = front ++ 'Σ' :: rest →
    sigmaForm (front.reverse ++ before) (rest ++ behind) = sigmaForm front.reverse rest

theorem lowerBetween_of_kept (h : SigmasKept before xs behind) :
    lowerBetween before xs behind = lowerAfter [] xs := by
  rw [← lowerBetween_nil, ← congrFun₂ List.forall₂_eq_eq_eq]
  refine forall₂_lowerBetween (fun _ => rfl) fun front rest hxs => ?_
  rw [List.append_nil, List.append_nil]
  exact h front rest hxs

/-- A text `xs` that stands in a longer one with its sigmas kept stands there in lower case too. -/
theorem infix_of_kept (h : SigmasKept before.reverse xs behind) :
    lowerAfter [] xs <:+: lowerAfter [] (before ++ xs ++ behind) := by
  rw [lowerAfter_part, lowerBetween_of_kept h]
  exact ⟨_, _, rfl⟩

/-! ### Sigmas that are not settled -/

theorem lowerBetween_sigma (before front rest behind : List Char) :
    lowerBetween before (front ++ 'Σ' :: rest) behind
      = lowerBetween before front ('Σ' :: rest ++ behind) ++
        sigmaForm (front.reverse ++ before) (rest ++ behind) ::
          lowerBetween ('Σ' :: (front.reverse ++ before)) rest behind := by
  rw [lowerBetween_append]
  rfl

/-- If no sigma gets a form `d` that it has not alone, and one loses it, `d` becomes rarer. -/
theorem count_lowerBetween_lt {front : List Char}
    (hforms : ∀ f r, front ++ 'Σ' :: rest = f ++ 'Σ' :: r →
      sigmaForm (f.reverse ++ before) (r ++ behind) = d → sigmaForm f.reverse r = d)
    (hlost : sigmaForm (front.reverse ++ before) (rest ++ behind) ≠ d)
    (halone : sigmaForm front.reverse rest = d) :
    (lowerBetween before (front ++ 'Σ' :: rest) behind).count d
      < (lowerAfter [] (front ++ 'Σ' :: rest)).count d := by
  -- the sigmas on both sides of the lost one are sigmas of the whole text as well
  have hfront : (lowerBetween before front ('Σ' :: rest ++ behind)).count d
      ≤ (lowerBetween [] front ('Σ' :: rest ++ [])).count d := by
    refine count_le_of_forall₂ (forall₂_lowerBetween (fun _ => id) fun f r hf => ?_)
    have hform := hforms f (r ++ 'Σ' :: rest) (by rw [hf, List.append_assoc]; rfl)
    simpa using hform
  have hrest : (lowerBetween ('Σ' :: (front.reverse ++ before)) rest behind).count d
      ≤ (lowerBetween ('Σ' :: (front.reverse ++ [])) rest []).count d := by
    refine count_le_of_forall₂ (forall₂_lowerBetween (fun _ => id) fun f r hr => ?_)
    have hform := hforms (front ++ 'Σ' :: f) r (by rw [hr, List.append_assoc]; rfl)
    simpa using hform
  rw [← lowerBetween_nil, lowerBetween_sigma, lowerBetween_sigma, List.count_append,
    List.count_append, List.count_cons_of_ne hlost]
  simp only [List.append_nil, halone, List.count_cons_self] at hfront hrest ⊢
  omega

theorem sigmaForm_eq_medial_iff :
    sigmaForm before rest = 'σ' ↔ (meetsCased before → meetsCased rest) := by
  rw [sigmaForm]
  rcases meetsCased before with - | - <;> rcases meetsCased rest with - | - <;> simp

theorem sigmaForm_eq_final_iff :
    sigmaForm before rest = 'ς' ↔ (meetsCased before ∧ ¬meetsCased rest) := by
  rw [sigmaForm]
  rcases meetsCased before with - | - <;> rcases meetsCased rest with - | - <;> simp

theorem meetsCased_append_of_meetsCased {cs : List Char} (h : meetsCased cs) (more : List Char) :
    meetsCased (cs ++ more) := by
  rw [meetsCased_eq] at h
  rw [meetsCased_append]
  rcases hnear : nearest? cs with - | c
  · rw [hnear] at h
    cases h
  · rwa [hnear] at h

theorem meetsCased_append_A {cs : List Char} (h : nearest? cs = none) :
    meetsCased (cs ++ ['A']) := by
  have hA : (nearest? ['A']).any casedRanges.has := by decide +kernel
  rwa [meetsCased_append, h, Option.none_or]

@[simp] theorem lowerAt_A (before rest : List Char) : lowerAt before 'A' rest = ['a'] := rfl

/-- With nothing before it that counts, a sigma that was not final is final behind an `A`. -/
theorem not_infix_behind_A {front : List Char} (hfront : nearest? front.reverse = none)
    (hrest : meetsCased rest = false) :
    ¬lowerAfter [] (front ++ 'Σ' :: rest) <:+: lowerAfter [] ('A' :: (front ++ 'Σ' :: rest)) := by
  intro hinfix
  have hfewer : (lowerBetween ['A'] (front ++ 'Σ' :: rest) []).count 'σ'
      < (lowerAfter [] (front ++ 'Σ' :: rest)).count 'σ' := by
    refine count_lowerBetween_lt (fun f r _ => ?_) ?_ ?_
    · rw [List.append_nil, sigmaForm_eq_medial_iff, sigmaForm_eq_medial_iff]
      exact fun h hf => h (meetsCased_append_of_meetsCased hf _)
    · rw [List.append_nil, ne_eq, sigmaForm_eq_medial_iff, hrest]
      exact fun h => nomatch h (meetsCased_append_A hfront)
    · rw [sigmaForm_eq_medial_iff, meetsCased_eq, hfront]
      nofun
  have hcount := hinfix.sublist.count_le 'σ'
  rw [lowerAfter_cons, lowerAt_A, ← lowerBetween_nil ['A'], List.singleton_append,
    List.count_cons_of_ne (by decide)] at hcount
  exact Nat.not_le_of_lt hfewer hcount

/-- With nothing behind it that counts, a sigma that was final is not final before an `A`. -/
theorem not_infix_before_A {front : List Char} (hfront : meetsCased front.reverse = true)
    (hrest : nearest? rest = none) :
    ¬lowerAfter [] (front ++ 'Σ' :: rest) <:+: lowerAfter [] (front ++ 'Σ' :: rest ++ ['A']) := by
  intro hinfix
  have hfewer : (lowerBetween [] (front ++ 'Σ' :: rest) ['A']).count 'ς'
      < (lowerAfter [] (front ++ 'Σ' :: rest)).count 'ς' := by
    refine count_lowerBetween_lt (fun f r _ => ?_) ?_ ?_
    · rw [List.append_nil, sigmaForm_eq_final_iff, sigmaForm_eq_final_iff]
      exact fun ⟨hf, hr⟩ => ⟨hf, fun h => hr (meetsCased_append_of_meetsCased h _)⟩
    · rw [List.append_nil, ne_eq, sigmaForm_eq_final_iff]
      exact fun h => h.2 (meetsCased_append_A hrest)
    · rw [sigmaForm_eq_final_iff, hfront, meetsCased_eq, hrest]
      exact ⟨rfl, nofun⟩
  have hcount := hinfix.sublist.count_le 'ς'
  have hA : List.count 'ς' ['a'] = 0 := by decide
  rw [lowerAfter_append [] (front ++ 'Σ' :: rest), lowerAfter_cons, lowerAt_A, lowerAfter,
    List.append_nil, List.count_append, hA] at hcount
  exact Nat.not_le_of_lt hfewer hcount

/-! ### Texts -/

/-- The text `xs` decides about the forms of all its capital sigmas. -/
def SigmasSettled (xs : List Char) : Prop :=
  ∀ front rest, xs = front ++ 'Σ' :: rest → SigmaSettled front.reverse rest

theorem SigmasSettled.kept (h : SigmasSettled xs) (before behind : List Char) :
    SigmasKept before xs behind :=
  fun front rest hxs => (h front rest hxs).sigmaForm_eq before behind

@[simp] theorem toList_lower (s : String) : (lower s).toList = lowerAfter [] s.toList :=
  String.toList_ofList

/-- The texts `part` that are part of every longer text in lower case too are those that decide
about their sigmas. -/
theorem lower_infix_iff {part : String} :
    (∀ whole : String, part.toList <:+: whole.toList →
      (lower part).toList <:+: (lower whole).toList) ↔ SigmasSettled part.toList := by
  constructor
  · intro h front rest hpart
    have hlower : ∀ ys, part.toList <:+: ys → lowerAfter [] part.toList <:+: lowerAfter [] ys := by
      intro ys hys
      simpa using h (String.ofList ys) (by simpa using hys)
    rw [hpart] at hlower
    by_contra hsettled
    rcases not_sigmaSettled_cases hsettled with ⟨hfront, hrest⟩ | ⟨hfront, hrest⟩
    · exact not_infix_behind_A hfront hrest (hlower _ (List.suffix_cons _ _).isInfix)
    · exact not_infix_before_A hfront hrest (hlower _ (List.prefix_append _ _).isInfix)
  · rintro hsettled whole ⟨before, behind, hwhole⟩
    rw [toList_lower, toList_lower, ← hwhole]
    exact infix_of_kept (hsettled.kept before.reverse behind)

end DeckKeywords.Text
