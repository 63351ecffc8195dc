/-
DeckKeywords/Proofs/Text/Letters.lean

One character put into upper case and then into lower case.  What the two mappings do
is seen run by run, `upperChar_cases` and `lowerChar_cases`; that sets of characters lie
in ranges or apart from them is seen by binary digits, as in DeckKeywords/Proofs/Text/Upper.lean.

Some characters are lost in upper case, `isLost`: those with a longer upper case, and the
combining iota, which is case-ignorable while its upper case is not.

  * Lower-casing gives a lost character for a lost one, and for upper-case forms it
    gives none, `countP_isLost_le` and `countP_isLost_lt`.
  * Any other character has an upper case of one character, which counts like it for the
    sigmas around it and is as long in lower case, `exists_upperChar`.

So to count lost characters is to tell whether any are lost on the way.
-/
import DeckKeywords.Proofs.Text.Upper

namespace DeckKeywords.Text

/-! ### Ranges as binary digits -/

namespace CodeRanges

/-- The number with a binary digit one at each code point of the ranges `rs`. -/
def bits (rs : CodeRanges) : Nat :=
  rs.foldr (fun r b => b ||| (1 <<< (r.2 + 1 - r.1) - 1) <<< r.1) 0

variable {rs : CodeRanges} {ns : List Nat} {c : Char}

theorem testBit_bits (rs : CodeRanges) (c : Char) : rs.bits.testBit c.toNat = rs.has c := by
  induction rs with
  | nil => exact Nat.zero_testBit _
  | cons r rs ih =>
    have hrange : ((1 <<< (r.2 + 1 - r.1) - 1) <<< r.1).testBit c.toNat
        = (decide (r.1 ≤ c.toNat) && decide (c.toNat ≤ r.2)) := by
      rw [Nat.one_shiftLeft, Nat.testBit_shiftLeft, Nat.testBit_two_pow_sub_one, Bool.eq_iff_iff]
      simp only [Bool.and_eq_true, decide_eq_true_eq]
      omega
    show (bits rs ||| (1 <<< (r.2 + 1 - r.1) - 1) <<< r.1).testBit c.toNat = _
    rw [Nat.testBit_or, ih, hrange, has, has, List.any_cons, Bool.or_comm]

/-- A list `ns` lies in ranges `rs` that have all the digits of its number. -/
theorem has_of_bits (h : Text.bits ns &&& rs.bits = Text.bits ns) (hc : c.toNat ∈ ns) :
    rs.has c := by
  have hbit := testBit_bits_of_mem hc
  rw [← h, Nat.testBit_and, testBit_bits, Bool.and_eq_true] at hbit
  exact hbit.2

/-- A list `ns` lies apart from ranges `rs` that have none of the digits of its number. -/
theorem has_eq_false_of_bits (h : Text.bits ns &&& rs.bits = 0) (hc : c.toNat ∈ ns) :
    rs.has c = false := by
  have hnone : (Text.bits ns &&& rs.bits).testBit c.toNat = false := by
    rw [h, Nat.zero_testBit]
  rwa [Nat.testBit_and, testBit_bits_of_mem hc, testBit_bits, Bool.true_and] at hnone

end CodeRanges

/-! ### Characters run by run -/

/-- What a mapping makes of a character `c`: nothing else, one of its `longer` images, or what one
of the `runs` moves it to. -/
inductive MapsTo (longer : List (Nat × List Nat)) (runs : List CaseRun) (c : Char)
    (image : List Char) : Prop
  | same (himage : image = [c])
  | longer (codes : List Nat) (hcodes : (c.toNat, codes) ∈ longer)
    (himage : image = codes.map Char.ofNat)
  | moved (r : CaseRun) (hr : r ∈ runs) (hc : c.toNat ∈ r.codes)
    (himage : image = [Char.ofNat (c.toNat + r.shift).toNat])

/-- The capital letters `A` to `Z`. -/
def capitalLetters : CaseRun := ⟨0x41, 0x5A, 1, 32⟩

/-- The runs of `upperMap`, with that of ASCII in front. -/
def upperRuns : List CaseRun := smallLetters :: upperMap.runs

/-- The runs of `lowerMap`, with that of ASCII in front. -/
def lowerRuns : List CaseRun := capitalLetters :: lowerMap.runs

/-- A mapping `f` that moves a run `r` in ASCII and does beyond it what a table `m` says. -/
theorem mapsTo_of_ascii {m : CaseMap} {r : CaseRun} {f : Char → List Char}
    (hascii : ∀ n < 0x80, f (Char.ofNat n)
      = if n ∈ r.codes then [Char.ofNat (n + r.shift).toNat] else [Char.ofNat n])
    (hbeyond : ∀ c, 0x80 ≤ c.toNat → f c = m.image c) (c : Char) :
    MapsTo m.longer (r :: m.runs) c (f c) := by
  rcases Nat.lt_or_ge c.toNat 0x80 with h | h
  · have hc := hascii c.toNat h
    rw [Char.ofNat_toNat] at hc
    by_cases hmem : c.toNat ∈ r.codes
    · rw [if_pos hmem] at hc
      exact .moved r List.mem_cons_self hmem hc
    · rw [if_neg hmem] at hc
      exact .same hc
  · rw [hbeyond c h]
    rcases m.image_cases c with himage | ⟨codes, hcodes, himage⟩ | ⟨s, hs, hmoves, himage⟩
    · exact .same himage
    · exact .longer codes hcodes himage
    · exact .moved s (List.mem_cons_of_mem _ hs) (CaseRun.mem_codes_of_moves hmoves) himage

theorem upperChar_cases (c : Char) : MapsTo upperMap.longer upperRuns c (upperChar c) :=
  mapsTo_of_ascii (by decide +kernel) (fun _ => upperChar_of_le) c

theorem lowerChar_cases (c : Char) : MapsTo lowerMap.longer lowerRuns c (lowerChar c) := by
  have hascii : ∀ n < 0x80, lowerChar (Char.ofNat n) = if n ∈ capitalLetters.codes
      then [Char.ofNat (n + capitalLetters.shift).toNat] else [Char.ofNat n] := by decide +kernel
  exact mapsTo_of_ascii hascii (fun _ h => if_neg (Nat.not_lt.mpr h)) c

variable {c d : Char}

/-- Only the capital `I` with a dot above has a longer lower case. -/
theorem eq_of_mem_longer {codes : List Nat} (h : (c.toNat, codes) ∈ lowerMap.longer) : c = 'İ' :=
  Char.toNat_inj.mp (Prod.mk.inj (List.mem_singleton.mp h)).1

/-- Lower-casing makes one character of each but `'İ'`, which becomes two. -/
theorem length_lowerChar (c : Char) : (lowerChar c).length = if c = 'İ' then 2 else 1 := by
  by_cases hdotted : c = 'İ'
  · rw [if_pos hdotted, hdotted]
    decide +kernel
  · rw [if_neg hdotted]
    rcases lowerChar_cases c with himage | ⟨codes, hcodes, -⟩ | ⟨r, -, -, himage⟩
    · rw [himage, List.length_singleton]
    · exact absurd (eq_of_mem_longer hcodes) hdotted
    · rw [himage, List.length_singleton]

/-- Only sigmas have `'Σ'` in their upper case. -/
theorem eq_sigma_of_mem_upperChar (h : 'Σ' ∈ upperChar c) : c = 'σ' ∨ c = 'ς' ∨ c = 'Σ' := by
  have hlonger : ∀ e ∈ upperMap.longer, 'Σ' ∉ e.2.map Char.ofNat := by decide +kernel
  -- one run starts with the small sigma, and the final one is a run of its own
  have hmoved : ∀ r ∈ upperRuns, ∀ n ∈ r.codes, Char.ofNat (n + r.shift).toNat = 'Σ' →
      n = 'σ'.toNat ∨ n = 'ς'.toNat := by decide +kernel
  rcases upperChar_cases c with himage | ⟨codes, hcodes, himage⟩ | ⟨r, hr, hc, himage⟩
  · rw [himage, List.mem_singleton] at h
    exact .inr (.inr h.symm)
  · rw [himage] at h
    exact absurd h (hlonger _ hcodes)
  · rw [himage, List.mem_singleton] at h
    rcases hmoved r hr _ hc h.symm with hcode | hcode
    · exact .inl (Char.toNat_inj.mp hcode)
    · exact .inr (.inl (Char.toNat_inj.mp hcode))

/-! ### Characters that are lost -/

/-- The code points of the characters that are lost in upper case. -/
def lostCodes : List Nat := 0x345 :: upperMap.longer.map Prod.fst

/-- Whether the character `c` is lost in upper case. -/
def isLost (c : Char) : Bool := c.toNat ∈ lostCodes

theorem isLost_iff : isLost c ↔ c.toNat ∈ lostCodes := decide_eq_true_iff

theorem mem_lostCodes_of_ofNat {n : Nat} (h : isLost (Char.ofNat n)) : n ∈ lostCodes := by
  rw [isLost_iff, Char.ofNat] at h
  by_cases hvalid : n.isValidChar
  · rwa [dif_pos hvalid] at h
  · -- what is no code point is read as a zero
    rw [dif_neg hvalid] at h
    exact absurd h (by decide +kernel)

theorem upperChar_ne_of_isLost (h : isLost c) : upperChar c ≠ [c] := by
  have hall : ∀ n ∈ lostCodes, upperChar (Char.ofNat n) ≠ [Char.ofNat n] := by decide +kernel
  have hc := hall c.toNat (isLost_iff.mp h)
  rwa [Char.ofNat_toNat] at hc

/-- Lower-casing gives a lost character `d` for a lost one `c`. -/
theorem exists_isLost_lowerChar (h : isLost c) : ∃ d ∈ lowerChar c, isLost d := by
  -- of the lost characters only Greek capitals with an iota have a lower case, which is lost too
  have hmoved : ∀ r ∈ lowerRuns, bits r.codes &&& bits lostCodes = 0 ∨
      ∀ n ∈ r.codes, isLost (Char.ofNat (n + r.shift).toNat) := by decide +kernel
  rcases lowerChar_cases c with himage | ⟨codes, hcodes, -⟩ | ⟨r, hr, hc, himage⟩
  · rw [himage]
    exact ⟨c, List.mem_singleton_self c, h⟩
  · rw [eq_of_mem_longer hcodes] at h
    exact absurd h (by decide +kernel)
  · rw [himage]
    rcases hmoved r hr with hapart | hlost
    · exact absurd (isLost_iff.mp h) (not_mem_of_bits hapart hc)
    · exact ⟨_, List.mem_singleton_self _, hlost _ hc⟩

/-- No image of upper-casing has a lost character `d` in its lower case. -/
theorem not_isLost_of_mem_upperImages (h : c.toNat ∈ upperImages) (hd : d ∈ lowerChar c) :
    ¬ isLost d := by
  -- the capital sharp s and the Greek capitals with an iota have lost ones in lower case, but no
  -- character has any of them in its upper case
  have hsources : bits upperImages &&& bits lostCodes = 0 := by decide +kernel
  have hdotted : (lowerChar 'İ').countP isLost = 0 := by decide +kernel
  have hmoved : ∀ r ∈ lowerRuns, bits r.codes &&& bits upperImages = 0 ∨
      bits r.images &&& bits lostCodes = 0 := by decide +kernel
  rcases lowerChar_cases c with himage | ⟨codes, hcodes, -⟩ | ⟨r, hr, hc, himage⟩
  · rw [himage, List.mem_singleton] at hd
    rw [hd, isLost_iff]
    exact not_mem_of_bits hsources h
  · rw [eq_of_mem_longer hcodes] at hd
    exact List.countP_eq_zero.mp hdotted d hd
  · rw [himage, List.mem_singleton] at hd
    rcases hmoved r hr with hapart | hapart
    · exact absurd h (not_mem_of_bits hapart hc)
    · rw [hd]
      exact fun hlost => not_mem_of_bits hapart (List.mem_map_of_mem hc) (mem_lostCodes_of_ofNat hlost)

/-- The lower case of the upper case of a character `c`. -/
def recased (c : Char) : List Char := (upperChar c).flatMap lowerChar

/-- Where upper-casing changes a character `c`, no lost one is left. -/
theorem countP_recased_of_changed (h : upperChar c ≠ [c]) : (recased c).countP isLost = 0 := by
  rw [List.countP_eq_zero]
  intro e he
  obtain ⟨d, hd, he⟩ := List.mem_flatMap.mp he
  exact not_isLost_of_mem_upperImages ((toNat_mem_upperImages hd).resolve_left h) he

/-- No character `c` gets more of the lost characters by being put into upper case. -/
theorem countP_isLost_le (c : Char) : (recased c).countP isLost ≤ (lowerChar c).countP isLost := by
  by_cases h : upperChar c = [c]
  · refine Nat.le_of_eq ?_
    rw [recased, h, List.flatMap_singleton]
  · rw [countP_recased_of_changed h]
    exact Nat.zero_le _

theorem countP_isLost_lt (h : isLost c) :
    (recased c).countP isLost < (lowerChar c).countP isLost := by
  rw [countP_recased_of_changed (upperChar_ne_of_isLost h), List.countP_pos_iff]
  exact exists_isLost_lowerChar h

/-! ### Characters that are not lost -/

/-- For the form of a sigma it makes no difference which of the characters `c` and `d` stands near
it. -/
structure Alike (c d : Char) : Prop where
  cased : casedRanges.has c = casedRanges.has d
  ignorable : caseIgnorableRanges.has c = caseIgnorableRanges.has d

/-- The code points that `upperRuns` move, the lost one among them aside. -/
def movedCodes : List Nat := (upperRuns.flatMap (·.codes)).filter (· ≠ 0x345)

/-- The code points to which `upperRuns` move them. -/
def movedImages : List Nat := upperRuns.flatMap (·.images)

theorem alike_of_moved (hc : c.toNat ∈ movedCodes) (hd : d.toNat ∈ movedImages) : Alike c d := by
  constructor
  · rw [CodeRanges.has_of_bits (by decide +kernel) hc, CodeRanges.has_of_bits (by decide +kernel) hd]
  · rw [CodeRanges.has_eq_false_of_bits (by decide +kernel) hc,
      CodeRanges.has_eq_false_of_bits (by decide +kernel) hd]

/-- A character `c` that is not lost has an upper case of one character `d`, which counts like it
and is as long in lower case. -/
theorem exists_upperChar (h : ¬ isLost c) :
    ∃ d, upperChar c = [d] ∧ Alike c d ∧ (lowerChar d).length = (lowerChar c).length := by
  rw [isLost_iff, lostCodes, List.mem_cons, not_or] at h
  rcases upperChar_cases c with himage | ⟨codes, hcodes, -⟩ | ⟨r, hr, hc, himage⟩
  · exact ⟨c, himage, ⟨rfl, rfl⟩, rfl⟩
  · exact absurd (List.mem_map_of_mem hcodes) h.2
  · have hmoved : c.toNat ∈ movedCodes :=
      List.mem_filter.mpr ⟨List.mem_flatMap.mpr ⟨r, hr, hc⟩, decide_eq_true h.1⟩
    have hmem : (c.toNat + r.shift).toNat ∈ movedImages :=
      List.mem_flatMap.mpr ⟨r, hr, List.mem_map_of_mem hc⟩
    have hvalid : ∀ n ∈ movedImages, n.isValidChar := by decide +kernel
    have himages : (Char.ofNat (c.toNat + r.shift).toNat).toNat ∈ movedImages := by
      rwa [Char.ofNat, dif_pos (hvalid _ hmem)]
    refine ⟨_, himage, alike_of_moved hmoved himages, ?_⟩
    have hneither : 'İ'.toNat ∉ movedCodes ∧ 'İ'.toNat ∉ movedImages := by decide +kernel
    rw [length_lowerChar, length_lowerChar, if_neg, if_neg]
    · exact fun hdotted => hneither.1 (hdotted ▸ hmoved)
    · exact fun hdotted => hneither.2 (hdotted ▸ himages)

end DeckKeywords.Text
