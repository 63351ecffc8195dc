/-
DeckKeywords/Proofs/Text/Digit.lean

What decimal digits are and are not: those of ASCII are among them, no digit of any
script is white space, and none is changed by lower-casing.  The latter two come from
ranges of code points that lie apart.
-/
import DeckKeywords.Text.Blank
import DeckKeywords.Text.Case
import DeckKeywords.Text.Digit

namespace DeckKeywords.Text

/-- Ranges `rs` and `ss` that lie apart have no character `c` in common. -/
theorem CodeRanges.has_eq_false_of_apart {rs ss : CodeRanges}
    (hapart : ∀ r ∈ rs, ∀ s ∈ ss, r.2 < s.1 ∨ s.2 < r.1) {c : Char} (hc : rs.has c) :
    ss.has c = false := by
  obtain ⟨r, hr, hbounds⟩ := List.any_eq_true.mp hc
  refine List.any_eq_false.mpr fun s hs hboth => ?_
  have hin : r.1 ≤ c.toNat ∧ c.toNat ≤ r.2 := by simpa using hbounds
  have hin' : s.1 ≤ c.toNat ∧ c.toNat ≤ s.2 := by simpa using hboth
  rcases hapart r hr s hs with h | h
  · omega
  · omega

/-- ASCII digits are digits of one script. -/
theorem isDigit_of_ascii {c : Char} (h : c.isDigit) : isDigit c := by
  obtain ⟨hlow, hhigh⟩ : 0x30 ≤ c.toNat ∧ c.toNat ≤ 0x39 := by
    simpa [Char.isDigit, UInt32.le_iff_toNat_le] using h
  simp [isDigit, digitRanges, CodeRanges.has, hlow, hhigh]

theorem isBlank_of_isDigit {c : Char} (h : isDigit c) : isBlank c = false :=
  CodeRanges.has_eq_false_of_apart (by decide) h

/-- Digits have no case: `toLower` leaves them alone. -/
theorem toLower_of_isDigit {c : Char} (h : isDigit c) : c.toLower = c := by
  have hcapital : CodeRanges.has [(0x41, 0x5A)] c = false :=
    CodeRanges.has_eq_false_of_apart (by decide) h
  unfold Char.toLower
  rw [dif_neg]
  rintro ⟨hA, hZ⟩
  have hlow : 0x41 ≤ c.toNat := hA
  have hhigh : c.toNat ≤ 0x5A := hZ
  simp [CodeRanges.has] at hcapital
  omega

theorem lowerAscii_of_isDigit {s : String} (h : ∀ c ∈ s.toList, isDigit c) : lowerAscii s = s := by
  unfold lowerAscii
  rw [List.map_congr_left fun c hc => toLower_of_isDigit (h c hc), List.map_id',
    String.ofList_toList]

end DeckKeywords.Text
