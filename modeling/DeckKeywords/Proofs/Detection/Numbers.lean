/-
DeckKeywords/Proofs/Detection/Numbers.lean

What a detected version looks like: one to four digits of any script.  Such a
text is not empty, has no white space around it and is not the word `Auto`.
-/
import DeckKeywords.Proofs.Text.Trim
import DeckKeywords.Proofs.Text.Word

namespace DeckKeywords

/-- The text `s` is one to four digits, of any script. -/
structure IsNumber (s : String) : Prop where
  pos : 1 ≤ s.toList.length
  short : s.toList.length ≤ 4
  digits : ∀ c ∈ s.toList, Text.isDigit c

namespace IsNumber

variable {s : String}

theorem ne_empty (h : IsNumber s) : s ≠ "" := by
  rintro rfl
  exact absurd h.pos (by decide)

theorem isTrimmed (h : IsNumber s) : Text.IsTrimmed s.toList := by
  have hvisible : ∀ c ∈ s.toList, Text.isBlank c = false := fun c hc =>
    Text.isBlank_of_isDigit (h.digits c hc)
  constructor
  · intro c hc
    exact hvisible c (List.mem_of_head? hc)
  · intro c hc
    exact hvisible c (List.mem_of_getLast? hc)

theorem isBlank_head? (h : IsNumber s) {rest : List Char} :
    ∀ c ∈ (s.toList ++ rest).head?, Text.isBlank c = false := by
  obtain ⟨d, ds, hs⟩ := List.exists_cons_of_length_pos h.pos
  rw [hs]
  exact Text.isBlank_head?_cons (Text.isBlank_of_isDigit (h.digits d (hs ▸ List.mem_cons_self)))

theorem isWord_getLast? (h : IsNumber s) : ∃ c ∈ s.toList.getLast?, Text.isWord c :=
  Text.isWord_getLast?_of_isDigit h.pos h.digits

/-- A number `s` is not the word `Auto`. -/
theorem lowerAscii_ne (h : IsNumber s) : Text.lowerAscii s ≠ "auto" := by
  rw [Text.lowerAscii_of_isDigit h.digits]
  rintro rfl
  exact absurd (h.digits 'a' (by decide)) (by decide)

end IsNumber

theorem isNumber_ofList_iff {cs : List Char} :
    IsNumber (String.ofList cs) ↔ 1 ≤ cs.length ∧ cs.length ≤ 4 ∧ ∀ c ∈ cs, Text.isDigit c := by
  constructor
  · rintro ⟨hpos, hshort, hdigits⟩
    rw [String.toList_ofList] at hpos hshort hdigits
    exact ⟨hpos, hshort, hdigits⟩
  · rintro ⟨hpos, hshort, hdigits⟩
    constructor <;> rwa [String.toList_ofList]

end DeckKeywords
