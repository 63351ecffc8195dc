/-
DeckKeywords/Proofs/Text/Word.lean

Where words end.  Digits and letters go on with a word, and white space ends it.
All this is read off the ranges of code points.  So a run of white space or of
digits is cut off in one way only if a word follows the first, and none the
second.
-/
import DeckKeywords.Proofs.Text.Digit
import DeckKeywords.Proofs.Text.Matcher

namespace DeckKeywords.Text

/-- Whether each range of `rs` lies inside one of `ss`. -/
def CodeRanges.isWithin (rs ss : CodeRanges) : Bool :=
  rs.all fun r => ss.any fun s => s.1.ble r.1 && r.2.ble s.2

theorem CodeRanges.has_of_isWithin {rs ss : CodeRanges} (hwithin : rs.isWithin ss) {c : Char}
    (hc : rs.has c) : ss.has c := by
  obtain ⟨r, hr, hbounds⟩ := List.any_eq_true.mp hc
  obtain ⟨s, hs, hinside⟩ := List.any_eq_true.mp (List.all_eq_true.mp hwithin r hr)
  have hin : r.1 ≤ c.toNat ∧ c.toNat ≤ r.2 := by simpa using hbounds
  have hin' : s.1 ≤ r.1 ∧ r.2 ≤ s.2 := by simpa using hinside
  refine List.any_eq_true.mpr ⟨s, hs, ?_⟩
  simpa using And.intro (Nat.le_trans hin'.1 hin.1) (Nat.le_trans hin.2 hin'.2)

theorem isWord_of_isDigit {c : Char} (h : isDigit c) : isWord c :=
  CodeRanges.has_of_isWithin (by decide +kernel) h

theorem isWord_of_isBlank {c : Char} (h : isBlank c) : isWord c = false :=
  CodeRanges.has_eq_false_of_apart (by decide +kernel) h

theorem isUpper_or_isLower {c : Char} (h : c.isAlpha) : c.isUpper ∨ c.isLower :=
  Bool.or_eq_true_iff.mp h

/-- Letters are ASCII letters, the long s and the Kelvin sign. -/
theorem has_of_isFoldedLetter {c : Char} (h : isFoldedLetter c) :
    CodeRanges.has [(0x41, 0x5A), (0x61, 0x7A), (0x17F, 0x17F), (0x212A, 0x212A)] c := by
  simp only [isFoldedLetter, Bool.or_eq_true, beq_iff_eq] at h
  rcases h with (h | rfl) | rfl
  · rcases isUpper_or_isLower h with h | h
    · have hrange : 0x41 ≤ c.toNat ∧ c.toNat ≤ 0x5A := of_decide_eq_true h
      simp [CodeRanges.has, hrange]
    · have hrange : 0x61 ≤ c.toNat ∧ c.toNat ≤ 0x7A :=
        (Bool.and_eq_true_iff.mp h).imp of_decide_eq_true of_decide_eq_true
      simp [CodeRanges.has, hrange]
  · decide
  · decide

theorem isWord_of_isFoldedLetter {c : Char} (h : isFoldedLetter c) : isWord c :=
  CodeRanges.has_of_isWithin (by decide +kernel) (has_of_isFoldedLetter h)

theorem isBlank_of_isWord {c : Char} (h : isWord c) : isBlank c = false := by
  rw [← Bool.not_eq_true]
  intro hblank
  rw [isWord_of_isBlank hblank] at h
  cases h

theorem isAlpha_of_toLower {c : Char} (h : c.toLower.isAlpha) : c.isAlpha := by
  by_cases hupper : c.isUpper
  · exact Bool.or_eq_true_iff.mpr (.inl hupper)
  · have hsame : c.toLower = c := dif_neg fun h => hupper (decide_eq_true h)
    rwa [hsame] at h

/-- What `fold` makes a letter of is a letter. -/
theorem isFoldedLetter_of_fold {c : Char} (h : (Matcher.fold c).isAlpha) : isFoldedLetter c := by
  unfold Matcher.fold at h
  unfold isFoldedLetter
  by_cases hlong : c = 'ſ'
  · simp [hlong]
  · by_cases hkelvin : c = '\u212A'
    · simp [hkelvin]
    · rw [if_neg hlong, if_neg hkelvin] at h
      simp [isAlpha_of_toLower h]

theorem isBlank_head?_cons {c : Char} (h : isBlank c = false) {cs : List Char} :
    ∀ d ∈ (c :: cs).head?, isBlank d = false := by
  intro d hd
  obtain rfl : c = d := Option.some.inj hd
  exact h

theorem isBlank_of_fold {c : Char} (h : (Matcher.fold c).isAlpha) : isBlank c = false :=
  isBlank_of_isWord (isWord_of_isFoldedLetter (isFoldedLetter_of_fold h))

/-- A word `xs` of letters has no white space in it, whatever its case. -/
theorem isBlank_of_map_fold {xs letters : List Char} (h : xs.map Matcher.fold = letters)
    (hletters : letters.all Char.isAlpha) : ∀ c ∈ xs, isBlank c = false := fun _ hc =>
  isBlank_of_fold (List.all_eq_true.mp hletters _ (h ▸ List.mem_map_of_mem hc))

/-- A word `xs` that starts with a letter starts with no white space, whatever its case. -/
theorem isBlank_head?_of_map_fold {xs letters rest : List Char} {l : Char}
    (h : xs.map Matcher.fold = l :: letters) (hl : l.isAlpha) :
    ∀ c ∈ (xs ++ rest).head?, isBlank c = false := by
  obtain ⟨x, xs, rfl, hx, -⟩ := List.map_eq_cons_iff.mp h
  rw [← hx] at hl
  exact isBlank_head?_cons (isBlank_of_fold hl)

/-- Digits `ds` end with a character of a word. -/
theorem isWord_getLast?_of_isDigit {ds : List Char} (hpos : 1 ≤ ds.length)
    (h : ∀ c ∈ ds, isDigit c) : ∃ c ∈ ds.getLast?, isWord c := by
  have hlast := List.getLast?_eq_some_getLast (List.ne_nil_of_length_pos hpos)
  exact ⟨_, hlast, isWord_of_isDigit (h _ (List.mem_of_getLast? hlast))⟩

theorem EndsWord.isDigit_head? {rest : List Char} (h : EndsWord rest) :
    ∀ c ∈ rest.head?, isDigit c = false := by
  intro c hc
  rw [← Bool.not_eq_true]
  intro hdigit
  have hword := h c hc
  rw [isWord_of_isDigit hdigit] at hword
  cases hword

theorem endsWord_of_isBlank {xs rest : List Char} (hne : xs ≠ []) (h : ∀ c ∈ xs, isBlank c) :
    EndsWord (xs ++ rest) := by
  obtain ⟨x, xs, rfl⟩ := List.exists_cons_of_ne_nil hne
  intro c hc
  obtain rfl : x = c := Option.some.inj hc
  exact isWord_of_isBlank (h x List.mem_cons_self)

end DeckKeywords.Text
