/-
DeckKeywords/Proofs/Text/Trim.lean

Trimming, by what it leaves: a text that neither begins nor ends with white
space.  Such a text, and no other one, is left alone, and two of them with a
visible character between are one again.
-/
import DeckKeywords.Text.Blank
import Mathlib.Data.List.DropRight

namespace DeckKeywords.Text

/-- Neither the first character of `cs` nor the last one is white space. -/
def IsTrimmed (cs : List Char) : Prop :=
  (∀ c ∈ cs.head?, isBlank c = false) ∧ ∀ c ∈ cs.getLast?, isBlank c = false

theorem trimBlanks_eq (cs : List Char) :
    trimBlanks cs = (cs.dropWhile isBlank).rdropWhile isBlank := rfl

theorem isTrimmed_trimBlanks (cs : List Char) : IsTrimmed (trimBlanks cs) := by
  rw [trimBlanks_eq]
  constructor
  · intro c hc
    -- what is left at the front is the front of what the first step left
    obtain ⟨rest, hrest⟩ := List.rdropWhile_prefix isBlank (cs.dropWhile isBlank)
    have hhead : (cs.dropWhile isBlank).head? = some c := by
      rw [← hrest, List.head?_append, Option.mem_def.mp hc]
      rfl
    simpa [hhead] using List.head?_dropWhile_not isBlank cs
  · intro c hc
    obtain ⟨hne, rfl⟩ := List.mem_getLast?_eq_getLast hc
    simpa using List.rdropWhile_last_not isBlank _ hne

theorem trimBlanks_eq_self_iff {cs : List Char} : trimBlanks cs = cs ↔ IsTrimmed cs := by
  constructor
  · intro h
    rw [← h]
    exact isTrimmed_trimBlanks cs
  · rintro ⟨hhead, hlast⟩
    have hfront : cs.dropWhile isBlank = cs := by
      rcases cs with - | ⟨c, cs⟩
      · rfl
      · rw [List.dropWhile_cons_of_neg]
        simpa using hhead c rfl
    rw [trimBlanks_eq, hfront, List.rdropWhile_eq_self_iff]
    intro hne
    simpa using hlast _ (List.getLast?_eq_some_getLast hne)

theorem mem_of_mem_trimBlanks {cs : List Char} {c : Char} (h : c ∈ trimBlanks cs) : c ∈ cs := by
  rw [trimBlanks_eq] at h
  exact (List.dropWhile_suffix isBlank).subset ((List.rdropWhile_prefix isBlank _).subset h)

/-- `trimBlanks` leaves nothing of white space alone, and something of any other text. -/
theorem trimBlanks_eq_nil_iff {cs : List Char} : trimBlanks cs = [] ↔ cs.all isBlank := by
  rw [trimBlanks_eq, List.rdropWhile_eq_nil_iff, List.all_eq_true]
  constructor
  · intro h c hc
    by_contra hblank
    -- a visible character would be behind the white space that the first step drops
    rw [← List.takeWhile_append_dropWhile (p := isBlank) (l := cs), List.mem_append] at hc
    rcases hc with hc | hc
    · exact hblank (List.mem_takeWhile_imp hc)
    · exact hblank (h c hc)
  · intro h c hc
    exact h c ((List.dropWhile_suffix isBlank).subset hc)

/-- A visible character `c` holds two trimmed texts together. -/
theorem IsTrimmed.append_cons {xs ys : List Char} {c : Char} (hx : IsTrimmed xs)
    (hc : isBlank c = false) (hy : IsTrimmed ys) : IsTrimmed (xs ++ c :: ys) := by
  constructor
  · intro d hd
    rw [List.head?_append] at hd
    rcases h : xs.head? with - | e
    · obtain rfl : c = d := by simpa [h] using hd
      exact hc
    · obtain rfl : e = d := by simpa [h] using hd
      exact hx.1 e h
  · intro d hd
    rw [List.getLast?_append, List.getLast?_cons] at hd
    rcases h : ys.getLast? with - | e
    · obtain rfl : c = d := by simpa [h] using hd
      exact hc
    · obtain rfl : e = d := by simpa [h] using hd
      exact hy.2 e h

/-! ### Texts -/

@[simp] theorem toList_trim (s : String) : (trim s).toList = trimBlanks s.toList := String.toList_ofList

theorem trim_eq_self_iff {s : String} : trim s = s ↔ IsTrimmed s.toList := by
  rw [← trimBlanks_eq_self_iff, ← toList_trim, String.toList_inj]

theorem isTrimmed_trim (s : String) : IsTrimmed (trim s).toList := by
  simpa using isTrimmed_trimBlanks s.toList

@[simp] theorem trim_trim (s : String) : trim (trim s) = trim s :=
  trim_eq_self_iff.mpr (isTrimmed_trim s)

theorem isBlankText_iff {s : String} : isBlankText s ↔ trim s = "" := by
  rw [← String.toList_inj, toList_trim]
  exact trimBlanks_eq_nil_iff.symm

end DeckKeywords.Text
