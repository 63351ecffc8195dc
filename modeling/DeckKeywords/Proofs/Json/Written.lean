/-
DeckKeywords/Proofs/Json/Written.lean

Strings and numbers as they are written, and read again.  `Token.ofText` and
`Numeral.ofInt` say which string and which number of a tree the written form of
a text or an integer is: a string keeps its escapes apart from plain characters,
and a number its digits.

Main results: `readText_printed` with `read_ofText`, by which every text comes
back, and `readNumber_toDigits` with `read_ofInt`, by which every integer of 64
bits does.
-/
import DeckKeywords.Json.Printer
import DeckKeywords.Proofs.Json.Members
import DeckKeywords.Proofs.Text.Positional
import Mathlib.Algebra.Ring.Int.Defs

namespace DeckKeywords.Json

/-! ### Strings -/

/-- The character `c` as a string has it when it is written: a control without a short escape is
given as a unit, and every other character as itself. -/
def Piece.ofChar (c : Char) : Piece :=
  if c.toNat < 0x20 ∧ c ∉ ['\x08', '\t', '\n', '\x0c', '\r'] then .unit c.toNat else .char c

/-- The text `s` as a string has it when it is written. -/
def Token.ofText (s : String) : Token := ⟨s.toList.map Piece.ofChar, none⟩

theorem hexUnit?_hexChar {n : Nat} (h : n < 0x100) :
    hexUnit? '0' '0' (hexChar (n / 16)) (hexChar (n % 16)) = some n := by
  have hzero : Text.hexValue? '0' = some 0 := rfl
  have hhigh : Text.hexValue? (hexChar (n / 16)) = some (n / 16) :=
    Text.hexValue?_digitChar (by omega)
  have hlow : Text.hexValue? (hexChar (n % 16)) = some (n % 16) :=
    Text.hexValue?_digitChar (by omega)
  simp only [hexUnit?, hzero, hhigh, hlow, Option.bind_eq_bind, Option.bind_some, Option.pure_def]
  congr 1
  omega

/-- A character `c` that is written without an escape is read as itself. -/
theorem readText_plain {c : Char} (hquote : c ≠ '"') (hbackslash : c ≠ '\\')
    (hcontrol : ¬ c.toNat < 0x20) (cs : List Char) :
    readText (c :: cs) = Token.cons (.char c) (readText cs) := by
  rw [readText.eq_def]
  simp [hbackslash, hcontrol]

/-- Whatever `c` is written as, `printedChar c`, it is read as the one piece of a string. -/
theorem readText_printedChar (c : Char) (cs : List Char) :
    readText (printedChar c ++ cs) = Token.cons (Piece.ofChar c) (readText cs) := by
  unfold printedChar
  split
  -- all but the last case are short escapes, which are read by computation
  case h_8 hquote hbackslash hb hf hn hr ht =>
    by_cases hcontrol : c.toNat < 0x20
    · have hpiece : Piece.ofChar c = .unit c.toNat :=
        if_pos ⟨hcontrol, by simpa using ⟨hb, ht, hn, hf, hr⟩⟩
      have hunit := hexUnit?_hexChar (show c.toNat < 0x100 by omega)
      rw [if_pos hcontrol, hpiece]
      simp only [List.cons_append, List.nil_append, readText, hunit]
    · have hpiece : Piece.ofChar c = .char c := if_neg fun h => hcontrol h.1
      rw [if_neg hcontrol, hpiece]
      exact readText_plain hquote hbackslash hcontrol cs
  all_goals rfl

/-- A written string `cs` is read up to its closing quote. -/
@[simp] theorem readText_printed (cs rest : List Char) :
    readText (cs.flatMap printedChar ++ '"' :: rest) = (⟨cs.map Piece.ofChar, none⟩, rest) := by
  induction cs with
  | nil => rfl
  | cons c cs ih =>
    rw [List.flatMap_cons, List.append_assoc, readText_printedChar, ih]
    rfl

theorem spell_ofChar (cs : List Char) : spell (cs.map Piece.ofChar) none = .ok cs := by
  induction cs with
  | nil => rfl
  | cons c cs ih =>
    rw [List.map_cons, Piece.ofChar]
    split
    case isTrue hcontrol =>
      -- a control is no half of a surrogate pair
      have htrailing : isTrailing c.toNat = false := by
        simp only [isTrailing, Bool.and_eq_false_iff, decide_eq_false_iff_not]
        omega
      have hleading : isLeading c.toNat = false := by
        simp only [isLeading, Bool.and_eq_false_iff, decide_eq_false_iff_not]
        omega
      rw [spell.eq_def]
      simp only [htrailing, hleading, ih, Char.ofNat_toNat]
      rfl
    case isFalse =>
      rw [spell, ih]
      rfl

/-- A written text `s` is read as itself. -/
@[simp] theorem read_ofText (s : String) : (Token.ofText s).read = .ok s := by
  simp [Token.read, Token.ofText, spell_ofChar]

/-! ### Numbers -/

/-- The integer `i` as a number has it when it is written. -/
def Numeral.ofInt (i : Int) : Numeral := ⟨decide (i < 0), Text.decimal i.natAbs, [], none⟩

theorem isSpace_iff {c : Char} : isSpace c ↔ c = ' ' ∨ c = '\t' ∨ c = '\n' ∨ c = '\r' := by
  simp [isSpace, or_assoc]

/-- The `rest` that follows a written value: nothing, or a character that no number goes on with. -/
def Ended (rest : List Char) : Prop :=
  ∀ c ∈ rest.head?, Text.digitValue? 10 c = none ∧ c ≠ '.' ∧ c ≠ 'e' ∧ c ≠ 'E'

@[simp] theorem ended_nil : Ended [] := by simp [Ended]

/-- White space may follow a value, and so may the marks `c` behind which a part goes on or ends. -/
theorem ended_cons {c : Char} (h : isSpace c ∨ c = ',' ∨ c = ']' ∨ c = '\x7d') (cs : List Char) :
    Ended (c :: cs) := by
  intro c' hc'
  obtain rfl : c = c' := by simpa using hc'
  rw [isSpace_iff] at h
  rcases h with (rfl | rfl | rfl | rfl) | rfl | rfl | rfl <;> decide

theorem Ended.append {gap rest : List Char} (hgap : ∀ c ∈ gap, isSpace c) (h : Ended rest) :
    Ended (gap ++ rest) := by
  rcases gap with - | ⟨c, cs⟩
  · exact h
  · exact ended_cons (.inl (hgap c List.mem_cons_self)) _

theorem takeDigits_of_ended {rest : List Char} (h : Ended rest) : takeDigits rest = ([], rest) := by
  rcases rest with - | ⟨c, cs⟩
  · rfl
  · rw [takeDigits, (h c rfl).1]

theorem takeDigits_map_digitChar {ds : List Nat} (hds : ∀ d ∈ ds, d < 10) {rest : List Char}
    (h : Ended rest) : takeDigits (ds.map Nat.digitChar ++ rest) = (ds, rest) := by
  induction ds with
  | nil => exact takeDigits_of_ended h
  | cons d ds ih =>
    rw [List.forall_mem_cons] at hds
    rw [List.map_cons, List.cons_append, takeDigits,
      Text.digitValue?_digitChar hds.1 (by decide), ih hds.2]

theorem fractionDigits_of_ended {rest : List Char} (h : Ended rest) :
    fractionDigits rest = .ok ([], rest) := by
  rcases rest with - | ⟨c, cs⟩
  · rfl
  · have hpoint : c ≠ '.' := (h c rfl).2.1
    simp [fractionDigits, hpoint]

theorem exponentPart_of_ended {rest : List Char} (h : Ended rest) :
    exponentPart rest = .ok (none, rest) := by
  rcases rest with - | ⟨c, cs⟩
  · rfl
  · obtain ⟨-, -, hlower, hupper⟩ := h c rfl
    simp [exponentPart, hlower, hupper]

theorem wholeDigits_toDigits (n : Nat) {rest : List Char} (h : Ended rest) :
    wholeDigits (Nat.toDigits 10 n ++ rest) = .ok (Text.decimal n, rest) := by
  have htake : takeDigits (Nat.toDigits 10 n ++ rest) = (Text.decimal n, rest) := by
    rw [← Text.map_digitChar_decimal]
    exact takeDigits_map_digitChar (fun d => Text.lt_of_mem_decimal) h
  generalize Nat.toDigits 10 n ++ rest = cs at htake
  -- digits that start with zero are refused, unless there is nothing but this zero
  rcases Nat.eq_zero_or_pos n with rfl | hn
  · rw [Text.decimal_of_lt (by decide)] at htake ⊢
    simp [wholeDigits, someDigits, htake, bind, Except.bind]
  · obtain ⟨d, ds, hdigits, hd⟩ := Text.decimal_eq_cons hn
    rw [hdigits] at htake ⊢
    obtain ⟨e, rfl⟩ := Nat.exists_eq_add_one.mpr hd
    simp [wholeDigits, someDigits, htake, bind, Except.bind]

theorem readNumber_toDigits (negative : Bool) (n : Nat) {rest : List Char} (h : Ended rest) :
    readNumber negative (Nat.toDigits 10 n ++ rest)
      = (.number ⟨negative, Text.decimal n, [], none⟩, rest) := by
  have hnumeral : numeral negative (Nat.toDigits 10 n ++ rest)
      = .ok (⟨negative, Text.decimal n, [], none⟩, rest) := by
    simp only [numeral, bind_eq_ok_iff]
    exact ⟨_, wholeDigits_toDigits n h, _, fractionDigits_of_ended h, _, exponentPart_of_ended h,
      rfl⟩
  rw [readNumber, hnumeral]

theorem printed_integer (i : Int) :
    (Number.integer i).printed
      = if i < 0 then '-' :: Nat.toDigits 10 i.natAbs else Nat.toDigits 10 i.natAbs := by
  rw [Number.printed, Int.toString_eq_repr, Int.repr_eq_if]
  by_cases h : i < 0
  · have habs : (-i).toNat = i.natAbs := by omega
    rw [if_neg (Int.not_le.mpr h), if_pos h, habs, Nat.repr_eq_ofList_toDigits,
      String.toList_append, String.toList_ofList, String.toList_ofList]
    rfl
  · have habs : i.toNat = i.natAbs := by omega
    rw [if_pos (Int.not_lt.mp h), if_neg h, Nat.repr_eq_ofList_toDigits, String.toList_ofList, habs]

/-- A written integer `i` is read as itself if it fits 64 bits, with a sign or without one. -/
theorem read_ofInt {i : Int} (hlow : -2 ^ 63 ≤ i) (hhigh : i < 2 ^ 64) :
    (Numeral.ofInt i).read = .ok (.integer i) := by
  have hinteger : (Numeral.ofInt i).integer? = some i := by
    have hword : wordLimit = 2 ^ 64 := rfl
    have hhalf : Decimal.twoTo 63 = 2 ^ 63 := rfl
    simp only [Numeral.integer?, Numeral.ofInt, List.isEmpty_nil, Option.isNone_none,
      Bool.and_self, if_true, Text.ofDigits_decimal, hword, hhalf, decide_eq_true_eq]
    by_cases h : i < 0
    · rw [if_pos h, if_pos (by simp only [Bool.and_eq_true, decide_eq_true_eq]; omega)]
      congr 1
      omega
    · rw [if_neg h, if_pos (by omega)]
      congr 1
      omega
  rw [Numeral.read, Numeral.number?, hinteger]

/-- No numeral `n` stands for an integer below those of 64 bits with a sign. -/
theorem le_of_read {n : Numeral} {i : Int} (h : n.read = .ok (.integer i)) : -2 ^ 63 ≤ i := by
  have hinteger : n.integer? = some i := by
    rw [Numeral.read, Numeral.number?] at h
    rcases hi : n.integer? with - | j
    · by_cases hreal : n.toFloat?.isSome <;> simp [hi, hreal] at h
    · simpa [hi] using h
  have hhalf : Decimal.twoTo 63 = 2 ^ 63 := rfl
  simp only [Numeral.integer?, hhalf] at hinteger
  split_ifs at hinteger with hwhole hnegative hsize hsize
  · obtain rfl := Option.some.inj hinteger
    simp only [Bool.and_eq_true, decide_eq_true_eq] at hsize
    omega
  · obtain rfl := Option.some.inj hinteger
    omega

end DeckKeywords.Json
