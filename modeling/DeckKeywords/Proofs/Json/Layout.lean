/-
DeckKeywords/Proofs/Json/Layout.lean

One printer for both ways to write a value.  They differ in white space only, so
a `Layout` says what stands in the gaps: before a part of a list or an object,
depending on its level, and behind the colon of a member.  On one line all gaps
are empty, `Layout.line`; over lines a part starts on a line of its own,
`Layout.lines`.

By `chars_line` and `chars_lines` the two printers are `Layout.chars` for these
layouts, and what is shown of any layout holds of both.
-/
import DeckKeywords.Json.Printer
import DeckKeywords.Json.Reader

namespace DeckKeywords.Json

/-- What stands in the gaps between the parts of a value: white space, `gap` behind a bracket or a
comma and `colonGap` behind a colon. -/
structure Layout where
  gap : Nat → List Char
  colonGap : List Char
  isSpace_of_mem_gap : ∀ level, ∀ c ∈ gap level, isSpace c
  isSpace_of_mem_colonGap : ∀ c ∈ colonGap, isSpace c

namespace Layout

/-- A value on one line, as `Value.compact` writes it. -/
def line : Layout where
  gap _ := []
  colonGap := []
  isSpace_of_mem_gap := by simp
  isSpace_of_mem_colonGap := by simp

/-- A value over lines, as `Value.pretty` writes it. -/
def lines : Layout where
  gap := Value.newline
  colonGap := [' ']
  isSpace_of_mem_gap := by
    intro level c hc
    rcases List.mem_cons.mp hc with rfl | hc
    · rfl
    · rw [List.eq_of_mem_replicate hc]
      rfl
  isSpace_of_mem_colonGap := by
    intro c hc
    rw [List.mem_singleton.mp hc]
    rfl

/-- The `parts` between two brackets, each behind the gap of its `level`. -/
def block (y : Layout) (opening closing : Char) (level : Nat) (parts : List (List Char)) :
    List Char :=
  if parts.isEmpty then [opening, closing]
  else
    opening :: y.gap (level + 1) ++ separated (',' :: y.gap (level + 1)) parts
      ++ y.gap level ++ [closing]

mutual

/-- A value, standing at `level`. -/
def chars (y : Layout) (level : Nat) : Value → List Char
  | .array items => y.block '[' ']' level (y.itemChars (level + 1) items)
  | .object members => y.block '\x7b' '\x7d' level (y.memberChars (level + 1) members)
  | .null => ['n', 'u', 'l', 'l']
  | .bool true => ['t', 'r', 'u', 'e']
  | .bool false => ['f', 'a', 'l', 's', 'e']
  | .number n => n.printed
  | .text s => printedText s

/-- The items of a list, each at `level`. -/
def itemChars (y : Layout) (level : Nat) : List Value → List (List Char)
  | [] => []
  | v :: vs => y.chars level v :: y.itemChars level vs

/-- The members of an object, each at `level`. -/
def memberChars (y : Layout) (level : Nat) : List (String × Value) → List (List Char)
  | [] => []
  | (k, v) :: ms =>
    (printedText k ++ ':' :: y.colonGap ++ y.chars level v) :: y.memberChars level ms

end

/-! ### The two printers -/

theorem block_line (opening closing : Char) (level : Nat) (parts : List (List Char)) :
    line.block opening closing level parts = opening :: separated [','] parts ++ [closing] := by
  rcases parts with - | ⟨p, ps⟩ <;> simp [block, line, separated]

mutual

@[simp] theorem chars_line (level : Nat) : ∀ v : Value, line.chars level v = v.compactChars
  | .array items => by rw [chars, block_line, itemChars_line, Value.compactChars]
  | .object members => by rw [chars, block_line, memberChars_line, Value.compactChars]
  | .null | .bool true | .bool false | .number _ | .text _ => rfl

@[simp] theorem itemChars_line (level : Nat) :
    ∀ vs : List Value, line.itemChars level vs = Value.compactItems vs
  | [] => rfl
  | v :: vs => by rw [itemChars, chars_line, itemChars_line, Value.compactItems]

@[simp] theorem memberChars_line (level : Nat) :
    ∀ ms : List (String × Value), line.memberChars level ms = Value.compactMembers ms
  | [] => rfl
  | (k, v) :: ms => by
    rw [memberChars, chars_line, memberChars_line, Value.compactMembers]
    simp [line]

end

mutual

@[simp] theorem chars_lines (level : Nat) : ∀ v : Value, lines.chars level v = v.prettyChars level
  | .array items => by
    rw [chars, itemChars_lines, Value.prettyChars]
    rfl
  | .object members => by
    rw [chars, memberChars_lines, Value.prettyChars]
    rfl
  | .null | .bool true | .bool false | .number _ | .text _ => rfl

@[simp] theorem itemChars_lines (level : Nat) :
    ∀ vs : List Value, lines.itemChars level vs = Value.prettyItems level vs
  | [] => rfl
  | v :: vs => by rw [itemChars, chars_lines, itemChars_lines, Value.prettyItems]

@[simp] theorem memberChars_lines (level : Nat) :
    ∀ ms : List (String × Value), lines.memberChars level ms = Value.prettyMembers level ms
  | [] => rfl
  | (k, v) :: ms => by
    rw [memberChars, chars_lines, memberChars_lines, Value.prettyMembers]
    simp [lines]

end

end Layout

end DeckKeywords.Json
