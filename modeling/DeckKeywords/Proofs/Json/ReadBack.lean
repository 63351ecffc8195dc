/-
DeckKeywords/Proofs/Json/ReadBack.lean

Values as they are written in a layout, and read again.  `Tree.ofValue` is the
tree of a written value, and the text of the value is read as this tree:
nothing is lost, nothing is left over, and the bound on nesting is never met.

A value is only read right if what follows it does not go on with a number, so
the statement is about a value with a rest behind it, and it is proved for
values, items and members at once, along the bound that their readers count
down.  White space is passed over in the gaps, whatever the layout puts there.
Floating-point numbers are left out: these are not written as they stood.

Main results: `ofText_compact` and `ofText_pretty` for the two layouts, and
`pretty_inj`, by which a text over lines is that of one value only.
-/
import DeckKeywords.Proofs.Json.Layout
import DeckKeywords.Proofs.Json.Written

namespace DeckKeywords.Json

/-! ### Written values as trees -/

/-- A value none of whose numbers is floating point: all are `.integer`. -/
inductive Value.Integral : Value → Prop where
  | null : Integral null
  | bool (b : Bool) : Integral (bool b)
  | integer (i : Int) : Integral (number (.integer i))
  | text (s : String) : Integral (text s)
  | array {items : List Value} (h : ∀ v ∈ items, Integral v) : Integral (array items)
  | object {members : List (String × Value)} (h : ∀ m ∈ members, Integral m.2) :
    Integral (object members)

namespace Value

@[simp] theorem integral_null : null.Integral := .null

@[simp] theorem integral_text (s : String) : (text s).Integral := .text s

@[simp] theorem integral_nat (n : Nat) : (nat n).Integral := .integer n

@[simp] theorem integral_array_iff {items : List Value} :
    (array items).Integral ↔ ∀ v ∈ items, v.Integral := by
  constructor
  · rintro ⟨⟩
    assumption
  · exact .array

@[simp] theorem integral_object_iff {members : List (String × Value)} :
    (object members).Integral ↔ ∀ m ∈ members, m.2.Integral := by
  constructor
  · rintro ⟨⟩
    assumption
  · exact .object

@[simp] theorem integral_texts (ss : List String) : (texts ss).Integral := by simp [texts]

end Value

namespace Tree

mutual

/-- A value as a tree has it when it is written. -/
def ofValue : Value → Tree
  | .null => null
  | .bool b => bool b
  | .number (.integer i) => number (.ofInt i)
  | .number (.real n) => number n
  | .text s => text (.ofText s)
  | .array items => list (ofItems items) none
  | .object members => object (ofMembers members) none

/-- The items of a list as a tree has them when they are written. -/
def ofItems : List Value → List Tree
  | [] => []
  | v :: vs => ofValue v :: ofItems vs

/-- The members of an object as a tree has them when they are written. -/
def ofMembers : List (String × Value) → List (Token × Tree)
  | [] => []
  | (k, v) :: ms => (.ofText k, ofValue v) :: ofMembers ms

end

@[simp] theorem ofItems_eq_map (vs : List Value) : ofItems vs = vs.map ofValue := by
  induction vs with
  | nil => rfl
  | cons v vs ih => rw [ofItems, ih, List.map_cons]

@[simp] theorem ofMembers_eq_map (ms : List (String × Value)) :
    ofMembers ms = ms.map fun m => (.ofText m.1, ofValue m.2) := by
  induction ms with
  | nil => rfl
  | cons m ms ih => rw [ofMembers, ih, List.map_cons]

end Tree

theorem ofText_injective : Function.Injective Token.ofText := by
  intro s s' h
  have hread : (Except.ok s : Except Fault String) = .ok s' := by
    rw [← read_ofText, ← read_ofText, h]
  exact Except.ok.inj hread

theorem ofInt_injective : Function.Injective Numeral.ofInt := by
  intro i j h
  rw [Numeral.ofInt, Numeral.ofInt, Numeral.mk.injEq, decide_eq_decide] at h
  obtain ⟨hsign, hdigits, -⟩ := h
  have habs : i.natAbs = j.natAbs := by
    rw [← Text.ofDigits_decimal i.natAbs, hdigits, Text.ofDigits_decimal]
  omega

/-- Lists `xs` and `ys` are equal if they have equal images under an `f` that tells their items
apart. -/
theorem eq_of_map_eq {α β : Type} {f : α → β} {xs ys : List α}
    (h : ∀ x ∈ xs, ∀ y ∈ ys, f x = f y → x = y) (heq : xs.map f = ys.map f) : xs = ys := by
  induction xs generalizing ys with
  | nil => exact (List.map_eq_nil_iff.mp heq.symm).symm
  | cons x xs ih =>
    rcases ys with - | ⟨y, ys⟩
    · cases heq
    · obtain ⟨hhead, htail⟩ := List.cons.inj heq
      rw [h x List.mem_cons_self y List.mem_cons_self hhead,
        ih (fun a ha b hb => h a (List.mem_cons_of_mem _ ha) b (List.mem_cons_of_mem _ hb)) htail]

namespace Tree

/-- Different values `v` and `w` are written as different trees. -/
theorem ofValue_inj {v w : Value} (hv : v.Integral) (hw : w.Integral)
    (h : ofValue v = ofValue w) : v = w := by
  -- trees of different kinds differ, so only a value of the same kind is left to compare with
  induction hv generalizing w with
  | null => cases hw <;> first | rfl | cases h
  | bool b =>
    cases hw <;> first | cases h
    rfl
  | integer i =>
    cases hw with
    | integer j => rw [ofInt_injective (Tree.number.inj h)]
    | null | bool | text | array | object => cases h
  | text s =>
    cases hw with
    | text s' => rw [ofText_injective (Tree.text.inj h)]
    | null | bool | integer | array | object => cases h
  | array _ ih =>
    cases hw with
    | array hitems =>
      have heq := (Tree.list.inj h).1
      rw [ofItems_eq_map, ofItems_eq_map] at heq
      rw [eq_of_map_eq (fun v hv w hw => ih v hv (hitems w hw)) heq]
    | null | bool | integer | text | object => cases h
  | object _ ih =>
    cases hw with
    | object hmembers =>
      have heq := (Tree.object.inj h).1
      rw [ofMembers_eq_map, ofMembers_eq_map] at heq
      refine congrArg Value.object (eq_of_map_eq (fun m hm n hn hmn => ?_) heq)
      obtain ⟨hkey, hvalue⟩ := Prod.mk.inj hmn
      exact Prod.ext (ofText_injective hkey) (ih m hm (hmembers n hn) hvalue)
    | null | bool | integer | text | array => cases h

end Tree

/-! ### Steps of the readers -/

theorem skipSpace_cons {c : Char} (h : isSpace c = false) (cs : List Char) :
    skipSpace (c :: cs) = c :: cs := by
  simp [skipSpace, h]

/-- A `gap` of white space is passed over. -/
theorem skipSpace_append {gap : List Char} (h : ∀ c ∈ gap, isSpace c) (cs : List Char) :
    skipSpace (gap ++ cs) = skipSpace cs :=
  List.dropWhile_append_of_pos h

theorem readValue_append {gap : List Char} (h : ∀ c ∈ gap, isSpace c) (fuel : Nat)
    (cs : List Char) : readValue fuel (gap ++ cs) = readValue fuel cs := by
  rcases fuel with - | fuel
  · rfl
  · rw [readValue, readValue, skipSpace_append h]

theorem isSpace_of_isDigit {c : Char} (h : c.isDigit) : isSpace c = false := by
  rw [Bool.eq_false_iff, Ne, isSpace_iff]
  rintro (rfl | rfl | rfl | rfl) <;> exact absurd h (by decide)

/-- A digit `c` starts a number, and nothing else. -/
theorem readValue_of_isDigit {c : Char} (h : c.isDigit) (fuel : Nat) (cs : List Char) :
    readValue (fuel + 1) (c :: cs) = readNumber false (c :: cs) := by
  rw [readValue, skipSpace_cons (isSpace_of_isDigit h)]
  dsimp only
  split
  all_goals first | exact absurd h (by decide) | rw [if_pos h]

section Steps

variable {fuel : Nat} {gap cs rest rest' : List Char} (hgap : ∀ c ∈ gap, isSpace c)

include hgap

theorem readItems_last {t : Tree} (hitem : readValue fuel cs = (t, gap ++ ']' :: rest)) :
    readItems (fuel + 1) cs = ([t], none, rest) := by
  rw [readItems, hitem]
  simp only [skipSpace_append hgap, skipSpace_cons (show isSpace ']' = false from rfl)]

theorem readItems_more {t : Tree} {items : List Tree} {c : Char} (hspace : isSpace c = false)
    (hbracket : c ≠ ']') (hitem : readValue fuel cs = (t, ',' :: (gap ++ c :: rest)))
    (hmore : readItems fuel (c :: rest) = (items, none, rest')) :
    readItems (fuel + 1) cs = (t :: items, none, rest') := by
  rw [readItems, hitem]
  simp only [skipSpace_cons (show isSpace ',' = false from rfl), skipSpace_append hgap,
    skipSpace_cons hspace]
  simp [hbracket, hmore]

theorem readMembers_last {k : Token} {t : Tree} (hkey : readText cs = (k, ':' :: rest))
    (hitem : readValue fuel rest = (t, gap ++ '\x7d' :: rest')) :
    readMembers (fuel + 1) cs = ([(k, t)], none, rest') := by
  rw [readMembers, hkey]
  simp only [skipSpace_cons (show isSpace ':' = false from rfl), hitem, skipSpace_append hgap,
    skipSpace_cons (show isSpace '\x7d' = false from rfl)]

theorem readMembers_more {rest'' : List Char} {k : Token} {t : Tree} {ms : List (Token × Tree)}
    (hkey : readText cs = (k, ':' :: rest))
    (hitem : readValue fuel rest = (t, ',' :: (gap ++ '"' :: rest')))
    (hmore : readMembers fuel rest' = (ms, none, rest'')) :
    readMembers (fuel + 1) cs = ((k, t) :: ms, none, rest'') := by
  rw [readMembers, hkey]
  simp only [skipSpace_cons (show isSpace ':' = false from rfl), hitem,
    skipSpace_cons (show isSpace ',' = false from rfl), skipSpace_append hgap,
    skipSpace_cons (show isSpace '"' = false from rfl), hmore]

theorem readValue_list {items : List Tree} {c : Char} (hspace : isSpace c = false)
    (hbracket : c ≠ ']') (hitems : readItems fuel (c :: cs) = (items, none, rest)) :
    readValue (fuel + 1) ('[' :: (gap ++ c :: cs)) = (.list items none, rest) := by
  rw [readValue, skipSpace_cons (show isSpace '[' = false from rfl)]
  simp only [skipSpace_append hgap, skipSpace_cons hspace]
  simp [hbracket, hitems]

theorem readValue_object {ms : List (Token × Tree)}
    (hmembers : readMembers fuel cs = (ms, none, rest)) :
    readValue (fuel + 1) ('\x7b' :: (gap ++ '"' :: cs)) = (.object ms none, rest) := by
  rw [readValue, skipSpace_cons (show isSpace '\x7b' = false from rfl)]
  simp only [skipSpace_append hgap, skipSpace_cons (show isSpace '"' = false from rfl), hmembers]

end Steps

/-! ### What is written -/

namespace Layout

variable (y : Layout)

/-- No written value `v` starts with white space, or with the mark that ends a list. -/
theorem chars_eq_cons {v : Value} (h : v.Integral) (level : Nat) :
    ∃ c cs, y.chars level v = c :: cs ∧ isSpace c = false ∧ c ≠ ']' := by
  have hblock : ∀ opening closing parts, isSpace opening = false → opening ≠ ']' →
      ∃ c cs, y.block opening closing level parts = c :: cs ∧ isSpace c = false ∧ c ≠ ']' := by
    intro opening closing parts hspace hbracket
    rcases parts with - | ⟨p, ps⟩ <;> exact ⟨_, _, rfl, hspace, hbracket⟩
  cases h with
  | null => exact ⟨_, _, rfl, rfl, by decide⟩
  | bool b => cases b <;> exact ⟨_, _, rfl, rfl, by decide⟩
  | text s => exact ⟨_, _, rfl, rfl, by decide⟩
  | array => exact hblock _ _ _ rfl (by decide)
  | object => exact hblock _ _ _ rfl (by decide)
  | integer i =>
    rw [chars, printed_integer]
    obtain ⟨c, cs, hdigits, hc⟩ := Text.toDigits_eq_cons i.natAbs
    split
    · exact ⟨_, _, rfl, rfl, by decide⟩
    · refine ⟨c, cs, hdigits, isSpace_of_isDigit hc, ?_⟩
      rintro rfl
      exact absurd hc (by decide)

/-- Items `vs` of a list at `level`, the first one without the gap before it. -/
def itemsText (level : Nat) (vs : List Value) : List Char :=
  separated (',' :: y.gap level) (y.itemChars level vs)

/-- Members at `level`, behind the quote that opens the key of the first one. -/
def behindQuote (y : Layout) (level : Nat) : String × Value → List (String × Value) → List Char
  | (k, v), [] => k.toList.flatMap printedChar ++ '"' :: ':' :: (y.colonGap ++ y.chars level v)
  | (k, v), m :: ms =>
    k.toList.flatMap printedChar ++ '"' :: ':' :: (y.colonGap ++ y.chars level v) ++
      ',' :: (y.gap level ++ '"' :: y.behindQuote level m ms)

theorem itemsText_cons (level : Nat) (v w : Value) (ws : List Value) :
    y.itemsText level (v :: w :: ws)
      = y.chars level v ++ ',' :: (y.gap level ++ y.itemsText level (w :: ws)) := by
  simp [itemsText, itemChars, separated]

/-- Items start as the first of them, `v`, does. -/
theorem itemsText_eq_cons {v : Value} (h : v.Integral) (level : Nat) (vs : List Value) :
    ∃ c cs, y.itemsText level (v :: vs) = c :: cs ∧ isSpace c = false ∧ c ≠ ']' := by
  obtain ⟨c, cs, hv, hc⟩ := y.chars_eq_cons h level
  rcases vs with - | ⟨w, ws⟩
  · exact ⟨c, cs, hv, hc⟩
  · exact ⟨c, _, by rw [itemsText_cons, hv, List.cons_append], hc⟩

theorem separated_memberChars (level : Nat) (m : String × Value) (ms : List (String × Value)) :
    separated (',' :: y.gap level) (y.memberChars level (m :: ms))
      = '"' :: y.behindQuote level m ms := by
  induction ms generalizing m with
  | nil => simp [memberChars, separated, printedText, behindQuote]
  | cons m' ms ih =>
    obtain ⟨k, v⟩ := m
    obtain ⟨k', v'⟩ := m'
    have htail := ih (k', v')
    rw [memberChars] at htail
    rw [memberChars, memberChars, separated, htail]
    simp [printedText, behindQuote]

theorem chars_array (level : Nat) (v : Value) (vs : List Value) :
    y.chars level (.array (v :: vs))
      = '[' :: (y.gap (level + 1) ++ (y.itemsText (level + 1) (v :: vs) ++ (y.gap level ++ [']']))) := by
  rw [chars, block, itemChars, if_neg (by simp), ← itemChars]
  simp [itemsText]

theorem chars_object (level : Nat) (m : String × Value) (ms : List (String × Value)) :
    y.chars level (.object (m :: ms))
      = '\x7b' :: (y.gap (level + 1) ++ ('"' :: y.behindQuote (level + 1) m ms
        ++ (y.gap level ++ ['\x7d']))) := by
  rw [← separated_memberChars, chars, block, memberChars, if_neg (by simp), ← memberChars]
  simp

end Layout

/-! ### Reading back -/

theorem readValue_integer (i : Int) (fuel : Nat) {rest : List Char} (h : Ended rest) :
    readValue (fuel + 1) ((Number.integer i).printed ++ rest) = (.number (.ofInt i), rest) := by
  rw [printed_integer, Numeral.ofInt]
  by_cases hi : i < 0
  · rw [if_pos hi, decide_eq_true hi]
    exact readNumber_toDigits true i.natAbs h
  · rw [if_neg hi, decide_eq_false hi]
    obtain ⟨c, cs, hdigits, hc⟩ := Text.toDigits_eq_cons i.natAbs
    rw [hdigits, List.cons_append, readValue_of_isDigit hc, ← List.cons_append, ← hdigits]
    exact readNumber_toDigits false i.natAbs h

/-- What was written in the layout `y` is read as itself, with `fuel` as the bound on its nesting.
The bound is to be twice the length of the text, so that each level may use it up by two. -/
structure ReadsBack (y : Layout) (fuel : Nat) : Prop where
  value : ∀ {level : Nat} {v : Value} {rest : List Char}, v.Integral → Ended rest →
    2 * (y.chars level v).length ≤ fuel →
    readValue fuel (y.chars level v ++ rest) = (.ofValue v, rest)
  items : ∀ {level outer : Nat} {v : Value} {vs : List Value} {rest : List Char},
    (∀ w ∈ v :: vs, w.Integral) → 2 * (y.itemsText level (v :: vs)).length < fuel →
    readItems fuel (y.itemsText level (v :: vs) ++ (y.gap outer ++ ']' :: rest))
      = (Tree.ofItems (v :: vs), none, rest)
  members : ∀ {level outer : Nat} {m : String × Value} {ms : List (String × Value)}
    {rest : List Char}, (∀ n ∈ m :: ms, n.2.Integral) →
    2 * (y.behindQuote level m ms).length < fuel →
    readMembers fuel (y.behindQuote level m ms ++ (y.gap outer ++ '\x7d' :: rest))
      = (Tree.ofMembers (m :: ms), none, rest)

namespace ReadsBack

variable {y : Layout} {fuel level outer : Nat} {rest : List Char}

/-- What ends a part, `c`, stands behind a gap. -/
theorem ended_gap (y : Layout) (level : Nat) {c : Char} (h : c = ']' ∨ c = '\x7d')
    (rest : List Char) : Ended (y.gap level ++ c :: rest) :=
  (ended_cons (.inr (.inr h)) rest).append (y.isSpace_of_mem_gap level)

theorem items_succ (h : ReadsBack y fuel) {v : Value} {vs : List Value}
    (hitems : ∀ w ∈ v :: vs, w.Integral)
    (hfuel : 2 * (y.itemsText level (v :: vs)).length < fuel + 1) :
    readItems (fuel + 1) (y.itemsText level (v :: vs) ++ (y.gap outer ++ ']' :: rest))
      = (Tree.ofItems (v :: vs), none, rest) := by
  obtain ⟨hv, hvs⟩ := List.forall_mem_cons.mp hitems
  rcases vs with - | ⟨w, ws⟩
  · exact readItems_last (y.isSpace_of_mem_gap outer)
      (h.value hv (ended_gap y outer (.inl rfl) rest) (Nat.le_of_lt_succ hfuel))
  -- the comma leads to the next item, as that does not start with the bracket that ends the list
  · rw [y.itemsText_cons, List.length_append, List.length_cons, List.length_append] at hfuel
    obtain ⟨c, cs, hcs, hspace, hbracket⟩ :=
      y.itemsText_eq_cons (hvs w List.mem_cons_self) level ws
    have hmore : readItems fuel (y.itemsText level (w :: ws) ++ (y.gap outer ++ ']' :: rest))
        = (Tree.ofItems (w :: ws), none, rest) := h.items hvs (by omega)
    rw [y.itemsText_cons, List.append_assoc, List.cons_append, List.append_assoc]
    rw [hcs] at hmore ⊢
    exact readItems_more (y.isSpace_of_mem_gap level) hspace hbracket
      (h.value hv (ended_cons (by decide) _) (by omega)) hmore

theorem members_succ (h : ReadsBack y fuel) {m : String × Value} {ms : List (String × Value)}
    (hmembers : ∀ n ∈ m :: ms, n.2.Integral)
    (hfuel : 2 * (y.behindQuote level m ms).length < fuel + 1) :
    readMembers (fuel + 1) (y.behindQuote level m ms ++ (y.gap outer ++ '\x7d' :: rest))
      = (Tree.ofMembers (m :: ms), none, rest) := by
  obtain ⟨k, v⟩ := m
  obtain ⟨hv, hms⟩ := List.forall_mem_cons.mp hmembers
  -- a brace follows the last member, and a comma each of the others
  rcases ms with - | ⟨m, ms⟩
  · simp only [Layout.behindQuote, List.length_append, List.length_cons] at hfuel
    have hread : readValue fuel (y.chars level v ++ (y.gap outer ++ '\x7d' :: rest))
        = (.ofValue v, y.gap outer ++ '\x7d' :: rest) :=
      h.value hv (ended_gap y outer (.inr rfl) rest) (by omega)
    rw [Layout.behindQuote, List.append_assoc]
    refine readMembers_last (y.isSpace_of_mem_gap outer) (readText_printed _ _) ?_
    show readValue fuel (y.colonGap ++ y.chars level v ++ _) = _
    rw [List.append_assoc, readValue_append y.isSpace_of_mem_colonGap, hread]
  · simp only [Layout.behindQuote, List.length_append, List.length_cons] at hfuel
    have hread : ∀ cs, readValue fuel (y.chars level v ++ ',' :: cs) = (.ofValue v, ',' :: cs) :=
      fun cs => h.value hv (ended_cons (by decide) cs) (by omega)
    have hmore : readMembers fuel (y.behindQuote level m ms ++ (y.gap outer ++ '\x7d' :: rest))
        = (Tree.ofMembers (m :: ms), none, rest) := h.members hms (by omega)
    rw [Layout.behindQuote]
    simp only [List.append_assoc, List.cons_append]
    refine readMembers_more (y.isSpace_of_mem_gap level) (readText_printed _ _) ?_ hmore
    rw [readValue_append y.isSpace_of_mem_colonGap, hread]

theorem value_succ (h : ReadsBack y fuel) {v : Value} (hv : v.Integral) (hrest : Ended rest)
    (hfuel : 2 * (y.chars level v).length ≤ fuel + 1) :
    readValue (fuel + 1) (y.chars level v ++ rest) = (.ofValue v, rest) := by
  cases hv with
  | null => rfl
  | bool b => cases b <;> rfl
  | integer i => exact readValue_integer i fuel hrest
  | text s =>
    have htext := readText_printed s.toList rest
    rw [Layout.chars, printedText, List.append_assoc, List.cons_append, readValue,
      skipSpace_cons (show isSpace '"' = false from rfl)]
    simp only [List.singleton_append, htext]
    rfl
  | @array items hitems =>
    rcases items with - | ⟨v, vs⟩
    · rfl
    -- an item starts with a character that neither is skipped nor ends the list
    · obtain ⟨c, cs, hcs, hspace, hbracket⟩ :=
        y.itemsText_eq_cons (hitems v List.mem_cons_self) (level + 1) vs
      rw [y.chars_array] at hfuel ⊢
      simp only [List.length_append, List.length_cons, List.length_nil] at hfuel
      have hread : readItems fuel
          (y.itemsText (level + 1) (v :: vs) ++ (y.gap level ++ ']' :: rest))
          = (Tree.ofItems (v :: vs), none, rest) := h.items hitems (by omega)
      simp only [List.cons_append, List.append_assoc, List.nil_append]
      rw [hcs, List.cons_append] at hread ⊢
      exact readValue_list (y.isSpace_of_mem_gap _) hspace hbracket hread
  | @object members hmembers =>
    rcases members with - | ⟨m, ms⟩
    · rfl
    · rw [y.chars_object] at hfuel ⊢
      simp only [List.length_append, List.length_cons, List.length_nil] at hfuel
      have hread : readMembers fuel
          (y.behindQuote (level + 1) m ms ++ (y.gap level ++ '\x7d' :: rest))
          = (Tree.ofMembers (m :: ms), none, rest) := h.members hmembers (by omega)
      simp only [List.cons_append, List.append_assoc, List.nil_append]
      exact readValue_object (y.isSpace_of_mem_gap _) hread

end ReadsBack

theorem readsBack (y : Layout) (fuel : Nat) : ReadsBack y fuel := by
  induction fuel with
  | zero =>
    -- every value is written with at least one character
    refine ⟨fun {level v rest} hv _ hfuel => ?_, fun _ hfuel => ?_, fun _ hfuel => ?_⟩
    · obtain ⟨c, cs, hchars, -⟩ := y.chars_eq_cons hv level
      simp [hchars] at hfuel
    · exact absurd hfuel (Nat.not_lt_zero _)
    · exact absurd hfuel (Nat.not_lt_zero _)
  | succ fuel ih => exact ⟨ih.value_succ, ih.items_succ, ih.members_succ⟩

/-- What was written in a layout `y` is read as itself, with white space behind it, `tail`, or
without. -/
theorem ofText_chars (y : Layout) {v : Value} (h : v.Integral) (tail : List Char)
    (htail : ∀ c ∈ tail, isSpace c) :
    Document.ofText (String.ofList (y.chars 0 v ++ tail)) = ⟨.ofValue v, false⟩ := by
  have hended : Ended tail := by
    rw [← List.append_nil tail]
    exact ended_nil.append htail
  have hread : readValue (2 * (y.chars 0 v ++ tail).length + 2) (y.chars 0 v ++ tail)
      = (.ofValue v, tail) :=
    (readsBack y _).value h hended (by rw [List.length_append]; omega)
  have hskip : skipSpace tail = [] := by simpa [skipSpace] using skipSpace_append htail []
  rw [Document.ofText, String.toList_ofList, hread]
  simp [hskip]

/-- **What was written is read as itself**: the text of a value `v` on one line, `v.compact`, is the
tree of `v`, and nothing stands behind it. -/
theorem ofText_compact {v : Value} (h : v.Integral) :
    Document.ofText v.compact = ⟨.ofValue v, false⟩ := by
  have hread := ofText_chars .line h [] (by simp)
  rwa [List.append_nil, Layout.chars_line] at hread

/-- **What was printed is read as itself**: the text of a value `v` over lines, `v.pretty`, with the
line feed that ends it, is the tree of `v`. -/
theorem ofText_pretty {v : Value} (h : v.Integral) :
    Document.ofText (v.pretty ++ "\n") = ⟨.ofValue v, false⟩ := by
  have hread := ofText_chars .lines h ['\n'] (by simp [isSpace])
  rwa [Layout.chars_lines, String.ofList_append] at hread

/-- The text `v.pretty` is that of one value only. -/
theorem pretty_inj {v w : Value} (hv : v.Integral) (hw : w.Integral) (h : v.pretty = w.pretty) :
    v = w := by
  have hread := ofText_pretty hv
  rw [h, ofText_pretty hw, Document.mk.injEq] at hread
  exact Tree.ofValue_inj hv hw hread.1.symm

end DeckKeywords.Json
