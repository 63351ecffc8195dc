/-
DeckKeywords/Proofs/Detection/Sidecar.lean

Which version a sidecar file gives.  The search tries the starts of lines in turn
and passes over white space there, line feeds included, so one assignment may be
found from several of them.  It is the place of the assignment itself that
counts: `AssignmentAt` looks back from there over white space to the start of
its line.

An assignment starts with a letter.  So none stands in the white space that is
passed over, and the first start of a line with an assignment leads to the first
assignment, `version?_eq_some_iff`.  What was tried before and failed leaves no
trace.  Main result: `version_is_leftmost`.
-/
import DeckKeywords.Sidecar
import DeckKeywords.Proofs.Detection.Numbers
import DeckKeywords.Proofs.Text.Matcher
import DeckKeywords.Proofs.Text.Word
import Mathlib.Data.List.DropRight

namespace DeckKeywords.Sidecar

open Text Text.Matcher

/-! ### What an assignment is made of -/

/-- The command in front of an assignment: nothing, or the word `set` in any case and white space. -/
inductive Command : List Char → Prop where
  | none : Command []
  | set {name space : List Char} (hname : name.map fold = "set".toList) (hne : space ≠ [])
    (hspace : ∀ c ∈ space, isBlank c) : Command (name ++ space)

/-- The quote in front of a version: nothing, or a double quote. -/
inductive Quote : List Char → Prop where
  | none : Quote []
  | double : Quote ['"']

/-- An assignment up to the last digit of its `version`. -/
inductive Assignment (version : String) : List Char → Prop where
  | mk {command name gap space quote : List Char} (hcommand : Command command)
    (hname : name.map fold = "sof_version".toList) (hgap : ∀ c ∈ gap, isBlank c)
    (hspace : ∀ c ∈ space, isBlank c) (hquote : Quote quote) (hversion : IsNumber version) :
    Assignment version
      (command ++ (name ++ (gap ++ '=' :: (space ++ (quote ++ version.toList)))))

/-- Behind the last line feed of what stands `before` there is only white space. -/
def Indented (before : List Char) : Prop :=
  ∀ c ∈ before.rtakeWhile (· != '\n'), isBlank c

/-- At `place` of `text`, with nothing but white space before it on its line, stands an assignment
of the `version`, and a word ends with it. -/
def AssignmentAt (text : String) (place : Nat) (version : String) : Prop :=
  ∃ before xs rest, text.toList = before ++ (xs ++ rest) ∧ before.length = place ∧
    Indented before ∧ Assignment version xs ∧ EndsWord rest

/-! ### Assignments as they are read -/

theorem Command.isBlank_head? {command name rest : List Char} (h : Command command)
    (hname : name.map fold = "sof_version".toList) :
    ∀ c ∈ (command ++ (name ++ rest)).head?, isBlank c = false := by
  cases h with
  | none =>
    show ∀ c ∈ (name ++ rest).head?, isBlank c = false
    exact isBlank_head?_of_map_fold hname (by decide)
  | set hset hne hspace =>
    rw [List.append_assoc]
    exact isBlank_head?_of_map_fold hset (by decide)

/-- The `command` in front of a `name` is told by the second letter. -/
theorem Command.unique {command command' name name' rest rest' : List Char} (h : Command command)
    (h' : Command command') (hname : name.map fold = "sof_version".toList)
    (hname' : name'.map fold = "sof_version".toList)
    (heq : command ++ (name ++ rest) = command' ++ (name' ++ rest')) :
    command = command' ∧ name ++ rest = name' ++ rest' := by
  -- the second letters of the command and of the name differ, so no name is read as a command
  have hsecond : ∀ {set space name rest rest' : List Char}, set.map fold = "set".toList →
      name.map fold = "sof_version".toList → name ++ rest ≠ set ++ space ++ rest' := by
    intro set space name rest rest' hset hname heq
    have hfolded := congrArg (fun cs => (cs.map fold)[1]?) heq
    simp [hset, hname] at hfolded
  cases h with
  | none =>
    cases h' with
    | none => exact ⟨rfl, heq⟩
    | set hset' hne' hspace' =>
      rw [List.nil_append] at heq
      exact absurd heq (hsecond hset' hname)
  | set hset hne hspace =>
    cases h' with
    | none =>
      rw [List.nil_append] at heq
      exact absurd heq.symm (hsecond hset hname')
    | set hset' hne' hspace' =>
      rw [List.append_assoc, List.append_assoc] at heq
      obtain ⟨rfl, heq₁⟩ := append_inj_of_map_fold hset hset' heq
      obtain ⟨rfl, heq₂⟩ := append_inj_of_run hspace
        (isBlank_head?_of_map_fold hname (by decide)) hspace'
        (isBlank_head?_of_map_fold hname' (by decide)) heq₁
      exact ⟨rfl, heq₂⟩

theorem Quote.unique {quote quote' rest rest' : List Char} {version version' : String}
    (h : Quote quote) (h' : Quote quote') (hversion : IsNumber version)
    (hversion' : IsNumber version')
    (heq : quote ++ (version.toList ++ rest) = quote' ++ (version'.toList ++ rest')) :
    version.toList ++ rest = version'.toList ++ rest' := by
  have hdigit : ∀ {version : String} {rest rest' : List Char}, IsNumber version →
      version.toList ++ rest ≠ '"' :: rest' := by
    intro version rest rest' hversion heq
    obtain ⟨d, ds, hds⟩ := List.exists_cons_of_length_pos hversion.pos
    rw [hds] at heq
    obtain rfl : d = '"' := (List.cons.inj heq).1
    exact absurd (hversion.digits '"' (hds ▸ List.mem_cons_self)) (by decide)
  cases h with
  | none =>
    cases h' with
    | none => exact heq
    | double => exact absurd heq (hdigit hversion)
  | double =>
    cases h' with
    | none => exact absurd heq.symm (hdigit hversion')
    | double => exact (List.cons.inj heq).2

namespace Assignment

variable {version version' : String} {xs xs' rest rest' : List Char}

theorem isNumber (h : Assignment version xs) : IsNumber version := by
  obtain ⟨-, -, -, -, -, hversion⟩ := h
  exact hversion

theorem isBlank_head? (h : Assignment version xs) :
    ∀ c ∈ (xs ++ rest).head?, isBlank c = false := by
  obtain ⟨hcommand, hname, -, -, -, -⟩ := h
  rw [List.append_assoc, List.append_assoc]
  exact hcommand.isBlank_head? hname

theorem isWord_getLast? (h : Assignment version xs) : ∃ c ∈ xs.getLast?, isWord c := by
  obtain @⟨command, name, gap, space, quote, -, -, -, -, -, hversion⟩ := h
  obtain ⟨d, hlast, hword⟩ := hversion.isWord_getLast?
  rw [Option.mem_def] at hlast
  exact ⟨d, by simp [List.getLast?_append, List.getLast?_cons, hlast], hword⟩

/-- Where a word ends behind them, two assignments that start alike, `xs ++ rest`, have one
version. -/
theorem unique (h : Assignment version xs) (hends : EndsWord rest) (h' : Assignment version' xs')
    (hends' : EndsWord rest') (heq : xs ++ rest = xs' ++ rest') : version = version' := by
  obtain ⟨hcommand, hname, hgap, hspace, hquote, hversion⟩ := h
  obtain ⟨hcommand', hname', hgap', hspace', hquote', hversion'⟩ := h'
  have hequals : ∀ {cs : List Char}, ∀ c ∈ ('=' :: cs).head?, isBlank c = false :=
    isBlank_head?_cons (by decide)
  have hquoted : ∀ {quote rest : List Char} {version : String}, Quote quote → IsNumber version →
      ∀ c ∈ (quote ++ (version.toList ++ rest)).head?, isBlank c = false := by
    intro quote rest version hquote hversion
    cases hquote with
    | none => exact hversion.isBlank_head?
    | double => exact isBlank_head?_cons (by decide)
  simp only [List.append_assoc, List.cons_append] at heq
  obtain ⟨-, heq₁⟩ := hcommand.unique hcommand' hname hname' heq
  obtain ⟨-, heq₂⟩ := append_inj_of_map_fold hname hname' heq₁
  obtain ⟨-, heq₃⟩ := append_inj_of_run hgap hequals hgap' hequals heq₂
  obtain ⟨-, heq₄⟩ := append_inj_of_run hspace (hquoted hquote hversion) hspace'
    (hquoted hquote' hversion') (List.cons.inj heq₃).2
  obtain ⟨hsame, -⟩ := append_inj_of_run hversion.digits hends.isDigit_head? hversion'.digits
    hends'.isDigit_head? (hquote.unique hquote' hversion hversion' heq₄)
  exact String.toList_inj.mp hsame

end Assignment

/-! ### The pattern -/

/-- The `pattern` behind its white space, up to the end of the version. -/
def assignment : Matcher (List Char) := do
  let _ ← Matcher.optional setCommand
  let _ ← word "sof_version"
  skipMany isBlank
  let _ ← char (· == '=')
  skipMany isBlank
  let _ ← Matcher.optional (char (· == '"'))
  oneTo isDigit 4

theorem pattern_eq : pattern = skipMany isBlank >>= fun _ => ended assignment := by
  simp only [pattern, assignment, ended, bind_assoc]

theorem reads_setCommand : Reads setCommand fun _ xs => ∃ name space, xs = name ++ space ∧
    name.map fold = "set".toList ∧ space ≠ [] ∧ ∀ c ∈ space, isBlank c := by
  refine ((reads_word rfl).bind fun _ => reads_skipSome _).congr fun _ xs => ?_
  constructor
  · rintro ⟨_, name, space, rfl, ⟨-, hname⟩, hspace⟩
    exact ⟨name, space, rfl, hname, hspace⟩
  · rintro ⟨name, space, rfl, hname, hspace⟩
    exact ⟨name, name, space, rfl, ⟨rfl, hname⟩, hspace⟩

theorem command_iff {xs : List Char} :
    Command xs ↔ (∃ _ : Unit, ∃ name space, xs = name ++ space ∧ name.map fold = "set".toList ∧
      space ≠ [] ∧ ∀ c ∈ space, isBlank c) ∨ xs = [] := by
  constructor
  · rintro (- | ⟨hname, hne, hspace⟩)
    · exact .inr rfl
    · exact .inl ⟨(), _, _, rfl, hname, hne, hspace⟩
  · rintro (⟨-, name, space, rfl, hname, hne, hspace⟩ | rfl)
    · exact .set hname hne hspace
    · exact .none

theorem quote_iff {xs : List Char} : Quote xs ↔ (∃ c, (c == '"') ∧ xs = [c]) ∨ xs = [] := by
  constructor
  · rintro (- | -)
    · exact .inr rfl
    · exact .inl ⟨'"', rfl, rfl⟩
  · rintro (⟨c, hc, rfl⟩ | rfl)
    · obtain rfl := beq_iff_eq.mp hc
      exact .double
    · exact .none

theorem reads_assignment : Reads assignment fun cs xs => Assignment (String.ofList cs) xs := by
  refine (reads_setCommand.optional_bind command_iff <| (reads_word rfl).bind fun _ =>
    (reads_skipMany _).bind fun _ => (reads_char _).bind fun _ => (reads_skipMany _).bind fun _ =>
      (reads_char _).optional_bind quote_iff <| reads_oneTo _ (by decide)).congr fun cs xs => ?_
  constructor
  · rintro ⟨command, _, rfl, hcommand, _, name, _, rfl, ⟨-, hname⟩, _, gap, _, rfl, hgap, _, _, _,
      rfl, ⟨hequals, rfl⟩, _, space, _, rfl, hspace, quote, _, rfl, hquote, rfl, hversion⟩
    obtain rfl := beq_iff_eq.mp hequals
    have h := Assignment.mk hcommand hname hgap hspace hquote (isNumber_ofList_iff.mpr hversion)
    rwa [String.toList_ofList] at h
  · rintro ⟨hcommand, hname, hgap, hspace, hquote, hversion⟩
    rw [isNumber_ofList_iff] at hversion
    rw [String.toList_ofList]
    exact ⟨_, _, rfl, hcommand, _, _, _, rfl, ⟨rfl, hname⟩, (), _, _, rfl, hgap, '=', ['='], _, rfl,
      ⟨rfl, rfl⟩, (), _, _, rfl, hspace, _, cs, rfl, hquote, rfl, hversion⟩

theorem mem_pattern_iff {k k' : Cursor} {cs : List Char} :
    (cs, k') ∈ pattern k ↔ ∃ blanks xs rest, k.rest = blanks ++ (xs ++ rest) ∧
      (∀ c ∈ blanks, isBlank c) ∧ Assignment (String.ofList cs) xs ∧ EndsWord rest ∧
        k' = (k.past blanks (xs ++ rest)).past xs rest := by
  rw [pattern_eq, mem_bind_iff]
  constructor
  · rintro ⟨_, _, hskipped, hassignment⟩
    obtain ⟨blanks, rest, hrest, hblanks, rfl⟩ := (reads_skipMany _ _ _ _).mp hskipped
    obtain ⟨xs, rest', hrest', hxs, hends, rfl⟩ :=
      (reads_assignment.mem_ended_iff fun _ _ => Assignment.isWord_getLast?).mp hassignment
    obtain rfl : rest = xs ++ rest' := hrest'
    exact ⟨blanks, xs, rest', hrest, hblanks, hxs, hends, rfl⟩
  · rintro ⟨blanks, xs, rest, hrest, hblanks, hxs, hends, rfl⟩
    exact ⟨(), _, (reads_skipMany _ _ _ _).mpr ⟨blanks, _, hrest, hblanks, rfl⟩,
      (reads_assignment.mem_ended_iff fun _ _ => Assignment.isWord_getLast?).mpr
        ⟨xs, rest, rfl, hxs, hends, rfl⟩⟩

/-- At the start of a line `pattern` finds an assignment behind white space. -/
theorem first?_pattern {k : Cursor} {cs : List Char} :
    pattern.first? k = some cs ↔ ∃ blanks xs rest, k.rest = blanks ++ (xs ++ rest) ∧
      (∀ c ∈ blanks, isBlank c) ∧ Assignment (String.ofList cs) xs ∧ EndsWord rest := by
  rw [first?_eq_some_iff_of_unique]
  · simp only [mem_pattern_iff]
    constructor
    · rintro ⟨_, blanks, xs, rest, hrest, hblanks, hxs, hends, -⟩
      exact ⟨blanks, xs, rest, hrest, hblanks, hxs, hends⟩
    · rintro ⟨blanks, xs, rest, hrest, hblanks, hxs, hends⟩
      exact ⟨_, blanks, xs, rest, hrest, hblanks, hxs, hends, rfl⟩
  · -- white space ends where an assignment starts, so all matches are of one assignment
    intro cs ds k' k'' h h'
    obtain ⟨blanks, xs, rest, hrest, hblanks, hxs, hends, -⟩ := mem_pattern_iff.mp h
    obtain ⟨blanks', xs', rest', hrest', hblanks', hxs', hends', -⟩ := mem_pattern_iff.mp h'
    obtain ⟨-, heq⟩ := append_inj_of_run hblanks hxs.isBlank_head? hblanks' hxs'.isBlank_head?
      (hrest.symm.trans hrest')
    exact String.ofList_injective (hxs.unique hends hxs' hends' heq)

/-! ### Starts of lines -/

theorem mem_lineStarts_iff {before : Option Char} {cs : List Char} {k : Cursor} :
    k ∈ lineStarts before cs ↔ k.before.all (· == '\n') ∧
      ∃ skipped rest, cs = skipped ++ rest ∧ True ∧ k = Cursor.past ⟨before, cs⟩ skipped rest := by
  induction cs generalizing before with
  | nil =>
    rw [lineStarts]
    constructor
    · intro h
      by_cases hstart : before.all (· == '\n')
      · rw [if_pos hstart, List.mem_singleton] at h
        subst h
        exact ⟨hstart, [], [], rfl, trivial, rfl⟩
      · rw [if_neg hstart] at h
        cases h
    · rintro ⟨hstart, skipped, rest, heq, -, rfl⟩
      obtain ⟨rfl, rfl⟩ := List.append_eq_nil_iff.mp heq.symm
      have hstart : before.all (· == '\n') := hstart
      rw [if_pos hstart]
      exact List.mem_singleton.mpr rfl
  | cons c cs ih =>
    have hcons : lineStarts before (c :: cs) = (if before.all (· == '\n')
        then [⟨before, c :: cs⟩] else []) ++ lineStarts (some c) cs := by
      rw [lineStarts]
      split <;> rfl
    -- the line starts here with nothing skipped, or behind `c` with that skipped as well
    have hhere : k ∈ (if before.all (· == '\n') then [(⟨before, c :: cs⟩ : Cursor)] else []) ↔
        k.before.all (· == '\n') ∧ k = ⟨before, c :: cs⟩ := by
      by_cases hstart : before.all (· == '\n')
      · rw [if_pos hstart, List.mem_singleton]
        exact ⟨fun h => ⟨h ▸ hstart, h⟩, And.right⟩
      · rw [if_neg hstart]
        refine iff_of_false List.not_mem_nil ?_
        rintro ⟨hstart', rfl⟩
        exact hstart hstart'
    rw [hcons, List.mem_append, hhere, ih, Cursor.exists_past_cons_iff, ← and_or_left, true_and]

/-- The starts of lines in `cs` are tried from the first one on. -/
theorem pairwise_lineStarts (before : Option Char) (cs : List Char) :
    (lineStarts before cs).Pairwise fun k k' => k'.rest.length < k.rest.length := by
  induction cs generalizing before with
  | nil =>
    unfold lineStarts
    split <;> simp
  | cons c cs ih =>
    unfold lineStarts
    split
    · refine List.pairwise_cons.mpr ⟨fun k hk => ?_, ih _⟩
      obtain ⟨skipped, rest, rfl, -, rfl⟩ := (mem_lineStarts_iff.mp hk).2
      show rest.length < (skipped ++ rest).length + 1
      rw [List.length_append]
      omega
    · exact ih _

theorem Indented.of_blanks {lines blanks : List Char} (hlines : lines.getLast?.all (· == '\n'))
    (hblanks : ∀ c ∈ blanks, isBlank c) : Indented (lines ++ blanks) := by
  unfold Indented
  induction blanks using List.reverseRecOn with
  | nil =>
    have hline : lines.rtakeWhile (· != '\n') = [] := by
      rw [List.rtakeWhile_eq_nil_iff]
      intro hne
      rw [List.getLast?_eq_some_getLast hne] at hlines
      simpa using hlines
    rw [List.append_nil, hline]
    simp
  | append_singleton bs b ih =>
    -- white space may itself be a line feed, and then nothing stands behind it
    rw [← List.append_assoc, List.rtakeWhile_concat]
    split
    · intro c hc
      rcases List.mem_append.mp hc with hc | hc
      · exact ih (fun d hd => hblanks d (List.mem_append_left _ hd)) c hc
      · exact hblanks c (List.mem_append_right _ hc)
    · simp

/-- Up to an `Indented` place there are `blanks`, from the start of a line on. -/
theorem indented_iff {before : List Char} :
    Indented before ↔ ∃ lines blanks, before = lines ++ blanks ∧ lines.getLast?.all (· == '\n') ∧
      ∀ c ∈ blanks, isBlank c := by
  constructor
  · intro h
    refine ⟨before.rdropWhile (· != '\n'), before.rtakeWhile (· != '\n'),
      List.rdropWhile_append_rtakeWhile.symm, ?_, h⟩
    by_cases hnil : before.rdropWhile (· != '\n') = []
    · rw [hnil]
      rfl
    · have hlast := List.rdropWhile_last_not _ before hnil
      rw [List.getLast?_eq_some_getLast hnil]
      simpa using hlast
  · rintro ⟨lines, blanks, rfl, hlines, hblanks⟩
    exact .of_blanks hlines hblanks

/-! ### The first assignment -/

namespace AssignmentAt

variable {text version version' : String} {place : Nat}

theorem unique (h : AssignmentAt text place version) (h' : AssignmentAt text place version') :
    version = version' := by
  obtain ⟨before, xs, rest, htext, hplace, -, hxs, hends⟩ := h
  obtain ⟨before', xs', rest', htext', hplace', -, hxs', hends'⟩ := h'
  obtain ⟨-, heq⟩ := List.append_inj (htext.symm.trans htext') (hplace.trans hplace'.symm)
  exact hxs.unique hends hxs' hends' heq

/-- Each assignment is found by `pattern` from the start `k` of its line. -/
theorem exists_lineStart (h : AssignmentAt text place version) :
    ∃ k ∈ lineStarts none text.toList, text.toList.length ≤ place + k.rest.length ∧
      pattern.first? k = some version.toList := by
  obtain ⟨before, xs, rest, htext, rfl, hbefore, hxs, hends⟩ := h
  obtain ⟨lines, blanks, rfl, hlines, hblanks⟩ := indented_iff.mp hbefore
  rw [List.append_assoc] at htext
  refine ⟨Cursor.past ⟨none, text.toList⟩ lines (blanks ++ (xs ++ rest)),
    mem_lineStarts_iff.mpr ⟨?_, lines, _, htext, trivial, rfl⟩, ?_, ?_⟩
  · rwa [Cursor.past, Option.or_none]
  · simp [htext, Cursor.past, Nat.add_assoc]
  · rw [← String.ofList_toList (s := version)] at hxs
    exact first?_pattern.mpr ⟨blanks, xs, rest, rfl, hblanks, hxs, hends⟩

theorem isNumber (h : AssignmentAt text place version) : IsNumber version := by
  obtain ⟨before, xs, rest, -, -, -, hxs, -⟩ := h
  exact hxs.isNumber

theorem isSome_version? (h : AssignmentAt text place version) : (version? text).isSome := by
  obtain ⟨k, hk, -, hfirst⟩ := h.exists_lineStart
  rw [version?, Option.isSome_map, List.findSome?_isSome_iff]
  exact ⟨k, hk, Option.isSome_of_eq_some hfirst⟩

/-- No assignment stands in the `blanks`. -/
theorem le_of_isBlank {front blanks rest : List Char} (h : AssignmentAt text place version)
    (htext : text.toList = front ++ (blanks ++ rest)) (hblanks : ∀ c ∈ blanks, isBlank c)
    (hfront : front.length ≤ place) : (front ++ blanks).length ≤ place := by
  obtain ⟨before, xs, rest', htext', rfl, -, hxs, -⟩ := h
  have heq := htext.symm.trans htext'
  rw [← List.append_assoc] at heq
  rcases List.append_eq_append_iff.mp heq with ⟨ys, rfl, -⟩ | ⟨ys, hsplit, hys⟩
  · exact (List.prefix_append _ ys).length_le
  · rcases ys with - | ⟨y, ys⟩
    · rw [hsplit, List.append_nil]
    · have hvisible : isBlank y = false := hxs.isBlank_head? y (by rw [hys]; rfl)
      have hy : y ∈ blanks := by
        have hdrop := congrArg (List.drop front.length) hsplit
        rw [List.drop_left, List.drop_append, Nat.sub_eq_zero_of_le hfront, List.drop_zero] at hdrop
        rw [hdrop]
        exact List.mem_append_right _ List.mem_cons_self
      rw [hblanks y hy] at hvisible
      cases hvisible

/-- The assignment whose version `version?` finds is the first one. -/
theorem of_version? (h : version? text = some version) :
    ∃ place, AssignmentAt text place version ∧
      ∀ place' version', AssignmentAt text place' version' → place ≤ place' := by
  rw [version?, Option.map_eq_some_iff] at h
  obtain ⟨cs, hfound, rfl⟩ := h
  obtain ⟨before, k, behind, hsplit, hfirst, hskipped⟩ := List.findSome?_eq_some_iff.mp hfound
  have hk : k ∈ lineStarts none text.toList := by
    rw [hsplit]
    exact List.mem_append_right before List.mem_cons_self
  obtain ⟨hstart, lines, rest, htext, -, rfl⟩ := mem_lineStarts_iff.mp hk
  obtain ⟨blanks, xs, rest', hrest, hblanks, hxs, hends⟩ := first?_pattern.mp hfirst
  obtain rfl : rest = blanks ++ (xs ++ rest') := hrest
  rw [Cursor.past, Option.or_none] at hstart
  refine ⟨(lines ++ blanks).length, ⟨lines ++ blanks, xs, rest', ?_, rfl,
    indented_iff.mpr ⟨lines, blanks, rfl, hstart, hblanks⟩, hxs, hends⟩, ?_⟩
  · rw [htext, List.append_assoc]
  · intro place' version' h'
    refine h'.le_of_isBlank htext hblanks ?_
    -- the start of its line was not tried before this one
    obtain ⟨k', hk', hplace', hfirst'⟩ := h'.exists_lineStart
    have horder := pairwise_lineStarts none text.toList
    rw [hsplit, List.pairwise_append, List.pairwise_cons] at horder
    have hlength : k'.rest.length ≤ (blanks ++ (xs ++ rest')).length := by
      rw [hsplit, List.mem_append, List.mem_cons] at hk'
      rcases hk' with hbefore | rfl | hbehind
      · rw [hskipped k' hbefore] at hfirst'
        cases hfirst'
      · exact Nat.le_refl _
      · exact Nat.le_of_lt (horder.2.1.1 k' hbehind)
    rw [htext, List.length_append] at hplace'
    omega

end AssignmentAt

/-- The `version?` of a sidecar file is the one of its first assignment. -/
theorem version?_eq_some_iff {text version : String} :
    version? text = some version ↔ ∃ place, AssignmentAt text place version ∧
      ∀ place' version', AssignmentAt text place' version' → place ≤ place' := by
  refine ⟨AssignmentAt.of_version?, ?_⟩
  rintro ⟨place, h, hfirst⟩
  obtain ⟨version', hversion'⟩ := Option.isSome_iff_exists.mp h.isSome_version?
  obtain ⟨place', h', hfirst'⟩ := AssignmentAt.of_version? hversion'
  obtain rfl := Nat.le_antisymm (hfirst place' version' h') (hfirst' place version h)
  rw [hversion', h.unique h']

theorem isNumber_of_version? {text version : String} (h : version? text = some version) :
    IsNumber version := by
  obtain ⟨place, hplace, -⟩ := version?_eq_some_iff.mp h
  exact hplace.isNumber

theorem version?_eq_none_iff :
    version? text = none ↔ ∀ place version, ¬AssignmentAt text place version := by
  constructor
  · intro hnone place version h
    have hsome := h.isSome_version?
    rw [hnone] at hsome
    cases hsome
  · intro hnot
    rw [Option.eq_none_iff_forall_ne_some]
    intro version hversion
    obtain ⟨place, h, -⟩ := version?_eq_some_iff.mp hversion
    exact hnot place version h

/-- **The version of a sidecar file**, exactly: `version? text` is the `version` that stands at the
first `place` of the text with an assignment, `AssignmentAt`, and none if there is no such place.
Whatever else is in the text changes nothing about that. -/
theorem version_is_leftmost (text : String) :
    (∀ version, version? text = some version ↔ ∃ place, AssignmentAt text place version ∧
      ∀ place' version', AssignmentAt text place' version' → place ≤ place') ∧
    (version? text = none ↔ ∀ place version, ¬AssignmentAt text place version) :=
  ⟨fun _ => version?_eq_some_iff, version?_eq_none_iff⟩

end DeckKeywords.Sidecar
