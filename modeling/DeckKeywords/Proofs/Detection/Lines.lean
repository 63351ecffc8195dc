/-
DeckKeywords/Proofs/Detection/Lines.lean

Sidecar files line by line.  A version is meant to stand on a line, but the
search passes over line feeds as over any other white space, so it may put an
assignment together from pieces of several lines: `assignment_across_lines`.

To say when this makes a difference, the lines are searched one at a time,
`versionByLines?`.  What is found on a line is an assignment of the whole text
as well, one without a line feed in it; a line ends with a character that ends
words, and the white space in front of an assignment may begin at any start of a
line.  So the lines give the first assignment that stands on one line, where the
whole text gives the first one of all.

A line feed behind the command `set` does not matter: the rest of the assignment
stands at the start of a line and is found there, as no assignment starts in
between.  What matters are the line feeds from the name to the version.

Main result: `version_by_lines`.
-/
import DeckKeywords.Proofs.Detection.Sidecar
import DeckKeywords.Proofs.Text.Split
import DeckKeywords.Text.Split

namespace DeckKeywords.Sidecar

open Text Text.Matcher

/-- The `version?` of the first line of `text` that gives one, if each line is searched on its
own. -/
def versionByLines? (text : String) : Option String :=
  (splitAll '\n' text.toList).findSome? fun line => version? (String.ofList line)

/-! ### Assignments with and without line feeds -/

/-- At `place` stands an assignment of the `version`, all of it on one line of `text`. -/
def OneLineAt (text : String) (place : Nat) (version : String) : Prop :=
  ∃ before xs rest, text.toList = before ++ (xs ++ rest) ∧ before.length = place ∧
    Indented before ∧ Assignment version xs ∧ EndsWord rest ∧ '\n' ∉ xs

/-- An assignment of the `version` without its command. -/
inductive Setting (version : String) : List Char → Prop where
  | mk {name gap space quote : List Char} (hname : name.map fold = "sof_version".toList)
    (hgap : ∀ c ∈ gap, isBlank c) (hspace : ∀ c ∈ space, isBlank c) (hquote : Quote quote)
    (hversion : IsNumber version) :
    Setting version (name ++ (gap ++ '=' :: (space ++ (quote ++ version.toList))))

/-- At `place` stands an assignment of the `version` that has no line feed from its name on.  There
may be one behind its `command`. -/
def UnbrokenAt (text : String) (place : Nat) (version : String) : Prop :=
  ∃ before command setting rest, text.toList = before ++ (command ++ (setting ++ rest)) ∧
    before.length = place ∧ Indented before ∧ Command command ∧ Setting version setting ∧
    EndsWord rest ∧ '\n' ∉ setting

/-- The first `place` with `P`, and the `version` that stands there. -/
def IsFirst (P : Nat → String → Prop) (place : Nat) (version : String) : Prop :=
  P place version ∧ ∀ place' version', P place' version' → place ≤ place'

variable {text version : String} {place : Nat}

theorem OneLineAt.assignmentAt (h : OneLineAt text place version) :
    AssignmentAt text place version := by
  obtain ⟨before, xs, rest, htext, hplace, hbefore, hxs, hends, -⟩ := h
  exact ⟨before, xs, rest, htext, hplace, hbefore, hxs, hends⟩

theorem AssignmentAt.le_length (h : AssignmentAt text place version) :
    place ≤ text.toList.length := by
  obtain ⟨before, xs, rest, htext, rfl, -⟩ := h
  rw [htext, List.length_append]
  exact Nat.le_add_right _ _

theorem Assignment.ne_nil {xs : List Char} (h : Assignment version xs) : xs ≠ [] := by
  obtain ⟨c, hlast, -⟩ := h.isWord_getLast?
  exact List.ne_nil_of_mem (List.mem_of_mem_getLast? hlast)

theorem assignment_iff {xs : List Char} :
    Assignment version xs ↔
      ∃ command setting, xs = command ++ setting ∧ Command command ∧ Setting version setting := by
  constructor
  · rintro ⟨hcommand, hname, hgap, hspace, hquote, hversion⟩
    exact ⟨_, _, rfl, hcommand, .mk hname hgap hspace hquote hversion⟩
  · rintro ⟨command, _, rfl, hcommand, ⟨hname, hgap, hspace, hquote, hversion⟩⟩
    exact .mk hcommand hname hgap hspace hquote hversion

theorem Setting.assignment {xs : List Char} (h : Setting version xs) : Assignment version xs :=
  assignment_iff.mpr ⟨[], xs, rfl, .none, h⟩

theorem UnbrokenAt.assignmentAt (h : UnbrokenAt text place version) :
    AssignmentAt text place version := by
  obtain ⟨before, command, setting, rest, htext, hplace, hbefore, hcommand, hsetting, hends, -⟩ := h
  refine ⟨before, command ++ setting, rest, ?_, hplace, hbefore, ?_, hends⟩
  · rw [htext, List.append_assoc]
  · exact assignment_iff.mpr ⟨command, setting, rfl, hcommand, hsetting⟩

/-! ### A line cut off -/

section Cut

variable {line before rest cs : List Char}

/-- Only what stands `before` the place behind the last line feed counts for `Indented`. -/
theorem indented_append_cons_iff : Indented (line ++ '\n' :: before) ↔ Indented before := by
  have hline : (line ++ '\n' :: before).rtakeWhile (· != '\n')
      = before.rtakeWhile (· != '\n') := by
    induction before using List.reverseRecOn with
    | nil => rw [List.rtakeWhile_concat_neg _ _ _ (by simp), List.rtakeWhile_nil]
    | append_singleton before c ih =>
      rw [← List.cons_append, ← List.append_assoc, List.rtakeWhile_concat,
        List.rtakeWhile_concat, ih]
  rw [Indented, hline, Indented]

/-- A word that ends with a line, in front of `rest`, ends in front of its line feed. -/
theorem endsWord_append_cons_iff : EndsWord (rest ++ '\n' :: cs) ↔ EndsWord rest := by
  have hfeed : isWord '\n' = false := isWord_of_isBlank (by decide)
  rcases rest with - | ⟨c, rest⟩
  · simp [EndsWord, hfeed]
  · simp [EndsWord]

/-- A `text` that is one line has its assignments on one line. -/
theorem oneLineAt_iff_of_not_mem (h : '\n' ∉ text.toList) :
    OneLineAt text place version ↔ AssignmentAt text place version := by
  refine ⟨OneLineAt.assignmentAt, ?_⟩
  rintro ⟨before, xs, rest, htext, hplace, hbefore, hxs, hends⟩
  refine ⟨before, xs, rest, htext, hplace, hbefore, hxs, hends, fun hmem => h ?_⟩
  rw [htext]
  exact List.mem_append_right _ (List.mem_append_left _ hmem)

/-- What stands on one line, `OneLineAt`, stands on the first `line`, or behind it on a line of the
others, `cs`. -/
theorem oneLineAt_append_cons_iff (hline : '\n' ∉ line) :
    OneLineAt (String.ofList (line ++ '\n' :: cs)) place version ↔
      AssignmentAt (String.ofList line) place version ∨
        ∃ place', place = line.length + 1 + place' ∧
          OneLineAt (String.ofList cs) place' version := by
  constructor
  · rintro ⟨before, xs, rest, htext, rfl, hbefore, hxs, hends, hfeed⟩
    rw [String.toList_ofList] at htext
    rcases List.append_eq_append_iff.mp htext with ⟨ys, rfl, hbehind⟩ | ⟨ys, rfl, hfront⟩
    · -- the line and its line feed stand before the assignment
      rcases ys with - | ⟨y, ys⟩
      · obtain ⟨x, xs', rfl⟩ := List.exists_cons_of_ne_nil hxs.ne_nil
        obtain ⟨rfl, -⟩ := List.cons.inj hbehind
        exact absurd List.mem_cons_self hfeed
      · obtain ⟨rfl, hcs⟩ := List.cons.inj hbehind
        refine .inr ⟨ys.length, ?_, ys, xs, rest, ?_, rfl, ?_, hxs, hends, hfeed⟩
        · rw [List.length_append, List.length_cons]
          omega
        · rw [String.toList_ofList]
          exact hcs
        · exact indented_append_cons_iff.mp hbefore
    · -- the assignment has no line feed, so it ends before the one that ends the line
      obtain ⟨zs, rfl, rfl⟩ := exists_eq_append_of_not_mem hfeed hfront
      refine .inl ⟨before, xs, zs, ?_, rfl, hbefore, hxs, endsWord_append_cons_iff.mp hends⟩
      exact String.toList_ofList
  -- back again: what follows the line leaves its assignments alone, and the line is put in front
  · rintro (⟨before, xs, rest, htext, rfl, hbefore, hxs, hends⟩ |
      ⟨_, rfl, before, xs, rest, htext, rfl, hbefore, hxs, hends, hfeed⟩)
    · rw [String.toList_ofList] at htext
      subst htext
      refine ⟨before, xs, rest ++ '\n' :: cs, ?_, rfl, hbefore, hxs,
        endsWord_append_cons_iff.mpr hends, fun hmem => hline ?_⟩
      · rw [String.toList_ofList, List.append_assoc, List.append_assoc]
      · exact List.mem_append_right _ (List.mem_append_left _ hmem)
    · rw [String.toList_ofList] at htext
      refine ⟨line ++ '\n' :: before, xs, rest, ?_, ?_, indented_append_cons_iff.mpr hbefore, hxs,
        hends, hfeed⟩
      · rw [String.toList_ofList, htext, List.append_assoc, List.cons_append]
      · rw [List.length_append, List.length_cons]
        omega

end Cut

/-! ### Searching line by line -/

theorem IsFirst.unique {version' : String} {place' : Nat}
    (h : IsFirst (OneLineAt text) place version) (h' : IsFirst (OneLineAt text) place' version') :
    version = version' := by
  obtain rfl : place = place' := Nat.le_antisymm (h.2 _ _ h'.1) (h'.2 _ _ h.1)
  exact h.1.assignmentAt.unique h'.1.assignmentAt

section First

variable {line rest : List Char} (hline : '\n' ∉ line)

include hline

/-- The first `place` on the first `line` is the first of all. -/
theorem isFirst_append_cons (h : IsFirst (AssignmentAt (String.ofList line)) place version) :
    IsFirst (OneLineAt (String.ofList (line ++ '\n' :: rest))) place version := by
  have hplace := h.1.le_length
  rw [String.toList_ofList] at hplace
  refine ⟨(oneLineAt_append_cons_iff hline).mpr (.inl h.1), fun place' version' h' => ?_⟩
  rcases (oneLineAt_append_cons_iff hline).mp h' with h' | ⟨place'', rfl, -⟩
  · exact h.2 _ _ h'
  · omega

/-- If there is none on the first `line`, the first place is that of the other lines, `rest`. -/
theorem exists_isFirst_append_cons_iff
    (hnone : ∀ place version, ¬AssignmentAt (String.ofList line) place version) :
    (∃ place, IsFirst (OneLineAt (String.ofList (line ++ '\n' :: rest))) place version) ↔
      ∃ place, IsFirst (OneLineAt (String.ofList rest)) place version := by
  have hbehind : ∀ place version,
      OneLineAt (String.ofList (line ++ '\n' :: rest)) place version ↔
        ∃ place', place = line.length + 1 + place' ∧
          OneLineAt (String.ofList rest) place' version := fun place version => by
    rw [oneLineAt_append_cons_iff hline, or_iff_right (hnone place version)]
  constructor
  · rintro ⟨_, h, hfirst⟩
    obtain ⟨place, rfl, hplace⟩ := (hbehind _ _).mp h
    refine ⟨place, hplace, fun place' version' h' => ?_⟩
    have hle := hfirst _ _ ((hbehind _ _).mpr ⟨place', rfl, h'⟩)
    omega
  · rintro ⟨place, h, hfirst⟩
    refine ⟨_, (hbehind _ _).mpr ⟨place, rfl, h⟩, fun place' version' h' => ?_⟩
    obtain ⟨place'', rfl, h''⟩ := (hbehind _ _).mp h'
    have hle := hfirst _ _ h''
    omega

end First

/-- The first line of `cs` that gives a `version` gives that of the first place on one line. -/
theorem findSome?_splitAll_eq_some_iff (cs : List Char) :
    (splitAll '\n' cs).findSome? (fun line => version? (String.ofList line)) = some version ↔
      ∃ place, IsFirst (OneLineAt (String.ofList cs)) place version := by
  induction cs using splitting_induction '\n' with
  | last line hline =>
    have hsame : OneLineAt (String.ofList line) = AssignmentAt (String.ofList line) := by
      funext place version
      exact propext (oneLineAt_iff_of_not_mem (by rwa [String.toList_ofList]))
    rw [splitAll_of_not_mem hline, List.findSome?_singleton, version?_eq_some_iff, hsame]
    rfl
  | more line rest hline ih =>
    rw [splitAll_append_cons hline, List.findSome?_cons]
    rcases hfound : version? (String.ofList line) with - | found
    · rw [exists_isFirst_append_cons_iff hline (version?_eq_none_iff.mp hfound), ← ih]
    · obtain ⟨place, hplace⟩ := version?_eq_some_iff.mp hfound
      have hfirst : IsFirst (OneLineAt (String.ofList (line ++ '\n' :: rest))) place found :=
        isFirst_append_cons hline hplace
      show some found = some version ↔ _
      constructor
      · intro heq
        exact ⟨place, Option.some.inj heq ▸ hfirst⟩
      · rintro ⟨place', h'⟩
        exact congrArg some (hfirst.unique h')

/-- The lines of `text` give the first assignment that stands on one line. -/
theorem versionByLines?_eq_some_iff :
    versionByLines? text = some version ↔ ∃ place, IsFirst (OneLineAt text) place version := by
  rw [versionByLines?, findSome?_splitAll_eq_some_iff, String.ofList_toList]

/-! ### A line feed behind the command -/

/-- In front of an `Indented` place stands no letter. -/
theorem Indented.isBlank_getLast? {before : List Char} (h : Indented before) :
    ∀ c ∈ before.getLast?, isBlank c := by
  intro c hc
  obtain ⟨front, rfl⟩ := List.getLast?_eq_some_iff.mp (Option.mem_def.mp hc)
  by_cases hfeed : c = '\n'
  · rw [hfeed]
    decide
  · refine h c ?_
    rw [List.rtakeWhile_concat_pos _ _ _ (by simpa using hfeed)]
    exact List.mem_append_right _ (List.mem_singleton_self c)

/-- No assignment starts inside a `word`, directly behind it, or in the `blanks` that follow. -/
theorem AssignmentAt.le_of_word {front word blanks rest : List Char}
    (h : AssignmentAt text place version)
    (htext : text.toList = front ++ ((word ++ blanks) ++ rest))
    (hword : ∀ c ∈ word, isBlank c = false) (hblanks : ∀ c ∈ blanks, isBlank c)
    (hfront : front.length < place) : (front ++ (word ++ blanks)).length ≤ place := by
  have hbehind : (front ++ word).length ≤ place := by
    by_contra hle
    obtain ⟨before, xs, rest', htext', rfl, hbefore, -, -⟩ := h
    -- the place is inside the word, so a part of the word stands before it
    obtain ⟨part, rfl⟩ : front <+: before :=
      List.prefix_of_prefix_length_le ⟨_, htext.symm⟩ ⟨_, htext'.symm⟩ (Nat.le_of_lt hfront)
    have heq : part ++ (xs ++ rest') = word ++ (blanks ++ rest) := by
      refine (List.append_right_inj front).mp ?_
      rw [← List.append_assoc, ← htext', htext, List.append_assoc word]
    have hpart : part <+: word := by
      refine List.prefix_of_prefix_length_le ⟨_, rfl⟩ ⟨_, heq.symm⟩ ?_
      rw [List.length_append, List.length_append] at hle
      omega
    rcases part.eq_nil_or_concat with rfl | ⟨letters, c, rfl⟩
    · rw [List.append_nil] at hfront
      exact Nat.lt_irrefl _ hfront
    · have hblank : isBlank c := hbefore.isBlank_getLast? c (by simp)
      rw [hword c (hpart.subset (by simp))] at hblank
      cases hblank
  have hcut : text.toList = (front ++ word) ++ (blanks ++ rest) := by
    rw [htext, List.append_assoc, List.append_assoc]
  rw [← List.append_assoc]
  exact h.le_of_isBlank hcut hblanks hbehind

/-- Where an assignment stands on one line, its `command` does. -/
theorem OneLineAt.not_mem_command {before command setting rest : List Char} {version' : String}
    (h : OneLineAt text before.length version')
    (htext : text.toList = before ++ (command ++ (setting ++ rest))) (hcommand : Command command)
    (hsetting : Setting version setting) : '\n' ∉ command := by
  obtain ⟨before', xs, rest', htext', hplace, -, hxs, -, hfeed⟩ := h
  obtain ⟨-, heq⟩ := List.append_inj (htext'.symm.trans htext) hplace
  obtain ⟨command', setting', rfl, hcommand', hsetting'⟩ := assignment_iff.mp hxs
  obtain ⟨hname, -, -, -, -⟩ := hsetting
  obtain ⟨hname', -, -, -, -⟩ := hsetting'
  simp only [List.append_assoc] at heq
  obtain ⟨rfl, -⟩ := hcommand'.unique hcommand hname' hname heq
  exact fun hmem => hfeed (List.mem_append_left _ hmem)

/-- Where there is a line feed in a `command`, white space leads up to it from the last letter on,
`upper`, and white space follows it, `lower`. -/
theorem Command.exists_break {command : List Char} (h : Command command)
    (hbreak : '\n' ∈ command) :
    ∃ word upper lower, command = word ++ (upper ++ '\n' :: lower) ∧
      (∀ c ∈ word, isBlank c = false) ∧ ∀ c ∈ upper ++ '\n' :: lower, isBlank c := by
  obtain - | @⟨word, space, hname, -, hspace⟩ := h
  · cases hbreak
  have hword : ∀ c ∈ word, isBlank c = false := isBlank_of_map_fold hname (by decide)
  rcases List.mem_append.mp hbreak with hmem | hmem
  · exact absurd (hword _ hmem) (by decide)
  · obtain ⟨upper, lower, rfl⟩ := List.append_of_mem hmem
    exact ⟨word, upper, lower, rfl, hword, hspace⟩

/-- If the first assignment is `UnbrokenAt` its place, the first one that stands on one line is the
same, save for a command on a line before. -/
theorem UnbrokenAt.exists_isFirst (h : UnbrokenAt text place version)
    (hfirst : ∀ place' version', AssignmentAt text place' version' → place ≤ place') :
    ∃ place', IsFirst (OneLineAt text) place' version := by
  obtain ⟨before, command, setting, rest, htext, rfl, hbefore, hcommand, hsetting, hends, hfeed⟩ := h
  by_cases hbreak : '\n' ∈ command
  -- with a line feed behind the command, the name of the setting starts a line of its own
  · obtain ⟨word, upper, lower, rfl, hword, hspace⟩ := hcommand.exists_break hbreak
    have hindented : Indented (before ++ (word ++ (upper ++ '\n' :: lower))) := by
      refine indented_iff.mpr ⟨before ++ (word ++ (upper ++ ['\n'])), lower, by simp, by simp, ?_⟩
      exact fun c hc => hspace c (List.mem_append_right _ (List.mem_cons_of_mem _ hc))
    refine ⟨_, ⟨_, setting, rest, ?_, rfl, hindented, hsetting.assignment, hends, hfeed⟩,
      fun place' version' h' => ?_⟩
    · rw [htext, ← List.append_assoc before]
    · -- at the place of the command itself the assignment is not on one line
      have hne : before.length ≠ place' := by
        rintro rfl
        exact h'.not_mem_command htext hcommand hsetting hbreak
      have hlt := Nat.lt_of_le_of_ne (hfirst _ _ h'.assignmentAt) hne
      exact h'.assignmentAt.le_of_word htext hword hspace hlt
  · refine ⟨before.length, ⟨before, command ++ setting, rest, ?_, rfl, hbefore, ?_, hends, ?_⟩,
      fun place' version' h' => hfirst place' version' h'.assignmentAt⟩
    · rw [htext, List.append_assoc]
    · exact assignment_iff.mpr ⟨command, setting, rfl, hcommand, hsetting⟩
    · rw [List.mem_append]
      exact not_or.mpr ⟨hbreak, hfeed⟩

/-! ### The whole text and its lines -/

/-- Whole and by lines, `text` has the same version exactly if its first assignment and the first
one on one line have. -/
theorem version?_eq_versionByLines?_iff :
    version? text = versionByLines? text ↔
      ∀ place version, IsFirst (AssignmentAt text) place version →
        ∃ place', IsFirst (OneLineAt text) place' version := by
  constructor
  · intro heq place version h
    rw [← versionByLines?_eq_some_iff, ← heq]
    exact version?_eq_some_iff.mpr ⟨place, h⟩
  · intro h
    rcases hfound : version? text with - | version
    · -- without an assignment there is none on a line
      rcases hlines : versionByLines? text with - | version
      · rfl
      · obtain ⟨place, hplace, -⟩ := versionByLines?_eq_some_iff.mp hlines
        exact absurd hplace.assignmentAt (version?_eq_none_iff.mp hfound _ _)
    · obtain ⟨place, hplace⟩ := version?_eq_some_iff.mp hfound
      exact (versionByLines?_eq_some_iff.mpr (h place version hplace)).symm

/-- **Sidecar files and their lines.**  `versionByLines?`, the first line that gives a version,
gives that of the first assignment that stands on one line, `OneLineAt`, and none if there is no
such assignment.  `version?`, the whole text, gives that of its first assignment, `AssignmentAt`,
also if that is broken over lines.  So both agree exactly if the first assignment and the first one
on one line have the same `version`; they do if the first assignment is `UnbrokenAt` its place, with
no line feed from its name on, whether there is one behind its command or not. -/
theorem version_by_lines (text : String) :
    (∀ version, versionByLines? text = some version ↔
      ∃ place, IsFirst (OneLineAt text) place version) ∧
    (∀ version, version? text = some version ↔
      ∃ place, IsFirst (AssignmentAt text) place version) ∧
    (version? text = versionByLines? text ↔
      ∀ place version, IsFirst (AssignmentAt text) place version →
        ∃ place', IsFirst (OneLineAt text) place' version) ∧
    ∀ place version, IsFirst (AssignmentAt text) place version → UnbrokenAt text place version →
      version? text = some version ∧ versionByLines? text = some version := by
  refine ⟨fun version => versionByLines?_eq_some_iff, fun version => version?_eq_some_iff,
    version?_eq_versionByLines?_iff, fun place version hfirst hunbroken => ⟨?_, ?_⟩⟩
  · exact version?_eq_some_iff.mpr ⟨place, hfirst⟩
  · exact versionByLines?_eq_some_iff.mpr (hunbroken.exists_isFirst hfirst.2)

/-- A line feed behind the command: `version?` finds the version in the text, and `versionByLines?`
in the second one of its lines. -/
theorem command_on_line_before :
    version? "set\nSOF_VERSION = 2022" = some "2022" ∧
      versionByLines? "set\nSOF_VERSION = 2022" = some "2022" := by
  have hspace : ∀ c ∈ [' '], isBlank c := List.forall_mem_singleton.mpr (by decide)
  have hfeed : ∀ c ∈ ['\n'], isBlank c := List.forall_mem_singleton.mpr (by decide)
  have hnumber : IsNumber "2022" := ⟨by decide, by decide, List.all_eq_true.mp (by decide)⟩
  have hsetting : Setting "2022" "SOF_VERSION = 2022".toList :=
    @Setting.mk _ "SOF_VERSION".toList [' '] [' '] [] (by decide) hspace hspace .none hnumber
  have hcommand : Command "set\n".toList :=
    @Command.set "set".toList ['\n'] (by decide) (by decide) hfeed
  have hunbroken : UnbrokenAt "set\nSOF_VERSION = 2022" 0 "2022" :=
    ⟨[], _, _, [], by decide, rfl, by simp [Indented], hcommand, hsetting, by simp [EndsWord],
      by decide⟩
  obtain ⟨-, -, -, hagree⟩ := version_by_lines "set\nSOF_VERSION = 2022"
  exact hagree 0 "2022" ⟨hunbroken.assignmentAt, fun _ _ _ => Nat.zero_le _⟩ hunbroken

/-- A line feed behind the equals sign: `version?` puts a version together from two lines, neither
of which gives one to `versionByLines?`, and it hides that of the next line. -/
theorem assignment_across_lines :
    version? "SOF_VERSION =\n2022" = some "2022" ∧ versionByLines? "SOF_VERSION =\n2022" = none ∧
      version? "SOF_VERSION =\n2022\nSOF_VERSION = 2024" = some "2022" ∧
      versionByLines? "SOF_VERSION =\n2022\nSOF_VERSION = 2024" = some "2024" := by
  decide +kernel

end DeckKeywords.Sidecar
