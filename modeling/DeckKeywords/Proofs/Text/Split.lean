/-
DeckKeywords/Proofs/Text/Split.lean

Cutting a text at a separator, by what the text is made of: parts in which the
separator does not occur, with one between each two of them.  Trimmed parts put
together again are trimmed, and cutting gives them back.  The first line is what
stands before the first line feed, a carriage return aside.

One text occurs inside another if its characters are an unbroken part of those of
the other one.
-/
import DeckKeywords.Proofs.Text.Trim
import DeckKeywords.Text.Split

namespace DeckKeywords.Text

variable {sep : Char}

/-! ### Cutting at a separator -/

theorem splitAll_of_not_mem {cs : List Char} (h : sep ∉ cs) : splitAll sep cs = [cs] := by
  induction cs with
  | nil => rfl
  | cons c cs ih =>
    rw [List.mem_cons, not_or] at h
    rw [splitAll, if_neg (Ne.symm h.1), ih h.2]

theorem splitAll_append_cons {part : List Char} (h : sep ∉ part) (cs : List Char) :
    splitAll sep (part ++ sep :: cs) = part :: splitAll sep cs := by
  induction part with
  | nil => rw [List.nil_append, splitAll, if_pos rfl]
  | cons c part ih =>
    rw [List.mem_cons, not_or] at h
    rw [List.cons_append, splitAll, if_neg (Ne.symm h.1), ih h.2]

/-- Parts without the separator `sep` are what a text is cut into that has them between
separators. -/
theorem splitAll_intercalate {parts : List (List Char)} (hne : parts ≠ [])
    (h : ∀ p ∈ parts, sep ∉ p) : splitAll sep ([sep].intercalate parts) = parts := by
  induction parts with
  | nil => exact absurd rfl hne
  | cons p parts ih =>
    have hp : sep ∉ p := h p List.mem_cons_self
    rcases parts with - | ⟨q, parts⟩
    · rw [List.intercalate_singleton, splitAll_of_not_mem hp]
    · rw [List.intercalate_cons_cons, List.append_assoc, List.singleton_append,
        splitAll_append_cons hp, ih (List.cons_ne_nil q parts)]
      exact fun r hr => h r (List.mem_cons_of_mem p hr)

theorem splitAll_ne_nil (sep : Char) (cs : List Char) : splitAll sep cs ≠ [] := by
  by_cases h : sep ∈ cs
  · obtain ⟨part, rest, rfl, hpart⟩ := List.eq_append_cons_of_mem h
    rw [splitAll_append_cons hpart]
    exact List.cons_ne_nil _ _
  · rw [splitAll_of_not_mem h]
    exact List.cons_ne_nil _ _

/-- To show `P` of every text, it is enough to show it of a text that is not cut at `sep`, and of
one that is cut off a shorter text of which it holds. -/
@[elab_as_elim]
theorem splitting_induction (sep : Char) {P : List Char → Prop} (last : ∀ part, sep ∉ part → P part)
    (more : ∀ part rest, sep ∉ part → P rest → P (part ++ sep :: rest)) (cs : List Char) :
    P cs := by
  by_cases h : sep ∈ cs
  · obtain ⟨part, rest, heq, hpart⟩ := List.eq_append_cons_of_mem h
    rw [heq]
    exact more part rest hpart (splitting_induction sep last more rest)
  · exact last cs h
termination_by cs.length
decreasing_by
  rw [heq, List.length_append, List.length_cons]
  omega

/-- The separators `sep` stand between the parts and in none of them. -/
theorem not_mem_of_mem_splitAll {cs p : List Char} (h : p ∈ splitAll sep cs) : sep ∉ p := by
  induction cs using splitting_induction sep with
  | last part hpart =>
    rw [splitAll_of_not_mem hpart] at h
    obtain rfl := List.mem_singleton.mp h
    exact hpart
  | more part rest hpart ih =>
    rw [splitAll_append_cons hpart] at h
    rcases List.mem_cons.mp h with rfl | h
    · exact hpart
    · exact ih h

/-- What has no separator, like `xs`, ends before the first one. -/
theorem exists_eq_append_of_not_mem {xs rest front behind : List Char} (h : sep ∉ xs)
    (heq : xs ++ rest = front ++ sep :: behind) :
    ∃ ys, front = xs ++ ys ∧ rest = ys ++ sep :: behind := by
  rcases List.append_eq_append_iff.mp heq with ⟨ys, hfront, hrest⟩ | ⟨ys, hxs, hbehind⟩
  · exact ⟨ys, hfront, hrest⟩
  · rcases ys with - | ⟨y, ys⟩
    · rw [List.append_nil] at hxs
      exact ⟨[], by rw [hxs, List.append_nil], hbehind.symm⟩
    · obtain ⟨rfl, -⟩ := List.cons.inj hbehind
      exact absurd (hxs ▸ List.mem_append_right front List.mem_cons_self) h

theorem splitFirst_of_not_mem {cs : List Char} (h : sep ∉ cs) : splitFirst sep cs = none := by
  induction cs with
  | nil => rfl
  | cons c cs ih =>
    rw [List.mem_cons, not_or] at h
    rw [splitFirst, if_neg (Ne.symm h.1), ih h.2, Option.map_none]

theorem splitFirst_append_cons {before : List Char} (h : sep ∉ before) (after : List Char) :
    splitFirst sep (before ++ sep :: after) = some (before, after) := by
  induction before with
  | nil => rw [List.nil_append, splitFirst, if_pos rfl]
  | cons c before ih =>
    rw [List.mem_cons, not_or] at h
    rw [List.cons_append, splitFirst, if_neg (Ne.symm h.1), ih h.2]
    rfl

theorem takeWhile_of_not_mem {cs : List Char} (h : sep ∉ cs) : cs.takeWhile (· ≠ sep) = cs := by
  rw [List.takeWhile_eq_self_iff]
  intro c hc
  simpa using ne_of_mem_of_not_mem hc h

theorem takeWhile_append_cons {before : List Char} (h : sep ∉ before) (after : List Char) :
    (before ++ sep :: after).takeWhile (· ≠ sep) = before := by
  rw [List.takeWhile_append_of_pos, List.takeWhile_cons_of_neg (by simp), List.append_nil]
  intro c hc
  simpa using ne_of_mem_of_not_mem hc h

/-! ### The first line -/

/-- The first line of `cs` is what stands before the first line feed, less a carriage return at its
end if there is a line feed at all. -/
theorem firstLine_cases (cs : List Char) :
    cs.takeWhile (· ≠ '\n') = firstLine cs ∨ cs.takeWhile (· ≠ '\n') = firstLine cs ++ ['\r'] := by
  by_cases h : '\n' ∈ cs
  · obtain ⟨line, rest, rfl, hline⟩ := List.eq_append_cons_of_mem h
    have hfirst : firstLine (line ++ '\n' :: rest)
        = if line.getLast? = some '\r' then line.dropLast else line := by
      rw [firstLine, splitFirst_append_cons hline]
    rw [takeWhile_append_cons hline, hfirst]
    by_cases hreturn : line.getLast? = some '\r'
    · rw [if_pos hreturn]
      exact .inr (List.dropLast_append_getLast? '\r' hreturn).symm
    · exact .inl (if_neg hreturn).symm
  · refine .inl ?_
    rw [takeWhile_of_not_mem h, firstLine, splitFirst_of_not_mem h]

theorem not_mem_firstLine (cs : List Char) : '\n' ∉ firstLine cs := by
  have hline : '\n' ∉ cs.takeWhile (· ≠ '\n') := fun h => by
    simpa using List.mem_takeWhile_imp h
  rcases firstLine_cases cs with h | h
  · rwa [h] at hline
  · rw [h, List.mem_append, not_or] at hline
    exact hline.1

/-! ### One text inside another -/

theorem occursIn_iff {part cs : List Char} : occursIn part cs ↔ part <:+: cs := by
  induction cs with
  | nil => rw [List.infix_nil, occursIn, List.isEmpty_iff]
  | cons c cs ih =>
    rw [occursIn, Bool.or_eq_true, List.isPrefixOf_iff_prefix, ih, List.infix_cons_iff]

theorem isPartOf_iff {part whole : String} :
    isPartOf part whole ↔ part.toList <:+: whole.toList := occursIn_iff

/-! ### Parts put together again -/

/-- Trimmed `parts` with a visible separator `sep` between them are trimmed. -/
theorem isTrimmed_intercalate {parts : List (List Char)} (hsep : isBlank sep = false)
    (h : ∀ p ∈ parts, IsTrimmed p) : IsTrimmed ([sep].intercalate parts) := by
  induction parts with
  | nil => exact ⟨by simp, by simp⟩
  | cons p parts ih =>
    have hp : IsTrimmed p := h p List.mem_cons_self
    rcases parts with - | ⟨q, parts⟩
    · rwa [List.intercalate_singleton]
    · rw [List.intercalate_cons_cons, List.append_assoc]
      exact hp.append_cons hsep (ih fun r hr => h r (List.mem_cons_of_mem p hr))

end DeckKeywords.Text
