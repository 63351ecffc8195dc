/-
DeckKeywords/Proofs/Availability.lean

Tags and what they mean.  A tag is cut at its separators and the parts are
trimmed, so what is read is made of trimmed parts in which no separator is left
that would have cut them: `Readable` says this, kind by kind.

The written tag puts the separators back between the parts.  Trimmed parts with
a visible character between them are trimmed as a whole, and cutting gives them
back, so whatever is readable is read from its own tag.  Reading a tag and
writing it again thus changes spelling only, and a second time nothing.

Main result: `tags_read_back`.
-/
import DeckKeywords.Availability
import DeckKeywords.Proofs.Text.Split

namespace DeckKeywords

open Text (trimBlanks IsTrimmed isTrimmed_trimBlanks trimBlanks_eq_self_iff trimBlanks_eq_nil_iff
  mem_of_mem_trimBlanks splitAll splitFirst)

namespace Availability

/-! ### The four kinds of tags -/

variable {s : String} {cs : List Char}

/-- A tag `s` of white space says nothing. -/
theorem parse_of_isBlankText (h : Text.isBlankText s) : parse s = none := by
  have hcs : trimBlanks s.toList = [] := trimBlanks_eq_nil_iff.mpr h
  rw [parse, hcs]
  rfl

theorem parse_of_comma (hcs : trimBlanks s.toList = cs) (hcomma : ',' ∈ cs) :
    parse s = some (only ((splitAll ',' cs).map trimmed)) := by
  have hne : cs.isEmpty = false := List.isEmpty_eq_false_iff.mpr (List.ne_nil_of_mem hcomma)
  simp [parse, hcs, hne, hcomma]

theorem parse_of_dash {first last : List Char} (hcs : trimBlanks s.toList = first ++ '-' :: last)
    (hcomma : ',' ∉ first ++ '-' :: last) (hdash : '-' ∉ first) :
    parse s = some (range (trimmed first) (trimmed last)) := by
  rw [parse, hcs]
  simp only [List.contains_eq_mem, hcomma, Text.splitFirst_append_cons hdash]
  simp

theorem parse_of_plain (hcs : trimBlanks s.toList = cs) (hne : cs ≠ []) (hcomma : ',' ∉ cs)
    (hdash : '-' ∉ cs) : parse s = some (since (String.ofList cs)) := by
  simp [parse, hcs, hne, hcomma, Text.splitFirst_of_not_mem hdash]

/-! ### What can be read -/

/-- A part `version` of a tag: without white space around it, and not cut by a comma. -/
structure IsPart (version : String) : Prop where
  trimmed : IsTrimmed version.toList
  comma : ',' ∉ version.toList

/-- The availabilities that tags have: `since` a version that no separator cuts, `only` at least two
parts, or a `range` of two parts of which the first one is not cut by a dash. -/
inductive Readable : Availability → Prop where
  | since {first : String} (hfirst : IsPart first) (hne : first ≠ "")
    (hdash : '-' ∉ first.toList) : Readable (since first)
  | only {versions : List String} (hlength : 2 ≤ versions.length)
    (hparts : ∀ v ∈ versions, IsPart v) : Readable (only versions)
  | range {first last : String} (hfirst : IsPart first) (hlast : IsPart last)
    (hdash : '-' ∉ first.toList) : Readable (range first last)

@[simp] theorem toList_trimmed (cs : List Char) : (trimmed cs).toList = trimBlanks cs :=
  String.toList_ofList

theorem isPart_trimmed (h : ',' ∉ cs) : IsPart (trimmed cs) where
  trimmed := by simpa using isTrimmed_trimBlanks cs
  comma := by simpa using mt mem_of_mem_trimBlanks h

theorem IsPart.trimmed_toList {version : String} (h : IsPart version) :
    Availability.trimmed version.toList = version := by
  rw [Availability.trimmed, trimBlanks_eq_self_iff.mpr h.trimmed, String.ofList_toList]

/-- A comma cuts `cs` into two parts at least. -/
theorem two_le_length_splitAll (h : ',' ∈ cs) : 2 ≤ (splitAll ',' cs).length := by
  obtain ⟨part, rest, rfl, hpart⟩ := List.eq_append_cons_of_mem h
  have hrest : 0 < (splitAll ',' rest).length := List.length_pos_of_ne_nil (Text.splitAll_ne_nil _ _)
  rw [Text.splitAll_append_cons hpart, List.length_cons]
  omega

theorem readable_of_parse {a : Availability} (h : parse s = some a) : Readable a := by
  generalize hcs : trimBlanks s.toList = cs at h
  -- the cases of a tag, in the order in which they are decided
  by_cases hne : cs = []
  · rw [parse_of_isBlankText (trimBlanks_eq_nil_iff.mp (hcs.trans hne))] at h
    cases h
  by_cases hcomma : ',' ∈ cs
  · rw [parse_of_comma hcs hcomma] at h
    cases h
    refine .only ?_ fun v hv => ?_
    · rw [List.length_map]
      exact two_le_length_splitAll hcomma
    · obtain ⟨part, hpart, rfl⟩ := List.mem_map.mp hv
      exact isPart_trimmed (Text.not_mem_of_mem_splitAll hpart)
  by_cases hdash : '-' ∈ cs
  · obtain ⟨first, last, rfl, hfirst⟩ := List.eq_append_cons_of_mem hdash
    rw [parse_of_dash hcs hcomma hfirst] at h
    cases h
    have hcomma₁ : ',' ∉ first := fun hmem => hcomma (List.mem_append_left _ hmem)
    have hcomma₂ : ',' ∉ last := fun hmem =>
      hcomma (List.mem_append_right _ (List.mem_cons_of_mem _ hmem))
    refine .range (isPart_trimmed hcomma₁) (isPart_trimmed hcomma₂) ?_
    simpa using mt mem_of_mem_trimBlanks hfirst
  · rw [parse_of_plain hcs hne hcomma hdash] at h
    cases h
    have htrimmed : IsTrimmed cs := hcs ▸ isTrimmed_trimBlanks s.toList
    refine .since ⟨?_, ?_⟩ ?_ ?_
    · rwa [String.toList_ofList]
    · rwa [String.toList_ofList]
    · rwa [Ne, String.ofList_eq_empty_iff]
    · rwa [String.toList_ofList]

/-- `parse` gives nothing for a tag `s` of white space only. -/
theorem parse_eq_none_iff : parse s = none ↔ Text.isBlankText s := by
  refine ⟨fun h => ?_, parse_of_isBlankText⟩
  by_contra hblank
  have hne : trimBlanks s.toList ≠ [] := fun hnil => hblank (trimBlanks_eq_nil_iff.mp hnil)
  by_cases hcomma : ',' ∈ trimBlanks s.toList
  · rw [parse_of_comma rfl hcomma] at h
    cases h
  by_cases hdash : '-' ∈ trimBlanks s.toList
  · obtain ⟨first, last, hcs, hfirst⟩ := List.eq_append_cons_of_mem hdash
    rw [parse_of_dash hcs (hcs ▸ hcomma) hfirst] at h
    cases h
  · rw [parse_of_plain rfl hne hcomma hdash] at h
    cases h

/-! ### Reading what was written -/

/-- Parts between commas, `only versions`, are read again. -/
theorem parse_tag_only {versions : List String} (hlength : 2 ≤ versions.length)
    (hparts : ∀ v ∈ versions, IsPart v) : parse (only versions).tag = some (only versions) := by
  have htag : (only versions).tag.toList = [','].intercalate (versions.map String.toList) :=
    String.toList_intercalate
  have hne : versions.map String.toList ≠ [] := by
    intro hnil
    rw [List.map_eq_nil_iff.mp hnil] at hlength
    exact absurd hlength (by decide)
  have hcommas : ∀ p ∈ versions.map String.toList, ',' ∉ p := by
    simpa using fun v hv => (hparts v hv).comma
  have htrimmed : IsTrimmed ([','].intercalate (versions.map String.toList)) := by
    refine Text.isTrimmed_intercalate (by decide) ?_
    simpa using fun v hv => (hparts v hv).trimmed
  -- there are two parts at least, so the written tag has a comma
  have hmem : ',' ∈ [','].intercalate (versions.map String.toList) := by
    rcases versions with - | ⟨v, - | ⟨w, rest⟩⟩
    · simp at hlength
    · simp at hlength
    · simp [List.intercalate_cons_cons]
  rw [parse_of_comma ((trimBlanks_eq_self_iff.mpr (htag ▸ htrimmed)).trans htag) hmem,
    Text.splitAll_intercalate hne hcommas, List.map_map]
  refine congrArg (fun vs => some (only vs)) ?_
  calc versions.map (trimmed ∘ String.toList)
      = versions.map id := List.map_congr_left fun v hv => (hparts v hv).trimmed_toList
    _ = versions := List.map_id versions

theorem parse_tag_range {first last : String} (hfirst : IsPart first) (hlast : IsPart last)
    (hdash : '-' ∉ first.toList) :
    parse (range first last).tag = some (range first last) := by
  have htag : (range first last).tag.toList = first.toList ++ '-' :: last.toList := by
    rw [tag, String.toList_append, String.toList_append, List.append_assoc]
    rfl
  have htrimmed : IsTrimmed (first.toList ++ '-' :: last.toList) :=
    hfirst.trimmed.append_cons (by decide) hlast.trimmed
  have hcomma : ',' ∉ first.toList ++ '-' :: last.toList := by
    simp [hfirst.comma, hlast.comma]
  rw [parse_of_dash ((trimBlanks_eq_self_iff.mpr (htag ▸ htrimmed)).trans htag) hcomma hdash,
    hfirst.trimmed_toList, hlast.trimmed_toList]

/-- Whatever is `Readable` is read from `a.tag`, the tag that is written for it. -/
theorem Readable.parse_tag {a : Availability} (h : Readable a) : parse a.tag = some a := by
  cases h with
  | @since first hfirst hne hdash =>
    have hchars : first.toList ≠ [] := fun hnil => hne (String.toList_eq_nil_iff.mp hnil)
    have hcs : trimBlanks first.toList = first.toList := trimBlanks_eq_self_iff.mpr hfirst.trimmed
    rw [tag, parse_of_plain hcs hchars hfirst.comma hdash, String.ofList_toList]
  | only hlength hparts => exact parse_tag_only hlength hparts
  | range hfirst hlast hdash => exact parse_tag_range hfirst hlast hdash

/-- **Written tags are read back.** The tag `a.tag`, written for what `s` means, has that
meaning. -/
theorem parse_tag {a : Availability} (h : parse s = some a) : parse a.tag = some a :=
  (readable_of_parse h).parse_tag

/-- The tag that is written for what `s` means, if it says anything. -/
def normalised? (s : String) : Option String := (parse s).map tag

theorem normalised?_idempotent (s : String) :
    (normalised? s).bind normalised? = normalised? s := by
  rcases h : parse s with - | a
  · simp [normalised?, h]
  · simp [normalised?, h, parse_tag h]

/-- **Tags and their meanings.**  `parse s` says nothing exactly if the tag `s` is blank.  What tags
can say is just what is `Readable`: a version, trimmed and not empty, without a comma and without a
dash; at least two versions, each trimmed and without a comma; or two of these as the ends of a
range, the first one without a dash.  The tag `a.tag` that is written for what a tag says is read as
the same, so `normalised?`, which reads a tag and writes it again, gives a form that stays as it
is. -/
theorem tags_read_back :
    (∀ s a, parse s = some a → parse a.tag = some a) ∧
    (∀ s, parse s = none ↔ Text.isBlankText s) ∧
    (∀ a, (∃ s, parse s = some a) ↔ Readable a) ∧
    ∀ s, ((normalised? s).isSome ↔ ¬Text.isBlankText s) ∧
      (normalised? s).bind normalised? = normalised? s := by
  refine ⟨fun s a => parse_tag, fun s => parse_eq_none_iff, fun a => ?_, fun s => ⟨?_, ?_⟩⟩
  · constructor
    · rintro ⟨s, h⟩
      exact readable_of_parse h
    · intro h
      exact ⟨a.tag, h.parse_tag⟩
  · rw [normalised?, Option.isSome_map, ← parse_eq_none_iff, Option.isSome_iff_ne_none]
  · exact normalised?_idempotent s

/-- Empty parts, further dashes and white space around parts: what `parse` gives for them has
another tag, and `parse` gives the same for that. -/
theorem padded_tags_read_back :
    parse " , 2020-2024 ,," = some (only ["", "2020-2024", "", ""]) ∧
    parse ",2020-2024,," = some (only ["", "2020-2024", "", ""]) ∧
    parse "- 2020 -" = some (range "" "2020 -") ∧ parse "-2020 -" = some (range "" "2020 -") := by
  have honly : parse " , 2020-2024 ,," = some (only ["", "2020-2024", "", ""]) := by decide
  have hrange : parse "- 2020 -" = some (range "" "2020 -") := by decide
  have honlyTag : (only ["", "2020-2024", "", ""]).tag = ",2020-2024,," := by decide +kernel
  have hrangeTag : (range "" "2020 -").tag = "-2020 -" := by decide +kernel
  refine ⟨honly, ?_, hrange, ?_⟩
  · rw [← honlyTag]
    exact tags_read_back.1 _ _ honly
  · rw [← hrangeTag]
    exact tags_read_back.1 _ _ hrange

end Availability

end DeckKeywords
