/-
DeckKeywords/Proofs/Detection/Marker.lean

Which first lines are markers.  The pattern is cut in two, behind its version:

  * `heading`, up to the version.  Its language is `Heading`, and a line has one
    front in it at most where a word ends, `Heading.unique`.  This is why the
    pattern never settles for fewer digits than there are.
  * `ending`, the service pack and the two letters, each of which may be missing,
    and the end of a word.  It matches exactly if a word ends at the version
    already, `isSome_first?_ending`: the optional parts are given up if they do not
    fit, and never make a line unmarked.

So the version is read off the first part alone, and the second one only tells
the language, `first?_ending`.  Main result: `marked_iff_heading`.
-/
import DeckKeywords.Marker
import DeckKeywords.Proofs.Detection.Numbers
import DeckKeywords.Proofs.Text.Matcher
import DeckKeywords.Proofs.Text.Word

namespace DeckKeywords.Marker

open Text Text.Matcher

/-! ### What a marker is made of -/

/-- A marker up to its `version`: white space, the at-sign, the name of the product in any case, and
the digits, with white space between them or without. -/
inductive Heading (version : String) : List Char → Prop where
  | mk {lead gap name space : List Char} (hlead : ∀ c ∈ lead, isBlank c)
    (hgap : ∀ c ∈ gap, isBlank c) (hname : name.map fold = "sofistik".toList)
    (hspace : ∀ c ∈ space, isBlank c) (hversion : IsNumber version) :
    Heading version (lead ++ '@' :: (gap ++ (name ++ (space ++ version.toList))))

/-- A service pack behind a version: nothing, or a hyphen with one or two digits. -/
inductive ServicePack : List Char → Prop where
  | none : ServicePack []
  | digits {ds : List Char} (hpos : 1 ≤ ds.length) (hshort : ds.length ≤ 2)
    (hdigits : ∀ c ∈ ds, isDigit c) : ServicePack ('-' :: ds)

/-- Two `letters` behind a version, of a word that ends with them: they stand behind white space,
and a `ServicePack` may stand before that. -/
inductive Lettered (letters : List Char) : List Char → Prop where
  | mk {pack blanks rest : List Char} (hpack : ServicePack pack) (hne : blanks ≠ [])
    (hblanks : ∀ c ∈ blanks, isBlank c) (hends : EndsWord rest) :
    Lettered letters (pack ++ (blanks ++ (letters ++ rest)))

/-- The two letters `behind` a version are the code of the language `l`, in either case. -/
def NamesLanguage (l : Language) (behind : List Char) : Prop :=
  ∃ letters, letters.map Char.toLower = l.code.toList ∧ Lettered letters behind

/-! ### The front of a marker -/

/-- The `pattern` up to its version. -/
def heading : Matcher (List Char) := do
  skipMany isBlank
  let _ ← char (· == '@')
  skipMany isBlank
  let _ ← word "sofistik"
  skipMany isBlank
  oneTo isDigit 4

theorem reads_heading : Reads heading fun cs xs => Heading (String.ofList cs) xs := by
  refine ((reads_skipMany _).bind fun _ => (reads_char _).bind fun _ => (reads_skipMany _).bind
    fun _ => (reads_word rfl).bind fun _ => (reads_skipMany _).bind
      fun _ => reads_oneTo _ (by decide)).congr fun cs xs => ?_
  constructor
  · rintro ⟨_, lead, _, rfl, hlead, _, _, _, rfl, ⟨hat, rfl⟩, _, gap, _, rfl, hgap, _, name, _, rfl,
      ⟨-, hname⟩, _, space, _, rfl, hspace, rfl, hversion⟩
    obtain rfl := beq_iff_eq.mp hat
    have hheading := Heading.mk hlead hgap hname hspace (isNumber_ofList_iff.mpr hversion)
    rwa [String.toList_ofList] at hheading
  · rintro ⟨hlead, hgap, hname, hspace, hversion⟩
    rw [isNumber_ofList_iff] at hversion
    rw [String.toList_ofList]
    exact ⟨(), _, _, rfl, hlead, _, ['@'], _, rfl, ⟨rfl, rfl⟩, (), _, _, rfl, hgap, _, _, _, rfl,
      ⟨rfl, hname⟩, (), _, _, rfl, hspace, rfl, hversion⟩

/-- Where a word ends behind the version, the line `xs ++ rest` has one front only. -/
theorem Heading.unique {version version' : String} {xs ys rest rest' : List Char}
    (h : Heading version xs) (hends : EndsWord rest) (h' : Heading version' ys)
    (hends' : EndsWord rest') (heq : xs ++ rest = ys ++ rest') : version = version' ∧ xs = ys := by
  obtain @⟨lead, gap, name, space, hlead, hgap, hname, hspace, hversion⟩ := h
  obtain @⟨lead', gap', name', space', hlead', hgap', hname', hspace', hversion'⟩ := h'
  have hat : ∀ {cs : List Char}, ∀ c ∈ ('@' :: cs).head?, isBlank c = false :=
    isBlank_head?_cons (by decide)
  have hletter : 's'.isAlpha := by decide
  simp only [List.append_assoc, List.cons_append] at heq
  obtain ⟨rfl, heq₁⟩ := append_inj_of_run hlead hat hlead' hat heq
  obtain ⟨rfl, heq₂⟩ := append_inj_of_run hgap (isBlank_head?_of_map_fold hname hletter) hgap'
    (isBlank_head?_of_map_fold hname' hletter) (List.cons.inj heq₁).2
  obtain ⟨rfl, heq₃⟩ := append_inj_of_map_fold hname hname' heq₂
  obtain ⟨rfl, heq₄⟩ := append_inj_of_run hspace hversion.isBlank_head? hspace'
    hversion'.isBlank_head? heq₃
  obtain ⟨hsame, -⟩ := append_inj_of_run hversion.digits hends.isDigit_head? hversion'.digits
    hends'.isDigit_head? heq₄
  obtain rfl := String.toList_inj.mp hsame
  exact ⟨rfl, rfl⟩

/-! ### What stands behind the version -/

/-- The `pattern` behind its version. -/
def ending : Matcher (Option (List Char)) := do
  let _ ← Matcher.optional servicePack
  ended (Matcher.optional languageCode)

theorem pattern_eq :
    pattern = do let version ← heading; let code ← ending; return (version, code) := by
  simp only [pattern, heading, ending, ended, bind_assoc, pure_bind]

theorem reads_servicePack : Reads servicePack fun ds xs =>
    xs = '-' :: ds ∧ 1 ≤ ds.length ∧ ds.length ≤ 2 ∧ ∀ c ∈ ds, isDigit c := by
  refine ((reads_char _).bind fun _ => reads_oneTo _ (by decide)).congr fun ds xs => ?_
  constructor
  · rintro ⟨_, _, _, rfl, ⟨hhyphen, rfl⟩, rfl, hdigits⟩
    obtain rfl := beq_iff_eq.mp hhyphen
    exact ⟨rfl, hdigits⟩
  · rintro ⟨rfl, hdigits⟩
    exact ⟨'-', ['-'], ds, rfl, ⟨rfl, rfl⟩, rfl, hdigits⟩

/-- The `letters` are two, in either case. -/
structure IsCode (letters : List Char) : Prop where
  length : letters.length = 2
  folded : ∀ c ∈ letters, isFoldedLetter c

theorem isCode_iff {letters : List Char} :
    List.Forall₂ (fun p c => p c) [isFoldedLetter, isFoldedLetter] letters ↔ IsCode letters := by
  constructor
  · rintro (- | ⟨ha, - | ⟨hb, - | -⟩⟩)
    exact ⟨rfl, by simp [ha, hb]⟩
  · rintro ⟨hlength, hfolded⟩
    obtain ⟨a, b, rfl⟩ := List.length_eq_two.mp hlength
    exact .cons (hfolded a (by simp)) (.cons (hfolded b (by simp)) .nil)

theorem IsCode.isBlank_head? {letters rest : List Char} (h : IsCode letters) :
    ∀ c ∈ (letters ++ rest).head?, isBlank c = false := by
  obtain ⟨a, b, rfl⟩ := List.length_eq_two.mp h.length
  have ha := isWord_of_isFoldedLetter (h.folded a List.mem_cons_self)
  exact isBlank_head?_cons (isBlank_of_isWord ha)

theorem IsCode.isWord_getLast? {letters : List Char} (h : IsCode letters) :
    ∃ c ∈ letters.getLast?, isWord c := by
  obtain ⟨a, b, rfl⟩ := List.length_eq_two.mp h.length
  exact ⟨b, by simp, isWord_of_isFoldedLetter (h.folded b (by simp))⟩

/-- The `letters` of the code of a language `l`, in either case, are two. -/
theorem isCode_of_lower {letters : List Char} {l : Language}
    (h : letters.map Char.toLower = l.code.toList) : IsCode letters := by
  refine ⟨?_, fun c hc => ?_⟩
  · have hlength := congrArg List.length h
    rw [List.length_map] at hlength
    rw [hlength]
    cases l <;> rfl
  · have halpha : l.code.toList.all Char.isAlpha := by
      cases l <;> rfl
    have hc' : c.toLower ∈ l.code.toList := h ▸ List.mem_map_of_mem hc
    simp [isFoldedLetter, isAlpha_of_toLower (List.all_eq_true.mp halpha _ hc')]

theorem reads_languageCode : Reads languageCode fun cs xs =>
    ∃ blanks, xs = blanks ++ cs ∧ blanks ≠ [] ∧ (∀ c ∈ blanks, isBlank c) ∧ IsCode cs := by
  refine ((reads_skipSome _).bind fun _ => reads_each _).congr fun cs xs => ?_
  constructor
  · rintro ⟨_, blanks, _, rfl, ⟨hne, hblanks⟩, rfl, hletters⟩
    exact ⟨blanks, rfl, hne, hblanks, isCode_iff.mp hletters⟩
  · rintro ⟨blanks, rfl, hne, hblanks, hcode⟩
    exact ⟨(), blanks, cs, rfl, ⟨hne, hblanks⟩, rfl, isCode_iff.mpr hcode⟩

section Ending

variable {k : Cursor} {front rest : List Char}

/-- A `languageCode` is two `letters` behind white space, where a word ends. -/
theorem first?_languageCode {letters : List Char} :
    (ended languageCode).first? (k.past front rest) = some letters ↔
      ∃ blanks rest', rest = blanks ++ (letters ++ rest') ∧ blanks ≠ [] ∧
        (∀ c ∈ blanks, isBlank c) ∧ IsCode letters ∧ EndsWord rest' := by
  -- a word can only end behind a code because its letters are of a word
  have hword : ∀ cs xs, (∃ blanks, xs = blanks ++ cs ∧ blanks ≠ [] ∧ (∀ c ∈ blanks, isBlank c) ∧
      IsCode cs) → ∃ c ∈ xs.getLast?, isWord c := by
    rintro cs _ ⟨blanks, rfl, -, -, hcode⟩
    obtain ⟨b, hlast, hb⟩ := hcode.isWord_getLast?
    rw [Option.mem_def] at hlast
    exact ⟨b, by simp [List.getLast?_append, hlast], hb⟩
  rw [first?_eq_some_iff_of_unique]
  · constructor
    · rintro ⟨k', hmem⟩
      obtain ⟨_, rest', hrest, ⟨blanks, rfl, hne, hblanks, hcode⟩, hends, -⟩ :=
        (reads_languageCode.mem_ended_iff hword).mp hmem
      exact ⟨blanks, rest', by rw [← List.append_assoc]; exact hrest, hne, hblanks, hcode, hends⟩
    · rintro ⟨blanks, rest', rfl, hne, hblanks, hcode, hends⟩
      exact ⟨_, (reads_languageCode.mem_ended_iff hword).mpr ⟨_, rest',
        (List.append_assoc _ _ _).symm, ⟨blanks, rfl, hne, hblanks, hcode⟩, hends, rfl⟩⟩
  · intro cs ds k' k'' hmem hmem'
    obtain ⟨_, rest₁, hrest₁, ⟨blanks₁, rfl, -, hblanks₁, hcode₁⟩, -, -⟩ :=
      (reads_languageCode.mem_ended_iff hword).mp hmem
    obtain ⟨_, rest₂, hrest₂, ⟨blanks₂, rfl, -, hblanks₂, hcode₂⟩, -, -⟩ :=
      (reads_languageCode.mem_ended_iff hword).mp hmem'
    -- the blanks end where no further one follows, and all codes have two letters
    have heq := hrest₁.symm.trans hrest₂
    rw [List.append_assoc, List.append_assoc] at heq
    obtain ⟨-, heq⟩ :=
      append_inj_of_run hblanks₁ hcode₁.isBlank_head? hblanks₂ hcode₂.isBlank_head? heq
    exact (List.append_inj heq (hcode₁.length.trans hcode₂.length.symm)).1

theorem first?_code {letters : List Char} :
    (ended (Matcher.optional languageCode)).first? (k.past front rest) = some (some letters) ↔
      ∃ blanks rest', rest = blanks ++ (letters ++ rest') ∧ blanks ≠ [] ∧
        (∀ c ∈ blanks, isBlank c) ∧ IsCode letters ∧ EndsWord rest' := by
  rw [first?_ended_optional, ← @first?_languageCode k front]
  rcases (ended languageCode).first? (k.past front rest) with - | cs
  · by_cases hboundary : atBoundary (k.past front rest) <;> simp [hboundary]
  · simp

/-- Letters or none are found exactly if the word that ends `front` ends there. -/
theorem isSome_first?_code (hword : ∃ c ∈ front.getLast?, isWord c) :
    ((ended (Matcher.optional languageCode)).first? (k.past front rest)).isSome
      ↔ EndsWord rest := by
  rw [first?_ended_optional, Option.isSome_or, Bool.or_eq_true, Option.isSome_map]
  constructor
  · rintro (hcode | hmissing)
    · obtain ⟨letters, hletters⟩ := Option.isSome_iff_exists.mp hcode
      obtain ⟨blanks, rest', rfl, hne, hblanks, -, -⟩ := first?_languageCode.mp hletters
      exact endsWord_of_isBlank hne hblanks
    · refine (atBoundary_past_iff (k := k) hword).mp ?_
      by_contra hnot
      rw [if_neg hnot] at hmissing
      cases hmissing
  · intro hends
    rw [if_pos ((atBoundary_past_iff hword).mpr hends)]
    exact .inr rfl

/-- A `servicePack` is taken in full, with all its digits `ds`. -/
theorem first?_servicePack {found : Option (List Char)} :
    (servicePack >>= fun _ => ended (Matcher.optional languageCode)).first? (k.past front rest)
        = some found ↔
      ∃ ds rest', rest = '-' :: (ds ++ rest') ∧ 1 ≤ ds.length ∧ ds.length ≤ 2 ∧
        (∀ c ∈ ds, isDigit c) ∧ (ended (Matcher.optional languageCode)).first?
          (k.past (front ++ '-' :: ds) rest') = some found := by
  have hlast : ∀ {ds : List Char}, 1 ≤ ds.length → (∀ c ∈ ds, isDigit c) →
      ∃ c ∈ (front ++ '-' :: ds).getLast?, isWord c := by
    intro ds hpos hdigits
    obtain ⟨d, hlast, hword⟩ := isWord_getLast?_of_isDigit hpos hdigits
    refine ⟨d, ?_, hword⟩
    rw [List.getLast?_append, List.getLast?_cons, hlast]
    rfl
  rw [first?_bind_of_unique]
  · constructor
    · rintro ⟨ds, k', hmem, hfound⟩
      obtain ⟨_, rest', hrest, ⟨rfl, hpos, hshort, hdigits⟩, rfl⟩ := (reads_servicePack _ _ _).mp hmem
      rw [Cursor.past_past] at hfound
      exact ⟨ds, rest', hrest, hpos, hshort, hdigits, hfound⟩
    · rintro ⟨ds, rest', rfl, hpos, hshort, hdigits, hfound⟩
      rw [← Cursor.past_past] at hfound
      exact ⟨ds, _, (reads_servicePack _ _ _).mpr ⟨'-' :: ds, rest', rfl,
        ⟨rfl, hpos, hshort, hdigits⟩, rfl⟩, hfound⟩
  -- fewer digits than there are leave one behind, where no word ends
  · rintro ⟨ds, k'⟩ hmem ⟨es, k''⟩ hmem' hsome hsome'
    obtain ⟨_, rest₁, hrest₁, ⟨rfl, hpos₁, -, hdigits₁⟩, rfl⟩ := (reads_servicePack _ _ _).mp hmem
    obtain ⟨_, rest₂, hrest₂, ⟨rfl, hpos₂, -, hdigits₂⟩, rfl⟩ := (reads_servicePack _ _ _).mp hmem'
    rw [Cursor.past_past, isSome_first?_code (hlast hpos₁ hdigits₁)] at hsome
    rw [Cursor.past_past, isSome_first?_code (hlast hpos₂ hdigits₂)] at hsome'
    obtain ⟨rfl, rfl⟩ := append_inj_of_run hdigits₁ hsome.isDigit_head? hdigits₂
      hsome'.isDigit_head? (List.cons.inj (hrest₁.symm.trans hrest₂)).2
    rfl

/-- The `ending` of a marker is found exactly if the word that ends `front` ends there. -/
theorem isSome_first?_ending (hword : ∃ c ∈ front.getLast?, isWord c) :
    (ending.first? (k.past front rest)).isSome ↔ EndsWord rest := by
  rw [ending, first?_optional_bind, Option.isSome_or, Bool.or_eq_true, isSome_first?_code hword]
  refine or_iff_right_of_imp fun hpack => ?_
  obtain ⟨found, hfound⟩ := Option.isSome_iff_exists.mp hpack
  obtain ⟨ds, rest', rfl, -⟩ := first?_servicePack.mp hfound
  intro c hc
  obtain rfl : '-' = c := Option.some.inj hc
  decide +kernel

/-- The `letters` that `ending` finds are those behind the service pack and white space. -/
theorem first?_ending {letters : List Char} :
    ending.first? (k.past front rest) = some (some letters) ↔
      IsCode letters ∧ Lettered letters rest := by
  rw [ending, first?_optional_bind, Option.or_eq_some_iff]
  constructor
  · rintro (hpack | ⟨-, hnone⟩)
    · obtain ⟨ds, rest', rfl, hpos, hshort, hdigits, hfound⟩ := first?_servicePack.mp hpack
      obtain ⟨blanks, rest'', rfl, hne, hblanks, hletters, hends⟩ := first?_code.mp hfound
      exact ⟨hletters, .mk (.digits hpos hshort hdigits) hne hblanks hends⟩
    · obtain ⟨blanks, rest', rfl, hne, hblanks, hletters, hends⟩ := first?_code.mp hnone
      exact ⟨hletters, .mk .none hne hblanks hends⟩
  · rintro ⟨hletters, @⟨pack, blanks, rest', hpack, hne, hblanks, hends⟩⟩
    have hfound : ∀ front, (ended (Matcher.optional languageCode)).first?
        (k.past front (blanks ++ (letters ++ rest'))) = some (some letters) := fun front =>
      first?_code.mpr ⟨blanks, rest', rfl, hne, hblanks, hletters, hends⟩
    cases hpack with
    | none =>
      refine .inr ⟨?_, hfound front⟩
      -- white space is no service pack
      rw [Option.eq_none_iff_forall_ne_some]
      intro found hpack
      obtain ⟨ds, rest'', hrest, -⟩ := first?_servicePack.mp hpack
      obtain ⟨b, bs, rfl⟩ := List.exists_cons_of_ne_nil hne
      obtain rfl : b = '-' := (List.cons.inj hrest).1
      exact absurd (hblanks '-' List.mem_cons_self) (by decide)
    | digits hpos hshort hdigits =>
      refine .inl (first?_servicePack.mpr ⟨_, _, ?_, hpos, hshort, hdigits, hfound _⟩)
      rfl

end Ending

/-! ### Languages by their letters -/

/-- Of the names of a language `l`, only its `code` has two letters. -/
theorem mem_aliases_iff {l : Language} {name : String} (h : name.toList.length = 2) :
    l.aliases.contains name ↔ name = l.code := by
  have hcode : ∀ a ∈ l.aliases, a.toList.length = 2 → a = l.code := by
    cases l <;> decide
  rw [List.contains_iff_mem]
  refine ⟨fun hmem => hcode name hmem h, ?_⟩
  rintro rfl
  cases l <;> decide

theorem ofName?_eq_some_iff {letters : List Char} (h : IsCode letters) {l : Language} :
    Language.ofName? (String.ofList letters) = some l
      ↔ letters.map Char.toLower = l.code.toList := by
  have hvisible : ∀ c ∈ letters, isBlank c = false := fun c hc =>
    isBlank_of_isWord (isWord_of_isFoldedLetter (h.folded c hc))
  have htrim : Text.trim (String.ofList letters) = String.ofList letters := by
    rw [Text.trim_eq_self_iff, String.toList_ofList]
    exact ⟨fun c hc => hvisible c (List.mem_of_head? hc),
      fun c hc => hvisible c (List.mem_of_getLast? hc)⟩
  have hname : Language.ofName? (String.ofList letters)
      = Language.all.find? (·.aliases.contains (String.ofList (letters.map Char.toLower))) := by
    rw [Language.ofName?, htrim, lowerAscii, String.toList_ofList]
  have hlength : (String.ofList (letters.map Char.toLower)).toList.length = 2 := by
    rw [String.toList_ofList, List.length_map, h.length]
  rw [hname, ← String.toList_ofList (l := letters.map Char.toLower), String.toList_inj,
    String.toList_ofList]
  generalize String.ofList (letters.map Char.toLower) = name at hlength
  constructor
  · intro hfound
    have hlisted := List.find?_some hfound
    exact (mem_aliases_iff hlength).mp hlisted
  · rintro rfl
    cases l <;> decide

/-- What stands behind a version, `rest`, names the language `l` whose code it is. -/
theorem bind_ofName?_iff {k : Cursor} {front rest : List Char} {code : Option (List Char)}
    (h : ending.first? (k.past front rest) = some code) (l : Language) :
    (code.bind fun cs => Language.ofName? (String.ofList cs)) = some l ↔ NamesLanguage l rest := by
  constructor
  · intro hnamed
    obtain ⟨letters, rfl, hname⟩ := Option.bind_eq_some_iff.mp hnamed
    obtain ⟨hcode, hlettered⟩ := first?_ending.mp h
    exact ⟨letters, (ofName?_eq_some_iff hcode).mp hname, hlettered⟩
  · rintro ⟨letters, hlower, hlettered⟩
    have hcode := isCode_of_lower hlower
    have hfound : ending.first? (k.past front rest) = some (some letters) :=
      first?_ending.mpr ⟨hcode, hlettered⟩
    rw [h, Option.some.injEq] at hfound
    subst hfound
    rw [Option.bind_some, ofName?_eq_some_iff hcode]
    exact hlower

/-! ### Lines -/

theorem Heading.isNumber {version : String} {front : List Char} (h : Heading version front) :
    IsNumber version := by
  obtain ⟨-, -, -, -, hversion⟩ := h
  exact hversion

/-- A marker up to its version, `front`, ends with a digit. -/
theorem Heading.isWord_getLast? {version : String} {front : List Char} (h : Heading version front) :
    ∃ c ∈ front.getLast?, isWord c := by
  obtain @⟨lead, gap, name, space, -, -, -, -, hversion⟩ := h
  obtain ⟨d, hlast, hword⟩ := hversion.isWord_getLast?
  rw [Option.mem_def] at hlast
  exact ⟨d, by simp [List.getLast?_append, List.getLast?_cons, hlast], hword⟩

theorem first?_pattern {cs version : List Char} {code : Option (List Char)} :
    pattern.first? (Cursor.start cs) = some (version, code) ↔
      ∃ front rest, cs = front ++ rest ∧ Heading (String.ofList version) front ∧
        ending.first? ((Cursor.start cs).past front rest) = some code := by
  rw [pattern_eq, first?_bind_of_unique]
  · simp only [first?_bind_pure, Option.map_eq_some_iff, Prod.mk.injEq]
    constructor
    · rintro ⟨_, k', hmem, _, hcode, rfl, rfl⟩
      obtain ⟨front, rest, hrest, hheading, rfl⟩ := (reads_heading _ _ _).mp hmem
      exact ⟨front, rest, hrest, hheading, hcode⟩
    · rintro ⟨front, rest, hrest, hheading, hcode⟩
      exact ⟨version, _, (reads_heading _ _ _).mpr ⟨front, rest, hrest, hheading, rfl⟩, code, hcode,
        rfl, rfl⟩
  -- a shorter version leaves digits behind, where no word ends
  · rintro ⟨version₁, k₁⟩ hmem₁ ⟨version₂, k₂⟩ hmem₂ hsome₁ hsome₂
    obtain ⟨front₁, rest₁, hrest₁, hheading₁, rfl⟩ := (reads_heading _ _ _).mp hmem₁
    obtain ⟨front₂, rest₂, hrest₂, hheading₂, rfl⟩ := (reads_heading _ _ _).mp hmem₂
    simp only [first?_bind_pure, Option.isSome_map] at hsome₁ hsome₂
    rw [isSome_first?_ending hheading₁.isWord_getLast?] at hsome₁
    rw [isSome_first?_ending hheading₂.isWord_getLast?] at hsome₂
    have heq := hrest₁.symm.trans hrest₂
    obtain ⟨hversion, rfl⟩ := hheading₁.unique hsome₁ hheading₂ hsome₂ heq
    obtain rfl := List.append_cancel_left heq
    obtain rfl := String.ofList_injective hversion
    rfl

/-- A `line` with the `front` of a marker, at which a word ends, is marked with the language that is
named behind it. -/
theorem exists_ofLine?_of_heading {line version : String} {front rest : List Char}
    (hline : line.toList = front ++ rest) (hheading : Heading version front)
    (hends : EndsWord rest) :
    ∃ language, ofLine? line = some ⟨version, language⟩ ∧
      ∀ l, language = some l ↔ NamesLanguage l rest := by
  obtain ⟨code, hcode⟩ := Option.isSome_iff_exists.mp
    ((isSome_first?_ending (k := Cursor.start line.toList) hheading.isWord_getLast?).mpr hends)
  refine ⟨code.bind fun cs => Language.ofName? (String.ofList cs), ?_, bind_ofName?_iff hcode⟩
  rw [← String.ofList_toList (s := version)] at hheading ⊢
  rw [ofLine?, first?_pattern.mpr ⟨front, rest, hline, hheading, hcode⟩]
  rfl

theorem ofLine?_eq_some_iff {line : String} {m : Marker} :
    ofLine? line = some m ↔ ∃ front rest, line.toList = front ++ rest ∧ Heading m.version front ∧
      EndsWord rest ∧ ∀ l, m.language = some l ↔ NamesLanguage l rest := by
  constructor
  · intro h
    rw [ofLine?, Option.map_eq_some_iff] at h
    obtain ⟨⟨version, code⟩, hfirst, rfl⟩ := h
    obtain ⟨front, rest, hline, hheading, hcode⟩ := first?_pattern.mp hfirst
    refine ⟨front, rest, hline, hheading, ?_, bind_ofName?_iff hcode⟩
    exact (isSome_first?_ending hheading.isWord_getLast?).mp (Option.isSome_of_eq_some hcode)
  · rintro ⟨front, rest, hline, hheading, hends, hlanguage⟩
    obtain ⟨language, hmarked, hnamed⟩ := exists_ofLine?_of_heading hline hheading hends
    have hsame : language = m.language := by
      ext l
      rw [hnamed, hlanguage]
    rw [hmarked, hsame]

theorem isNumber_of_ofLine? {line : String} {m : Marker} (h : ofLine? line = some m) :
    IsNumber m.version := by
  obtain ⟨front, rest, -, hheading, -⟩ := ofLine?_eq_some_iff.mp h
  exact hheading.isNumber

/-- **The lines that are marked**, and with what: `ofLine? line` is a marker `m` exactly if the line
starts, up to the end of `front`, like the `Heading` of a marker, and `EndsWord` holds of the
`rest`.  Then `m.version` is the version of that heading, and `m.language` the one that the rest
names, `NamesLanguage`, if it names one. -/
theorem marked_iff_heading (line : String) :
    (∀ m, ofLine? line = some m ↔ ∃ front rest, line.toList = front ++ rest ∧
      Heading m.version front ∧ EndsWord rest ∧ ∀ l, m.language = some l ↔ NamesLanguage l rest) ∧
    (ofLine? line = none ↔ ¬∃ version front rest, line.toList = front ++ rest ∧
      Heading version front ∧ EndsWord rest) := by
  refine ⟨fun m => ofLine?_eq_some_iff, ?_⟩
  constructor
  · rintro hnone ⟨version, front, rest, hline, hheading, hends⟩
    obtain ⟨language, hmarked, -⟩ := exists_ofLine?_of_heading hline hheading hends
    rw [hnone] at hmarked
    cases hmarked
  · intro hnot
    rw [Option.eq_none_iff_forall_ne_some]
    intro m hmarked
    obtain ⟨front, rest, hline, hheading, hends, -⟩ := ofLine?_eq_some_iff.mp hmarked
    exact hnot ⟨m.version, front, rest, hline, hheading, hends⟩

-- three digits are no service pack, and then the letters behind them are not looked at
example : ofLine? "@ SOFiSTiK 2024-123 DE" = some ⟨"2024", none⟩ := by
  decide +kernel

end DeckKeywords.Marker
