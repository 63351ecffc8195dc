/-
DeckKeywords/Proofs/Detection/FirstLine.lean

The first line of a document, as far as its marker is concerned.  A document has its
line without a byte-order mark, without the line feed and without a carriage return
in front of that; at the end of a text without a line feed a carriage return stays.
The marker does not show any of this, as white space at the end of a line makes no
difference for it, `ofLine?_append_blanks`: a marker ends with a digit or a letter,
and white space ends a word as well as the end of the line does.

A document counts in detection by its place and its marker alone,
`detect_congr_document`.  So neither what follows the first line nor a carriage
return at its end has any influence there.

Main result: `marker_of_first_line`.
-/
import DeckKeywords.Proofs.Detection.Isolation
import DeckKeywords.Proofs.Detection.Marker
import DeckKeywords.Proofs.Text.Split

namespace DeckKeywords

open Text

variable {xs rest line blanks : List Char} {version : String}

/-! ### White space at the end of a line -/

/-- A list `xs` that ends with a character of a word ends before the `blanks` at the end of a
line. -/
theorem exists_eq_append_of_blanks (hword : ∃ c ∈ xs.getLast?, isWord c)
    (hblanks : ∀ c ∈ blanks, isBlank c) (heq : xs ++ rest = line ++ blanks) :
    ∃ ys, line = xs ++ ys ∧ rest = ys ++ blanks := by
  rcases List.append_eq_append_iff.mp heq with ⟨ys, hline, hrest⟩ | ⟨ys, hxs, hys⟩
  · exact ⟨ys, hline, hrest⟩
  · rcases List.eq_nil_or_concat ys with rfl | ⟨ys, d, rfl⟩
    · exact ⟨[], by simpa using hxs.symm, by simpa using hys.symm⟩
    · -- the last character would be one of a word and white space as well
      obtain ⟨c, hlast, hc⟩ := hword
      obtain rfl : d = c := by simpa [hxs] using hlast
      have hblank : isBlank d := hblanks d (by simp [hys])
      rw [isBlank_of_isWord hc] at hblank
      cases hblank

theorem endsWord_append_blanks_iff (hblanks : ∀ c ∈ blanks, isBlank c) :
    EndsWord (rest ++ blanks) ↔ EndsWord rest := by
  rcases rest with - | ⟨c, rest⟩
  · refine iff_of_true (fun c hc => ?_) (by simp [EndsWord])
    exact isWord_of_isBlank (hblanks c (List.mem_of_head? hc))
  · simp [EndsWord]

namespace Marker

theorem namesLanguage_append_blanks_iff {l : Language} (hblanks : ∀ c ∈ blanks, isBlank c) :
    NamesLanguage l (rest ++ blanks) ↔ NamesLanguage l rest := by
  constructor
  · rintro ⟨letters, hlower, hlettered⟩
    generalize hbehind : rest ++ blanks = behind at hlettered
    obtain @⟨pack, space, rest', hpack, hne, hspace, hends⟩ := hlettered
    obtain ⟨c, hlast, hword⟩ := (isCode_of_lower hlower).isWord_getLast?
    rw [Option.mem_def] at hlast
    have hfront : ∃ c ∈ (pack ++ (space ++ letters)).getLast?, isWord c :=
      ⟨c, by simp [List.getLast?_append, hlast], hword⟩
    obtain ⟨ys, rfl, rfl⟩ := exists_eq_append_of_blanks hfront hblanks
      (show pack ++ (space ++ letters) ++ rest' = rest ++ blanks by simp [hbehind])
    rw [endsWord_append_blanks_iff hblanks] at hends
    have hlettered : Lettered letters _ := .mk hpack hne hspace hends
    exact ⟨letters, hlower, by simpa using hlettered⟩
  · rintro ⟨letters, hlower, ⟨hpack, hne, hspace, hends⟩⟩
    rw [← endsWord_append_blanks_iff hblanks] at hends
    have hlettered : Lettered letters _ := .mk hpack hne hspace hends
    exact ⟨letters, hlower, by simpa using hlettered⟩

/-- The `blanks` at the end of a `line` make no difference for its marker. -/
theorem ofLine?_append_blanks (line : List Char) (hblanks : ∀ c ∈ blanks, isBlank c) :
    ofLine? (String.ofList (line ++ blanks)) = ofLine? (String.ofList line) := by
  refine Option.ext fun m => ?_
  rw [ofLine?_eq_some_iff, ofLine?_eq_some_iff, String.toList_ofList, String.toList_ofList]
  constructor
  · rintro ⟨front, rest, hline, hheading, hends, hlanguage⟩
    obtain ⟨ys, rfl, rfl⟩ :=
      exists_eq_append_of_blanks hheading.isWord_getLast? hblanks hline.symm
    rw [endsWord_append_blanks_iff hblanks] at hends
    simp only [namesLanguage_append_blanks_iff hblanks] at hlanguage
    exact ⟨front, ys, rfl, hheading, hends, hlanguage⟩
  · rintro ⟨front, rest, rfl, hheading, hends, hlanguage⟩
    refine ⟨front, rest ++ blanks, List.append_assoc _ _ _, hheading, ?_, ?_⟩
    · rwa [endsWord_append_blanks_iff hblanks]
    · simpa only [namesLanguage_append_blanks_iff hblanks] using hlanguage

end Marker

/-! ### Documents -/

/-- The line that `text` starts with, as it stands there: one byte-order mark is left out, a
carriage return at its end is not. -/
def openingLine (text : String) : List Char :=
  let cs := text.toList
  (if cs.head? = some '\uFEFF' then cs.tail else cs).takeWhile (· ≠ '\n')

/-- The lines `line` and `line'` are the same, but for one carriage return at the end of one of
them. -/
def SameButReturn (line line' : List Char) : Prop :=
  line = line' ∨ line = line' ++ ['\r'] ∨ line' = line ++ ['\r']

/-- The line `d.firstLine` is the `openingLine` of the text, up to a carriage return. -/
theorem openingLine_cases (d : TextDocument) :
    openingLine d.text = d.firstLine.toList ∨ openingLine d.text = d.firstLine.toList ++ ['\r'] := by
  have hmark : (if d.text.toList.head? = some '\uFEFF' then d.text.toList.tail else d.text.toList)
      = withoutMark d.text.toList := by
    rcases d.text.toList with - | ⟨c, cs⟩
    · rfl
    · by_cases h : c = '\uFEFF' <;> simp [withoutMark, byteOrderMark, h]
  rw [openingLine, hmark, TextDocument.firstLine, String.toList_ofList]
  exact firstLine_cases _

theorem ofLine?_append_return (line : List Char) :
    Marker.ofLine? (String.ofList (line ++ ['\r'])) = Marker.ofLine? (String.ofList line) := by
  refine Marker.ofLine?_append_blanks line fun c hc => ?_
  rw [List.mem_singleton.mp hc]
  decide

theorem ofLine?_firstLine (d : TextDocument) :
    Marker.ofLine? d.firstLine = Marker.ofLine? (String.ofList (openingLine d.text)) := by
  rcases openingLine_cases d with h | h
  · rw [h, String.ofList_toList]
  · rw [h, ofLine?_append_return, String.ofList_toList]

theorem SameButReturn.ofLine?_eq {line line' : List Char} (h : SameButReturn line line') :
    Marker.ofLine? (String.ofList line) = Marker.ofLine? (String.ofList line') := by
  rcases h with rfl | rfl | rfl
  · rfl
  · exact ofLine?_append_return line'
  · exact (ofLine?_append_return line).symm

/-- A document counts in `detect` by where it lies and by its marker, and by nothing else. -/
theorem Detector.detect_congr_document {document document' : Document}
    (hpath : document.path = document'.path)
    (hmarker : Marker.ofLine? document.firstLine = Marker.ofLine? document'.firstLine)
    (d : Detector) (files : FileSystem) (path : Option Path) :
    d.detect files (some document) path = d.detect files (some document') path := by
  have hasked : isAsked document path = isAsked document' path := by
    unfold isAsked
    rw [hpath]
  have hsidecar : d.sidecarPath? (some document) path = d.sidecarPath? (some document') path := by
    rw [sidecarPath?, sidecarPath?, Option.bind_some, Option.bind_some, hpath]
  rw [detect, detect, marker?, marker?, hasked, hmarker, hsidecar]

/-- **The marker of the first line.**  The marker of `d.firstLine` is that of `openingLine text`,
the line that the text starts with, from behind a byte-order mark up to the first line feed, with a
carriage return at its end or without.  There is no line feed in `d.firstLine`, and `d.text` is the
text as it was given or read from a file.  So documents `d` and `d'` whose opening lines are
`SameButReturn` have the same marker, whatever follows the lines, and in the same place `detect`
gives the same for the one as for the other. -/
theorem marker_of_first_line (text : String) (path : Option Path) :
    let d : TextDocument := ⟨path, text⟩
    Marker.ofLine? d.firstLine = Marker.ofLine? (String.ofList (openingLine text)) ∧
    '\n' ∉ d.firstLine.toList ∧
    d.text = text ∧
    (∀ files p, files.read p = .ok text → TextDocument.read files p = .ok ⟨some p, text⟩) ∧
    ∀ d' : TextDocument, SameButReturn (openingLine text) (openingLine d'.text) →
      Marker.ofLine? d.firstLine = Marker.ofLine? d'.firstLine ∧
      (path = d'.path → ∀ (detector : Detector) files asked,
        detector.detect files (some d.toDocument) asked
          = detector.detect files (some d'.toDocument) asked) := by
  intro d
  refine ⟨ofLine?_firstLine d, ?_, rfl, fun files p hread => ?_, fun d' hsame => ?_⟩
  · rw [TextDocument.firstLine, String.toList_ofList]
    exact not_mem_firstLine _
  · rw [TextDocument.read, hread]
    rfl
  · have hmarker : Marker.ofLine? d.firstLine = Marker.ofLine? d'.firstLine := by
      rw [ofLine?_firstLine, ofLine?_firstLine, hsame.ofLine?_eq]
    refine ⟨hmarker, fun hpath detector files asked => ?_⟩
    have hplace : d.toDocument.path = d'.toDocument.path := hpath
    exact detector.detect_congr_document hplace hmarker files asked

/-- A text from the file `p` with a byte-order mark and both characters at the end of its line has
the marker of a text that is the bare line and ends with the first of them. -/
theorem marker_of_marked_line :
    let p : Path := ⟨"/work/deck.dat"⟩
    let d : TextDocument := ⟨some p, "\uFEFF@ SOFiSTiK 2022 DE\r\nPROG AQUA\n"⟩
    let d' : TextDocument := ⟨none, "@ SOFiSTiK 2022 DE\r"⟩
    let files : FileSystem := .ofFindings [(p, .ok d.text)]
    TextDocument.read files p = .ok d ∧ d.firstLine ≠ d'.firstLine ∧
      Marker.ofLine? d.firstLine = Marker.ofLine? d'.firstLine ∧
      Marker.ofLine? d'.firstLine = some ⟨"2022", some .de⟩ := by
  intro p d d' files
  obtain ⟨-, -, -, hread, hsame⟩ := marker_of_first_line d.text d.path
  have hlines : SameButReturn (openingLine d.text) (openingLine d'.text) :=
    .inl (by decide +kernel)
  exact ⟨hread files p rfl, by decide +kernel, (hsame d' hlines).1, by decide +kernel⟩

end DeckKeywords
