/-
DeckKeywords/Proofs/Detection/Isolation.lean

What a detection may depend on.  A document is consulted if it is the one that
is asked about, and then the marker on its first line decides alone, whatever
the files hold.  In every other case the version is that of one file, the
sidecar beside the path that is asked about, and nothing else of the documents
or of the files comes in.

`detect_value` says all this in one equation: the marker, or else the text of
the file at `sidecarPath?`.  The main result, `detection_isolated`, reads it as a
statement about pairs of detections that differ in their documents or files.
-/
import DeckKeywords.Detection
import Mathlib.Data.Option.Basic

namespace DeckKeywords

/-! ### Files seen from one path -/

namespace FileSystem

/-- The text of the file at `p`, if there is one that can be read. -/
def text? (files : FileSystem) (p : Path) : Option String :=
  if files.isFile p then (files.read p).toOption else none

/-- The file systems `files` and `files'` show the same at `p`: no file, or one that reads the
same. -/
structure SameAt (files files' : FileSystem) (p : Path) : Prop where
  isFile_eq : files.isFile p = files'.isFile p
  read_eq : files.isFile p → files.read p = files'.read p

variable {files files' : FileSystem} {p : Path} {text : String}

theorem text?_eq_some_iff :
    files.text? p = some text ↔ files.isFile p ∧ files.read p = .ok text := by
  unfold text?
  by_cases hfile : files.isFile p
  · rcases hread : files.read p with why | t <;> simp [hfile, Except.toOption]
  · simp [hfile]

end FileSystem

namespace Detector

variable {d : Detector} {files files' : FileSystem}
variable {document : Option Document} {path : Option Path}

/-! ### Consulted documents -/

/-- The `document` is consulted: no `path` is asked about, or the document lies there. -/
def Consulted (document : Document) (path : Option Path) : Prop :=
  ∀ p ∈ path, ∃ q ∈ document.path, q.same p

theorem isAsked_iff {doc : Document} : isAsked doc path ↔ Consulted doc path := by
  unfold isAsked Consulted
  rcases path with - | p
  · simp
  · rcases doc.path with - | q <;> simp

theorem marker?_eq_some_iff {m : Marker} :
    marker? document path = some m ↔
      ∃ doc, document = some doc ∧ Consulted doc path ∧ Marker.ofLine? doc.firstLine = some m := by
  rcases document with - | doc
  · simp [marker?]
  · by_cases hasked : isAsked doc path
    · simp [marker?, hasked, isAsked_iff.mp hasked]
    · have hnot : ¬ Consulted doc path := fun h => hasked (isAsked_iff.mpr h)
      simp [marker?, hasked, hnot]

/-- A document `doc` that is not `Consulted` might as well not be there. -/
theorem marker?_of_not_consulted {doc : Document} (h : ¬ Consulted doc path) :
    marker? (some doc) path = none := by
  rw [Option.eq_none_iff_forall_ne_some]
  intro m hm
  obtain ⟨_, hdoc, hconsulted, -⟩ := marker?_eq_some_iff.mp hm
  obtain rfl : doc = _ := Option.some.inj hdoc
  exact h hconsulted

/-! ### The sidecar file -/

theorem readSidecar_value (files : FileSystem) (p : Path) :
    (readSidecar files p).value = (files.text? p).bind Sidecar.version? := by
  unfold readSidecar FileSystem.text?
  by_cases hfile : files.isFile p
  · rcases hread : files.read p with why | text <;> simp [hfile, Except.toOption]
  · simp [hfile]

theorem readSidecar_congr {p : Path} (h : files.SameAt files' p) :
    readSidecar files p = readSidecar files' p := by
  unfold readSidecar
  rw [← h.isFile_eq]
  by_cases hfile : files.isFile p
  · rw [if_pos hfile, if_pos hfile, h.read_eq hfile]
  · rw [if_neg hfile, if_neg hfile]

/-! ### Detections -/

/-- What `d.detect` gives is what the marker says, or else the version of the sidecar file. -/
theorem detect_value (d : Detector) (files : FileSystem) (document : Option Document)
    (path : Option Path) :
    (d.detect files document path).value = match marker? document path with
      | some m => ⟨some m.version, m.language⟩
      | none => ⟨(d.sidecarPath? document path).bind fun p =>
          (files.text? p).bind Sidecar.version?, none⟩ := by
  unfold detect
  rcases marker? document path with - | m
  · rcases d.sidecarPath? document path with - | p
    · rfl
    · simp [readSidecar_value]
  · rfl

/-- A marker `m` decides alone; no file is looked at. -/
theorem detect_of_marker {m : Marker} (h : marker? document path = some m) :
    d.detect files document path = ⟨⟨some m.version, m.language⟩, []⟩ := by
  rw [detect, h]

theorem detect_of_not_consulted {doc : Document} {p : Path} (h : ¬ Consulted doc (some p)) :
    d.detect files (some doc) (some p) = d.detect files none (some p) := by
  have hnone : marker? none (some p) = none := rfl
  have hplace : d.sidecarPath? (some doc) (some p) = d.sidecarPath? none (some p) := rfl
  rw [detect, detect, marker?_of_not_consulted h, hnone, hplace]

/-- No file counts for `d.detect` but the sidecar file. -/
theorem detect_congr (h : ∀ p ∈ d.sidecarPath? document path, files.SameAt files' p) :
    d.detect files document path = d.detect files' document path := by
  unfold detect
  rcases marker? document path with - | m
  · rcases hplace : d.sidecarPath? document path with - | p
    · rfl
    · have hsame : readSidecar files p = readSidecar files' p :=
        readSidecar_congr (h p hplace)
      simp only [hsame]
  · rfl

/-- **Detections are isolated.**  A document `doc` that lies nowhere, or elsewhere than the path `p`
that is asked about, leaves no trace in what `d.detect` gives.  The marker `m` of a document that is
`Consulted` is all that is detected, whatever the `files` are.  Without one no language is `found`,
and the version is that of the text at `sidecar`, the file in the directory of the path, or else of
the document, if there is such a file and it can be read.  So file systems that are `SameAt` that
one path give the same detection. -/
theorem detection_isolated (d : Detector) (document : Option Document) (path : Option Path) :
    let directory := (path <|> document.bind (·.path)).bind (·.parent?)
    let sidecar := directory.map (·.join ⟨d.sidecar⟩)
    (∀ doc p, document = some doc → path = some p → (∀ q, doc.path = some q → ¬ q.same p) →
      ∀ files, d.detect files document path = d.detect files none path) ∧
    (∀ doc m, document = some doc → Consulted doc path → Marker.ofLine? doc.firstLine = some m →
      ∀ files, d.detect files document path = ⟨⟨some m.version, m.language⟩, []⟩) ∧
    ((∀ doc, document = some doc → Consulted doc path → Marker.ofLine? doc.firstLine = none) →
      ∀ files, let found := (d.detect files document path).value
        found.language = none ∧
        (∀ p text, sidecar = some p → files.isFile p → files.read p = .ok text →
          found.version = Sidecar.version? text) ∧
        ((∀ p, sidecar = some p → files.isFile p → ∀ text, files.read p ≠ .ok text) →
          found.version = none)) ∧
    ∀ files files', (∀ p, sidecar = some p → files.SameAt files' p) →
      d.detect files document path = d.detect files' document path := by
  intro directory sidecar
  refine ⟨?_, ?_, ?_, ?_⟩
  · rintro doc p rfl rfl helsewhere files
    refine detect_of_not_consulted fun h => ?_
    obtain ⟨q, hq, hsame⟩ := h p rfl
    exact helsewhere q hq hsame
  · intro doc m hdoc hconsulted hmarker files
    exact detect_of_marker (marker?_eq_some_iff.mpr ⟨doc, hdoc, hconsulted, hmarker⟩)
  · intro hunmarked files found
    have hmarker : marker? document path = none := by
      rw [Option.eq_none_iff_forall_ne_some]
      intro m hm
      obtain ⟨doc, hdoc, hconsulted, hline⟩ := marker?_eq_some_iff.mp hm
      rw [hunmarked doc hdoc hconsulted] at hline
      cases hline
    -- without a marker the text of the sidecar file is all that there is to look at
    have hfound : found = ⟨sidecar.bind fun p => (files.text? p).bind Sidecar.version?, none⟩ := by
      show (d.detect files document path).value = _
      rw [detect_value, hmarker]
      rfl
    rw [hfound]
    refine ⟨rfl, ?_, ?_⟩
    · intro p text hsidecar hfile hread
      have htext : files.text? p = some text := FileSystem.text?_eq_some_iff.mpr ⟨hfile, hread⟩
      show (sidecar.bind fun p => (files.text? p).bind Sidecar.version?) = _
      rw [hsidecar, Option.bind_some, htext, Option.bind_some]
    · intro hunreadable
      show (sidecar.bind fun p => (files.text? p).bind Sidecar.version?) = none
      rw [Option.bind_eq_none_iff]
      intro p hsidecar
      have htext : files.text? p = none := by
        rw [Option.eq_none_iff_forall_ne_some]
        intro text htext
        obtain ⟨hfile, hread⟩ := FileSystem.text?_eq_some_iff.mp htext
        exact hunreadable p hsidecar hfile text hread
      rw [htext, Option.bind_none]
  · intro files files' hsame
    exact detect_congr hsame

/-- The marked document `doc` counts for its `own` path, however that is spelled, and for no
`other`: there the sidecar file is read, in the directory that is asked about, and other files do
not matter. -/
theorem unrelated_document_ignored :
    let d : Detector := ⟨"sofistik.def"⟩
    let doc : Document := ⟨some ⟨"/work/open.dat"⟩, "@ SOFiSTiK 2024 DE"⟩
    let own : Path := ⟨"/work//./open.dat"⟩
    let other : Path := ⟨"/work/sub/queried.dat"⟩
    let beside : Path := ⟨"/work/sub/sofistik.def"⟩
    let elsewhere : Path := ⟨"/work/sofistik.def"⟩
    let files : FileSystem :=
      .ofFindings [(beside, .ok "SOF_VERSION=2020"), (elsewhere, .ok "SOF_VERSION=2018")]
    let fewer : FileSystem := .ofFindings [(beside, .ok "SOF_VERSION=2020")]
    let unreadable : FileSystem := .ofFindings [(beside, .error .notText)]
    d.detect files (some doc) (some own) = ⟨⟨some "2024", some .de⟩, []⟩ ∧
      d.detect files (some doc) (some other) = d.detect files none (some other) ∧
      (d.detect files none (some other)).value.version = some "2020" ∧
      (d.detect unreadable none (some other)).value.version = none ∧
      d.detect files none (some other) = d.detect fewer none (some other) := by
  intro d doc own other beside elsewhere files fewer unreadable
  obtain ⟨-, hmarked, -⟩ := detection_isolated d (some doc) (some own)
  obtain ⟨hignored, -⟩ := detection_isolated d (some doc) (some other)
  obtain ⟨-, -, hunmarked, hsame⟩ := detection_isolated d none (some other)
  -- what is asked about has its sidecar file beside it, not beside the document
  have hbeside : ((some other).bind (·.parent?)).map (·.join ⟨d.sidecar⟩) = some beside := by
    decide +kernel
  have honly : ∀ p, ((some other).bind (·.parent?)).map (·.join ⟨d.sidecar⟩) = some p →
      beside = p := fun p hp => Option.some.inj (hbeside.symm.trans hp)
  refine ⟨?_, ?_, ?_, ?_, ?_⟩
  · refine hmarked doc ⟨"2024", some .de⟩ rfl ?_ (by decide +kernel) files
    rintro p hp
    obtain rfl : own = p := Option.some.inj hp
    exact ⟨_, rfl, by decide +kernel⟩
  · refine hignored doc other rfl rfl ?_ files
    rintro q hq
    obtain rfl : (⟨"/work/open.dat"⟩ : Path) = q := Option.some.inj hq
    decide +kernel
  · obtain ⟨-, hversion, -⟩ := hunmarked (by simp) files
    rw [hversion beside "SOF_VERSION=2020" hbeside rfl rfl]
    decide +kernel
  · obtain ⟨-, -, hnothing⟩ := hunmarked (by simp) unreadable
    refine hnothing fun p hp _ text hread => ?_
    obtain rfl := honly p hp
    cases hread
  · refine hsame files fewer fun p hp => ?_
    obtain rfl := honly p hp
    exact ⟨rfl, fun _ => rfl⟩

end Detector

end DeckKeywords
