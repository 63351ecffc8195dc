/-
DeckKeywords/Detection.lean

Finding out the version and the language of a deck.  Two signals count:

  * the marker on the first line of the document, but only when the document
    is the file that is asked about,
  * for the version alone, and only if the first signal gave none, the sidecar
    file in the directory of the file that is asked about.

What neither says stays open; filling it in is a matter of resolution.
-/
import DeckKeywords.Document
import DeckKeywords.Event
import DeckKeywords.Marker
import DeckKeywords.Sidecar

namespace DeckKeywords

/-- What was found; either part may be missing. -/
structure Detection where
  version : Option String
  language : Option Language
  deriving DecidableEq, Repr

/-- Looks for sidecar files of one name. -/
structure Detector where
  sidecar : String
  deriving DecidableEq, Repr

namespace Detector

/-- Whether the `document` is the file that is asked about: no `path` is given, or it is the
document's own. -/
def isAsked (document : Document) (path : Option Path) : Bool :=
  match path with
  | none => true
  | some p => document.path.any (·.same p)

/-- The marker of the `document`, if there is one to look at. -/
def marker? (document : Option Document) (path : Option Path) : Option Marker :=
  match document with
  | none => none
  | some d => if isAsked d path then Marker.ofLine? d.firstLine else none

/-- The path of the sidecar file: in the directory of the `path` given, or else of the
`document`. -/
def sidecarPath? (d : Detector) (document : Option Document) (path : Option Path) : Option Path :=
  let target := path <|> document.bind (·.path)
  (target.bind (·.parent?)).map (·.join ⟨d.sidecar⟩)

/-- The version in the sidecar file at `path`, if there is such a file. -/
def readSidecar (files : FileSystem) (path : Path) : Noted (Option String) :=
  if files.isFile path then
    match files.read path with
    | .ok text =>
      let version := Sidecar.version? text
      ⟨version, [.sidecarRead path version]⟩
    | .error why => ⟨none, [.sidecarUnreadable path why]⟩
  else ⟨none, []⟩

/-- What the detector `d` can find out. -/
def detect (d : Detector) (files : FileSystem) (document : Option Document)
    (path : Option Path) : Noted Detection :=
  match marker? document path with
  | some m => ⟨⟨some m.version, m.language⟩, []⟩
  | none =>
    match d.sidecarPath? document path with
    | some p =>
      let found := readSidecar files p
      ⟨⟨found.value, none⟩, found.events⟩
    | none => ⟨⟨none, none⟩, []⟩

/-- The written form of a detector. -/
def shown (d : Detector) : String :=
  "Detector \x7b sidecar: " ++ Text.quoted d.sidecar ++ ", .. \x7d"

end Detector

end DeckKeywords
