/-
DeckKeywords/Document.lean

Open documents as detection sees them: where they lie, if anywhere, and their
first line.
-/
import DeckKeywords.Files.FileSystem
import DeckKeywords.Text.ByteOrderMark

namespace DeckKeywords

/-- A document by its place and its first line. -/
structure Document where
  path : Option Path
  firstLine : String
  deriving DecidableEq, Repr

/-- A document with its whole text. -/
structure TextDocument where
  path : Option Path
  text : String
  deriving DecidableEq, Repr

namespace TextDocument

/-- The first line of `d`, without its end and without a byte-order mark. -/
def firstLine (d : TextDocument) : String :=
  String.ofList (Text.firstLine (Text.withoutMark d.text.toList))

/-- The document that the file at `path` holds. -/
def read (files : FileSystem) (path : Path) : Except FileError TextDocument :=
  (files.read path).map fun text => ⟨some path, text⟩

/-- The document `d` as detection sees it. -/
def toDocument (d : TextDocument) : Document := ⟨d.path, d.firstLine⟩

end TextDocument

end DeckKeywords
