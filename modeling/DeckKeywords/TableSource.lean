/-
DeckKeywords/TableSource.lean

Where the texts of keyword tables come from: a host keeps one text per language
in memory, or files in a directory.
-/
import DeckKeywords.Event

namespace DeckKeywords

/-- The text of the table of each language, or why there is none. -/
abbrev TableSource := Language → Except ReadFailure String

namespace TableSource

/-- The `texts` kept in memory. -/
def ofTexts (texts : PerLanguage (Option String)) : TableSource := fun l =>
  match texts.get l with
  | some text => .ok text
  | none => .error (.noTable l)

/-- The file of the table of `l` in a `directory`. -/
def tablePath (directory : Path) (l : Language) : Path :=
  directory.join ⟨"keywords_" ++ l.code ++ ".json"⟩

/-- The files in a `directory`. -/
def ofDirectory (files : FileSystem) (directory : Path) : TableSource := fun l =>
  (files.read (tablePath directory l)).mapError .file

end TableSource

end DeckKeywords
