/-
DeckKeywords/Event.lean

What the service reports on the side.  Nothing it does fails; a table that
cannot be read or a version that is not listed shows in an event only.  An
event has a record: a level, the part of the program it comes from, a message
and named fields in a fixed order.
-/
import DeckKeywords.Files.FileSystem
import DeckKeywords.Json.Fault
import DeckKeywords.Language

namespace DeckKeywords

/-- How much an event matters, from least to most. -/
inductive Level where
  | trace | debug | info | warn | error
  deriving DecidableEq, Repr

namespace Level

/-- The rank of a level. -/
def severity : Level → Nat
  | trace => 0
  | debug => 1
  | info => 2
  | warn => 3
  | error => 4

/-- Every level, the least severe first. -/
def all : List Level := [trace, debug, info, warn, error]

/-- The name of a level in lower case. -/
def name : Level → String
  | trace => "trace"
  | debug => "debug"
  | info => "info"
  | warn => "warn"
  | error => "error"

/-- The name of a level `l` in upper case. -/
def title (l : Level) : String := String.ofList (l.name.toList.map Char.toUpper)

/-- The level named `s`, in any case of its letters. -/
def ofName? (s : String) : Option Level := all.find? (·.name == Text.lowerAscii s)

end Level

/-- The value of a field: a text, something shown by its own text, a number, or a flag. -/
inductive FieldValue where
  | text (s : String)
  | shown (s : String)
  | number (i : Int)
  | flag (b : Bool)
  deriving DecidableEq, Repr

namespace FieldValue

/-- The value without any quoting. -/
def raw : FieldValue → String
  | text s | shown s => s
  | number i => toString i
  | flag b => if b then "true" else "false"

/-- The value as a line of a log shows it: texts are quoted. -/
def logged : FieldValue → String
  | text s => Text.quoted s
  | v => v.raw

end FieldValue

/-- An event as hosts see it. -/
structure Record where
  level : Level
  target : String
  message : String
  fields : List (String × FieldValue)
  deriving DecidableEq, Repr

/-! ### The events of the service -/

/-- Why the text of a table cannot be had. -/
inductive ReadFailure where
  | noTable (language : Language)
  | file (why : FileError)
  deriving DecidableEq, Repr

/-- Why a table is not available: its text cannot be had, or it is not a table. -/
inductive LoadFailure where
  | unreadable (why : ReadFailure)
  | malformed (why : Json.Fault)
  deriving DecidableEq, Repr

/-- The text of a read failure. -/
def ReadFailure.message : ReadFailure → String
  | noTable l => "no keyword table for " ++ l.code
  | file e => e.message

/-- The text of a load failure. -/
def LoadFailure.message : LoadFailure → String
  | unreadable why => "failed to read keyword table: " ++ why.message
  | malformed why => "failed to parse keyword table: " ++ why.message

/-- Something worth reporting. -/
inductive Event where
  | sidecarRead (path : Path) (version : Option String)
  | sidecarUnreadable (path : Path) (why : FileError)
  | resolved (version : String) (language : Language)
  | tableLoaded (language : Language) (modules versions : Nat)
  | tableUnavailable (language : Language) (why : LoadFailure)
  | versionReplaced (requested fallback : String) (language : Language)
  | projected (version : String) (language : Language) (modules : Nat)
  | cachesCleared
  | configLoaded (path : Path)
  | configMissing (path : Path)
  deriving DecidableEq, Repr

/-- How a version that may be missing is shown. -/
def shownOption : Option String → String
  | some v => "Some(" ++ Text.quoted v ++ ")"
  | none => "None"

/-- The record of an event. -/
def Event.record : Event → Record
  | sidecarRead path version =>
    ⟨.debug, "sofkey_core::detect", "Read sidecar definition file",
      [("path", .shown path.text), ("version", .shown (shownOption version))]⟩
  | sidecarUnreadable path why =>
    ⟨.debug, "sofkey_core::detect", "Sidecar unreadable, ignoring",
      [("path", .shown path.text), ("error", .shown why.message)]⟩
  | resolved version language =>
    ⟨.debug, "sofkey_core::resolve", "Resolved keyword context",
      [("version", .shown version), ("language", .shown language.code)]⟩
  | tableLoaded language modules versions =>
    ⟨.debug, "sofkey_core::loader", "Loaded keyword table",
      [("language", .shown language.code), ("modules", .number modules),
        ("versions", .number versions)]⟩
  | tableUnavailable language why =>
    ⟨.warn, "sofkey_core::loader", "Keyword table unavailable, using empty taxonomy",
      [("language", .shown language.code), ("error", .shown why.message)]⟩
  | versionReplaced requested fallback language =>
    ⟨.warn, "sofkey_core::cache", "Version not in keyword table, using table default",
      [("requested", .text requested), ("fallback", .text fallback),
        ("language", .shown language.code)]⟩
  | projected version language modules =>
    ⟨.debug, "sofkey_core::cache", "Projected keyword taxonomy",
      [("version", .text version), ("language", .shown language.code),
        ("modules", .number modules)]⟩
  | cachesCleared => ⟨.info, "sofkey_core::service", "Keyword caches cleared", []⟩
  | configLoaded path =>
    ⟨.debug, "sofkey_config", "Loaded configuration", [("path", .shown path.text)]⟩
  | configMissing path =>
    ⟨.info, "sofkey", "Config file not found, using defaults", [("path", .shown path.text)]⟩

/-- A result in `α` with the events on the way to it. -/
structure Noted (α : Type) where
  value : α
  events : List Event

end DeckKeywords
