/-
DeckKeywords/CommandLine/Answer.lean

What actions answer, as a text for readers and as JSON, and why an action can
fail.
-/
import DeckKeywords.Config.Load
import DeckKeywords.Resolution
import DeckKeywords.Taxonomy.Json

namespace DeckKeywords.CommandLine

open Json (Value)

/-- What an action answers. -/
inductive Answer where
  | resolution (r : Resolution)
  | names (ns : List String)
  | params (ps : ParamMap)
  | values (vs : Option (List String))
  | hits (hs : List Hit)
  | validation (word : String) (v : Option Validation)
  | statistics (r : Resolution) (s : Statistics)
  | configValid (path : Path)
  | configShown (c : Config)

/-! ### Texts -/

/-- The lines `ls` with line feeds between them. -/
def lines (ls : List String) : String := String.intercalate "\n" ls

/-- Fills up a text `s` with spaces on its right. -/
def padRight (width : Nat) (s : String) : String :=
  s ++ String.ofList (List.replicate (width - s.length) ' ')

/-- Fills up a text `s` with spaces on its left. -/
def padLeft (width : Nat) (s : String) : String :=
  String.ofList (List.replicate (width - s.length) ' ') ++ s

/-- A parameter with its values, if they are listed. -/
def paramLine (name : String) : Option (List String) → String
  | some values => name ++ ": " ++ String.intercalate ", " values
  | none => name

/-- A hit with its kind. -/
def hitLine : Hit → String
  | .command m c => "command " ++ m ++ " " ++ c
  | .param m c p => "param   " ++ m ++ " " ++ c ++ " " ++ p

/-- A sentence about a `word`. -/
def validationLine (word : String) : Option Validation → String
  | some (.command m c _) => c ++ " is a command of " ++ m
  | some (.param m c p _) => p ++ " is a parameter of " ++ m ++ " " ++ c
  | none => Text.upper word ++ " is not a known keyword"

/-- The version of `r` with its language. -/
def shownResolution (r : Resolution) : String := r.version ++ " (" ++ r.language.code ++ ")"

/-- The counts `m` of a module in columns. -/
def moduleLine (name : String) (m : ModuleCounts) : String :=
  "  " ++ padRight 12 name ++ " " ++ padLeft 4 (toString m.commands) ++ " "
    ++ padLeft 5 (toString m.params)

/-- The counts `s` of a taxonomy, under the pair `r` that it is for. -/
def statisticsLines (r : Resolution) (s : Statistics) : List String :=
  [shownResolution r,
    "modules: " ++ toString s.modules ++ "  commands: " ++ toString s.commands ++ "  params: "
      ++ toString s.params]
  ++ s.perModule.entries.map fun (name, m) => moduleLine name m

namespace Answer

/-- The answer for readers. -/
def text : Answer → String
  | resolution r => lines ["version:  " ++ r.version, "language: " ++ r.language.code]
  | names ns => lines ns
  | params ps => lines (ps.entries.map fun (name, allowed) => paramLine name allowed)
  | values (some vs) => lines vs
  | values none => "(free-form)"
  | hits hs => lines (hs.map hitLine)
  | validation word v => validationLine word v
  | statistics r s => lines (statisticsLines r s)
  | configValid path => "Configuration at '" ++ path.text ++ "' is valid."
  | configShown c => c.toToml

/-- The answer as JSON; what is said about settings has no such form. -/
def json? : Answer → Option Value
  | resolution r => some r.toJson
  | names ns => some (.texts ns)
  | params ps => some (ParamMap.toJson ps)
  | values vs => some (allowedJson vs)
  | hits hs => some (Hit.listJson hs)
  | validation _ v => some (Validation.toJson v)
  | statistics _ s => some s.toJson
  | configValid _ | configShown _ => none

/-- The answer as it is printed.  An empty text takes no line. -/
def printed (json : Bool) (a : Answer) : String :=
  match json, a.json? with
  | true, some v => v.pretty ++ "\n"
  | _, _ => if a.text.isEmpty then "" else a.text ++ "\n"

end Answer

/-! ### Failures -/

/-- Why an action fails. -/
inductive Failure where
  | config (why : ConfigFailure)
  | deck (path : Path) (why : FileError)
  | unknownLanguage (name : String)
  | unavailable (names : List String) (r : Resolution)
  deriving DecidableEq, Repr

namespace Failure

/-- What failed. -/
def message : Failure → String
  | config (.unreadable why) => "failed to read config file: " ++ why.message
  | config (.faulty .malformed) => "failed to parse TOML"
  | config (.faulty (.invalid problem)) => problem.message
  | deck path _ => "failed to read " ++ path.text
  | unknownLanguage name => "unknown language '" ++ name ++ "'"
  | unavailable names r =>
    String.intercalate " " names ++ " is not available in SOFiSTiK " ++ shownResolution r

/-- What the failure comes from. -/
def cause? : Failure → Option FileError
  | config (.unreadable why) => some why
  | deck _ why => some why
  | _ => none

/-- The failure as it is printed. -/
def printed (f : Failure) : String :=
  let cause :=
    match f.cause? with
    | some why => "\n\nCaused by:\n    " ++ why.message
    | none => ""
  "Error: " ++ f.message ++ cause ++ "\n"

end Failure

end DeckKeywords.CommandLine
