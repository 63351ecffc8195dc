/-
DeckKeywords/Config.lean

The settings of a host: overrides for version and language, where tables and
sidecar files are found, and how much is logged.  Settings are checked as a
whole, in a fixed order, and the first problem counts.
-/
import DeckKeywords.Event
import DeckKeywords.Override

namespace DeckKeywords

/-- The settings. -/
structure Config where
  version : String
  language : String
  dataDir : String
  sidecar : String
  level : String
  deriving DecidableEq, Repr

/-- What is wrong with settings; where it matters, with the text that was given. -/
inductive ConfigProblem where
  | emptyDataDir
  | emptySidecar
  | version (given : String)
  | language (given : String)
  | level (given : String)
  deriving DecidableEq, Repr

/-- Every name of every language. -/
def languageNames : List String := Language.all.flatMap (·.aliases)

/-- The names of the log levels. -/
def levelNames : List String := Level.all.map (·.name)

/-- The text of a problem. -/
def ConfigProblem.message (p : ConfigProblem) : String :=
  "validation error: " ++
    match p with
    | emptyDataDir => "keywords.data_dir must not be empty"
    | emptySidecar => "keywords.sidecar must not be empty"
    | version given =>
      "keywords.version must be " ++ Text.quoted auto ++ " or 1-4 digits, got " ++ Text.quoted given
    | language given =>
      "keywords.language must be one of " ++ Text.quotedList languageNames ++ ", got "
        ++ Text.quoted given
    | level given =>
      "logging.level must be one of " ++ Text.quotedList levelNames ++ ", got " ++ Text.quoted given

namespace Config

/-- The settings of a host that has none of its own. -/
def default : Config where
  version := auto
  language := Language.fallback.code
  dataDir := "assets"
  sidecar := "sofistik.def"
  level := Level.info.name

instance : Inhabited Config := ⟨default⟩

/-! ### Checking -/

/-- Whether `s` is a year or part of one: one to four ASCII digits, white space around them
aside. -/
def isShortNumber (s : String) : Bool :=
  let cs := Text.trimBlanks s.toList
  1 ≤ cs.length && cs.length ≤ 4 && cs.all Char.isDigit

/-- Whether `s` can stand for the version. -/
def acceptsVersion (s : String) : Bool := isAuto s || isShortNumber s

/-- Whether `s` can stand for the language. -/
def acceptsLanguage (s : String) : Bool := Text.isBlankText s || isAuto s || isLanguageAlias s

/-- Checks the settings `c`; the first problem counts. -/
def validate (c : Config) : Except ConfigProblem Unit :=
  if c.dataDir.isEmpty then .error .emptyDataDir
  else if c.sidecar.isEmpty then .error .emptySidecar
  else if !acceptsVersion c.version then .error (.version c.version)
  else if !acceptsLanguage c.language then .error (.language c.language)
  else if !levelNames.contains c.level then .error (.level c.level)
  else .ok ()

/-! ### Use -/

/-- The text `s` if it is not blank. -/
def present? (s : String) : Option String := if Text.isBlankText s then none else some s

/-- The version and the language of the settings `c` as overrides. -/
def overrides (c : Config) : Overrides := fun key =>
  if key = versionKey then present? c.version
  else if key = languageKey then present? c.language
  else none

end Config

end DeckKeywords
