/-
DeckKeywords/CommandLine/Invocation.lean

What a command line asks for: one action, the settings to use, and how to show
the answer.  Options for the program stand before the name of the action,
options for the action behind it; only the one for JSON may stand on both sides.
-/
import DeckKeywords.CommandLine.Options
import DeckKeywords.Path

namespace DeckKeywords.CommandLine

/-- What to do.  Most actions are about a deck; without one, the settings decide. -/
inductive Action where
  | resolve (deck : Option Path)
  | versions (language : Option String)
  | modules (deck : Option Path)
  | commands (module : String) (deck : Option Path)
  | params (module command : String) (deck : Option Path)
  | enums (module command param : String) (deck : Option Path)
  | search (term : String) (deck : Option Path)
  | validate (word : String) (deck : Option Path)
  | stats (deck : Option Path)
  | config (showAll : Bool)
  deriving DecidableEq, Repr

/-- What a command line asks for. -/
structure Invocation where
  config : Path
  verbosity : Nat
  json : Bool
  action : Action
  deriving DecidableEq, Repr

/-! ### Options -/

/-- Shows a short help. -/
def helpOption : OptionSpec := ⟨"help", some 'h', .display .help⟩

/-- Asks for JSON. -/
def jsonOption : OptionSpec := ⟨"json", none, .flag⟩

/-- The options before the name of the action. -/
def programOptions : List OptionSpec :=
  [⟨"config", some 'c', .value false⟩, ⟨"verbose", some 'v', .counted⟩, jsonOption, helpOption,
    ⟨"version", some 'V', .display .version⟩]

/-- The options behind the `name` of an action. -/
def actionOptions (name : String) : List OptionSpec :=
  let own : List OptionSpec :=
    if name = "versions" then [⟨"language", some 'l', .value true⟩]
    else if name = "config" then [⟨"show", none, .flag⟩]
    else []
  own ++ [jsonOption, helpOption]

/-! ### Actions -/

/-- The actions by name, and how many words each of them needs.  A deck may follow those words,
except behind the actions that say nothing about a deck. -/
def actionWords : List (String × Nat × Bool) :=
  [("resolve", 0, true), ("versions", 0, false), ("modules", 0, true), ("commands", 1, true),
    ("params", 2, true), ("enums", 3, true), ("search", 1, true), ("validate", 1, true),
    ("stats", 0, true), ("config", 0, false)]

/-- Whether `name` is that of an action. -/
def isActionName (name : String) : Bool := actionWords.any (·.1 = name)

/-- Whether a `word` fits behind the `name` of an action, as the one at place `i`.  The path of a
deck is not empty. -/
def wordFits (name : String) (i : Nat) (word : String) : Bool :=
  match actionWords.lookup name with
  | some (needed, aboutDeck) => i < needed || (aboutDeck && i = needed && !word.isEmpty)
  | none => false

/-- The action of that `name` with its `words` and the options `g`. -/
def Action.of? (name : String) (g : Given) (words : List String) : Option Action :=
  let deck (words : List String) : Option Path := words.head?.map Path.mk
  match name, words with
  | "resolve", ws => some (.resolve (deck ws))
  | "versions", _ => some (.versions (g.lookup "language"))
  | "modules", ws => some (.modules (deck ws))
  | "commands", m :: ws => some (.commands m (deck ws))
  | "params", m :: c :: ws => some (.params m c (deck ws))
  | "enums", m :: c :: p :: ws => some (.enums m c p (deck ws))
  | "search", term :: ws => some (.search term (deck ws))
  | "validate", word :: ws => some (.validate word (deck ws))
  | "stats", ws => some (.stats (deck ws))
  | "config", _ => some (.config (g.has "show"))
  | _, _ => none

/-! ### Command lines -/

/-- Where settings are found unless the command line says otherwise. -/
def usualConfig : String := "sofkey.toml"

/-- Help is asked for in general, or by the `names` of one action or of help itself. -/
def help (names : List String) : Stop :=
  match names with
  | [] | ["help"] => .display .help
  | [name] => if isActionName name then .display .help else .usage
  | _ => .usage

/-- What the `words` of a command line ask for. -/
def Invocation.ofWords (words : List String) : Except Stop Invocation := do
  let program ← readWords programOptions .nothing ([], none) 0 words
  match program.left with
  | [] => .error .usage
  | name :: rest =>
    if name = "help" then .error (help rest)
    else if !isActionName name then .error .usage
    else
      let own ← readWords (actionOptions name) (.words (wordFits name)) ([], none) 0 rest
      match Action.of? name own.given own.words with
      | none => .error .usage
      | some action =>
        return {
          config := ⟨(program.given.lookup "config").getD usualConfig⟩
          verbosity := program.given.count "verbose"
          json := program.given.has "json" || own.given.has "json"
          action }

end DeckKeywords.CommandLine
