/-
DeckKeywords/CommandLine/Run.lean

A run of the program, as a function of its words, its files and the text of
the log filter that its environment sets.
-/
import DeckKeywords.CommandLine.Answer
import DeckKeywords.CommandLine.Invocation
import DeckKeywords.CommandLine.LogFilter
import DeckKeywords.Session

namespace DeckKeywords.CommandLine

/-- What a run leaves behind. -/
structure Output where
  exitCode : Nat
  printed : String
  log : List String
  error : String
  deriving DecidableEq, Repr

/-- What an action comes to, and the events on the way. -/
abbrev Attempt := Noted (Except Failure Answer)

/-! ### Actions -/

/-- An attempt that fails at once with `f`. -/
def fail (f : Failure) : Attempt := ⟨.error f, []⟩

/-- The context for a `deck`, or for none. -/
def contextFor (c : Config) (files : FileSystem) (deck : Option Path) :
    Noted (Except Failure Context) :=
  let contextOf (document : Option Document) : Noted (Except Failure Context) :=
    let o := c.service.context .empty (c.surroundings files) document none
    ⟨.ok o.answer, eventsOf o.trace⟩
  match deck with
  | none => contextOf none
  | some path =>
    match TextDocument.read files path with
    | .ok document => contextOf (some document.toDocument)
    | .error why => ⟨.error (.deck path why), []⟩

/-- Answers a `question` about the keywords for a `deck`. -/
def asking (c : Config) (files : FileSystem) (deck : Option Path)
    (question : Context → Except Failure Answer) : Attempt :=
  let context := contextFor c files deck
  ⟨context.value >>= question, context.events⟩

/-- The keywords of a context `x`. -/
def keywordsOf (x : Context) : Taxonomy := x.keywords.taxonomy

/-- The versions of a language that is given by `name`. -/
def versionsFor (c : Config) (files : FileSystem) (name : Option String) : Attempt :=
  let listing (l : Option Language) : Attempt :=
    let o := c.service.versions .empty (c.surroundings files).tables l
    ⟨.ok (.names o.answer), eventsOf o.trace⟩
  match name with
  | none => listing none
  | some name =>
    match Language.ofName? name with
    | some l => listing (some l)
    | none => fail (.unknownLanguage name)

/-- Carries out the action of `inv` under the settings `c`. -/
def Action.attempt (inv : Invocation) (c : Config) (files : FileSystem) : Attempt :=
  let ask := asking c files
  match inv.action with
  | .resolve deck => ask deck fun x => .ok (.resolution x.resolution)
  | .versions name => versionsFor c files name
  | .modules deck => ask deck fun x => .ok (.names (keywordsOf x).moduleNames)
  | .commands m deck => ask deck fun x => .ok (.names ((keywordsOf x).commandNames m))
  | .params m command deck => ask deck fun x =>
    match (keywordsOf x).params? m command with
    | some ps => .ok (.params ps)
    | none => .error (.unavailable [m, command] x.resolution)
  | .enums m command param deck => ask deck fun x =>
    match (keywordsOf x).allowed? m command param with
    | some vs => .ok (.values vs)
    | none => .error (.unavailable [m, command, param] x.resolution)
  | .search term deck => ask deck fun x => .ok (.hits ((keywordsOf x).search term))
  | .validate word deck => ask deck fun x => .ok (.validation word ((keywordsOf x).validate word))
  | .stats deck => ask deck fun x => .ok (.statistics x.resolution (keywordsOf x).statistics)
  | .config true => ⟨.ok (.configShown c), []⟩
  | .config false => ⟨.ok (.configValid inv.config), []⟩

/-! ### Files -/

/-- The deck of an action. -/
def Action.deck? : Action → Option Path
  | resolve deck | modules deck | commands _ deck | params _ _ deck | enums _ _ _ deck
  | search _ deck | validate _ deck | stats deck => deck
  | versions _ | config _ => none

/-- The files that a run of `a` with settings `c` may look at: the deck, the sidecar file beside it,
and the tables. -/
def Action.files (a : Action) (c : Config) : List Path :=
  let sidecar := c.service.detector.sidecarPath? none a.deck?
  a.deck?.toList ++ sidecar.toList ++ Language.all.map (TableSource.tablePath ⟨c.dataDir⟩)

/-! ### Runs -/

/-- The filter of a run: the one of the `environment` if it is right, else one level, from the
command line or from the settings `c`. -/
def filterFor (inv : Invocation) (c : Config) (environment : Option String) : LogFilter :=
  match environment.bind LogFilter.ofText? with
  | some f => f
  | none =>
    match inv.verbosity with
    | 0 => .atLeast ((Level.ofName? c.level).getD .error)
    | 1 => .atLeast .debug
    | _ => .atLeast .trace

/-- What a run with an action leaves behind.  Settings are read before anything is logged. -/
def Invocation.run (inv : Invocation) (files : FileSystem) (environment : Option String) :
    Output :=
  match (Config.loadIfPresent files inv.config).value with
  | .error why => ⟨1, "", [], (Failure.config why).printed⟩
  | .ok found =>
    let c := found.getD .default
    let missing := if found.isNone then [Event.configMissing inv.config] else []
    let attempt := Action.attempt inv c files
    let records := (missing ++ attempt.events).map (·.record)
    let log := (records.filter (filterFor inv c environment).admits).map logLine
    match attempt.value with
    | .ok answer => ⟨0, answer.printed inv.json, log, ""⟩
    | .error f => ⟨1, "", log, f.printed⟩

/-- The name and the version of the program. -/
def versionLine : String := "sofkey 0.1.0\n"

/-- How the program is used. -/
def usageLine : String := "Usage: sofkey [OPTIONS] <COMMAND>\n"

/-- What a run with the command line `words` leaves behind. -/
def run (words : List String) (files : FileSystem) (environment : Option String) : Output :=
  match Invocation.ofWords words with
  | .ok inv => inv.run files environment
  | .error (.display .version) => ⟨0, versionLine, [], ""⟩
  | .error (.display .help) => ⟨0, usageLine, [], ""⟩
  | .error .usage => ⟨2, "", [], usageLine⟩

end DeckKeywords.CommandLine
