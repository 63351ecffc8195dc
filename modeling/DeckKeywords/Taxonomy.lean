/-
DeckKeywords/Taxonomy.lean

The keywords of one version in one language: a table with the commands that
exist in that version, their tags taken off.
-/
import DeckKeywords.Language
import DeckKeywords.RawTable

namespace DeckKeywords

/-- Commands by name, each with its parameters. -/
abbrev CommandMap := OrderedMap ParamMap

/-- The keywords of one version in one language. -/
structure Taxonomy where
  version : String
  language : Language
  modules : OrderedMap CommandMap
  deriving DecidableEq

namespace Taxonomy

/-- The `commands` of a module that exist in the `version`. -/
def availableCommands (versions : VersionTable) (version : String)
    (commands : OrderedMap Command) : CommandMap :=
  commands.filterMap fun _ c =>
    if isAvailable c.availability version versions then some (c.params.getD .empty) else none

/-- The `table` seen from one `version`.  Every module stays, if need be without commands. -/
def project (table : RawTable) (version : String) (language : Language) : Taxonomy where
  version := version
  language := language
  modules := table.modules.map (availableCommands table.versions version)

/-! ### Lookups -/

/-- The names of the modules of `t`, in table order. -/
def moduleNames (t : Taxonomy) : List String := t.modules.keys

/-- The commands of a `module`, in table order; none if there is no such module. -/
def commandNames (t : Taxonomy) (module : String) : List String :=
  ((t.modules.get? module).map (·.keys)).getD []

/-- The parameters of a `command`, if there is such a command. -/
def params? (t : Taxonomy) (module command : String) : Option ParamMap :=
  (t.modules.get? module).bind (·.get? command)

/-- The parameters of a `command` by name, in table order; none if there is no such command. -/
def paramNames (t : Taxonomy) (module command : String) : List String :=
  ((t.params? module command).map (·.keys)).getD []

/-- What a parameter `param` allows, if there is such a parameter: the listed values, or
anything. -/
def allowed? (t : Taxonomy) (module command param : String) : Option (Option (List String)) :=
  (t.params? module command).bind (·.get? param)

end Taxonomy

end DeckKeywords
