/-
DeckKeywords/Taxonomy/Search.lean

Searching the names of commands and parameters for a part, whatever the case.
-/
import DeckKeywords.Taxonomy
import DeckKeywords.Text.Case

namespace DeckKeywords

/-- A name that was found: a command, or a parameter of one. -/
inductive Hit where
  | command (module command : String)
  | param (module command param : String)
  deriving DecidableEq, Repr

namespace Taxonomy

/-- The hits of one `command`: its own name, then its parameters, as far as they are `wanted`. -/
def hitsOf (wanted : String → Bool) (module command : String) (params : ParamMap) : List Hit :=
  (if wanted command then [Hit.command module command] else []) ++
    (params.keys.filter wanted).map (Hit.param module command)

/-- The names that contain the `term`, both in lower case, in the order of modules, commands and
parameters. -/
def search (t : Taxonomy) (term : String) : List Hit :=
  let needle := Text.lower term
  let wanted (name : String) : Bool := Text.isPartOf needle (Text.lower name)
  t.modules.entries.flatMap fun (module, commands) =>
    commands.entries.flatMap fun (command, params) => hitsOf wanted module command params

end Taxonomy

end DeckKeywords
