/-
DeckKeywords/Taxonomy/Validation.lean

Checking whether a word is a keyword.  The word is put into upper case and
then compared with names as published.  A command anywhere wins over a
parameter anywhere; among commands, and among parameters, the first one wins.
-/
import DeckKeywords.Taxonomy
import DeckKeywords.Text.Case

namespace DeckKeywords

/-- What a word turned out to be. -/
inductive Validation where
  | command (module command : String) (params : ParamMap)
  | param (module command param : String) (values : Option (List String))
  deriving DecidableEq

namespace Taxonomy

/-- The first command of that `name`. -/
def findCommand (t : Taxonomy) (name : String) : Option Validation :=
  t.modules.entries.findSome? fun (module, commands) =>
    (commands.entries.find? (·.1 = name)).map fun (command, params) =>
      .command module command params

/-- The first parameter of that `name`. -/
def findParam (t : Taxonomy) (name : String) : Option Validation :=
  t.modules.entries.findSome? fun (module, commands) =>
    commands.entries.findSome? fun (command, params) =>
      (params.entries.find? (·.1 = name)).map fun (param, values) =>
        .param module command param values

/-- What the `word` is, if it is a keyword. -/
def validate (t : Taxonomy) (word : String) : Option Validation :=
  let name := Text.upper word
  match t.findCommand name with
  | some found => some found
  | none => t.findParam name

end Taxonomy

end DeckKeywords
