/-
DeckKeywords/RawTable.lean

A keyword table as it is published for one language: modules, their commands,
the parameters of a command, and the values that a parameter allows.

In JSON a table is an object of modules; the key `_meta` is reserved for the
versions.  A command is an object with an optional tag under `version` and
optional parameters under `params`, or just a list of parameter names.  Where
keys repeat, the first position and the last value count.
-/
import DeckKeywords.Availability

namespace DeckKeywords

/-- The key that holds the versions of a table. -/
def metaKey : String := "_meta"

/-- The parameters of a command, each with the values it allows; without such values any will do. -/
abbrev ParamMap := OrderedMap (Option (List String))

/-- A command as published: when it exists, and its parameters if it declares any. -/
structure Command where
  availability : Option Availability
  params : Option ParamMap
  deriving DecidableEq

/-- A table as published. -/
structure RawTable where
  versions : VersionTable
  modules : OrderedMap (OrderedMap Command)
  deriving DecidableEq

namespace RawTable

/-- The table that stands in for one that cannot be read. -/
def empty : RawTable := ⟨.empty, .empty⟩

instance : Inhabited RawTable := ⟨empty⟩

end RawTable

open Json (Tree Fault Value)

/-! ### Commands -/

namespace Command

/-- The values of a parameter: none given, or a list. -/
def allowedValues? : Value → Option (Option (List String))
  | .null => some none
  | v => v.texts?.map some

/-- The parameters under `params`: none given, or an object. -/
def params? : Value → Option (Option ParamMap)
  | .null => some none
  | .object members => do
    let ps ← members.mapM fun (k, v) => (k, ·) <$> allowedValues? v
    return some (.ofList ps)
  | _ => none

/-- The tag under `version`: none given, or a text. -/
def availability? : Value → Option (Option Availability)
  | .null => some none
  | .text s => some (Availability.parse s)
  | _ => none

/-- The value of a field `name` that may be absent but must not come twice. -/
def field? (name : String) (members : List (String × Value)) : Option (Option Value) :=
  match members.filter (·.1 = name) with
  | [] => some none
  | [(_, v)] => some (some v)
  | _ => none

/-- The command of a JSON value, if it is one. -/
def ofValue? : Value → Option Command
  | .array items => do
    let names ← items.mapM Value.text?
    return ⟨none, some (.ofList (names.map (·, none)))⟩
  | .object members => do
    let tag ← field? "version" members
    let ps ← field? "params" members
    let availability ← availability? (tag.getD .null)
    let params ← params? (ps.getD .null)
    return ⟨availability, params⟩
  | _ => none

/-- A command inside the number `opened` of open brackets.  Its value is read in full first. -/
def decode (opened : Nat) (t : Tree) : Except Fault Command := do
  let v ← t.value opened
  match ofValue? v with
  | some c => return c
  | none => .error (.noVariant "CommandRepr")

end Command

/-! ### Tables -/

namespace RawTable

/-- A member of the outermost object. -/
inductive Member where
  | versions (t : VersionTable)
  | commands (name : String) (commands : OrderedMap Command)

/-- A member by its `key`. -/
def decodeMember (key : String) (t : Tree) : Except Fault Member :=
  if key = metaKey then .versions <$> VersionTable.decode 1 t
  else .commands key <$> t.asMap 1 (Command.decode 2)

/-- Adds a member to a `table`: versions replace those read before, and so do the commands of a
module that was there already. -/
def add (table : RawTable) : Member → RawTable
  | .versions t => { table with versions := t }
  | .commands name commands => { table with modules := table.modules.insert name commands }

/-- The table of `members` in order. -/
def ofMembers (members : List Member) : RawTable := members.foldl add empty

/-- The table of a tree `t`. -/
def decode (t : Tree) : Except Fault RawTable :=
  ofMembers <$> t.asMembers "a keyword table object" 0 decodeMember

/-- The table of a whole JSON text `s`. -/
def ofJson (s : String) : Except Fault RawTable := Json.decode decode s

end RawTable

end DeckKeywords
