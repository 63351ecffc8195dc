/-
DeckKeywords/Taxonomy/Json.lean

Taxonomies and the answers about them as JSON values.
-/
import DeckKeywords.Json.Printer
import DeckKeywords.Taxonomy.Search
import DeckKeywords.Taxonomy.Statistics
import DeckKeywords.Taxonomy.Validation

namespace DeckKeywords

open Json (Value)

/-- A map `m` as an object, its entries in order, each by `item`. -/
def OrderedMap.toJson {α : Type} (item : α → Value) (m : OrderedMap α) : Value :=
  .object (m.entries.map fun (k, v) => (k, item v))

/-- Allowed values as a list, or null when anything is allowed. -/
def allowedJson : Option (List String) → Value
  | some values => .texts values
  | none => .null

/-- The parameters `params` as an object. -/
def ParamMap.toJson (params : ParamMap) : Value := OrderedMap.toJson allowedJson params

/-- A taxonomy `t` as an object. -/
def Taxonomy.toJson (t : Taxonomy) : Value :=
  .object [("version", .text t.version), ("language", .text t.language.code),
    ("modules", t.modules.toJson fun commands => commands.toJson ParamMap.toJson)]

/-- A hit as an object; a command has no member for a parameter. -/
def Hit.toJson : Hit → Value
  | command m c => .object [("kind", .text "command"), ("module", .text m), ("command", .text c)]
  | param m c p =>
    .object [("kind", .text "param"), ("module", .text m), ("command", .text c),
      ("param", .text p)]

/-- The `hits` as a list. -/
def Hit.listJson (hits : List Hit) : Value := .array (hits.map toJson)

/-- A validation as an object, or null for a word that is no keyword. -/
def Validation.toJson : Option Validation → Value
  | none => .null
  | some (command m c params) =>
    .object [("kind", .text "command"), ("module", .text m), ("command", .text c),
      ("params", ParamMap.toJson params)]
  | some (param m c p values) =>
    .object [("kind", .text "param"), ("module", .text m), ("command", .text c),
      ("param", .text p), ("values", allowedJson values)]

/-- The counts `m` of a module as an object. -/
def ModuleCounts.toJson (m : ModuleCounts) : Value :=
  .object [("commands", .nat m.commands), ("params", .nat m.params)]

/-- The counts `s` of a taxonomy as an object. -/
def Statistics.toJson (s : Statistics) : Value :=
  .object [("modules", .nat s.modules), ("commands", .nat s.commands), ("params", .nat s.params),
    ("per_module", s.perModule.toJson ModuleCounts.toJson)]

end DeckKeywords
