/-
DeckKeywords/Config/Toml.lean

Settings as a TOML text.  They stand in two sections, and a setting that is not
given takes its default.  A section may also be written as an array of its
settings in order.  Whatever else the text holds is passed over.
-/
import DeckKeywords.Config
import DeckKeywords.Decimal.Range
import DeckKeywords.Toml.Printer
import DeckKeywords.Toml.Reader

namespace DeckKeywords

open Toml (Node Scalar Members)

/-! ### Numbers in range -/

/-- Whether a scalar has a value: whole numbers fit 128 bits, others are finite or say otherwise. -/
def Toml.Scalar.inRange : Scalar → Bool
  | integer i => -(Decimal.twoTo 127 : Int) ≤ i && i < Decimal.twoTo 128
  | real _ significand power => Decimal.roundsToFinite significand power
  | valueless => false
  | _ => true

namespace Toml.Node

mutual

/-- Whether every number in a value has a value of its own. -/
def inRange : Node → Bool
  | scalar s => s.inRange
  | array items => itemsInRange items
  | tables items => itemsInRange items
  | table _ members => membersInRange members

/-- The same for each item. -/
def itemsInRange : List Node → Bool
  | [] => true
  | n :: ns => inRange n && itemsInRange ns

/-- The same for each member. -/
def membersInRange : List (String × Node) → Bool
  | [] => true
  | (_, n) :: ms => inRange n && membersInRange ms

end

/-- The text of a value. -/
def text? : Node → Option String
  | scalar (.text s) => some s
  | _ => none

end Toml.Node

/-! ### Reading -/

/-- Why there are no settings in a text: it is not TOML of the right shape, or they are wrong. -/
inductive ConfigFault where
  | malformed
  | invalid (problem : ConfigProblem)
  deriving DecidableEq, Repr

namespace Config

/-- The settings `names` that a section gives as members `ms`.  Each has to be a text; other members
are passed over. -/
def membersOf (names : List String) (ms : Members) : Option (List (String × String)) :=
  match ms with
  | [] => some []
  | (name, node) :: ms =>
    if names.contains name then do
      let s ← node.text?
      let rest ← membersOf names ms
      return (name, s) :: rest
    else if node.inRange then membersOf names ms
    else none

/-- The settings `names` of a section.  A date stands for a section that gives none. -/
def section? (names : List String) : Option Node → Option (List (String × String))
  | none => some []
  | some (.table _ ms) => membersOf names ms
  | some (.array items) => names.zip <$> (items.take names.length).mapM (·.text?)
  | some (.scalar (.time _)) => some []
  | some (.scalar _) => none
  | some (.tables _) => none

/-- The settings of a text `s`, not checked. -/
def ofToml? (s : String) : Option Config := do
  let ms ← Toml.ofText? s
  let sections := ["keywords", "logging"]
  let rest := ms.filter fun m => !sections.contains m.1
  if !rest.all (·.2.inRange) then none
  else
    let keywords ← section? ["version", "language", "data_dir", "sidecar"] (ms.lookup "keywords")
    let logging ← section? ["level"] (ms.lookup "logging")
    return {
      version := (keywords.lookup "version").getD default.version
      language := (keywords.lookup "language").getD default.language
      dataDir := (keywords.lookup "data_dir").getD default.dataDir
      sidecar := (keywords.lookup "sidecar").getD default.sidecar
      level := (logging.lookup "level").getD default.level }

/-- The settings of a text `s`. -/
def parse (s : String) : Except ConfigFault Config :=
  match ofToml? s with
  | none => .error .malformed
  | some c =>
    match c.validate with
    | .error problem => .error (.invalid problem)
    | .ok () => .ok c

/-! ### Writing -/

/-- A line that gives the setting `name` a `value`. -/
def settingLine (name value : String) : String := name ++ " = " ++ Toml.printedText value ++ "\n"

/-- The settings `c` as a text. -/
def toToml (c : Config) : String :=
  "[keywords]\n" ++ settingLine "version" c.version ++ settingLine "language" c.language
    ++ settingLine "data_dir" c.dataDir ++ settingLine "sidecar" c.sidecar
    ++ "\n[logging]\n" ++ settingLine "level" c.level

end Config

end DeckKeywords
