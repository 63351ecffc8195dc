/-
DeckKeywords/Toml/Node.lean

What a TOML text describes, and how its lines put that together.

A table remembers how it came to be, for that decides who may still add to it:

  * a table that only stood on the way to another one is implied; a header of
    its own may open it once, or dotted keys may go into it,
  * a table that a dotted key made or went into takes more dotted keys but no
    header,
  * a table opened by a header takes no dotted key from outside,
  * a table between braces is complete.

Nothing is ever written twice.
-/
namespace DeckKeywords.Toml

/-- A value without parts.  A time is kept as it is written; a number may be written so that it has
no value. -/
inductive Scalar where
  | text (s : String)
  | integer (i : Int)
  | real (negative : Bool) (significand : Nat) (power : Int)
  | infinity (negative : Bool)
  | notANumber
  | valueless
  | boolean (b : Bool)
  | time (s : String)
  deriving DecidableEq, Repr

/-- How a table came to be. -/
inductive Origin where
  | implied | dotted | header | inline
  deriving DecidableEq, Repr

/-- A value.  The tables of an array of tables have a header each. -/
inductive Node where
  | scalar (s : Scalar)
  | array (items : List Node)
  | table (origin : Origin) (members : List (String × Node))
  | tables (items : List Node)
  deriving Inhabited

/-- The members of a table. -/
abbrev Members := List (String × Node)

namespace Members

/-- Adds a member under a new name. -/
def add (name : String) (node : Node) (ms : Members) : Option Members :=
  if ms.any (·.1 = name) then none else some (ms ++ [(name, node)])

/-- Replaces a member. -/
def replace (name : String) (node : Node) (ms : Members) : Members :=
  ms.map fun m => if m.1 = name then (name, node) else m

end Members

/-! ### Going into tables -/

/-- Changes the table at the end of a path, with new tables on the way.  An array of tables stands
for its last table. -/
def changeAt (dotted : Bool) (change : Origin → Members → Option Members) :
    List String → Origin → Members → Option Members
  | [], origin, ms => change origin ms
  | name :: path, _, ms =>
    match ms.lookup name with
    | none => do
      let origin := if dotted then .dotted else .implied
      let inner ← changeAt dotted change path origin []
      return ms ++ [(name, .table origin inner)]
    | some (.table origin inner) =>
      if origin = .inline || (dotted && origin = .header) then none
      else do
        let origin := if dotted then .dotted else origin
        let inner ← changeAt dotted change path origin inner
        return ms.replace name (.table origin inner)
    | some (.tables items) =>
      match items.getLast? with
      | some (.table origin inner) => do
        let inner ← changeAt dotted change path origin inner
        return ms.replace name (.tables (items.dropLast ++ [.table origin inner]))
      | _ => none
    | some (.scalar _) => none
    | some (.array _) => none

/-! ### Lines -/

/-- Names between dots: those on the way, and the last one. -/
structure Key where
  path : List String
  last : String
  deriving DecidableEq, Repr

/-- Every name of a key. -/
def Key.names (k : Key) : List String := k.path ++ [k.last]

/-- Gives a key its value.  A key with dots ends in a table that was made by keys with dots. -/
def assign (k : Key) (node : Node) (origin : Origin) (ms : Members) : Option Members :=
  changeAt true (fun there ms =>
    if !k.path.isEmpty && there ≠ .dotted then none else ms.add k.last node) k.path origin ms

/-- Opens a table by its header. -/
def openTable (name : String) (ms : Members) : Option Members :=
  match ms.lookup name with
  | none => some (ms ++ [(name, .table .header [])])
  | some (.table .implied inner) => some (ms.replace name (.table .header inner))
  | some _ => none

/-- Opens one more table of an array of tables. -/
def openItem (name : String) (ms : Members) : Option Members :=
  match ms.lookup name with
  | none => some (ms ++ [(name, .tables [.table .header []])])
  | some (.tables items) => some (ms.replace name (.tables (items ++ [.table .header []])))
  | some _ => none

/-- A line that counts. -/
inductive Line where
  | assignment (key : Key) (node : Node)
  | table (key : Key)
  | item (key : Key)

/-- A document so far: its members, and the names of the table that lines go to. -/
structure Draft where
  members : Members
  here : List String

/-- The document with one more line. -/
def Draft.add (d : Draft) : Line → Option Draft
  | .assignment key node => do
    let ms ← changeAt false (assign key node) d.here .header d.members
    return { d with members := ms }
  | .table key => do
    let ms ← changeAt false (fun _ => openTable key.last) key.path .header d.members
    return ⟨ms, key.names⟩
  | .item key => do
    let ms ← changeAt false (fun _ => openItem key.last) key.path .header d.members
    return ⟨ms, key.names⟩

/-- The members that lines describe. -/
def ofLines (lines : List Line) : Option Members :=
  (·.members) <$> lines.foldlM Draft.add ⟨[], []⟩

/-- The table that keys and values between braces describe. -/
def ofPairs (pairs : List (Key × Node)) : Option Node :=
  .table .inline <$> pairs.foldlM (fun ms (key, node) => assign key node .inline ms) []

end DeckKeywords.Toml
