/-
DeckKeywords/VersionTable.lean

The versions that a keyword table covers.  A version is a text and nothing
more: versions are ordered by their place in the table, never by their digits.
-/
import DeckKeywords.Json.Decode

namespace DeckKeywords

/-- The version used when nothing else supplies one. -/
def defaultVersion : String := "2025"

/-- The versions of a table, oldest first, and the one that replaces an unlisted version. -/
structure VersionTable where
  versions : List String
  fallback : String
  deriving DecidableEq, Repr

namespace VersionTable

/-- The table that lists no version. -/
def empty : VersionTable := ⟨[], defaultVersion⟩

instance : Inhabited VersionTable := ⟨empty⟩

/-- The first place of a version, or `-1`, which takes part in comparisons like any other place. -/
def position (t : VersionTable) (version : String) : Int :=
  match t.versions.idxOf? version with
  | some i => i
  | none => -1

/-- Whether the `version` is listed. -/
def contains (t : VersionTable) (version : String) : Bool := t.versions.contains version

/-- Whether `t` lists no version. -/
def isEmpty (t : VersionTable) : Bool := t.versions.isEmpty

/-- The version that stands in for a `requested` one: itself if it is listed, else the fallback. -/
def effective (t : VersionTable) (requested : String) : String :=
  if t.contains requested then requested else t.fallback

/-! ### JSON -/

open Json (Tree Fault Value)

/-- What the members read so far have supplied. -/
structure Fields where
  versions : Option (List String) := none
  fallback : Option String := none

/-- The table that the fields `f` describe. -/
def Fields.table (f : Fields) : VersionTable :=
  ⟨f.versions.getD [], f.fallback.getD defaultVersion⟩

/-- A list of texts inside the number `opened` of open brackets. -/
def decodeTexts (opened : Nat) (t : Tree) : Except Fault (List String) :=
  t.asList "a sequence" opened Tree.asText

/-- Reads members in turn into `f`.  Neither field may come twice; other members are passed over. -/
def decodeMembers (opened : Nat) (f : Fields) :
    List (Json.Token × Tree) → Except Fault Fields
  | [] => .ok f
  | (k, t) :: ms => do
    let key ← k.read
    if key = "versions" then
      if f.versions.isSome then .error (.duplicateField "versions")
      else
        let vs ← decodeTexts opened t
        decodeMembers opened { f with versions := some vs } ms
    else if key = "default" then
      if f.fallback.isSome then .error (.duplicateField "default")
      else
        let v ← t.asText
        decodeMembers opened { f with fallback := some v } ms
    else do
      t.skip
      decodeMembers opened f ms

/-- Reads the fields of a table that is written as a list of `items`: the versions, then the
fallback. -/
def decodeItems (opened : Nat) (items : List Tree) (stop : Option Json.Break) :
    Except Fault Fields :=
  match items with
  | [] => do
    Json.close stop
    return {}
  | [vs] => do
    let vs ← decodeTexts opened vs
    Json.close stop
    return { versions := some vs }
  | vs :: v :: more => do
    let vs ← decodeTexts opened vs
    let v ← v.asText
    match more, stop with
    | [], none => return { versions := some vs, fallback := some v }
    | [], some b => .error b.afterLast
    | _ :: _, _ => .error .trailingCharacters

/-- A version table, written as an object or as a list, inside the number `opened` of open
brackets. -/
def decode (opened : Nat) : Tree → Except Fault VersionTable
  | .object members stop => do
    Json.checkDepth opened
    let f ← decodeMembers (opened + 1) {} members
    Json.close stop
    return f.table
  | .list items stop => do
    Json.checkDepth opened
    let f ← decodeItems (opened + 1) items stop
    return f.table
  | t => .error (t.refusal "struct VersionTable")

/-- The table of a whole JSON text `s`. -/
def ofJson (s : String) : Except Fault VersionTable := Json.decode (decode 0) s

/-- The table `t` as a JSON value. -/
def toJson (t : VersionTable) : Value :=
  .object [("versions", .texts t.versions), ("default", .text t.fallback)]

end VersionTable

end DeckKeywords
