/-
DeckKeywords/Diagnostics.lean

Collecting events for a host that wants to show them.  A collector keeps the
latest events of at least a given level, as many as it has room for; the host
looks at them or takes them out.
-/
import DeckKeywords.Event

namespace DeckKeywords

/-- An event as it is kept: its fields as plain texts. -/
structure Diagnostic where
  level : Level
  target : String
  message : String
  fields : List (String × String)
  deriving DecidableEq, Repr

namespace Diagnostic

/-- What is kept of a record `r`. -/
def ofRecord (r : Record) : Diagnostic :=
  ⟨r.level, r.target, r.message, r.fields.map fun (name, value) => (name, value.raw)⟩

/-- The first field of that `name`. -/
def field? (d : Diagnostic) (name : String) : Option String := d.fields.lookup name

end Diagnostic

/-- Room for some diagnostics, the least level that is kept, and what is kept, oldest first. -/
structure Collector where
  capacity : Nat
  least : Level
  entries : List Diagnostic
  deriving DecidableEq, Repr

namespace Collector

/-- A collector that holds nothing yet. -/
def new (capacity : Nat) (least : Level) : Collector := ⟨capacity, least, []⟩

/-- Whether a record `r` is severe enough. -/
def admits (c : Collector) (r : Record) : Bool := c.least.severity ≤ r.level.severity

/-- Keeps a record `r` if it is severe enough; when there is no room, the oldest one makes way. -/
def emit (c : Collector) (r : Record) : Collector :=
  if !c.admits r || c.capacity = 0 then c
  else
    let kept := if c.capacity ≤ c.entries.length then c.entries.drop 1 else c.entries
    { c with entries := kept ++ [.ofRecord r] }

/-- Keeps the records `rs` in turn. -/
def emitAll (c : Collector) (rs : List Record) : Collector := rs.foldl emit c

/-- Takes everything out of `c`. -/
def drain (c : Collector) : List Diagnostic × Collector := (c.entries, { c with entries := [] })

end Collector

end DeckKeywords
