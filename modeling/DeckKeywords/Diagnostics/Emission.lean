/-
DeckKeywords/Diagnostics/Emission.lean

Events as they are emitted.  At that point the message is a field like any
other, named `message`; the record of an event has it apart, and the other
fields in the order in which they were given.  To get there the fields are
visited in turn.
-/
import DeckKeywords.Diagnostics

namespace DeckKeywords

/-- The name of the field that holds the message. -/
def messageField : String := "message"

/-- An event as it is emitted, its fields in the order in which they were given. -/
structure Emission where
  level : Level
  target : String
  fields : List (String × FieldValue)
  deriving DecidableEq, Repr

namespace Emission

/-- What the fields visited so far have supplied. -/
structure Visited where
  message : String := ""
  fields : List (String × FieldValue) := []

/-- Visits a field: the message is set, and any other field is added behind those before it. -/
def Visited.push (v : Visited) (field : String × FieldValue) : Visited :=
  if field.1 = messageField then { v with message := field.2.raw }
  else { v with fields := v.fields ++ [field] }

/-- What all fields of `e` have supplied. -/
def visited (e : Emission) : Visited := e.fields.foldl Visited.push {}

/-- The record of the event. -/
def record (e : Emission) : Record := ⟨e.level, e.target, e.visited.message, e.visited.fields⟩

end Emission

namespace Collector

/-- What happens to a collector: an event is emitted, or the host takes everything out. -/
inductive Operation where
  | emit (e : Emission)
  | drain
  deriving DecidableEq, Repr

/-- The collector `c` after an operation. -/
def perform (c : Collector) : Operation → Collector
  | .emit e => c.emit e.record
  | .drain => c.drain.2

/-- The collector `c` after the operations `ops` in turn. -/
def run (c : Collector) (ops : List Operation) : Collector := ops.foldl perform c

/-- What the host takes out of `c` on the way, batch by batch. -/
def batches (c : Collector) : List Operation → List (List Diagnostic)
  | [] => []
  | .emit e :: ops => (c.perform (.emit e)).batches ops
  | .drain :: ops => c.drain.1 :: (c.perform .drain).batches ops

end Collector

end DeckKeywords
