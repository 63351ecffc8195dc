/-
DeckKeywords/Cache/Visit.lean

Everything that can be done to a cache from outside, as data.  A visit is one
such operation together with what the source of the tables offers at its time,
so a list of visits is a run in which the source may change in any way between
one step and the next.

The tables beneath can be used on their own: they are loaded by `load`, and
`clearTables` forgets them without the projections that were made from them.
-/
import DeckKeywords.Cache

namespace DeckKeywords

namespace Cache

/-- What can be asked of a cache, or of the tables beneath it. -/
inductive Operation where
  | get (version : Option String) (language : Option Language)
  | versions (language : Option Language)
  | load (language : Language)
  | clearTables
  | clear
  deriving DecidableEq, Repr

/-- An operation, with what the source offers at its time. -/
structure Visit where
  source : TableSource
  operation : Operation

/-- What an operation answers. -/
inductive Answer where
  | keywords (k : Shared)
  | versions (vs : List String)
  | table (t : RawTable)
  | done
  deriving DecidableEq

namespace Answer

/-- The keywords of an answer, if it brings any. -/
def keywords? : Answer → Option Shared
  | keywords k => some k
  | _ => none

/-- The versions of an answer, if it lists any. -/
def versions? : Answer → Option (List String)
  | versions vs => some vs
  | _ => none

end Answer

/-- Does what the visit `v` asks for. -/
def visit (c : Cache) (v : Visit) : Outcome Cache Answer :=
  match v.operation with
  | .get version language =>
    let o := c.get v.source version language
    ⟨.keywords o.answer, o.state, o.trace⟩
  | .versions language =>
    let o := c.versions v.source language
    ⟨.versions o.answer, o.state, o.trace⟩
  | .load language =>
    let o := c.table v.source language
    ⟨.table o.answer, o.state, o.trace⟩
  | .clearTables => ⟨.done, c.clearTables, []⟩
  | .clear => ⟨.done, c.clear, []⟩

/-- The cache that the `visits` leave behind, the first one first. -/
def run (c : Cache) (visits : List Visit) : Cache :=
  visits.foldl (fun c v => (c.visit v).state) c

@[simp] theorem run_nil (c : Cache) : c.run [] = c := rfl

@[simp] theorem run_append (c : Cache) (vs ws : List Visit) :
    c.run (vs ++ ws) = (c.run vs).run ws := List.foldl_append

@[simp] theorem run_cons (c : Cache) (v : Visit) (vs : List Visit) :
    c.run (v :: vs) = (c.visit v).state.run vs := rfl

end Cache

end DeckKeywords
