/-
DeckKeywords/Cache.lean

Two caches, one upon the other: the table of each language, read once, and the
projections made from it, one for each version and language.

A table that cannot be had is replaced by the empty one, and the replacement is
kept like any other table until the caches are cleared.  A version that the
table does not list is replaced by the table's fallback before the projections
are looked at, so all such requests share one projection.

A projection has a serial number, given when it is made: two answers with the
same number are the same projection, not just equal ones.
-/
import DeckKeywords.TableSource
import DeckKeywords.Taxonomy

namespace DeckKeywords

/-- Something that happened during an operation: a table's text was read, or an event occurred. -/
inductive Happening where
  | tableRead (language : Language)
  | event (e : Event)
  deriving DecidableEq, Repr

/-- The events in a `trace`. -/
def eventsOf (trace : List Happening) : List Event :=
  trace.filterMap fun h =>
    match h with
    | .event e => some e
    | .tableRead _ => none

/-- How often the table of a `language` was read in a `trace`. -/
def readsOf (language : Language) (trace : List Happening) : Nat :=
  trace.countP fun h =>
    match h with
    | .tableRead l => l = language
    | .event _ => false

/-- What an operation on a state in `σ` gives: its answer, the state after it, and what happened, in
order. -/
structure Outcome (σ α : Type) where
  answer : α
  state : σ
  trace : List Happening

/-- A projection that is shared by everyone who asks for the same keywords. -/
structure Shared where
  serial : Nat
  taxonomy : Taxonomy
  deriving DecidableEq

/-- What a projection is kept under. -/
abbrev CacheKey := String × Language

/-- The cached tables, the cached projections, and the number of projections ever made. -/
structure Cache where
  tables : PerLanguage (Option RawTable)
  projections : List (CacheKey × Shared)
  made : Nat

namespace Cache

/-- Nothing is cached. -/
def empty : Cache := ⟨.const none, [], 0⟩

/-- The number of cached tables. -/
def tableCount (c : Cache) : Nat := c.tables.count Option.isSome

/-- The number of cached projections. -/
def projectionCount (c : Cache) : Nat := c.projections.length

/-! ### Tables -/

/-- The table that a `source` offers now, with the event of loading it. -/
def fetch (source : TableSource) (language : Language) : RawTable × Event :=
  match source language with
  | .error why => (.empty, .tableUnavailable language (.unreadable why))
  | .ok text =>
    match RawTable.ofJson text with
    | .error why => (.empty, .tableUnavailable language (.malformed why))
    | .ok table =>
      (table, .tableLoaded language table.modules.size table.versions.versions.length)

/-- The table of a `language`, read from the `source` if it is not cached. -/
def table (c : Cache) (source : TableSource) (language : Language) : Outcome Cache RawTable :=
  match c.tables.get language with
  | some t => ⟨t, c, []⟩
  | none =>
    let (t, e) := fetch source language
    ⟨t, { c with tables := c.tables.set language (some t) }, [.tableRead language, .event e]⟩

/-- The versions that the table of a `language` lists. -/
def versions (c : Cache) (source : TableSource) (language : Option Language) :
    Outcome Cache (List String) :=
  let loaded := c.table source (language.getD .fallback)
  { loaded with answer := loaded.answer.versions.versions }

/-! ### Projections -/

/-- The version that is asked for: trimmed, and the default one if that leaves nothing. -/
def requestedVersion (version : Option String) : String :=
  match version.map Text.trim with
  | some v => if v.isEmpty then defaultVersion else v
  | none => defaultVersion

/-- The projection of a `table` onto a `version`, made if it is not cached. -/
def project (c : Cache) (table : RawTable) (version : String) (language : Language) :
    Outcome Cache Shared :=
  match c.projections.lookup (version, language) with
  | some shared => ⟨shared, c, []⟩
  | none =>
    let shared : Shared := ⟨c.made, Taxonomy.project table version language⟩
    ⟨shared,
      { c with projections := ((version, language), shared) :: c.projections, made := c.made + 1 },
      [.event (.projected version language shared.taxonomy.modules.size)]⟩

/-- The keywords of a `version` in a `language`. -/
def get (c : Cache) (source : TableSource) (version : Option String)
    (language : Option Language) : Outcome Cache Shared :=
  let language := language.getD .fallback
  let requested := requestedVersion version
  let loaded := c.table source language
  let listed := loaded.answer.versions
  let warning :=
    if listed.contains requested then []
    else [Happening.event (.versionReplaced requested listed.fallback language)]
  let projected := loaded.state.project loaded.answer (listed.effective requested) language
  ⟨projected.answer, projected.state, loaded.trace ++ warning ++ projected.trace⟩

/-! ### Clearing -/

/-- Forgets the tables but not what was made from them. -/
def clearTables (c : Cache) : Cache := { c with tables := .const none }

/-- Forgets everything. -/
def clear (c : Cache) : Cache := { c with tables := .const none, projections := [] }

/-- The written form of the cached tables. -/
def shownTables (c : Cache) : String :=
  "TaxonomyLoader \x7b cached: " ++ toString c.tableCount ++ ", .. \x7d"

end Cache

end DeckKeywords
