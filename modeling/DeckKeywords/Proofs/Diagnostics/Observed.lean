/-
DeckKeywords/Proofs/Diagnostics/Observed.lean

What a host sees of the events about the caches.  A diagnostic is told by its
level, its target and its message, its `Kind`, and carries fields.  Four kinds
are about the caches: a table was loaded, a table cannot be had, a version is
replaced, a projection was made.

`Event.shown?` writes the diagnostics of these events out in full.  They are what
a collector keeps of the events, `shown?_eq`, and no other event looks like one of
them, `kind_mem_ofCaches_iff`.  So events can be counted by what is seen of them.
-/
import DeckKeywords.Diagnostics
import DeckKeywords.Proofs.Cache.Reports

namespace DeckKeywords

namespace Diagnostic

/-- What the diagnostics of one kind have in common: `level`, `target` and `message`. -/
structure Kind where
  level : Level
  target : String
  message : String
  deriving DecidableEq

namespace Kind

/-- A table was loaded. -/
def loaded : Kind := ⟨.debug, "sofkey_core::loader", "Loaded keyword table"⟩

/-- A table cannot be read, or is none. -/
def unavailable : Kind :=
  ⟨.warn, "sofkey_core::loader", "Keyword table unavailable, using empty taxonomy"⟩

/-- A version is not listed by the table. -/
def replaced : Kind :=
  ⟨.warn, "sofkey_core::cache", "Version not in keyword table, using table default"⟩

/-- A projection was made. -/
def projected : Kind := ⟨.debug, "sofkey_core::cache", "Projected keyword taxonomy"⟩

/-- The kinds that are about the caches. -/
def ofCaches : List Kind := [loaded, unavailable, replaced, projected]

/-- The diagnostic of the kind `k` with these `fields`. -/
def withFields (k : Kind) (fields : List (String × String)) : Diagnostic :=
  ⟨k.level, k.target, k.message, fields⟩

end Kind

/-- The kind of the diagnostic `d`. -/
def kind (d : Diagnostic) : Kind := ⟨d.level, d.target, d.message⟩

/-- Whether a diagnostic is of the kind `k` and names the language `l`. -/
def isAbout (d : Diagnostic) (k : Kind) (l : Language) : Bool :=
  d.kind = k && d.field? "language" = some l.code

/-- The table of `l` was loaded; it has so many modules, and lists so many versions. -/
def tableLoaded (l : Language) (modules versions : Nat) : Diagnostic :=
  Kind.loaded.withFields [("language", l.code), ("modules", toString modules),
    ("versions", toString versions)]

/-- The table of `l` cannot be had, for the reason that `error` gives. -/
def tableUnavailable (l : Language) (error : String) : Diagnostic :=
  Kind.unavailable.withFields [("language", l.code), ("error", error)]

/-- The table of `l` does not list the version `requested`, and has `fallback` for it. -/
def versionReplaced (requested fallback : String) (l : Language) : Diagnostic :=
  Kind.replaced.withFields [("requested", requested), ("fallback", fallback), ("language", l.code)]

/-- A projection of the table of `l` onto `version` was made, with so many modules. -/
def projected (version : String) (l : Language) (modules : Nat) : Diagnostic :=
  Kind.projected.withFields [("version", version), ("language", l.code),
    ("modules", toString modules)]

end Diagnostic

/-- What is seen of an event, if it is about the caches: its diagnostic, with all its fields. -/
def Event.shown? : Event → Option Diagnostic
  | tableLoaded l modules versions => some (.tableLoaded l modules versions)
  | tableUnavailable l why => some (.tableUnavailable l why.message)
  | versionReplaced requested fallback l => some (.versionReplaced requested fallback l)
  | projected version l modules => some (.projected version l modules)
  | _ => none

/-! ### Events by what is seen of them -/

namespace Diagnostic

/-- What a collector keeps of an event `e`. -/
def ofEvent (e : Event) : Diagnostic := .ofRecord e.record

/-- What is kept of an event `e` about the caches is what `shown?` writes out for it. -/
theorem shown?_eq (e : Event) :
    e.shown? = if e.subject = .other then none else some (ofEvent e) := by
  cases e <;> rfl

theorem kind_mem_ofCaches_iff (e : Event) :
    (ofEvent e).kind ∈ Kind.ofCaches ↔ e.subject ≠ .other := by
  cases e <;> simp [ofEvent, ofRecord, Event.record, Event.subject, kind, Kind.ofCaches,
    Kind.loaded, Kind.unavailable, Kind.replaced, Kind.projected]

theorem kind_eq_replaced_iff (e : Event) :
    (ofEvent e).kind = .replaced ↔ e.subject = .version := by
  cases e <;> simp [ofEvent, ofRecord, Event.record, Event.subject, kind, Kind.replaced]

theorem kind_eq_projected_iff (e : Event) :
    (ofEvent e).kind = .projected ↔ e.subject = .projection := by
  cases e <;> simp [ofEvent, ofRecord, Event.record, Event.subject, kind, Kind.projected]

/-- An event about the table of `l` is seen as one of two kinds, and no other event is seen so. -/
theorem isAbout_ofEvent (e : Event) (l : Language) :
    (if (ofEvent e).isAbout .loaded l then 1 else 0)
      + (if (ofEvent e).isAbout .unavailable l then 1 else 0)
      = if e.subject = .table l then 1 else 0 := by
  cases e <;> simp [isAbout, ofEvent, ofRecord, Event.record, Event.subject, kind, Kind.loaded,
    Kind.unavailable, field?, FieldValue.raw]

/-- Counted by what is seen, there are as many events about the table of `l` as there are. -/
theorem countP_isAbout (es : List Event) (l : Language) :
    (es.map ofEvent).countP (·.isAbout .loaded l)
      + (es.map ofEvent).countP (·.isAbout .unavailable l)
      = es.countP fun e => e.subject = .table l := by
  induction es with
  | nil => rfl
  | cons e es ih =>
    have hone := isAbout_ofEvent e l
    simp only [List.map_cons, List.countP_cons, decide_eq_true_eq]
    omega

/-- Only a table that cannot be had is seen as `tableUnavailable`, with its language `l` and its
reason, `error`. -/
theorem ofEvent_eq_tableUnavailable_iff {e : Event} {l : Language} {error : String} :
    ofEvent e = .tableUnavailable l error ↔
      ∃ why, e = .tableUnavailable l why ∧ why.message = error := by
  cases e <;> simp [ofEvent, ofRecord, Event.record, tableUnavailable, Kind.withFields,
    Kind.unavailable, FieldValue.raw]

/-- What is seen of the caches among the events `es` is what `shown?` writes out for them. -/
theorem filter_ofEvent (es : List Event) :
    (es.map ofEvent).filter (fun d => d.kind ∈ Kind.ofCaches) = es.filterMap Event.shown? := by
  induction es with
  | nil => rfl
  | cons e es ih =>
    by_cases he : e.subject = .other <;> simp [kind_mem_ofCaches_iff, shown?_eq, he, ih]

end Diagnostic

end DeckKeywords
