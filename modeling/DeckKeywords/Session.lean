/-
DeckKeywords/Session.lean

A service at work: its cache, a collector for its events, and how often the
table of each language has been read.
-/
import DeckKeywords.Config
import DeckKeywords.Diagnostics
import DeckKeywords.Service

namespace DeckKeywords

/-- A service with what it has gathered so far. -/
structure Session where
  service : Service
  cache : Cache
  collector : Collector
  reads : PerLanguage Nat

namespace Session

/-- A session at its start. -/
def new (service : Service) (collector : Collector) : Session :=
  ⟨service, .empty, collector, .const 0⟩

/-- Adds what happened in a `trace` to what has been gathered. -/
def record (s : Session) (trace : List Happening) : Session :=
  { s with
    collector := s.collector.emitAll ((eventsOf trace).map (·.record))
    reads := ⟨s.reads.en + readsOf .en trace, s.reads.de + readsOf .de trace⟩ }

/-- Answers a request `r`. -/
def perform (s : Session) (here : Surroundings) (r : Request) : Reply × Session :=
  let o := s.service.answer s.cache here r
  (o.answer, { s with cache := o.state }.record o.trace)

end Session

/-- The service that the settings `c` describe. -/
def Config.service (c : Config) : Service := ⟨c.sidecar, c.overrides⟩

/-- What a service with settings `c` finds in `files`. -/
def Config.surroundings (c : Config) (files : FileSystem) : Surroundings :=
  ⟨.ofDirectory files ⟨c.dataDir⟩, files⟩

end DeckKeywords
