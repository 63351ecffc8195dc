/-
DeckKeywords/Service.lean

The keyword service: detection, resolution and the caches behind one door.  A
service itself is fixed; what changes is the cache, and what the host's files
and tables say at the time of a request.

A request never fails.  It has an answer, it leaves a cache, and it has a trace
of what happened.
-/
import DeckKeywords.Cache
import DeckKeywords.Resolution

namespace DeckKeywords

/-- A name for sidecar files, and what the host has configured. -/
structure Service where
  sidecar : String
  overrides : Overrides

/-- What the host offers at the time of a request. -/
structure Surroundings where
  tables : TableSource
  files : FileSystem

/-- A resolution bound to its keywords, and the path that it was made for. -/
structure Context where
  resolution : Resolution
  keywords : Shared
  origin : Option Path
  deriving DecidableEq

/-- What can be asked of a service. -/
inductive Request where
  | detect (document : Option Document) (path : Option Path)
  | resolve (document : Option Document) (path : Option Path)
  | versions (language : Option Language)
  | load (version : Option String) (language : Option Language)
  | context (document : Option Document) (path : Option Path)
  | reset
  deriving DecidableEq, Repr

/-- What a service answers. -/
inductive Reply where
  | detection (d : Detection)
  | resolution (r : Resolution)
  | versions (vs : List String)
  | keywords (k : Shared)
  | context (c : Context)
  | done
  deriving DecidableEq

namespace Service

/-- The detector of a service `s`. -/
def detector (s : Service) : Detector := ⟨s.sidecar⟩

/-- The resolver of a service `s`. -/
def resolver (s : Service) : Resolver := ⟨s.detector, s.overrides⟩

/-- The language for requests that name none. -/
def defaultLanguage (s : Service) : Language :=
  ((s.overrides languageKey).bind Language.ofName?).getD .fallback

/-- An answer `n` that leaves the `cache` alone. -/
def noted {α : Type} (n : Noted α) (cache : Cache) : Outcome Cache α :=
  ⟨n.value, cache, n.events.map .event⟩

/-- The versions of a `language`, by default the configured one. -/
def versions (s : Service) (cache : Cache) (tables : TableSource) (language : Option Language) :
    Outcome Cache (List String) :=
  cache.versions tables (some (language.getD s.defaultLanguage))

/-- The keywords of a `version` in a `language`, by default the configured one. -/
def load (s : Service) (cache : Cache) (tables : TableSource) (version : Option String)
    (language : Option Language) : Outcome Cache Shared :=
  cache.get tables version (some (language.getD s.defaultLanguage))

/-- A context for a `document` or a `path`: resolved once, and bound to the keywords for that. -/
def context (s : Service) (cache : Cache) (here : Surroundings) (document : Option Document)
    (path : Option Path) : Outcome Cache Context :=
  let resolved := s.resolver.resolve here.files document path
  let resolution := resolved.value
  let loaded := cache.get here.tables (some resolution.version) (some resolution.language)
  ⟨⟨resolution, loaded.answer, path <|> document.bind (·.path)⟩, loaded.state,
    resolved.events.map .event ++ loaded.trace⟩

/-- Answers a request. -/
def answer (s : Service) (cache : Cache) (here : Surroundings) : Request → Outcome Cache Reply
  | .detect document path =>
    let o := noted (s.detector.detect here.files document path) cache
    ⟨.detection o.answer, o.state, o.trace⟩
  | .resolve document path =>
    let o := noted (s.resolver.resolve here.files document path) cache
    ⟨.resolution o.answer, o.state, o.trace⟩
  | .versions language =>
    let o := s.versions cache here.tables language
    ⟨.versions o.answer, o.state, o.trace⟩
  | .load version language =>
    let o := s.load cache here.tables version language
    ⟨.keywords o.answer, o.state, o.trace⟩
  | .context document path =>
    let o := s.context cache here document path
    ⟨.context o.answer, o.state, o.trace⟩
  | .reset => ⟨.done, cache.clear, [.event .cachesCleared]⟩

end Service

end DeckKeywords
