/-
DeckKeywords/Host.lean

A host at work: it asks its service, keeps the contexts that it is given, and
asks these on their own later.  A context is frozen, so asking one never comes
back to the service, and neither does anything that happens to the caches reach
a context.

A step says what the host does and what its files and tables offer at that
moment; between two steps both may change in any way.
-/
import DeckKeywords.Session
import DeckKeywords.Taxonomy.Search
import DeckKeywords.Taxonomy.Statistics
import DeckKeywords.Taxonomy.Validation

namespace DeckKeywords

/-! ### Questions to a context -/

/-- A question about keywords. -/
inductive Query where
  | modules
  | commands (module : String)
  | params (module command : String)
  | paramNames (module command : String)
  | allowed (module command param : String)
  | search (term : String)
  | validate (word : String)
  | statistics
  deriving DecidableEq, Repr

/-- The answer to a question about keywords. -/
inductive Finding where
  | names (ns : List String)
  | params (ps : Option ParamMap)
  | allowed (values : Option (Option (List String)))
  | hits (hs : List Hit)
  | validation (v : Option Validation)
  | statistics (s : Statistics)

/-- Answers a question from a taxonomy `t`. -/
def Taxonomy.find (t : Taxonomy) : Query → Finding
  | .modules => .names t.moduleNames
  | .commands module => .names (t.commandNames module)
  | .params module command => .params (t.params? module command)
  | .paramNames module command => .names (t.paramNames module command)
  | .allowed module command param => .allowed (t.allowed? module command param)
  | .search term => .hits (t.search term)
  | .validate word => .validation (t.validate word)
  | .statistics => .statistics t.statistics

/-- Answers a question `q` from the keywords that a context `c` holds. -/
def Context.find (c : Context) (q : Query) : Finding := c.keywords.taxonomy.find q

/-! ### Hosts -/

/-- What a host does: it asks the service, or a context by its number. -/
inductive Action where
  | ask (r : Request)
  | query (context : Nat) (q : Query)

/-- An action, with what the host's files and tables offer at its time. -/
structure Step where
  here : Surroundings
  action : Action

/-- What comes back: a reply of the service, or an answer of a context if there is that one. -/
inductive Response where
  | reply (r : Reply)
  | finding (f : Option Finding)

namespace Response

/-- The keywords that come with a response, bound to a context or not. -/
def keywords? : Response → Option Shared
  | reply (.keywords k) => some k
  | reply (.context c) => some c.keywords
  | _ => none

/-- The versions of a response, if it lists any. -/
def versions? : Response → Option (List String)
  | reply (.versions vs) => some vs
  | _ => none

end Response

/-- A context that a reply brings. -/
def Reply.context? : Reply → Option Context
  | context c => some c
  | _ => none

/-- A service at work, and the contexts that it gave, in the order of their making. -/
structure Host where
  session : Session
  contexts : List Context

namespace Host

/-- A host at its start. -/
def start (service : Service) (collector : Collector) : Host := ⟨.new service collector, []⟩

/-- Takes a `step`. -/
def perform (h : Host) (step : Step) : Response × Host :=
  match step.action with
  | .ask r =>
    let (reply, session) := h.session.perform step.here r
    (.reply reply, ⟨session, h.contexts ++ reply.context?.toList⟩)
  | .query n q => (.finding (h.contexts[n]?.map (·.find q)), h)

/-- The host `h` after the `steps` in turn. -/
def run (h : Host) (steps : List Step) : Host := steps.foldl (fun h step => (h.perform step).2) h

@[simp] theorem run_nil (h : Host) : h.run [] = h := rfl

@[simp] theorem run_append (h : Host) (xs ys : List Step) :
    h.run (xs ++ ys) = (h.run xs).run ys := List.foldl_append

@[simp] theorem run_cons (h : Host) (x : Step) (xs : List Step) :
    h.run (x :: xs) = (h.perform x).2.run xs := rfl

end Host

end DeckKeywords
