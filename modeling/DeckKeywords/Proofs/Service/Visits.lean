/-
DeckKeywords/Proofs/Service/Visits.lean

What a host's steps ask of the cache.  Detecting, resolving and asking a context
leave the cache alone; listing versions, loading keywords and making a context
are one visit each, for the language that the request names, that the service
falls back to, or that was resolved; a reset clears the cache.

So a run of a host is a run of visits, `run_cache`, and what a step answers and
reads is what its visit answers and reads.  A service never forgets the tables
on their own.
-/
import DeckKeywords.Host
import DeckKeywords.Proofs.Cache.History

namespace DeckKeywords

namespace Step

/-- Whether the step `x` is a `reset`. -/
def isReset (x : Step) : Bool :=
  match x.action with
  | .ask .reset => true
  | _ => false

/-- A step that loads the keywords of `version` and `language`, of a host without files. -/
def loading (tables : TableSource) (version : Option String) (language : Option Language) : Step :=
  ⟨⟨tables, .ofFindings []⟩, .ask (.load version language)⟩

end Step

namespace Service

/-- The visit that a `step` pays to the cache, if it pays one. -/
def visit? (s : Service) (step : Step) : Option Cache.Visit :=
  match step.action with
  | .ask (.versions language) =>
    some ⟨step.here.tables, .versions (some (language.getD s.defaultLanguage))⟩
  | .ask (.load version language) =>
    some ⟨step.here.tables, .get version (some (language.getD s.defaultLanguage))⟩
  | .ask (.context document path) =>
    let r := (s.resolver.resolve step.here.files document path).value
    some ⟨step.here.tables, .get (some r.version) (some r.language)⟩
  | .ask .reset => some ⟨step.here.tables, .clear⟩
  | _ => none

/-- The version and the language for which a `step` wants keywords, if it wants any: those that it
names or that were resolved, the version trimmed, with the defaults in the place of what is
missing. -/
def wanted? (s : Service) (step : Step) : Option (String × Language) :=
  match step.action with
  | .ask (.load version language) =>
    some (Cache.askedVersion version, language.getD s.defaultLanguage)
  | .ask (.context document path) =>
    let r := (s.resolver.resolve step.here.files document path).value
    some (Cache.askedVersion (some r.version), r.language)
  | _ => none

/-- Keywords are wanted by the steps `x` whose visits get them. -/
theorem wanted?_eq (s : Service) (x : Step) :
    s.wanted? x = (s.visit? x).bind fun v =>
      match v.operation with
      | .get version language => some (Cache.askedVersion version, language.getD .fallback)
      | _ => none := by
  obtain ⟨here, r | ⟨n, q⟩⟩ := x
  · cases r <;> rfl
  · rfl

theorem wanted?_of_visit?_eq_none {s : Service} {x : Step} (h : s.visit? x = none) :
    s.wanted? x = none := by
  rw [wanted?_eq, h, Option.bind_none]

/-- A visit `v` finds the tables as its step `x` does. -/
theorem source_of_visit? {s : Service} {x : Step} {v : Cache.Visit} (h : s.visit? x = some v) :
    v.source = x.here.tables := by
  obtain ⟨here, r | ⟨n, q⟩⟩ := x
  · cases r <;> cases h <;> rfl
  · cases h

theorem visit?_of_wanted? {s : Service} {x : Step} {version : String} {l : Language}
    (h : s.wanted? x = some (version, l)) :
    ∃ asked language, s.visit? x = some ⟨x.here.tables, .get asked language⟩ ∧
      Cache.askedVersion asked = version ∧ language.getD .fallback = l := by
  rw [wanted?_eq] at h
  obtain ⟨⟨source, operation⟩, hvisit, hwanted⟩ := Option.bind_eq_some_iff.mp h
  obtain rfl : source = x.here.tables := source_of_visit? hvisit
  cases operation with
  | get asked language =>
    obtain ⟨hversion, hlanguage⟩ := Prod.mk.inj (Option.some.inj hwanted)
    exact ⟨asked, language, hvisit, hversion, hlanguage⟩
  | versions | load | clearTables | clear => cases hwanted

/-- The visits of the run `steps`. -/
def visits (s : Service) (steps : List Step) : List Cache.Visit := steps.filterMap s.visit?

theorem visits_concat (s : Service) (steps : List Step) {x : Step} {v : Cache.Visit}
    (h : s.visit? x = some v) : s.visits (steps ++ [x]) = s.visits steps ++ [v] := by
  simp [visits, h]

@[simp] theorem visits_append (s : Service) (xs ys : List Step) :
    s.visits (xs ++ ys) = s.visits xs ++ s.visits ys := List.filterMap_append

/-- The visit of a step `x` forgets the tables if the step is a reset. -/
theorem dropsTables_visit? (s : Service) (x : Step) :
    ((s.visit? x).all fun v => !v.operation.dropsTables) = !x.isReset := by
  obtain ⟨here, r | ⟨n, q⟩⟩ := x
  · cases r <;> rfl
  · rfl

/-- The visit `v` of a step `x` clears the cache exactly if the step is a reset. -/
theorem clear_iff_isReset {s : Service} {x : Step} {v : Cache.Visit} (h : s.visit? x = some v) :
    v.operation = .clear ↔ x.isReset := by
  obtain ⟨here, r | ⟨n, q⟩⟩ := x
  · cases r <;> cases h <;> simp [Step.isReset]
  · cases h

theorem visit?_of_isReset {s : Service} {x : Step} (h : x.isReset) :
    ∃ v, s.visit? x = some v ∧ v.operation = .clear := by
  obtain ⟨here, r | ⟨n, q⟩⟩ := x
  · cases r <;> first | exact ⟨_, rfl, rfl⟩ | cases h
  · cases h

/-- Without a reset in `steps`, the tables are not forgotten. -/
theorem visits_keep (s : Service) {steps : List Step} (hkeep : ∀ x ∈ steps, x.isReset = false) :
    ∀ v ∈ s.visits steps, v.operation.dropsTables = false := by
  intro v hv
  obtain ⟨x, hx, hvisit⟩ := List.mem_filterMap.mp hv
  have hdrop := dropsTables_visit? s x
  rw [hvisit, hkeep x hx] at hdrop
  simpa using hdrop

/-- The cache is not cleared exactly as long as there is no reset in `steps`. -/
theorem visits_ne_clear_iff (s : Service) (steps : List Step) :
    (∀ v ∈ s.visits steps, v.operation ≠ .clear) ↔ ∀ x ∈ steps, x.isReset = false := by
  constructor
  · intro hkeep x hx
    by_contra hreset
    rw [Bool.not_eq_false] at hreset
    obtain ⟨v, hvisit, hclear⟩ := visit?_of_isReset (s := s) hreset
    exact hkeep v (List.mem_filterMap.mpr ⟨x, hx, hvisit⟩) hclear
  · intro hkeep v hv hclear
    obtain ⟨x, hx, hvisit⟩ := List.mem_filterMap.mp hv
    have hreset := (clear_iff_isReset hvisit).mp hclear
    rw [hkeep x hx] at hreset
    cases hreset

/-- A service never forgets the tables on their own, by `clearTables`. -/
theorem visits_ne_clearTables (s : Service) (steps : List Step) :
    ∀ v ∈ s.visits steps, v.operation ≠ .clearTables := by
  intro v hv
  obtain ⟨step, -, hvisit⟩ := List.mem_filterMap.mp hv
  unfold visit? at hvisit
  split at hvisit <;> cases hvisit <;> exact Cache.Operation.noConfusion

end Service

namespace Host

/-! ### One step -/

@[simp] theorem perform_service (h : Host) (x : Step) :
    (h.perform x).2.session.service = h.session.service := by
  obtain ⟨here, r | ⟨n, q⟩⟩ := x <;> rfl

theorem perform_cache (h : Host) (x : Step) :
    (h.perform x).2.session.cache = match h.session.service.visit? x with
      | some v => (h.session.cache.visit v).state
      | none => h.session.cache := by
  obtain ⟨here, r | ⟨n, q⟩⟩ := x
  · cases r <;> rfl
  · rfl

/-- The keywords of the response to `x` are those that its visit answers. -/
theorem perform_keywords? (h : Host) (x : Step) :
    (h.perform x).1.keywords?
      = (h.session.service.visit? x).bind fun v => (h.session.cache.visit v).answer.keywords? := by
  obtain ⟨here, r | ⟨n, q⟩⟩ := x
  · cases r <;> rfl
  · rfl

/-- The versions of the response to `x` are those that its visit answers. -/
theorem perform_versions? (h : Host) (x : Step) :
    (h.perform x).1.versions?
      = (h.session.service.visit? x).bind fun v => (h.session.cache.visit v).answer.versions? := by
  obtain ⟨here, r | ⟨n, q⟩⟩ := x
  · cases r <;> rfl
  · rfl

@[simp] theorem readsOf_events (l : Language) (es : List Event) :
    readsOf l (es.map Happening.event) = 0 := by
  simp [readsOf, List.countP_eq_zero]

@[simp] theorem record_reads (s : Session) (trace : List Happening) (l : Language) :
    (s.record trace).reads.get l = s.reads.get l + readsOf l trace := by
  cases l <;> rfl

/-- The tables that a step `x` reads are those that its visit reads. -/
theorem perform_reads (h : Host) (x : Step) (l : Language) :
    (h.perform x).2.session.reads.get l = h.session.reads.get l +
      match h.session.service.visit? x with
      | some v => readsOf l (h.session.cache.visit v).trace
      | none => 0 := by
  obtain ⟨here, r | ⟨n, q⟩⟩ := x
  · refine (record_reads _ _ l).trans (congrArg _ ?_)
    cases r with
    | detect | resolve => exact readsOf_events l _
    | versions | load | reset => rfl
    | context document path =>
      show readsOf l (List.map .event _ ++ _) = _
      simp only [Cache.readsOf_append, readsOf_events, Nat.zero_add]
      rfl
  · rfl

theorem perform_contexts (h : Host) (x : Step) :
    ∃ made, (h.perform x).2.contexts = h.contexts ++ made := by
  obtain ⟨here, r | ⟨n, q⟩⟩ := x
  · exact ⟨_, rfl⟩
  · exact ⟨[], (List.append_nil _).symm⟩

/-! ### Runs -/

@[simp] theorem run_service (h : Host) (steps : List Step) :
    (h.run steps).session.service = h.session.service := by
  induction steps generalizing h with
  | nil => rfl
  | cons x steps ih => simp [ih]

theorem run_cache (h : Host) (steps : List Step) :
    (h.run steps).session.cache = h.session.cache.run (h.session.service.visits steps) := by
  induction steps generalizing h with
  | nil => rfl
  | cons x steps ih =>
    rw [run_cons, ih, perform_service, perform_cache, Service.visits, Service.visits,
      List.filterMap_cons]
    cases h.session.service.visit? x <;> rfl

@[simp] theorem service_start (s : Service) (collector : Collector) :
    (start s collector).session.service = s := rfl

/-- The cache of a host is what the visits of its run make of `Cache.empty`. -/
@[simp] theorem start_cache (s : Service) (collector : Collector) (steps : List Step) :
    ((start s collector).run steps).session.cache = Cache.empty.run (s.visits steps) :=
  run_cache _ steps

/-- What a host answers to `x` after `steps` is what the cache after the visits of the run
answers. -/
theorem start_keywords? (s : Service) (collector : Collector) (steps : List Step) (x : Step) :
    (((start s collector).run steps).perform x).1.keywords? = (s.visit? x).bind fun v =>
      ((Cache.empty.run (s.visits steps)).visit v).answer.keywords? := by
  simp [perform_keywords?]

theorem start_versions? (s : Service) (collector : Collector) (steps : List Step) (x : Step) :
    (((start s collector).run steps).perform x).1.versions? = (s.visit? x).bind fun v =>
      ((Cache.empty.run (s.visits steps)).visit v).answer.versions? := by
  simp [perform_versions?]

/-- A host keeps the context `c` that it was given, as it is. -/
theorem getElem?_contexts_run {h : Host} (steps : List Step) {n : Nat} {c : Context}
    (hc : h.contexts[n]? = some c) : (h.run steps).contexts[n]? = some c := by
  induction steps generalizing h with
  | nil => exact hc
  | cons x steps ih =>
    obtain ⟨made, hmade⟩ := perform_contexts h x
    obtain ⟨hlt, -⟩ := List.getElem?_eq_some_iff.mp hc
    rw [run_cons]
    refine ih ?_
    rw [hmade, List.getElem?_append_left hlt, hc]

end Host

end DeckKeywords
