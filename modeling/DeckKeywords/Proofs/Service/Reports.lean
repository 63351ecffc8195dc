/-
DeckKeywords/Proofs/Service/Reports.lean

What the events of a service tell about its caches.  For a step after a run
three things can be told from the run alone:

  * `loading?`: a table has to be loaded if no step since the last reset needed
    it; the event says whether it could be had,
  * `warning?`: a version is replaced if the table does not list it, no matter
    what is cached,
  * `projecting?`: a projection has to be made if no step since the last reset
    wanted its pair.

These are what a step reports of the caches, in this order, `reports_run`.
Counting over a run, the events of loading agree with the reads, and those of
projections with the projections that were ever given out.

A host sees no events but the entries of its collector.  If that admits the level
of details and has room, every step adds its diagnostics behind the entries that
are there, `entries_step`, and `Service.Adds` says of them what is seen: their
kinds, their fields and their order.

Main result: `reports_match_caches`.
-/
import DeckKeywords.Proofs.Diagnostics.Collector
import DeckKeywords.Proofs.Diagnostics.Observed
import DeckKeywords.Proofs.Service.Sharing
import DeckKeywords.Proofs.Service.Versions

namespace DeckKeywords

/-! ### Events that are not about the caches -/

theorem subject_of_readSidecar (files : FileSystem) (path : Path) :
    ∀ e ∈ (Detector.readSidecar files path).events, e.subject = .other := by
  unfold Detector.readSidecar
  by_cases hfile : files.isFile path
  · rw [if_pos hfile]
    rcases files.read path with why | text
    · exact List.forall_mem_singleton.mpr rfl
    · exact List.forall_mem_singleton.mpr rfl
  · rw [if_neg hfile]
    exact List.forall_mem_nil _

theorem subject_of_detect (d : Detector) (files : FileSystem) (document : Option Document)
    (path : Option Path) : ∀ e ∈ (d.detect files document path).events, e.subject = .other := by
  unfold Detector.detect
  rcases Detector.marker? document path with - | m
  · rcases d.sidecarPath? document path with - | p
    · exact List.forall_mem_nil _
    · exact subject_of_readSidecar files p
  · exact List.forall_mem_nil _

theorem subject_of_resolve (r : Resolver) (files : FileSystem) (document : Option Document)
    (path : Option Path) : ∀ e ∈ (r.resolve files document path).events, e.subject = .other := by
  intro e he
  rcases List.mem_append.mp he with he | he
  · exact subject_of_detect _ files document path e he
  · rw [List.mem_singleton.mp he]
    rfl

/-! ### What a step should report -/

namespace Service

variable {s : Service}

/-- The event of the table that a step `x` after `steps` needs, if it was not needed since the last
reset. -/
def loading? (s : Service) (steps : List Step) (x : Step) : Option Event :=
  (s.needed? x).bind fun l =>
    if (s.snapshot steps l).isSome then none else some (Cache.loadEvent x.here.tables l)

/-- The warning that the table does not list the version that a step `x` wants. -/
def warning? (s : Service) (steps : List Step) (x : Step) : Option Event :=
  (s.wanted? x).bind fun (version, l) =>
    let listed := (s.tableAt steps x.here l).versions
    if version ∈ listed.versions then none
    else some (.versionReplaced version listed.fallback l)

/-- The event of the projection that a step `x` after `steps` is served, if it was not wanted since
the last reset. -/
def projecting? (s : Service) (steps : List Step) (x : Step) : Option Event :=
  (s.pair? (steps ++ [x]) x).bind fun key =>
    if key ∈ (sinceReset steps).filterMap (s.pair? steps) then none
    else some (Cache.projectEvent (s.tableAt steps x.here key.2) key)

section Visits

variable (steps : List Step) {x : Step} {v : Cache.Visit} (h : s.visit? x = some v)

include h

theorem loading?_visits : (Cache.empty.run (s.visits steps)).loading? v = s.loading? steps x := by
  rw [Cache.loading?, loading?, needed?_eq, h, Option.bind_some, source_of_visit? h]
  simp only [Cache.tables_run, heldTable_visits]

theorem warning?_visits : (Cache.empty.run (s.visits steps)).warning? v = s.warning? steps x := by
  have htable : ∀ l, (Cache.empty.run (s.visits steps)).tableFor v l = s.tableAt steps x.here l :=
    fun l => tableFor_run (source_of_visit? h)
  rw [Cache.warning?, warning?, wanted?_eq, h, Option.bind_some]
  rcases v.operation <;> simp [htable]

theorem projecting?_visits :
    (Cache.empty.run (s.visits steps)).projecting? v = s.projecting? steps x := by
  rw [Cache.projecting?, projecting?, keyOf_visits steps h]
  refine Option.bind_congr fun key _ => ?_
  rw [tableFor_run (source_of_visit? h), ← askedKeys_visits]
  simp only [Cache.mem_askedKeys_iff]

end Visits

end Service

namespace Host

/-! ### Steps -/

/-- The events of a step `x` that are about the caches. -/
def reports (h : Host) (x : Step) : List Event :=
  (eventsOf (h.happenings x)).filter fun e => e.subject ≠ .other

/-- What happens during a step `x` is what its visit brings, after events of its `own` that are not
about the caches. -/
theorem happenings_eq (h : Host) (x : Step) :
    ∃ own : List Event, (∀ e ∈ own, e.subject = .other) ∧
      h.happenings x = own.map .event ++ match h.session.service.visit? x with
        | some v => (h.session.cache.visit v).trace
        | none => [] := by
  obtain ⟨here, r | ⟨n, q⟩⟩ := x
  · cases r with
    | detect document path =>
      exact ⟨_, subject_of_detect _ here.files document path, (List.append_nil _).symm⟩
    | resolve document path =>
      exact ⟨_, subject_of_resolve _ here.files document path, (List.append_nil _).symm⟩
    | versions | load => exact ⟨[], List.forall_mem_nil _, rfl⟩
    | context document path => exact ⟨_, subject_of_resolve _ here.files document path, rfl⟩
    | reset => exact ⟨[.cachesCleared], by simp [Event.subject], rfl⟩
  · exact ⟨[], List.forall_mem_nil _, rfl⟩

@[simp] theorem eventsOf_events (es : List Event) : eventsOf (es.map .event) = es := by
  simp [eventsOf]

theorem readsOf_happenings (h : Host) (x : Step) (l : Language) :
    readsOf l (h.happenings x) = match h.session.service.visit? x with
      | some v => readsOf l (h.session.cache.visit v).trace
      | none => 0 := by
  obtain ⟨own, -, heq⟩ := happenings_eq h x
  rw [heq, Cache.readsOf_append, readsOf_events, Nat.zero_add]
  rcases h.session.service.visit? x with - | v <;> rfl

/-- What a step `x` reports of the caches is what its visit reports. -/
theorem reports_eq (h : Host) (x : Step) :
    h.reports x = match h.session.service.visit? x with
      | some v => eventsOf (h.session.cache.visit v).trace
      | none => [] := by
  obtain ⟨own, hown, heq⟩ := happenings_eq h x
  have hnone : own.filter (fun e => e.subject ≠ .other) = [] :=
    List.filter_eq_nil_iff.mpr fun e he => by simp [hown e he]
  rw [reports, heq, eventsOf_append, eventsOf_events, List.filter_append, hnone, List.nil_append]
  rcases h.session.service.visit? x with - | v
  · rfl
  · exact List.filter_eq_self.mpr fun e he => by simpa using Cache.subject_ne_other he

/-- What a step `x` reports of the caches has all its events with a `subject` of the caches. -/
theorem filter_reports (h : Host) (x : Step) {subject : Event.Subject} (hs : subject ≠ .other) :
    (eventsOf (h.happenings x)).filter (fun e => e.subject = subject)
      = (h.reports x).filter fun e => e.subject = subject := by
  rw [reports, List.filter_filter]
  refine List.filter_congr fun e _ => ?_
  by_cases he : e.subject = subject <;> simp [he, hs]

theorem countP_reports (h : Host) (x : Step) {subject : Event.Subject} (hs : subject ≠ .other) :
    (eventsOf (h.happenings x)).countP (fun e => e.subject = subject)
      = (h.reports x).countP fun e => e.subject = subject := by
  rw [List.countP_eq_length_filter, List.countP_eq_length_filter, filter_reports h x hs]

@[simp] theorem countP_table (h : Host) (x : Step) (l : Language) :
    (eventsOf (h.happenings x)).countP (fun e => e.subject = .table l)
      = readsOf l (h.happenings x) := by
  rw [countP_reports h x Event.Subject.noConfusion, reports_eq, readsOf_happenings]
  rcases h.session.service.visit? x with - | v
  · rfl
  · exact Cache.countP_table _ v l

@[simp] theorem reads_perform (h : Host) (x : Step) (l : Language) :
    (h.perform x).2.session.reads.get l
      = h.session.reads.get l + readsOf l (h.happenings x) := by
  obtain ⟨here, r | ⟨n, q⟩⟩ := x
  · exact record_reads _ _ l
  · rfl

@[simp] theorem collector_perform (h : Host) (x : Step) :
    (h.perform x).2.session.collector
      = h.session.collector.emitAll ((eventsOf (h.happenings x)).map (·.record)) := by
  obtain ⟨here, r | ⟨n, q⟩⟩ := x <;> rfl

/-- A step `x` that makes a projection reports it and answers it under the next number, and a step
that makes none answers one that bears a number given before, if it answers any. -/
theorem perform_made (h : Host) (hc : h.session.cache.Numbered) (x : Step) :
    let events := eventsOf (h.happenings x)
    (events.countP (fun e => e.subject = .projection) = 1 ∧
      (h.perform x).2.session.cache.made = h.session.cache.made + 1 ∧
      (h.perform x).1.keywords?.map (·.serial) = some h.session.cache.made) ∨
    (events.countP (fun e => e.subject = .projection) = 0 ∧
      (h.perform x).2.session.cache.made = h.session.cache.made ∧
      ∀ k ∈ (h.perform x).1.keywords?, k.serial < h.session.cache.made) := by
  intro events
  rw [countP_reports h x Event.Subject.noConfusion, reports_eq, perform_cache, perform_keywords?]
  rcases h.session.service.visit? x with - | v
  · exact .inr ⟨rfl, rfl, fun _ hk => by cases hk⟩
  · simp only [Cache.countP_projection, Option.bind_some]
    rcases Cache.visit_made h.session.cache v with
      ⟨hmaking, hmade, hanswer⟩ | ⟨hmaking, hmade, hanswer⟩
    · exact .inl ⟨if_pos hmaking, hmade, hanswer⟩
    · refine .inr ⟨by simp [hmaking], hmade, fun k hk => ?_⟩
      obtain ⟨key, hkey⟩ := hanswer k hk
      exact hc.given _ (Cache.mem_of_lookup hkey)

/-! ### Runs -/

/-- The events of a run from `h` on. -/
def log (h : Host) : List Step → List Event
  | [] => []
  | x :: steps => eventsOf (h.happenings x) ++ (h.perform x).2.log steps

/-- The responses of a run from `h` on. -/
def responses (h : Host) : List Step → List Response
  | [] => []
  | x :: steps => (h.perform x).1 :: (h.perform x).2.responses steps

@[simp] theorem log_append (h : Host) (xs ys : List Step) :
    h.log (xs ++ ys) = h.log xs ++ (h.run xs).log ys := by
  induction xs generalizing h with
  | nil => rfl
  | cons x xs ih => simp [log, ih]

@[simp] theorem log_singleton (h : Host) (x : Step) : h.log [x] = eventsOf (h.happenings x) :=
  List.append_nil _

@[simp] theorem responses_append (h : Host) (xs ys : List Step) :
    h.responses (xs ++ ys) = h.responses xs ++ (h.run xs).responses ys := by
  induction xs generalizing h with
  | nil => rfl
  | cons x xs ih => simp [responses, ih]

@[simp] theorem responses_singleton (h : Host) (x : Step) :
    h.responses [x] = [(h.perform x).1] := rfl

/-- The numbers of the projections that are given out in a run of `steps`. -/
def serials (h : Host) (steps : List Step) : List Nat :=
  ((h.responses steps).filterMap (·.keywords?)).map (·.serial)

variable (s : Service) (collector : Collector) (steps : List Step)

theorem reads_eq_countP (l : Language) :
    ((start s collector).run steps).session.reads.get l
      = ((start s collector).log steps).countP fun e => e.subject = .table l := by
  induction steps using List.reverseRecOn with
  | nil => cases l <;> rfl
  | append_singleton steps x ih =>
    simp [ih]

/-- As many projections are reported in the `log` as are made, and the `serials` that are given out
are the numbers of those that are made. -/
theorem made_run :
    ((start s collector).run steps).session.cache.made
      = ((start s collector).log steps).countP (fun e => e.subject = .projection) ∧
    ∀ n, n ∈ (start s collector).serials steps
      ↔ n < ((start s collector).run steps).session.cache.made := by
  induction steps using List.reverseRecOn with
  | nil => exact ⟨rfl, by simp [serials, responses, start, Session.new, Cache.empty]⟩
  | append_singleton steps x ih =>
    obtain ⟨hcount, hserials⟩ := ih
    have hnumbered : ((start s collector).run steps).session.cache.Numbered := by
      rw [start_cache]
      exact Cache.numbered_empty.run _
    -- the numbers given out so far, and perhaps one more in the answer to this step
    have hnew : ∀ n, n ∈ (start s collector).serials (steps ++ [x]) ↔
        n < ((start s collector).run steps).session.cache.made ∨
        ∃ k ∈ (((start s collector).run steps).perform x).1.keywords?, k.serial = n := by
      intro n
      rw [← hserials, serials, responses_append, responses_singleton, List.filterMap_append,
        List.map_append, List.mem_append, ← serials]
      refine or_congr_right ?_
      rcases hk : (((start s collector).run steps).perform x).1.keywords? with - | k
      · simp [hk]
      · simp [hk, eq_comm]
    rw [run_append, run_cons, run_nil, log_append, log_singleton, List.countP_append, ← hcount]
    rcases perform_made _ hnumbered x with ⟨hevents, hmade, hanswer⟩ | ⟨hevents, hmade, hanswer⟩
    -- a projection that is made bears the next number
    · refine ⟨by rw [hmade, hevents], fun n => ?_⟩
      rw [hnew, hmade, Nat.lt_succ_iff_lt_or_eq]
      refine or_congr_right ?_
      obtain ⟨k, hk, hserial⟩ := Option.map_eq_some_iff.mp hanswer
      rw [hk, ← hserial]
      simp [eq_comm]
    -- without one, the answer bears a number that was given out before
    · refine ⟨by rw [hmade, hevents, Nat.add_zero], fun n => ?_⟩
      rw [hnew, hmade, or_iff_left_iff_imp]
      rintro ⟨k, hk, rfl⟩
      exact hanswer k hk

/-- What a step `x` after `steps` reports of the caches can be told from the run. -/
theorem reports_run (x : Step) :
    ((start s collector).run steps).reports x
      = (s.loading? steps x).toList ++ (s.warning? steps x).toList ++
        (s.projecting? steps x).toList := by
  simp only [reports_eq, run_service, service_start, start_cache]
  rcases hvisit : s.visit? x with - | v
  · have hneeded : s.needed? x = none := by rw [Service.needed?_eq, hvisit]; rfl
    have hwanted := Service.wanted?_of_visit?_eq_none hvisit
    rw [Service.loading?, Service.warning?, Service.projecting?, Service.pair?, hneeded, hwanted]
    rfl
  · rw [← Service.loading?_visits steps hvisit, ← Service.warning?_visits steps hvisit,
      ← Service.projecting?_visits steps hvisit]
    exact Cache.visit_events _ v

/-- A table that cannot be had, for the reason `why`, is reported by the step `x` that reads it in
vain. -/
theorem tableUnavailable_mem_iff (h : Host) (x : Step) (l : Language) (why : LoadFailure) :
    .tableUnavailable l why ∈ eventsOf (h.happenings x) ↔
      readsOf l (h.happenings x) = 1 ∧ x.here.tables.failure? l = some why := by
  have hreports : .tableUnavailable l why ∈ eventsOf (h.happenings x) ↔
      .tableUnavailable l why ∈ h.reports x := by
    rw [reports, List.mem_filter]
    simp [Event.subject]
  have hfailure : ∀ source : TableSource, .tableUnavailable l why = Cache.loadEvent source l ↔
      source.failure? l = some why := by
    intro source
    unfold Cache.loadEvent
    rcases source.failure? l with - | why' <;> simp [eq_comm]
  rw [hreports, reports_eq, readsOf_happenings]
  rcases hvisit : h.session.service.visit? x with - | v
  · simp
  · rw [Cache.mem_events_iff rfl, hfailure, Service.source_of_visit? hvisit]

/-- A step `x` warns when it wants a version that the table does not list, and only then, as
`warning?` says. -/
theorem warnings_run (x : Step) :
    (eventsOf (((start s collector).run steps).happenings x)).filter (fun e => e.subject = .version)
      = (s.warning? steps x).toList := by
  rw [filter_reports _ x Event.Subject.noConfusion, reports_eq]
  simp only [run_service, service_start, start_cache]
  rcases hvisit : s.visit? x with - | v
  · rw [Service.warning?, Service.wanted?_of_visit?_eq_none hvisit]
    rfl
  · rw [← Service.warning?_visits steps hvisit]
    exact Cache.filter_version _ v

/-! ### What the host sees -/

theorem collector_run :
    ((start s collector).run steps).session.collector
      = collector.emitAll (((start s collector).log steps).map (·.record)) := by
  induction steps using List.reverseRecOn with
  | nil => rfl
  | append_singleton steps x ih => simp [ih]

/-- All events `e` of the service are of the level `debug` or above. -/
theorem debug_le_level (e : Event) : Level.debug.severity ≤ e.record.level.severity := by
  cases e <;> simp [Event.record, Level.severity]

/-- A collector that admits the level `debug`, and has room for all events of the `log`, holds all
of them. -/
theorem entries_log (s : Service) {capacity : Nat} {least : Level} {steps : List Step}
    (hleast : least.severity ≤ Level.debug.severity)
    (hroom : ((start s (.new capacity least)).log steps).length ≤ capacity) :
    ((start s (.new capacity least)).run steps).session.collector.entries
      = ((start s (.new capacity least)).log steps).map fun e => .ofRecord e.record := by
  let records := ((start s (.new capacity least)).log steps).map (·.record)
  have hadmitted : records.filter (Collector.new capacity least).admits = records := by
    refine List.filter_eq_self.mpr fun r hr => ?_
    obtain ⟨e, -, rfl⟩ := List.mem_map.mp hr
    exact decide_eq_true (hleast.trans (debug_le_level e))
  have hholds := (Collector.holds_nil (c := .new capacity least) rfl).emitAll records
  rw [List.nil_append, hadmitted, Collector.Holds, Collector.capacity_emitAll] at hholds
  have hall : records.length - capacity = 0 := by
    rw [List.length_map]
    exact Nat.sub_eq_zero_of_le hroom
  rw [collector_run, hholds, List.rtake]
  show List.map _ (records.drop (records.length - capacity)) = _
  rw [hall, List.drop_zero, List.map_map]
  rfl

/-- The diagnostics of a step `x`. -/
def told (h : Host) (x : Step) : List Diagnostic := (eventsOf (h.happenings x)).map .ofEvent

/-- Each step `x` of a run adds its diagnostics, `told`, to the entries of a collector with room. -/
theorem entries_step (s : Service) {capacity : Nat} {least : Level} {earlier later : List Step}
    {x : Step} (hleast : least.severity ≤ Level.debug.severity)
    (hroom : ((start s (.new capacity least)).log (earlier ++ x :: later)).length ≤ capacity) :
    let after := (start s (.new capacity least)).run
    (after (earlier ++ [x])).session.collector.entries
      = (after earlier).session.collector.entries ++ (after earlier).told x := by
  intro after
  rw [List.append_cons, log_append, List.length_append] at hroom
  have hboth := Nat.le_of_add_right_le hroom
  have hafter := entries_log s hleast hboth
  -- what has room with the step has room without it
  rw [log_append, log_singleton, List.length_append] at hboth
  have hbefore := entries_log s hleast (Nat.le_of_add_right_le hboth)
  rw [log_append, log_singleton, List.map_append, ← hbefore] at hafter
  exact hafter

end Host

/-- The diagnostics `added` are those of a step `x` after the steps `earlier`, which reads the table
of a language `l` as often as `reads l` says.  There is one about a table for each read, and it says
that the table cannot be had if the read fails.  There is a warning if the step wants a version that
the table does not list, with this version and the fallback of the table.  Those about the caches
stand in the order of the table, the warning and the projection. -/
structure Service.Adds (s : Service) (earlier : List Step) (x : Step) (reads : Language → Nat)
    (added : List Diagnostic) : Prop where
  tables : ∀ l,
    added.countP (·.isAbout .loaded l) + added.countP (·.isAbout .unavailable l) = reads l
  unavailable : ∀ l error, .tableUnavailable l error ∈ added ↔
    reads l = 1 ∧ ∃ why, x.here.tables.failure? l = some why ∧ why.message = error
  replaced : added.filter (fun d => d.kind = .replaced) = match s.wanted? x with
    | some (version, l) =>
      let listed := (s.tableAt earlier x.here l).versions
      if version ∈ listed.versions then []
      else [.versionReplaced version listed.fallback l]
    | none => []
  inOrder : added.filter (fun d => d.kind ∈ Diagnostic.Kind.ofCaches)
    = ((s.loading? earlier x).toList ++ (s.warning? earlier x).toList ++
      (s.projecting? earlier x).toList).filterMap Event.shown?

theorem Service.toList_warning? (s : Service) (steps : List Step) (x : Step) :
    (s.warning? steps x).toList = match s.wanted? x with
      | some (version, l) =>
        let listed := (s.tableAt steps x.here l).versions
        if version ∈ listed.versions then []
        else [.versionReplaced version listed.fallback l]
      | none => [] := by
  rw [warning?]
  rcases s.wanted? x with - | ⟨version, l⟩
  · rfl
  · rw [Option.bind_some]
    by_cases hlisted : version ∈ (s.tableAt steps x.here l).versions.versions
    · simp only [if_pos hlisted, Option.toList_none]
    · simp only [if_neg hlisted, Option.toList_some]

namespace Host

variable (s : Service) (collector : Collector) (earlier : List Step)

theorem adds_told (x : Step) :
    let h := (start s collector).run earlier
    s.Adds earlier x (fun l => readsOf l (h.happenings x)) (h.told x) := by
  intro h
  constructor
  case tables =>
    intro l
    rw [told, Diagnostic.countP_isAbout, countP_table]
  -- no other event is seen as a table that cannot be had, so the diagnostic leads back to the read
  case unavailable =>
    intro l error
    rw [told, List.mem_map]
    simp only [Diagnostic.ofEvent_eq_tableUnavailable_iff]
    constructor
    · rintro ⟨e, he, why, rfl, hmessage⟩
      obtain ⟨hread, hfailure⟩ := (tableUnavailable_mem_iff h x l why).mp he
      exact ⟨hread, why, hfailure, hmessage⟩
    · rintro ⟨hread, why, hfailure, hmessage⟩
      exact ⟨_, (tableUnavailable_mem_iff h x l why).mpr ⟨hread, hfailure⟩, why, rfl, hmessage⟩
  case replaced =>
    have hkind : (fun d : Diagnostic => decide (d.kind = .replaced)) ∘ Diagnostic.ofEvent
        = fun e => decide (e.subject = .version) := by
      funext e
      simp [Diagnostic.kind_eq_replaced_iff]
    rw [told, List.filter_map, hkind, warnings_run, Service.toList_warning?]
    rcases s.wanted? x with - | ⟨version, l⟩
    · rfl
    · show List.map _ (if version ∈ (s.tableAt earlier x.here l).versions.versions then _ else _)
        = if _ then _ else _
      rw [apply_ite (List.map Diagnostic.ofEvent)]
      rfl
  -- events that are not about the caches are not shown, so leaving them out changes nothing
  case inOrder =>
    have hreports : (h.reports x).filterMap Event.shown?
        = (eventsOf (h.happenings x)).filterMap Event.shown? := by
      rw [reports, List.filterMap_filter]
      refine List.filterMap_congr fun e _ => ?_
      by_cases he : e.subject = .other <;> simp [Diagnostic.shown?_eq, he]
    rw [told, Diagnostic.filter_ofEvent, ← hreports, reports_run]

end Host

/-- **Events tell the truth about the caches.**  In any run the events about the table of a language
`l` are as many as its reads, and `tableUnavailable l why` comes with a read that fails for the
reason `why`.  The events about projections are as many as projections are given out.  Whenever a
step wants a `version` that the table does not list, and only then, there is a warning with that
version and the fallback of the table, whatever is cached.  Within a step the event about the table
comes first, then the warning, then the event about the projection; each of them depends on the run
alone.

A host sees all of this in the `entries` of a collector whose `least` level is `trace` or `debug`,
and which has room for them: the diagnostics of both kinds about the table of `l` are as many as its
reads, those of the kind `projected` as many as projections are given out, and each step `x` adds
its own behind those of the steps `earlier`, as `Service.Adds` describes them. -/
theorem reports_match_caches (s : Service) (capacity : Nat) (least : Level) (steps : List Step) :
    let start := Host.start s (.new capacity least)
    let host := start.run steps
    let log := start.log steps
    (∀ l, log.countP (fun e => e.subject = .table l) = host.session.reads.get l) ∧
    (∀ x l why, .tableUnavailable l why ∈ eventsOf (host.happenings x) ↔
      readsOf l (host.happenings x) = 1 ∧ x.here.tables.failure? l = some why) ∧
    log.countP (fun e => e.subject = .projection) = (start.serials steps).dedup.length ∧
    (∀ x, (eventsOf (host.happenings x)).filter (fun e => e.subject = .version)
      = match s.wanted? x with
        | some (version, l) =>
          let listed := (s.tableAt steps x.here l).versions
          if version ∈ listed.versions then []
          else [.versionReplaced version listed.fallback l]
        | none => []) ∧
    (∀ x, host.reports x = (s.loading? steps x).toList ++ (s.warning? steps x).toList ++
      (s.projecting? steps x).toList) ∧
    (least = .trace ∨ least = .debug → log.length ≤ capacity →
      let entries := host.session.collector.entries
      entries = log.map (fun e => .ofRecord e.record) ∧
      (∀ l, entries.countP (·.isAbout .loaded l) + entries.countP (·.isAbout .unavailable l)
        = host.session.reads.get l) ∧
      entries.countP (fun d => d.kind = .projected) = (start.serials steps).dedup.length ∧
      ∀ earlier x later, steps = earlier ++ x :: later →
        let before := (start.run earlier).session
        let after := (start.run (earlier ++ [x])).session
        ∃ reads added, (∀ l, after.reads.get l = before.reads.get l + reads l) ∧
          after.collector.entries = before.collector.entries ++ added ∧
          s.Adds earlier x reads added) := by
  intro start host log
  have htables : ∀ l, log.countP (fun e => e.subject = .table l) = host.session.reads.get l :=
    fun l => (Host.reads_eq_countP s _ steps l).symm
  have hprojections : log.countP (fun e => e.subject = .projection)
      = (start.serials steps).dedup.length := by
    obtain ⟨hmade, hserials⟩ := Host.made_run s (.new capacity least) steps
    calc log.countP _ = host.session.cache.made := hmade.symm
      _ = (List.range host.session.cache.made).length := List.length_range.symm
      _ = (start.serials steps).dedup.length :=
        length_eq_length_dedup List.nodup_range fun n => by rw [List.mem_range, hserials]
  refine ⟨htables, Host.tableUnavailable_mem_iff host, hprojections, fun x => ?_,
    Host.reports_run s _ steps, fun hlevel hroom => ?_⟩
  · rw [Host.warnings_run, Service.toList_warning?]
  -- with room for all events the entries are the log, and what is counted there is counted here
  · have hleast : least.severity ≤ Level.debug.severity := by
      rcases hlevel with rfl | rfl <;> decide
    have hentries : host.session.collector.entries = log.map .ofEvent :=
      Host.entries_log s hleast hroom
    refine ⟨hentries, fun l => ?_, ?_, ?_⟩
    · rw [hentries, Diagnostic.countP_isAbout, htables]
    · rw [hentries, List.countP_map, ← hprojections]
      exact List.countP_congr fun e _ => by simp [Diagnostic.kind_eq_projected_iff]
    · rintro earlier x later rfl
      refine ⟨fun l => readsOf l ((start.run earlier).happenings x), (start.run earlier).told x,
        fun l => ?_, Host.entries_step s hleast hroom, Host.adds_told s _ earlier x⟩
      rw [Host.run_append]
      exact Host.reads_perform (start.run earlier) x l

/-- An `unknown` version is wanted twice, and then the `corrupt` table of the other language.  Each
table is read once, the warning comes both times, also from the cache, and the corrupt table is
reported as unavailable. -/
theorem unknown_version_and_corrupt_table_reported :
    let table := "\x7b\"_meta\":\x7b\"versions\":[\"2024\"],\"default\":\"2024\"\x7d,\"AQUA\":\x7b\x7d\x7d"
    let source : TableSource := .ofTexts ⟨some table, some "no table"⟩
    let unknown := Step.loading source (some "1999") (some .en)
    let corrupt := Step.loading source none (some .de)
    let session := fun steps => ((Host.start ⟨"", .none⟩ (.new 16 .debug)).run steps).session
    let entries := fun steps => (session steps).collector.entries
    let run := [unknown, unknown, corrupt]
    (∀ l, (entries run).countP (·.isAbout .loaded l) + (entries run).countP (·.isAbout .unavailable l)
      = 1) ∧
    (entries run).countP (fun d => d.kind = .projected) = 2 ∧
    (∃ added, entries [unknown, unknown] = entries [unknown] ++ added ∧
      added.filter (fun d => d.kind = .replaced)
        = [⟨.warn, "sofkey_core::cache", "Version not in keyword table, using table default",
          [("requested", "1999"), ("fallback", "2024"), ("language", "en")]⟩]) ∧
    ∃ added error, entries run = entries [unknown, unknown] ++ added ∧
      ⟨.warn, "sofkey_core::loader", "Keyword table unavailable, using empty taxonomy",
        [("language", "de"), ("error", error)]⟩ ∈ added := by
  intro table source unknown corrupt session entries run
  obtain ⟨-, -, -, -, -, hseen⟩ := reports_match_caches ⟨"", .none⟩ 16 .debug run
  obtain ⟨-, htables, hprojections, hsteps⟩ := hseen (.inr rfl) (by decide +kernel)
  refine ⟨fun l => (htables l).trans ?_, hprojections.trans (by decide +kernel), ?_, ?_⟩
  · cases l <;> decide +kernel
  · obtain ⟨_, added, -, hadded, hadds⟩ := hsteps [unknown] unknown [corrupt] rfl
    exact ⟨added, hadded, hadds.replaced.trans (by decide +kernel)⟩
  · obtain ⟨reads, added, hreads, hadded, hadds⟩ := hsteps [unknown, unknown] corrupt [] rfl
    have hread : reads .de = 1 := by
      have hbefore : (session [unknown, unknown]).reads.get .de = 0 := by decide +kernel
      have hafter : (session run).reads.get .de = 1 := by decide +kernel
      have h : (session run).reads.get .de
          = (session [unknown, unknown]).reads.get .de + reads .de := hreads .de
      rw [hbefore, hafter, Nat.zero_add] at h
      exact h.symm
    obtain ⟨why, hwhy⟩ : ∃ why, source.failure? .de = some why :=
      Option.isSome_iff_exists.mp (by decide +kernel)
    exact ⟨added, why.message, hadded, (hadds.unavailable .de _).mpr ⟨hread, why, hwhy, rfl⟩⟩

end DeckKeywords
