/-
DeckKeywords/Proofs/Cache/Reports.lean

What a cache reports of a visit.  There are three occasions, and a visit may
bring any of them: the table that it needs has to be loaded, the version that it
asks for is not listed, the projection that it asks for has to be made.  The
events of a visit are those of the three, in this order, and no others.

Loading a table and making a projection depend on what is cached; whether a
version is listed does not, so the warning comes with each such request.

Main result: `visit_events`.
-/
import DeckKeywords.Proofs.Cache.Instances

namespace DeckKeywords

/-- Why the table that `source` offers for `language` cannot be had, if it cannot. -/
def TableSource.failure? (source : TableSource) (language : Language) : Option LoadFailure :=
  match source language with
  | .error why => some (.unreadable why)
  | .ok text =>
    match RawTable.ofJson text with
    | .error why => some (.malformed why)
    | .ok _ => none

/-! ### What events are about -/

namespace Event

/-- What an event is about, as far as the caches go, and `other` for the rest. -/
inductive Subject where
  | table (language : Language)
  | version
  | projection
  | other
  deriving DecidableEq

/-- The `Subject` of an event: a table that is loaded or cannot be had, a version that is replaced,
a projection that is made. -/
def subject : Event → Subject
  | tableLoaded l _ _ | tableUnavailable l _ => .table l
  | versionReplaced .. => .version
  | projected .. => .projection
  | _ => .other

end Event

@[simp] theorem eventsOf_append (xs ys : List Happening) :
    eventsOf (xs ++ ys) = eventsOf xs ++ eventsOf ys := List.filterMap_append

namespace Cache

/-! ### The three occasions -/

/-- The event of loading the table that `source` offers for `language`: `tableLoaded`, or
`tableUnavailable` with the reason. -/
def loadEvent (source : TableSource) (language : Language) : Event :=
  match source.failure? language with
  | some why => .tableUnavailable language why
  | none =>
    let table := source.offered language
    .tableLoaded language table.modules.size table.versions.versions.length

/-- The event of the table that a visit `v` needs, if it is not cached in `c`. -/
def loading? (c : Cache) (v : Visit) : Option Event :=
  v.operation.language?.bind fun l =>
    if (c.tables.get l).isSome then none else some (loadEvent v.source l)

/-- The warning `versionReplaced` if the version that a visit `v` asks for is not listed. -/
def warning? (c : Cache) (v : Visit) : Option Event :=
  match v.operation with
  | .get version language =>
    let l := language.getD .fallback
    let listed := (c.tableFor v l).versions
    if askedVersion version ∈ listed.versions then none
    else some (.versionReplaced (askedVersion version) listed.fallback l)
  | _ => none

/-- The event `projected` of a projection of `table` that is made under `key`. -/
def projectEvent (table : RawTable) (key : CacheKey) : Event :=
  .projected key.1 key.2 (Taxonomy.project table key.1 key.2).modules.size

/-- The event of the projection that a visit `v` asks for, if it is not cached in `c`. -/
def projecting? (c : Cache) (v : Visit) : Option Event :=
  (c.keyOf v).bind fun key =>
    if (c.projections.lookup key).isSome then none
    else some (projectEvent (c.tableFor v key.2) key)

section Subjects

variable {c : Cache} {v : Visit} {e : Event}

@[simp] theorem subject_loadEvent (source : TableSource) (l : Language) :
    (loadEvent source l).subject = .table l := by
  unfold loadEvent
  split <;> rfl

theorem subject_of_loading? (h : e ∈ c.loading? v) :
    ∃ l, v.operation.language? = some l ∧ c.tables.get l = none ∧ e.subject = .table l := by
  obtain ⟨l, hl, he⟩ := Option.bind_eq_some_iff.mp h
  rcases htable : c.tables.get l with - | t
  · rw [htable] at he
    rw [← Option.some.inj he]
    exact ⟨l, hl, htable, subject_loadEvent v.source l⟩
  · rw [htable] at he
    cases he

theorem subject_of_warning? (h : e ∈ c.warning? v) : e.subject = .version := by
  unfold warning? at h
  split at h
  · obtain ⟨-, he⟩ := Option.ite_none_left_eq_some.mp h
    rw [← Option.some.inj he]
    rfl
  · cases h

theorem subject_of_projecting? (h : e ∈ c.projecting? v) : e.subject = .projection := by
  obtain ⟨key, -, he⟩ := Option.bind_eq_some_iff.mp h
  obtain ⟨-, he⟩ := Option.ite_none_left_eq_some.mp he
  rw [← Option.some.inj he]
  rfl

end Subjects

/-! ### The events of a visit -/

@[simp] theorem fetch_snd (source : TableSource) (language : Language) :
    (fetch source language).2 = loadEvent source language := by
  unfold fetch loadEvent TableSource.failure? TableSource.offered
  rcases source language with why | text
  · rfl
  · rcases h : RawTable.ofJson text with why | table <;> simp [h, Except.toOption]

/-- Loading the table of `l` that a visit `v` needs is reported when it is not cached, as `loading?`
says. -/
theorem table_events (c : Cache) {v : Visit} {l : Language} (h : v.operation.language? = some l) :
    eventsOf (c.table v.source l).trace = (c.loading? v).toList := by
  rw [loading?, h, Option.bind_some, table]
  rcases c.tables.get l with - | t
  · exact congrArg (· :: []) (fetch_snd v.source l)
  · rfl

theorem project_events (c : Cache) (t : RawTable) (v : String) (l : Language) :
    eventsOf (c.project t v l).trace
      = if (c.projections.lookup (v, l)).isSome then [] else [projectEvent t (v, l)] := by
  unfold project
  rcases c.projections.lookup (v, l) with - | shared <;> rfl

theorem get_events (c : Cache) (source : TableSource) (version : Option String)
    (language : Option Language) :
    let v : Visit := ⟨source, .get version language⟩
    eventsOf (c.get source version language).trace
      = (c.loading? v).toList ++ (c.warning? v).toList ++ (c.projecting? v).toList := by
  intro v
  let l := language.getD .fallback
  let t := c.tableFor v l
  let served := servedVersion t (askedVersion version)
  have htable : (c.table source l).answer = t := table_answer c source l
  have hversion : t.versions.effective (requestedVersion version) = served := by
    simp [served]
  -- the three parts of the trace, each with the occasion that it is about
  have hloading : eventsOf (c.table source l).trace = (c.loading? v).toList :=
    table_events c (v := v) rfl
  have hwarning : eventsOf (if t.versions.contains (requestedVersion version) then []
      else [.event (.versionReplaced (requestedVersion version) t.versions.fallback l)])
      = (c.warning? v).toList := by
    rw [requestedVersion_eq]
    show _ = (if askedVersion version ∈ t.versions.versions then none else some _).toList
    by_cases h : askedVersion version ∈ t.versions.versions
    · rw [if_pos (by simpa [VersionTable.contains] using h), if_pos h]
      rfl
    · rw [if_neg (by simpa [VersionTable.contains] using h), if_neg h]
      rfl
  have hprojecting : eventsOf ((c.table source l).state.project t served l).trace
      = (c.projecting? v).toList := by
    rw [project_events, table_projections]
    show _ = (if (c.projections.lookup (served, l)).isSome then none else some _).toList
    split <;> rfl
  show eventsOf (_ ++ _ ++ _) = _
  rw [eventsOf_append, eventsOf_append, htable, hversion, hloading, hwarning, hprojecting]

/-- A visit `v` is reported by `loading?`, `warning?` and `projecting?`, in this order. -/
theorem visit_events (c : Cache) (v : Visit) :
    eventsOf (c.visit v).trace
      = (c.loading? v).toList ++ (c.warning? v).toList ++ (c.projecting? v).toList := by
  obtain ⟨source, operation⟩ := v
  cases operation with
  | get version language => exact get_events c source version language
  | versions language =>
    rw [show c.warning? _ = none from rfl, show c.projecting? _ = none from rfl]
    simp only [Option.toList_none, List.append_nil]
    exact table_events c (v := ⟨source, .versions language⟩) rfl
  | load language =>
    rw [show c.warning? _ = none from rfl, show c.projecting? _ = none from rfl]
    simp only [Option.toList_none, List.append_nil]
    exact table_events c (v := ⟨source, .load language⟩) rfl
  | clearTables | clear => rfl

/-- All events `e` of a visit are about the caches. -/
theorem subject_ne_other {c : Cache} {v : Visit} {e : Event}
    (h : e ∈ eventsOf (c.visit v).trace) : e.subject ≠ .other := by
  rw [visit_events, List.mem_append, List.mem_append, Option.mem_toList, Option.mem_toList,
    Option.mem_toList] at h
  rcases h with (h | h) | h
  · obtain ⟨l, -, -, hsubject⟩ := subject_of_loading? h
    simp [hsubject]
  · simp [subject_of_warning? h]
  · simp [subject_of_projecting? h]

/-- An occasion `o` contributes nothing to the events about a `subject` that is not its own. -/
theorem filter_toList_eq_nil {o : Option Event} {subject : Event.Subject}
    (h : ∀ e ∈ o, e.subject ≠ subject) : o.toList.filter (fun e => e.subject = subject) = [] :=
  List.filter_eq_nil_iff.mpr fun e he => by simpa using h e (Option.mem_toList.mp he)

/-- Among the events of a visit `v`, those about a version are its `warning?`. -/
theorem filter_version (c : Cache) (v : Visit) :
    (eventsOf (c.visit v).trace).filter (fun e => e.subject = .version)
      = (c.warning? v).toList := by
  have hloading : ∀ e ∈ c.loading? v, e.subject ≠ .version := fun e he => by
    obtain ⟨l, -, -, hsubject⟩ := subject_of_loading? he
    simp [hsubject]
  have hprojecting : ∀ e ∈ c.projecting? v, e.subject ≠ .version := fun e he => by
    simp [subject_of_projecting? he]
  rw [visit_events, List.filter_append, List.filter_append, filter_toList_eq_nil hloading,
    filter_toList_eq_nil hprojecting, List.nil_append, List.append_nil]
  exact List.filter_eq_self.mpr fun e he => by simp [subject_of_warning? (Option.mem_toList.mp he)]

/-- Among the events of a visit `v`, the one about a projection is its `projecting?`. -/
theorem filter_projection (c : Cache) (v : Visit) :
    (eventsOf (c.visit v).trace).filter (fun e => e.subject = .projection)
      = (c.projecting? v).toList := by
  have hloading : ∀ e ∈ c.loading? v, e.subject ≠ .projection := fun e he => by
    obtain ⟨l, -, -, hsubject⟩ := subject_of_loading? he
    simp [hsubject]
  have hwarning : ∀ e ∈ c.warning? v, e.subject ≠ .projection := fun e he => by
    simp [subject_of_warning? he]
  rw [visit_events, List.filter_append, List.filter_append, filter_toList_eq_nil hloading,
    filter_toList_eq_nil hwarning, List.nil_append, List.nil_append]
  exact List.filter_eq_self.mpr fun e he => by
    simp [subject_of_projecting? (Option.mem_toList.mp he)]

theorem countP_projection (c : Cache) (v : Visit) :
    (eventsOf (c.visit v).trace).countP (fun e => e.subject = .projection)
      = if (c.projecting? v).isSome then 1 else 0 := by
  rw [List.countP_eq_length_filter, filter_projection]
  rcases c.projecting? v with - | e <;> rfl

/-- A visit `v` reports each table that it reads: as many events about the table of `l` as
`readsOf l`. -/
theorem countP_table (c : Cache) (v : Visit) (l : Language) :
    (eventsOf (c.visit v).trace).countP (fun e => e.subject = .table l)
      = readsOf l (c.visit v).trace := by
  have hwarning : ∀ e ∈ c.warning? v, e.subject ≠ .table l := fun e he => by
    simp [subject_of_warning? he]
  have hprojecting : ∀ e ∈ c.projecting? v, e.subject ≠ .table l := fun e he => by
    simp [subject_of_projecting? he]
  rw [List.countP_eq_length_filter, visit_events, List.filter_append, List.filter_append,
    filter_toList_eq_nil hwarning, filter_toList_eq_nil hprojecting, List.append_nil,
    List.append_nil, readsOf_visit, loading?]
  rcases v.operation.language? with - | m
  · rfl
  · by_cases hm : m = l
    · subst hm
      rcases htable : c.tables.get m with - | t <;> simp [htable, subject_loadEvent]
    · rcases c.tables.get m with - | t <;> simp [hm, subject_loadEvent]

/-- What is reported about the table of `l` goes with a read of it, and says what comes of that
read, `loadEvent`. -/
theorem mem_events_iff {c : Cache} {v : Visit} {e : Event} {l : Language}
    (he : e.subject = .table l) :
    e ∈ eventsOf (c.visit v).trace ↔
      readsOf l (c.visit v).trace = 1 ∧ e = loadEvent v.source l := by
  have hwarning : c.warning? v ≠ some e := fun h => by simp [subject_of_warning? h] at he
  have hprojecting : c.projecting? v ≠ some e := fun h => by simp [subject_of_projecting? h] at he
  rw [visit_events, List.mem_append, List.mem_append, Option.mem_toList, Option.mem_toList,
    Option.mem_toList, or_iff_left hprojecting, or_iff_left hwarning, readsOf_visit]
  constructor
  · intro h
    obtain ⟨m, hm, htable, hsubject⟩ := subject_of_loading? h
    obtain rfl : m = l := by simpa [hsubject] using he
    rw [loading?, hm, Option.bind_some, htable] at h
    exact ⟨if_pos ⟨hm, htable⟩, (Option.some.inj h).symm⟩
  · rintro ⟨hread, rfl⟩
    obtain ⟨hneed, htable⟩ : v.operation.language? = some l ∧ c.tables.get l = none := by
      by_contra h
      rw [if_neg h] at hread
      cases hread
    rw [loading?, hneed, Option.bind_some, htable]
    rfl

/-! ### Projections made -/

/-- A visit `v` makes the projection that it reports, under the number `c.made`, and answers it; if
it reports none, it answers one that was made before or none at all. -/
theorem visit_made (c : Cache) (v : Visit) :
    ((c.projecting? v).isSome ∧ (c.visit v).state.made = c.made + 1 ∧
      (c.visit v).answer.keywords?.map (·.serial) = some c.made) ∨
    (c.projecting? v = none ∧ (c.visit v).state.made = c.made ∧
      ∀ k ∈ (c.visit v).answer.keywords?, ∃ key, c.projections.lookup key = some k) := by
  obtain ⟨source, operation⟩ := v
  cases operation with
  | get version language =>
    obtain ⟨-, v, hkey, h⟩ := get_cases c source version language
    rw [projecting?, hkey, Option.bind_some]
    rcases h with ⟨hfound, -, hmade⟩ | ⟨hmissing, hanswer, -, hmade⟩
    · right
      rw [hfound]
      refine ⟨rfl, hmade, fun k hk => ⟨_, hfound.trans hk⟩⟩
    · left
      rw [hmissing]
      refine ⟨rfl, hmade, ?_⟩
      show some (c.get source version language).answer.serial = _
      rw [hanswer]
  | versions language => exact .inr ⟨rfl, table_made .., fun _ hk => by cases hk⟩
  | load language => exact .inr ⟨rfl, table_made .., fun _ hk => by cases hk⟩
  | clearTables | clear => exact .inr ⟨rfl, rfl, fun _ hk => by cases hk⟩

end Cache

end DeckKeywords
