/-
DeckKeywords/Proofs/Service/Versions.lean

The versions that a service lists, against those that it serves.  Both come from
one table, `tableAt`: the snapshot of the language, or what the source offers if
there is none yet.  The listing is that of the table, to the letter.  A request
is trimmed first, with the default version in the place of nothing, and if what
is left is not listed then the fallback of the table is served, which no table
has to list.

So the two agree only as far as the table allows: `loaded_version_listed_iff`
says when what is served is listed, `listed_version_loadable_iff` says when what
is listed can be had.
-/
import DeckKeywords.Proofs.Json.Members
import DeckKeywords.Proofs.Service.Snapshot
import DeckKeywords.Proofs.Text.Trim
import Mathlib.Data.Finset.Dedup
import Mathlib.Data.Set.Finite.Basic

namespace DeckKeywords

open Cache (askedVersion servedVersion)

/-! ### What is asked for and what is served -/

namespace Cache

theorem servedVersion_mem_iff (table : RawTable) (version : String) :
    servedVersion table version ∈ table.versions.versions
      ↔ version ∈ table.versions.versions ∨ table.versions.fallback ∈ table.versions.versions := by
  unfold servedVersion
  by_cases h : version ∈ table.versions.versions <;> simp [h]

/-- The version `v` is asked for as it stands if there is nothing to trim and something to ask
for. -/
theorem askedVersion_eq_self_iff {v : String} :
    askedVersion (some v) = v ↔ v ≠ "" ∧ Text.trim v = v := by
  unfold askedVersion
  by_cases hempty : Text.trim v = ""
  · -- nothing is left, and the version that is asked for instead is not blank
    have hne : Text.trim defaultVersion ≠ "" := by decide +kernel
    simp only [Option.map_some, hempty, Option.filter]
    constructor
    · intro h
      rw [← h] at hempty
      exact absurd hempty hne
    · rintro ⟨hv, htrim⟩
      exact absurd htrim.symm hv
  · have hkeep : (Text.trim v).isEmpty = false := by simpa using hempty
    simp only [Option.map_some, Option.filter, hkeep]
    constructor
    · intro h
      have htrim : Text.trim v = v := by simpa using h
      exact ⟨htrim ▸ hempty, htrim⟩
    · rintro ⟨-, htrim⟩
      simpa using htrim

/-- Some `version` is not among those `listed`, however many there are. -/
theorem exists_askedVersion_not_mem (listed : List String) :
    ∃ version, askedVersion version ∉ listed := by
  -- texts of one letter repeated are not trimmed, and there are as many as there are numbers
  have htrimmed : ∀ n : ℕ, Text.IsTrimmed (List.replicate (n + 1) 'x') := by
    intro n
    have hvisible : ∀ c : Char, c = 'x' → Text.isBlank c = false := by
      rintro _ rfl
      decide
    constructor
    · intro c hc
      exact hvisible c (List.eq_of_mem_replicate (List.mem_of_mem_head? hc))
    · intro c hc
      exact hvisible c (List.eq_of_mem_replicate (List.mem_of_mem_getLast? hc))
  have hinjective : Function.Injective fun n : ℕ => String.ofList (List.replicate (n + 1) 'x') := by
    intro m n h
    have hlength := congrArg List.length (String.ofList_injective h)
    simpa using hlength
  obtain ⟨_, ⟨n, rfl⟩, hn⟩ :=
    (Set.infinite_range_of_injective hinjective).exists_notMem_finset listed.toFinset
  refine ⟨some (String.ofList (List.replicate (n + 1) 'x')), ?_⟩
  have hasked : askedVersion (some (String.ofList (List.replicate (n + 1) 'x')))
      = String.ofList (List.replicate (n + 1) 'x') := by
    rw [askedVersion_eq_self_iff, Text.trim_eq_self_iff, String.toList_ofList]
    exact ⟨by simp, htrimmed n⟩
  rw [hasked]
  simpa using hn

end Cache

/-! ### One table for a moment -/

namespace Service

/-- The table from which a request for `l` is answered after `steps`: the `snapshot` of the
language, or the table that is offered now if there is none. -/
def tableAt (s : Service) (steps : List Step) (here : Surroundings) (l : Language) : RawTable :=
  (s.snapshot steps l).getD (here.tables.offered l)

variable {s : Service} {steps : List Step} {here : Surroundings} {l : Language}

theorem tableFor_run {v : Cache.Visit} (hv : v.source = here.tables) :
    (Cache.empty.run (s.visits steps)).tableFor v l = s.tableAt steps here l := by
  rw [Cache.tableFor, Cache.tables_run, heldTable_visits, hv, tableAt]

/-- A step `x` that needs a table makes it the `snapshot`. -/
theorem snapshot_of_needed {x : Step} (h : s.needed? x = some l) :
    s.snapshot (steps ++ [x]) l = some (s.tableAt steps x.here l) := by
  rw [needed?_eq] at h
  obtain ⟨v, hvisit, hneed⟩ := Option.bind_eq_some_iff.mp h
  rw [← heldTable_visits, visits_concat s steps hvisit, Cache.heldTable_of_needed _ hneed,
    tableFor_run (source_of_visit? hvisit)]

/-- The table `tableAt` stays until the next reset, whatever is offered later. -/
theorem tableAt_append {x : Step} {later : List Step} (h : s.needed? x = some l)
    (hkeep : ∀ y ∈ later, y.isReset = false) (here' : Surroundings) :
    s.tableAt (steps ++ x :: later) here' l = s.tableAt steps x.here l := by
  have hneeded : s.snapshot (steps ++ [x]) l = some (s.tableAt steps x.here l) :=
    snapshot_of_needed h
  have hsnapshot := snapshot_append hkeep hneeded
  rw [List.append_assoc, List.singleton_append] at hsnapshot
  rw [tableAt, hsnapshot, Option.getD_some]

/-- The text from which a request for `l` is answered after `steps`: the one that was offered when
the table was first needed since the last reset, or the one that is offered now. -/
def textAt (s : Service) (steps : List Step) (here : Surroundings) (l : Language) :
    Except ReadFailure String :=
  match (sinceReset steps).find? fun x => s.needed? x = some l with
  | some x => x.here.tables l
  | none => here.tables l

theorem tableAt_of_textAt {text : String} {table : RawTable}
    (htext : s.textAt steps here l = .ok text) (htable : RawTable.ofJson text = .ok table) :
    s.tableAt steps here l = table := by
  have hoffered : ∀ source : TableSource, source l = .ok text → source.offered l = table := by
    intro source hsource
    unfold TableSource.offered
    rw [hsource]
    show (RawTable.ofJson text).toOption.getD .empty = table
    rw [htable]
    rfl
  unfold textAt at htext
  unfold tableAt snapshot
  rcases hfind : (sinceReset steps).find? (fun x => s.needed? x = some l) with - | x
  · rw [hfind] at htext
    exact hoffered _ htext
  · rw [hfind] at htext
    exact hoffered _ htext

/-- At the start `tableAt` is the `table` of the text that is offered now. -/
theorem tableAt_nil {text : String} {table : RawTable} (htext : here.tables l = .ok text)
    (htable : (RawTable.ofJson text).toOption = some table) : s.tableAt [] here l = table :=
  tableAt_of_textAt htext (Json.toOption_eq_some_iff.mp htable)

end Service

namespace Host

/-- The versions that a host `h` is told for a `language`. -/
def listedVersions? (h : Host) (here : Surroundings) (language : Option Language) :
    Option (List String) :=
  (h.perform ⟨here, .ask (.versions language)⟩).1.versions?

/-- The version of the keywords that a host `h` is given for a request. -/
def loadedVersion? (h : Host) (here : Surroundings) (version : Option String)
    (language : Option Language) : Option String :=
  (h.perform ⟨here, .ask (.load version language)⟩).1.keywords?.map (·.taxonomy.version)

/-- What happens while a host `h` takes a step `x`. -/
def happenings (h : Host) (x : Step) : List Happening :=
  match x.action with
  | .ask r => (h.session.service.answer h.session.cache x.here r).trace
  | .query _ _ => []

/-- A host `h` is warned, while it takes a step `x`, that a version is replaced by another one. -/
def Warned (h : Host) (x : Step) : Prop :=
  ∃ requested fallback l, Happening.event (.versionReplaced requested fallback l) ∈ h.happenings x

variable (s : Service) (collector : Collector) (steps : List Step) (here : Surroundings)
variable (version : Option String) (language : Option Language)

theorem listedVersions?_run :
    ((start s collector).run steps).listedVersions? here language
      = some (s.tableAt steps here (language.getD s.defaultLanguage)).versions.versions := by
  obtain ⟨table, hsnapshot, hversions⟩ := versions_of_snapshot collector steps
    (x := ⟨here, .ask (.versions language)⟩) rfl
  rw [Service.snapshot_of_needed rfl] at hsnapshot
  rw [Option.some.inj hsnapshot]
  exact hversions

theorem loadedVersion?_run :
    ((start s collector).run steps).loadedVersion? here version language
      = some (servedVersion (s.tableAt steps here (language.getD s.defaultLanguage))
        (askedVersion version)) := by
  obtain ⟨table, shared, hsnapshot, hkeywords, htaxonomy⟩ := keywords_of_snapshot collector steps
    (x := ⟨here, .ask (.load version language)⟩) (s := s) rfl
  rw [Service.snapshot_of_needed rfl] at hsnapshot
  rw [Option.some.inj hsnapshot, loadedVersion?, hkeywords, Option.map_some, htaxonomy]
  rfl

/-- A host is `Warned` exactly when the `version` that it asks for is not listed. -/
theorem warned_run :
    ((start s collector).run steps).Warned ⟨here, .ask (.load version language)⟩
      ↔ askedVersion version
        ∉ (s.tableAt steps here (language.getD s.defaultLanguage)).versions.versions := by
  let l := language.getD s.defaultLanguage
  let load : Step := ⟨here, .ask (.load version language)⟩
  have hhappenings : ((start s collector).run steps).happenings load
      = ((Cache.empty.run (s.visits steps)).get here.tables version (some l)).trace := by
    simp only [happenings, run_service, service_start, start_cache]
    rfl
  have htable : (Cache.empty.run (s.visits steps)).tableFor ⟨here.tables, .get version (some l)⟩ l
      = s.tableAt steps here l := Service.tableFor_run rfl
  show (∃ requested fallback m, Happening.event (.versionReplaced requested fallback m)
    ∈ ((start s collector).run steps).happenings load) ↔ _
  simp only [hhappenings, Cache.versionReplaced_mem_get_iff, Option.getD_some, htable]
  simp [l]

end Host

/-! ### What is served is listed -/

/-- **What is served is listed as far as the `fallback` is.**  The `served` version is `listed`
exactly when `askedVersion version` is or the `fallback` is; otherwise it is the `fallback`.  So all
requests are answered by listed versions exactly when `fallback ∈ listed`.  And `listed` are the
versions of the `table` until the next reset. -/
theorem loaded_version_listed_iff (s : Service) (collector : Collector) (steps : List Step)
    (here : Surroundings) (language : Option Language) {text : String} {table : RawTable}
    (htext : s.textAt steps here (language.getD s.defaultLanguage) = .ok text)
    (htable : RawTable.ofJson text = .ok table) :
    let host := (Host.start s collector).run steps
    let listed := table.versions.versions
    let fallback := table.versions.fallback
    host.listedVersions? here language = some listed ∧
    (∀ version, ∃ served, host.loadedVersion? here version language = some served ∧
      (served ∈ listed ↔ askedVersion version ∈ listed ∨ fallback ∈ listed) ∧
      (served ∉ listed → served = fallback)) ∧
    ((∀ version, ∀ served ∈ host.loadedVersion? here version language, served ∈ listed)
      ↔ fallback ∈ listed) ∧
    ∀ version later here', (∀ y ∈ later, y.isReset = false) →
      (host.run (⟨here, .ask (.load version language)⟩ :: later)).listedVersions? here' language
        = some listed := by
  intro host listed fallback
  have hat := Service.tableAt_of_textAt htext htable
  have hlisted : host.listedVersions? here language = some listed := by
    rw [Host.listedVersions?_run, hat]
  have hloaded : ∀ version, host.loadedVersion? here version language
      = some (servedVersion table (askedVersion version)) := by
    intro version
    rw [Host.loadedVersion?_run, hat]
  refine ⟨hlisted, ?_, ?_, ?_⟩
  · intro version
    have hmem := Cache.servedVersion_mem_iff table (askedVersion version)
    refine ⟨_, hloaded version, hmem, ?_⟩
    intro hserved
    have hasked : askedVersion version ∉ listed := fun h => hserved (hmem.mpr (.inl h))
    exact if_neg hasked
  · constructor
    · intro hall
      -- a version that is not listed is served by the fallback
      obtain ⟨version, hasked⟩ := Cache.exists_askedVersion_not_mem listed
      have hserved := hall version _ (hloaded version)
      exact ((Cache.servedVersion_mem_iff table _).mp hserved).resolve_left hasked
    · intro hfallback version served hserved
      rw [hloaded, Option.mem_some] at hserved
      rw [← hserved]
      exact (Cache.servedVersion_mem_iff table _).mpr (.inr hfallback)
  · intro version later here' hkeep
    have hlater : s.tableAt (steps ++ ⟨here, .ask (.load version language)⟩ :: later) here'
        (language.getD s.defaultLanguage) = table :=
      (Service.tableAt_append rfl hkeep here').trans hat
    rw [← Host.run_append, Host.listedVersions?_run, hlater]

/-- A fallback that the table of `s` lists is served for a version that is not listed, also when the
source offers nothing any more. -/
theorem listed_fallback_served :
    let s : Service := ⟨"", .none⟩
    let text := "\x7b\"_meta\":\x7b\"versions\":[\"2020\",\"2022\"],\"default\":\"2020\"\x7d\x7d"
    let listing : Step := ⟨⟨fun _ => .ok text, .ofFindings []⟩, .ask (.versions none)⟩
    let here : Surroundings := ⟨.ofTexts (.const none), .ofFindings []⟩
    let host := (Host.start s (.new 8 .debug)).run [listing]
    host.listedVersions? here none = some ["2020", "2022"] ∧
      ∃ served, host.loadedVersion? here (some "1999") none = some served ∧
        served ∈ ["2020", "2022"] := by
  intro s text listing here host
  have htext : s.textAt [listing] here .en = .ok text := rfl
  have htable : (RawTable.ofJson text).toOption = some ⟨⟨["2020", "2022"], "2020"⟩, .empty⟩ := by
    decide +kernel
  obtain ⟨hlisted, hloaded, -⟩ := loaded_version_listed_iff s (.new 8 .debug) [listing] here none
    htext (Json.toOption_eq_some_iff.mp htable)
  obtain ⟨served, hserved, hmem, -⟩ := hloaded (some "1999")
  exact ⟨hlisted, served, hserved, hmem.mpr (.inr (by decide))⟩

/-- A table need not list its fallback: that of `text` lists the version 2020 alone, and its
keywords are of the version 2025. -/
theorem unlisted_fallback_served :
    let text := "\x7b\"_meta\":\x7b\"versions\":[\"2020\"]\x7d\x7d"
    let here : Surroundings := ⟨fun _ => .ok text, .ofFindings []⟩
    let host := Host.start ⟨"", .none⟩ (.new 8 .debug)
    (RawTable.ofJson text).toOption.isSome ∧ host.listedVersions? here none = some ["2020"] ∧
      host.loadedVersion? here none none = some "2025" ∧ "2025" ∉ ["2020"] := by
  intro text here host
  let s : Service := ⟨"", .none⟩
  have htable : (RawTable.ofJson text).toOption = some ⟨⟨["2020"], "2025"⟩, .empty⟩ := by
    decide +kernel
  have hat : s.tableAt [] here .en = ⟨⟨["2020"], "2025"⟩, .empty⟩ :=
    Service.tableAt_nil rfl htable
  have hlisted : host.listedVersions? here none
      = some (s.tableAt [] here .en).versions.versions := Host.listedVersions?_run s _ [] here none
  have hloaded : host.loadedVersion? here none none
      = some (servedVersion (s.tableAt [] here .en) (askedVersion none)) :=
    Host.loadedVersion?_run s _ [] here none none
  rw [hat] at hlisted hloaded
  exact ⟨by rw [htable]; rfl, hlisted, hloaded, by decide⟩

/-! ### What is listed can be had -/

/-- **What is listed can be had as it is written.**  Until the next reset, and whatever the source
offers by then, a host that asks for a version `v` of those `listed` is given `v`, and is not
`Warned`, exactly when `v` is not empty and `Text.trim` leaves it as it is. -/
theorem listed_version_loadable_iff (s : Service) (collector : Collector) (steps later : List Step)
    (here here' : Surroundings) (language : Option Language) {listed : List String} {v : String}
    (hlisted : ((Host.start s collector).run steps).listedVersions? here language = some listed)
    (hv : v ∈ listed) (hkeep : ∀ y ∈ later, y.isReset = false) :
    let host := (Host.start s collector).run (steps ++ ⟨here, .ask (.versions language)⟩ :: later)
    (host.loadedVersion? here' (some v) language = some v ∧
      ¬ host.Warned ⟨here', .ask (.load (some v) language)⟩) ↔ v ≠ "" ∧ Text.trim v = v := by
  intro host
  let table := s.tableAt steps here (language.getD s.defaultLanguage)
  have hat : s.tableAt (steps ++ ⟨here, .ask (.versions language)⟩ :: later) here'
      (language.getD s.defaultLanguage) = table := Service.tableAt_append rfl hkeep here'
  have hmem : v ∈ table.versions.versions := by
    rw [Host.listedVersions?_run] at hlisted
    rwa [Option.some.inj hlisted]
  rw [← Cache.askedVersion_eq_self_iff, Host.loadedVersion?_run, Host.warned_run, hat, not_not,
    Option.some.injEq]
  constructor
  · rintro ⟨hserved, hasked⟩
    rwa [servedVersion, if_pos hasked] at hserved
  · intro hasked
    rw [hasked]
    exact ⟨if_pos hmem, hmem⟩

/-- A version that was listed by the table of `s` is had after another one was, also when the source
offers nothing any more. -/
theorem listed_version_loadable_later :
    let s : Service := ⟨"", .none⟩
    let text := "\x7b\"_meta\":\x7b\"versions\":[\"2020\",\"2022\"]\x7d\x7d"
    let here : Surroundings := ⟨fun _ => .ok text, .ofFindings []⟩
    let gone : Surroundings := ⟨.ofTexts (.const none), .ofFindings []⟩
    let other : Step := ⟨here, .ask (.load (some "2022") none)⟩
    let host := (Host.start s (.new 8 .debug)).run [⟨here, .ask (.versions none)⟩, other]
    host.loadedVersion? gone (some "2020") none = some "2020" ∧
      ¬ host.Warned ⟨gone, .ask (.load (some "2020") none)⟩ := by
  intro s text here gone other host
  have htable : (RawTable.ofJson text).toOption = some ⟨⟨["2020", "2022"], "2025"⟩, .empty⟩ := by
    decide +kernel
  have hat : s.tableAt [] here .en = ⟨⟨["2020", "2022"], "2025"⟩, .empty⟩ :=
    Service.tableAt_nil rfl htable
  have hlisted : (Host.start s (.new 8 .debug)).listedVersions? here none
      = some (s.tableAt [] here .en).versions.versions := Host.listedVersions?_run s _ [] here none
  rw [hat] at hlisted
  have hkeep : ∀ y ∈ [other], y.isReset = false := by simp [other, Step.isReset]
  exact (listed_version_loadable_iff s (.new 8 .debug) [] [other] here gone none hlisted
    (by decide) hkeep).mpr (by decide +kernel)

/-- A version may be listed in `text` with white space that a request for it loses: what is had then
is another version. -/
theorem padded_version_not_loadable :
    let text := "\x7b\"_meta\":\x7b\"versions\":[\" 2024\",\"2024\"]\x7d\x7d"
    let here : Surroundings := ⟨fun _ => .ok text, .ofFindings []⟩
    let host := Host.start ⟨"", .none⟩ (.new 8 .debug)
    host.listedVersions? here (some .en) = some [" 2024", "2024"] ∧
      host.loadedVersion? here (some " 2024") (some .en) = some "2024" ∧ "2024" ≠ " 2024" := by
  intro text here host
  let s : Service := ⟨"", .none⟩
  let table : RawTable := ⟨⟨[" 2024", "2024"], "2025"⟩, .empty⟩
  have hat : s.tableAt [] here .en = table :=
    Service.tableAt_nil rfl (show (RawTable.ofJson text).toOption = some table by decide +kernel)
  have hlisted : host.listedVersions? here (some .en)
      = some (s.tableAt [] here .en).versions.versions :=
    Host.listedVersions?_run s _ [] here (some .en)
  have hloaded : host.loadedVersion? here (some " 2024") (some .en)
      = some (servedVersion (s.tableAt [] here .en) (askedVersion (some " 2024"))) :=
    Host.loadedVersion?_run s _ [] here (some " 2024") (some .en)
  have hserved : servedVersion table (askedVersion (some " 2024")) = "2024" := by decide +kernel
  rw [hat] at hlisted hloaded
  rw [hserved] at hloaded
  exact ⟨hlisted, hloaded, by decide⟩

end DeckKeywords
