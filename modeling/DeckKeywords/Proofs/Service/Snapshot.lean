/-
DeckKeywords/Proofs/Service/Snapshot.lean

A service shows its host one state of the tables between two resets.  Whatever
the source does meanwhile, the snapshot of a language is the table that was
offered when it was first needed, and every answer about the language is one
about that table.
-/
import DeckKeywords.Proofs.Cache.Instances
import DeckKeywords.Proofs.Service.Segments

namespace DeckKeywords

open Cache (servedVersion)

namespace Host

variable {s : Service} (collector : Collector) (steps : List Step) {x : Step}

/-- A step that wants a `version` of a `language` gets the `snapshot` of the language, seen from the
version it serves. -/
theorem keywords_of_snapshot {version : String} {language : Language}
    (h : s.wanted? x = some (version, language)) :
    ∃ table shared, s.snapshot (steps ++ [x]) language = some table ∧
      (((start s collector).run steps).perform x).1.keywords? = some shared ∧
      shared.taxonomy = Taxonomy.project table (servedVersion table version) language := by
  obtain ⟨asked, l, hvisit, rfl, rfl⟩ := Service.visit?_of_wanted? h
  have hnow := Service.visits_concat s steps hvisit
  obtain ⟨table, hheld, -, hlookup⟩ := Cache.get_served (s.visits steps) x.here.tables asked l
  rw [← hnow] at hheld hlookup
  -- no table was forgotten on its own, so the one that was projected is the one held
  obtain ⟨t, ht, hproject⟩ :=
    Cache.taxonomy_of_kept (Service.visits_ne_clearTables s (steps ++ [x])) hlookup
  obtain rfl : t = table := Option.some.inj (ht.symm.trans hheld)
  rw [Service.heldTable_visits] at ht
  refine ⟨t, _, ht, ?_, hproject⟩
  rw [start_keywords?, hvisit]
  rfl

/-- A step that asks for versions gets those that the `snapshot` of the `language` lists. -/
theorem versions_of_snapshot {language : Option Language}
    (h : x.action = .ask (.versions language)) :
    ∃ table, s.snapshot (steps ++ [x]) (language.getD s.defaultLanguage) = some table ∧
      (((start s collector).run steps).perform x).1.versions? = some table.versions.versions := by
  have hvisit : s.visit? x
      = some ⟨x.here.tables, .versions (some (language.getD s.defaultLanguage))⟩ := by
    rw [Service.visit?, h]
  obtain ⟨table, hheld, hversions⟩ := Cache.versions_served (s.visits steps) x.here.tables
    (some (language.getD s.defaultLanguage))
  rw [← Service.visits_concat s steps hvisit, Service.heldTable_visits] at hheld
  refine ⟨table, hheld, ?_⟩
  rw [start_versions?, hvisit]
  exact hversions

/-- What is cached under `key` was made from the `table` that is cached. -/
theorem project_of_mem_projections {key : CacheKey} {shared : Shared}
    (h : (key, shared) ∈ ((start s collector).run steps).session.cache.projections) :
    ∃ table, ((start s collector).run steps).session.cache.tables.get key.2 = some table ∧
      shared.taxonomy = Taxonomy.project table key.1 key.2 := by
  rw [start_cache] at h ⊢
  have hlookup := (Cache.numbered_empty.run _).lookup_of_mem h
  rw [Cache.tables_run]
  exact Cache.taxonomy_of_kept (Service.visits_ne_clearTables s steps) hlookup

end Host

/-- **Answers are about snapshots.**  Whoever wants a `version` of a `language`, `s.wanted? x`, gets
the `table` that is the `snapshot` of the language, seen from `servedVersion table version`; whoever
asks for versions gets `table.versions.versions`.  A snapshot stays as it is over all `later` steps
that are no reset, and every projection of the `cache` was made from the table that is cached. -/
theorem responses_match_snapshots (s : Service) (collector : Collector) (steps : List Step)
    (x : Step) :
    let host := (Host.start s collector).run steps
    let response := (host.perform x).1
    let cache := host.session.cache
    let snapshot := s.snapshot (steps ++ [x])
    (∀ version language, s.wanted? x = some (version, language) →
      ∃ table shared, snapshot language = some table ∧ response.keywords? = some shared ∧
        shared.taxonomy = Taxonomy.project table (servedVersion table version) language) ∧
    (∀ language, x.action = .ask (.versions language) →
      ∃ table, snapshot (language.getD s.defaultLanguage) = some table ∧
        response.versions? = some table.versions.versions) ∧
    (∀ later, (∀ y ∈ later, y.isReset = false) → ∀ language table,
      snapshot language = some table →
        s.snapshot (steps ++ x :: later) language = some table) ∧
    (∀ key shared, (key, shared) ∈ cache.projections →
      ∃ table, cache.tables.get key.2 = some table ∧
        shared.taxonomy = Taxonomy.project table key.1 key.2) := by
  intro host response cache snapshot
  refine ⟨?_, ?_, ?_, ?_⟩
  · intro version language hwanted
    exact Host.keywords_of_snapshot collector steps hwanted
  · intro language haction
    exact Host.versions_of_snapshot collector steps haction
  · intro later hkeep language table hsnapshot
    rw [List.append_cons]
    exact Service.snapshot_append hkeep hsnapshot
  · intro key shared hmem
    exact Host.project_of_mem_projections collector steps hmem

/-- A table that appears too late, at the `second` step, is not seen: keywords that were missing
stay missing. -/
theorem late_table_not_seen :
    let s : Service := ⟨"", .none⟩
    let first := Step.loading (.ofTexts (.const none)) none none
    let second := Step.loading (fun _ => .ok "\x7b\"AQUA\": \x7b\x7d\x7d") (some " 2024 ") none
    let host := (Host.start s (.new 8 .debug)).run [first]
    ∃ shared, (host.perform second).1.keywords? = some shared ∧
      shared.taxonomy = Taxonomy.project .empty "2025" .en := by
  intro s first second host
  obtain ⟨hkeywords, -⟩ := responses_match_snapshots s (.new 8 .debug) [first] second
  obtain ⟨table, shared, htable, hresponse, hproject⟩ := hkeywords "2024" .en (by decide +kernel)
  obtain rfl : RawTable.empty = table := Option.some.inj htable
  exact ⟨shared, hresponse, hproject⟩

end DeckKeywords
