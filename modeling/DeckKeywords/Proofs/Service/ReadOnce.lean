/-
DeckKeywords/Proofs/Service/ReadOnce.lean

Counting reads.  The table of a language is read by the first step of a segment
that needs it, whatever comes of the read, and by no other step.
-/
import DeckKeywords.Proofs.Service.Segments

namespace DeckKeywords

namespace Host

/-- A step `x` reads the table that it needs if that was not needed since the last reset. -/
theorem reads_concat (s : Service) (collector : Collector) (steps : List Step) (x : Step)
    (l : Language) :
    ((start s collector).run (steps ++ [x])).session.reads.get l
      = ((start s collector).run steps).session.reads.get l +
        if s.needed? x = some l ∧ l ∉ (sinceReset steps).filterMap s.needed? then 1 else 0 := by
  rw [run_append, run_cons, run_nil, perform_reads, Service.needed?_eq]
  simp only [run_service, service_start, start_cache, ← Service.snapshot_isSome_iff]
  refine congrArg _ ?_
  rcases s.visit? x with - | v
  · rfl
  · simp [Cache.readsOf_visit, Service.heldTable_visits]

/-- The `reads` of the table of `l` are counted by the segments that needed it. -/
theorem reads_run (s : Service) (collector : Collector) (steps : List Step) (l : Language) :
    ((start s collector).run steps).session.reads.get l
      = (steps.splitOnP Step.isReset).countP fun segment =>
          segment.any fun x => s.needed? x = some l := by
  induction steps using List.reverseRecOn with
  | nil => cases l <;> rfl
  | append_singleton steps x ih =>
    -- a reset needs no table, so no step both ends a segment and counts for it
    have hreset : x.isReset → decide (s.needed? x = some l) = false := by
      intro h
      simp [Service.needed?_of_isReset h]
    rw [reads_concat, ih, countP_splitOnP_concat steps hreset]
    simp [sinceReset]

/-- The `tableCount` is the number of languages that were needed since the last reset. -/
theorem tableCount_run (s : Service) (collector : Collector) (steps : List Step) :
    ((start s collector).run steps).session.cache.tableCount
      = ((sinceReset steps).filterMap s.needed?).dedup.length := by
  rw [start_cache]
  have hall : Language.all.Nodup := by decide
  refine length_eq_length_dedup (hall.filter _) fun l => ?_
  have hmem : l ∈ Language.all := by cases l <;> decide
  rw [List.mem_filter, Cache.tables_run, Service.heldTable_visits, Service.snapshot_isSome_iff]
  exact and_iff_right hmem

end Host

/-- **Every table is read once in a segment that needs it.**  For each language `l` the `reads` are
as many as the segments, cut at `Step.isReset`, with a step whose `needed?` table is that of `l`,
and `tableCount` is the number of languages needed since the last reset.  After `detect`, `resolve`
and `query` the reads are as many as before. -/
theorem reads_eq_needing_segments (s : Service) (collector : Collector) (steps : List Step) :
    let host := (Host.start s collector).run steps
    (∀ l, host.session.reads.get l
      = (steps.splitOnP Step.isReset).countP fun segment =>
          segment.any fun x => s.needed? x = some l) ∧
    host.session.cache.tableCount = ((sinceReset steps).filterMap s.needed?).dedup.length ∧
    ∀ here document path n q l,
      let readsAfter := fun action => (host.perform ⟨here, action⟩).2.session.reads.get l
      readsAfter (.ask (.detect document path)) = host.session.reads.get l ∧
      readsAfter (.ask (.resolve document path)) = host.session.reads.get l ∧
      readsAfter (.query n q) = host.session.reads.get l := by
  intro host
  refine ⟨Host.reads_run s collector steps, Host.tableCount_run s collector steps, ?_⟩
  intro here document path n q l readsAfter
  refine ⟨?_, ?_, rfl⟩
  · exact Host.perform_reads host ⟨here, .ask (.detect document path)⟩ l
  · exact Host.perform_reads host ⟨here, .ask (.resolve document path)⟩ l

end DeckKeywords
