/-
DeckKeywords/Proofs/Service/Segments.lean

A run of a host falls into segments, with a reset between one and the next, and
what the caches hold depends on the last segment alone:

  * `heldTable_visits`: the table held for a language is its snapshot, which was
    offered when a step of the last segment first needed it,
  * `askedKeys_visits`: a pair has a projection exactly when a step of the last
    segment wanted keywords that the snapshot of the language serves under it.
-/
import DeckKeywords.Proofs.Segments
import DeckKeywords.Proofs.Service.Visits

namespace DeckKeywords

/-! ### Segments of a run -/

/-- The steps of `steps` since the last reset. -/
def sinceReset (steps : List Step) : List Step := steps.rtakeWhile fun x => !x.isReset

namespace Service

variable {s : Service}

/-- The language whose table a step `x` needs: it lists its versions or wants keywords in it. -/
def needed? (s : Service) (x : Step) : Option Language :=
  match x.action with
  | .ask (.versions language) | .ask (.load _ language) =>
    some (language.getD s.defaultLanguage)
  | .ask (.context document path) =>
    some (s.resolver.resolve x.here.files document path).value.language
  | _ => none

theorem needed?_eq (s : Service) (x : Step) :
    s.needed? x = (s.visit? x).bind fun v => v.operation.language? := by
  obtain ⟨here, r | ⟨n, q⟩⟩ := x
  · cases r <;> rfl
  · rfl

theorem needed?_of_isReset {x : Step} (h : x.isReset) : s.needed? x = none := by
  obtain ⟨here, r | ⟨n, q⟩⟩ := x
  · cases r <;> first | rfl | cases h
  · rfl

/-! ### Snapshots -/

/-- The snapshot of `l` after `steps`: the table offered when it was first needed since the last
reset. -/
def snapshot (s : Service) (steps : List Step) (l : Language) : Option RawTable :=
  ((sinceReset steps).find? fun x => s.needed? x = some l).map fun x => x.here.tables.offered l

theorem sinceDropped_visits (s : Service) (steps : List Step) :
    Cache.sinceDropped (s.visits steps) = s.visits (sinceReset steps) := by
  unfold Cache.sinceDropped visits
  rw [rtakeWhile_filterMap]
  simp only [dropsTables_visit?]
  rfl

/-- The table that the cache holds for `l` is its `snapshot`. -/
@[simp] theorem heldTable_visits (s : Service) (steps : List Step) (l : Language) :
    Cache.heldTable (s.visits steps) l = s.snapshot steps l := by
  unfold Cache.heldTable snapshot
  have hneed : (fun x => (s.visit? x).any fun v => v.operation.language? = some l)
      = fun x => decide (s.needed? x = some l) := by
    funext x
    rw [needed?_eq]
    cases s.visit? x <;> simp
  rw [sinceDropped_visits, visits, List.find?_filterMap, hneed]
  rcases hfind : (sinceReset steps).find? (fun x => s.needed? x = some l) with - | x
  · rfl
  · have hneeded : s.needed? x = some l := by simpa using List.find?_some hfind
    rw [needed?_eq] at hneeded
    obtain ⟨v, hvisit, -⟩ := Option.bind_eq_some_iff.mp hneeded
    rw [Option.bind_some, hvisit, Option.map_some, Option.map_some, source_of_visit? hvisit]

/-- A language `l` has a `snapshot` exactly when a step since the last reset needed it. -/
theorem snapshot_isSome_iff (s : Service) (steps : List Step) (l : Language) :
    (s.snapshot steps l).isSome ↔ l ∈ (sinceReset steps).filterMap s.needed? := by
  simp [snapshot, List.find?_isSome]

/-- A snapshot `t` stays over `later` steps until the next reset. -/
theorem snapshot_append {steps later : List Step} {l : Language} {t : RawTable}
    (hkeep : ∀ y ∈ later, y.isReset = false) (h : s.snapshot steps l = some t) :
    s.snapshot (steps ++ later) l = some t := by
  rw [← heldTable_visits] at h ⊢
  rw [visits_append]
  exact Cache.heldTable_append (visits_keep s hkeep) h

/-! ### Pairs -/

/-- The pair that the keywords of a step `x` are served under, as the snapshots stand after `steps`:
the version that the snapshot of the language serves, and the language. -/
def pair? (s : Service) (steps : List Step) (x : Step) : Option CacheKey :=
  (s.wanted? x).bind fun (version, language) =>
    (s.snapshot steps language).map fun table => (Cache.servedVersion table version, language)

theorem needed?_of_wanted? {x : Step} {version : String} {l : Language}
    (h : s.wanted? x = some (version, l)) : s.needed? x = some l := by
  obtain ⟨asked, language, hvisit, -, rfl⟩ := visit?_of_wanted? h
  rw [needed?_eq, hvisit]
  rfl

/-- Right after a visit `v`, the `pair?` of its step `x` is the one that the cache was asked for. -/
theorem pair?_of_visit? {steps : List Step} {x : Step} {v : Cache.Visit}
    (h : s.visit? x = some v) : s.pair? (steps ++ [x]) x = Cache.keyAt (s.visits steps ++ [v]) := by
  unfold pair?
  simp only [← heldTable_visits]
  rw [wanted?_eq, h, visits_concat s steps h, Cache.keyAt, List.getLast?_concat]
  simp only [Option.bind_some]
  rcases v.operation <;> rfl

/-- The `pair?` of a step `x` stays the same until the next reset. -/
theorem pair?_append {steps later : List Step} {x : Step} (hx : x ∈ sinceReset steps)
    (hkeep : ∀ y ∈ later, y.isReset = false) :
    s.pair? (steps ++ later) x = s.pair? steps x := by
  unfold pair?
  rcases hwanted : s.wanted? x with - | ⟨version, language⟩
  · rfl
  · have hneeded : language ∈ (sinceReset steps).filterMap s.needed? :=
      List.mem_filterMap.mpr ⟨x, hx, needed?_of_wanted? hwanted⟩
    obtain ⟨table, htable⟩ :=
      Option.isSome_iff_exists.mp ((snapshot_isSome_iff s steps language).mpr hneeded)
    simp only [Option.bind_some, snapshot_append hkeep htable, htable]

theorem sinceReset_concat (steps : List Step) (x : Step) :
    sinceReset (steps ++ [x]) = if x.isReset then [] else sinceReset steps ++ [x] := by
  unfold sinceReset
  rw [List.rtakeWhile_concat]
  cases x.isReset <;> rfl

/-- The `askedKeys` of the cache since it was cleared are the pairs of the steps since the last
reset. -/
theorem askedKeys_visits (s : Service) (steps : List Step) :
    Cache.askedKeys (s.visits steps) = (sinceReset steps).filterMap (s.pair? steps) := by
  induction steps using List.reverseRecOn with
  | nil => rfl
  | append_singleton steps x ih =>
    rw [sinceReset_concat]
    by_cases hreset : x.isReset
    · obtain ⟨v, hvisit, hclear⟩ := visit?_of_isReset (s := s) hreset
      rw [visits_concat s steps hvisit, Cache.askedKeys_concat, if_pos hclear, if_pos hreset]
      rfl
    · have hsame : (sinceReset steps).filterMap (s.pair? (steps ++ [x]))
          = (sinceReset steps).filterMap (s.pair? steps) :=
        List.filterMap_congr fun y hy => pair?_append hy (by simpa using hreset)
      -- only the new step can add a pair: those of the earlier ones have not changed
      rw [if_neg hreset, List.filterMap_append, hsame, ← ih]
      rcases hvisit : s.visit? x with - | v
      · have hpair : s.pair? (steps ++ [x]) x = none := by
          rw [pair?, wanted?_of_visit?_eq_none hvisit]
          rfl
        simp [visits, hvisit, hpair]
      · have hclear : v.operation ≠ .clear := fun h => hreset ((clear_iff_isReset hvisit).mp h)
        rw [visits_concat s steps hvisit, Cache.askedKeys_concat, if_neg hclear,
          ← pair?_of_visit? hvisit]
        rcases hpair : s.pair? (steps ++ [x]) x with - | key <;> simp [hpair]

end Service

end DeckKeywords
