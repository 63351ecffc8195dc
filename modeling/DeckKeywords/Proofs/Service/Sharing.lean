/-
DeckKeywords/Proofs/Service/Sharing.lean

Who shares keywords with whom.  Between two resets everyone whose request comes
down to one pair of a version and a language holds one and the same projection,
and nobody else does; after a reset projections are made anew, and those that
were given before stay as they are with whoever holds them.
-/
import DeckKeywords.Proofs.Cache.Instances
import DeckKeywords.Proofs.Service.Segments

namespace DeckKeywords

namespace Service

variable {s : Service} {before between : List Step} {x y : Step}

theorem visits_between {v : Cache.Visit} (h : s.visit? x = some v) :
    s.visits (before ++ x :: between) = s.visits before ++ v :: s.visits between := by
  rw [visits_append, visits, visits, List.filterMap_cons_some h]
  rfl

theorem isReset_of_wanted? {wanted : String × Language} (h : s.wanted? x = some wanted) :
    x.isReset = false := by
  refine Bool.eq_false_iff.mpr fun hreset => ?_
  have hneeded := needed?_of_wanted? h
  rw [needed?_of_isReset hreset] at hneeded
  cases hneeded

/-- The `pair?` of a step is the one that its visit `v` asks the cache for. -/
theorem keyOf_visits (steps : List Step) {v : Cache.Visit} (h : s.visit? x = some v) :
    (Cache.empty.run (s.visits steps)).keyOf v = s.pair? (steps ++ [x]) x := by
  rw [pair?_of_visit? h, Cache.keyAt_concat]

/-- Where the `version` that a step `x` wants is not listed, its pair bears the fallback of the
`table`. -/
theorem pair?_of_not_listed {steps : List Step} {version : String} {l : Language} {table : RawTable}
    (hwanted : s.wanted? x = some (version, l)) (htable : s.snapshot steps l = some table)
    (hlisted : version ∉ table.versions.versions) :
    s.pair? steps x = some (table.versions.fallback, l) := by
  rw [pair?, hwanted, Option.bind_some]
  simp only [htable, Option.map_some, Cache.servedVersion, if_neg hlisted]

end Service

namespace Host

variable {s : Service} {collector : Collector} {before between : List Step} {x y : Step}
  {k₁ k₂ : Shared}

/-- A step that wants keywords gets some, `k`. -/
theorem keywords_of_wanted (collector : Collector) (steps : List Step) {version : String}
    {l : Language} (h : s.wanted? x = some (version, l)) :
    ∃ k, (((start s collector).run steps).perform x).1.keywords? = some k := by
  obtain ⟨asked, language, hvisit, -, -⟩ := Service.visit?_of_wanted? h
  rw [start_keywords?, hvisit]
  exact ⟨_, rfl⟩

/-- Two answers `k₁` and `k₂` in a run bear the same `serial` exactly when there is no reset
`between` them and their pairs agree, and then they are one. -/
theorem serial_eq_iff
    (h₁ : (((start s collector).run before).perform x).1.keywords? = some k₁)
    (h₂ : (((start s collector).run (before ++ x :: between)).perform y).1.keywords? = some k₂) :
    (k₁.serial = k₂.serial ↔ (∀ u ∈ between, u.isReset = false) ∧
      s.pair? (before ++ [x]) x = s.pair? (before ++ x :: between ++ [y]) y) ∧
    (k₁.serial = k₂.serial → k₁ = k₂) := by
  rw [start_keywords?] at h₁ h₂
  obtain ⟨v, hv, hk₁⟩ := Option.bind_eq_some_iff.mp h₁
  obtain ⟨w, hw, hk₂⟩ := Option.bind_eq_some_iff.mp h₂
  have hy := Service.keyOf_visits (before ++ x :: between) hw
  rw [Service.visits_between hv, Cache.run_append, Cache.run_cons] at hk₂ hy
  have hsame := Cache.serial_eq_iff (Cache.numbered_empty.run _) hk₁ hk₂
  rw [← Service.visits_ne_clear_iff s, ← hy, ← Service.keyOf_visits before hv]
  refine ⟨hsame, fun hserial => ?_⟩
  obtain ⟨hkeep, hkey⟩ := hsame.mp hserial
  exact Cache.shared_of_kept hkeep hkey hk₁ hk₂

/-- Without a reset `between` them, requests for `version₁` and `version₂`, neither of them listed,
get one projection `k`. -/
theorem shared_of_not_listed (collector : Collector) {l : Language} {version₁ version₂ : String}
    {table : RawTable} (hx : s.wanted? x = some (version₁, l))
    (hy : s.wanted? y = some (version₂, l)) (hkeep : ∀ u ∈ between, u.isReset = false)
    (htable : s.snapshot (before ++ [x]) l = some table)
    (hlisted₁ : version₁ ∉ table.versions.versions)
    (hlisted₂ : version₂ ∉ table.versions.versions) :
    ∃ k, (((start s collector).run before).perform x).1.keywords? = some k ∧
      (((start s collector).run (before ++ x :: between)).perform y).1.keywords? = some k := by
  obtain ⟨k₁, h₁⟩ := keywords_of_wanted collector before hx
  obtain ⟨k₂, h₂⟩ := keywords_of_wanted collector (before ++ x :: between) hy
  -- the second request still finds the table that the first one found
  have hkept : ∀ u ∈ between ++ [y], u.isReset = false := by
    simpa [or_imp, forall_and, Service.isReset_of_wanted? hy] using hkeep
  have hlater : s.snapshot (before ++ x :: between ++ [y]) l = some table := by
    rw [show before ++ x :: between ++ [y] = before ++ [x] ++ (between ++ [y]) by simp]
    exact Service.snapshot_append hkept htable
  have hpair : s.pair? (before ++ [x]) x = s.pair? (before ++ x :: between ++ [y]) y := by
    rw [Service.pair?_of_not_listed hx htable hlisted₁,
      Service.pair?_of_not_listed hy hlater hlisted₂]
  obtain ⟨hsame, hone⟩ := serial_eq_iff h₁ h₂
  obtain rfl := hone (hsame.mpr ⟨hkeep, hpair⟩)
  exact ⟨k₁, h₁, h₂⟩

/-- The `projectionCount` is the number of pairs that were wanted since the last reset. -/
theorem projectionCount_run (s : Service) (collector : Collector) (steps : List Step) :
    ((start s collector).run steps).session.cache.projectionCount
      = ((sinceReset steps).filterMap (s.pair? steps)).dedup.length := by
  rw [start_cache, Cache.projectionCount_run, Service.askedKeys_visits]

end Host

/-- **One projection for a pair between two resets.**  Two requests `x` and `y` get keywords of the
same `serial` exactly when no step `between` them is a reset and their `pair?`, the served version
with its language, is the same.  So all requests for versions that the `table` does not list share
one projection.  The `contexts` stay as they were made, and `projectionCount` is the number of pairs
wanted since the last reset. -/
theorem shared_iff_same_pair (s : Service) (collector : Collector) :
    let after : List Step → Host := (Host.start s collector).run
    let keywords? := fun steps x => ((after steps).perform x).1.keywords?
    (∀ before x between y wanted₁ wanted₂,
      s.wanted? x = some wanted₁ → s.wanted? y = some wanted₂ →
      ∃ k₁ k₂, keywords? before x = some k₁ ∧ keywords? (before ++ x :: between) y = some k₂ ∧
        (k₁.serial = k₂.serial ↔ (∀ u ∈ between, u.isReset = false) ∧
          s.pair? (before ++ [x]) x = s.pair? (before ++ x :: between ++ [y]) y) ∧
        (k₁.serial = k₂.serial → k₁ = k₂)) ∧
    (∀ before x between y l version₁ version₂ table,
      s.wanted? x = some (version₁, l) → s.wanted? y = some (version₂, l) →
      (∀ u ∈ between, u.isReset = false) → s.snapshot (before ++ [x]) l = some table →
      version₁ ∉ table.versions.versions → version₂ ∉ table.versions.versions →
      ∃ k, keywords? before x = some k ∧ keywords? (before ++ x :: between) y = some k) ∧
    (∀ before later (n : Nat) c, (after before).contexts[n]? = some c →
      (after (before ++ later)).contexts[n]? = some c) ∧
    ∀ steps, (after steps).session.cache.projectionCount
      = ((sinceReset steps).filterMap (s.pair? steps)).dedup.length := by
  intro after keywords?
  refine ⟨?_, ?_, ?_, Host.projectionCount_run s collector⟩
  -- both requests are answered, and the numbers of the answers tell whether they are one
  · intro before x between y wanted₁ wanted₂ hx hy
    obtain ⟨k₁, h₁⟩ := Host.keywords_of_wanted collector before hx
    obtain ⟨k₂, h₂⟩ := Host.keywords_of_wanted collector (before ++ x :: between) hy
    exact ⟨k₁, k₂, h₁, h₂, Host.serial_eq_iff h₁ h₂⟩
  · intro before x between y l version₁ version₂ table hx hy hkeep htable hlisted₁ hlisted₂
    exact Host.shared_of_not_listed collector hx hy hkeep htable hlisted₁ hlisted₂
  · intro before later n c hc
    show ((Host.start s collector).run (before ++ later)).contexts[n]? = some c
    rw [Host.run_append]
    exact Host.getElem?_contexts_run later hc

/-- In a run of `s`, two versions that no table lists share a projection, and one that is wanted
after a reset does not share it. -/
theorem unlisted_shared_until_reset :
    let s : Service := ⟨"", .none⟩
    let load := fun version => Step.loading (.ofTexts (.const none)) (some version) (some .de)
    let reset : Step := ⟨⟨.ofTexts (.const none), .ofFindings []⟩, .ask .reset⟩
    let keywords? := fun steps x =>
      (((Host.start s (.new 8 .debug)).run steps).perform x).1.keywords?
    ∃ k₁ k₂, keywords? [] (load "2019") = some k₁ ∧
      keywords? [load "2019"] (load "2020") = some k₁ ∧
      keywords? [load "2019", reset] (load "2019") = some k₂ ∧ k₁.serial ≠ k₂.serial := by
  intro s load reset keywords?
  obtain ⟨hsame, hunlisted, -, -⟩ := shared_iff_same_pair s (.new 8 .debug)
  obtain ⟨k, hfirst, hsecond⟩ := hunlisted [] (load "2019") [] (load "2020") .de "2019" "2020"
    .empty (by decide +kernel) (by decide +kernel) (by simp) (by decide +kernel)
    (by decide) (by decide)
  obtain ⟨k₁, k₂, h₁, h₂, hiff, -⟩ := hsame [] (load "2019") [reset] (load "2019") _ _
    (show s.wanted? (load "2019") = some ("2019", .de) by decide +kernel)
    (show s.wanted? (load "2019") = some ("2019", .de) by decide +kernel)
  obtain rfl : k = k₁ := Option.some.inj (hfirst.symm.trans h₁)
  refine ⟨k, k₂, hfirst, hsecond, h₂, fun hserial => ?_⟩
  have hkeep := (hiff.mp hserial).1 reset List.mem_cons_self
  cases hkeep

end DeckKeywords
