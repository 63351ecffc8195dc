/-
DeckKeywords/Proofs/Cache/History.lean

What a run of visits makes of an empty cache, read off the run alone.  A run is
a list of visits, the oldest first, and a moment of a run is what of it had
happened when some visit was over.

  * `heldTable`: the table of a language is what was offered when it was first
    needed since the tables were last forgotten.
  * `keyAt`: at a moment that ends in a request for keywords, the version that
    the table held then serves for it, and its language.
  * `firstAsked`: the first moment since the cache was last cleared at which a
    pair was asked for.  The projection under the pair was made then, from the
    table held then, `originTable`.

Main results: `tables_run` and `lookup_run`, which say that the two caches are
what these functions say.  Forgetting the tables alone sets `heldTable` back but
not `firstAsked`, so the two need not speak of the same table.
-/
import DeckKeywords.Proofs.Cache.Operations
import Mathlib.Data.List.DropRight
import Mathlib.Data.List.Infix

namespace DeckKeywords

namespace Cache

/-! ### The tables held -/

/-- The visits of `vs` since the tables were last forgotten. -/
def sinceDropped (vs : List Visit) : List Visit :=
  vs.rtakeWhile fun v => !v.operation.dropsTables

/-- The table held for `l` after `vs`: the one offered when it was first needed since the tables
were last forgotten. -/
def heldTable (vs : List Visit) (l : Language) : Option RawTable :=
  ((sinceDropped vs).find? fun v => v.operation.language? = some l).map fun v => v.source.offered l

theorem heldTable_concat (vs : List Visit) (v : Visit) (l : Language) :
    heldTable (vs ++ [v]) l
      = if v.operation.dropsTables then none
        else heldTable vs l <|>
          if v.operation.language? = some l then some (v.source.offered l) else none := by
  unfold heldTable sinceDropped
  rw [List.rtakeWhile_concat]
  by_cases hdrop : v.operation.dropsTables
  · simp [hdrop]
  · by_cases hneed : v.operation.language? = some l <;> simp [hdrop, hneed, List.find?_append]

/-- The cached tables after the run `vs` are the ones held, `heldTable`. -/
@[simp] theorem tables_run (vs : List Visit) (l : Language) :
    (empty.run vs).tables.get l = heldTable vs l := by
  induction vs using List.reverseRecOn with
  | nil => exact PerLanguage.get_const none l
  | append_singleton vs v ih =>
    rw [run_append, run_cons, run_nil, visit_tables, heldTable_concat, tableFor, ih]
    by_cases hneed : v.operation.language? = some l
    · rcases heldTable vs l with - | t <;> simp [hneed]
    · simp [hneed]

/-- A language `l` that a visit `v` needs has a table afterwards: the one held before, or else the
one offered, `tableFor`. -/
theorem heldTable_of_needed (vs : List Visit) {v : Visit} {l : Language}
    (h : v.operation.language? = some l) :
    heldTable (vs ++ [v]) l = some ((empty.run vs).tableFor v l) := by
  have hkeep : v.operation.dropsTables = false := by
    rcases e : v.operation <;> simp [e, Operation.language?, Operation.dropsTables] at h ⊢
  rw [heldTable_concat, tableFor, tables_run, hkeep, if_pos h]
  rcases heldTable vs l with - | t <;> rfl

/-! ### Moments -/

/-- The visits of `vs` since the cache was last cleared. -/
def sinceCleared (vs : List Visit) : List Visit :=
  vs.rtakeWhile fun v => v.operation ≠ .clear

/-- The moments of `vs` since the cache was last cleared, the earliest first. -/
def moments (vs : List Visit) : List (List Visit) :=
  (sinceCleared vs).inits.map (vs.rdropWhile (fun v => v.operation ≠ .clear) ++ ·)

theorem moments_concat (vs : List Visit) (v : Visit) :
    moments (vs ++ [v])
      = if v.operation = .clear then [vs ++ [v]] else moments vs ++ [vs ++ [v]] := by
  unfold moments sinceCleared
  by_cases h : v.operation = .clear
  · rw [List.rtakeWhile_concat_neg _ _ _ (by simpa using h),
      List.rdropWhile_concat_neg _ _ _ (by simpa using h), if_pos h]
    simp
  · rw [List.rtakeWhile_concat_pos _ _ _ (by simpa using h),
      List.rdropWhile_concat_pos _ _ _ (by simpa using h), if_neg h, List.inits_append]
    simp [← List.append_assoc, List.rdropWhile_append_rtakeWhile]

/-- The pair that was asked for at a `moment`, if its last visit asked for keywords: the version
that the table held then serves, and the language. -/
def keyAt (moment : List Visit) : Option CacheKey :=
  moment.getLast?.bind fun v =>
    match v.operation with
    | .get version language =>
      let l := language.getD .fallback
      (heldTable moment l).map fun t => (servedVersion t (askedVersion version), l)
    | _ => none

theorem keyAt_concat (vs : List Visit) (v : Visit) :
    keyAt (vs ++ [v]) = (empty.run vs).keyOf v := by
  unfold keyAt keyOf
  rw [List.getLast?_concat, Option.bind_some]
  cases h : v.operation with
  | get version language =>
    have hneed : v.operation.language? = some (language.getD .fallback) := by rw [h]; rfl
    simp only [heldTable_of_needed vs hneed, Option.map_some]
  | versions | load | clearTables | clear => rfl

/-- The table behind the pair `key` that was asked for is held at that moment. -/
theorem heldTable_of_keyAt {vs : List Visit} {v : Visit} {key : CacheKey}
    (h : keyAt (vs ++ [v]) = some key) :
    heldTable (vs ++ [v]) key.2 = some ((empty.run vs).tableFor v key.2) := by
  refine heldTable_of_needed vs ?_
  rw [keyAt_concat, keyOf] at h
  cases e : v.operation with
  | get version language =>
    rw [e] at h
    obtain rfl := Option.some.inj h
    rfl
  | versions | load | clearTables | clear =>
    rw [e] at h
    cases h

/-! ### The first time a pair was asked for -/

/-- The first of the `moments` since the cache was last cleared at which `key` was asked for. -/
def firstAsked (vs : List Visit) (key : CacheKey) : Option (List Visit) :=
  (moments vs).find? fun m => keyAt m = some key

theorem firstAsked_concat (vs : List Visit) (v : Visit) (key : CacheKey) :
    firstAsked (vs ++ [v]) key
      = if v.operation = .clear then none
        else firstAsked vs key <|>
          if keyAt (vs ++ [v]) = some key then some (vs ++ [v]) else none := by
  unfold firstAsked
  rw [moments_concat]
  by_cases h : v.operation = .clear
  · have hkey : keyAt (vs ++ [v]) = none := by rw [keyAt_concat, keyOf, h]
    simp [h, hkey]
  · by_cases hkey : keyAt (vs ++ [v]) = some key <;> simp [h, hkey, List.find?_append]

/-- The table held when `key` was first asked for since the cache was last cleared, `firstAsked`. -/
def originTable (vs : List Visit) (key : CacheKey) : Option RawTable :=
  (firstAsked vs key).bind fun m => heldTable m key.2

theorem keyAt_of_firstAsked {vs m : List Visit} {key : CacheKey}
    (h : firstAsked vs key = some m) : keyAt m = some key := by
  simpa using List.find?_some h

theorem heldTable_of_firstAsked {vs m : List Visit} {key : CacheKey}
    (h : firstAsked vs key = some m) : ∃ t, heldTable m key.2 = some t := by
  have hkey := keyAt_of_firstAsked h
  obtain rfl | ⟨m, v, rfl⟩ := List.eq_nil_or_concat' m
  · cases hkey
  · exact ⟨_, heldTable_of_keyAt hkey⟩

theorem originTable_concat (vs : List Visit) (v : Visit) (key : CacheKey) :
    originTable (vs ++ [v]) key
      = if v.operation = .clear then none
        else originTable vs key <|>
          if keyAt (vs ++ [v]) = some key
          then some ((empty.run vs).tableFor v key.2) else none := by
  unfold originTable
  rw [firstAsked_concat]
  by_cases hclear : v.operation = .clear
  · rw [if_pos hclear, if_pos hclear]
    rfl
  · rw [if_neg hclear, if_neg hclear]
    rcases hfirst : firstAsked vs key with - | m
    · by_cases hkey : keyAt (vs ++ [v]) = some key
      · simp [hkey, heldTable_of_keyAt hkey]
      · simp [hkey]
    · obtain ⟨t, ht⟩ := heldTable_of_firstAsked hfirst
      simp [ht]

/-- The cached projections after the run `vs` are those of the tables that their pairs were first
asked for from, `originTable`. -/
theorem lookup_run (vs : List Visit) (key : CacheKey) :
    ((empty.run vs).projections.lookup key).map (·.taxonomy)
      = (originTable vs key).map fun t => Taxonomy.project t key.1 key.2 := by
  induction vs using List.reverseRecOn with
  | nil => rfl
  | append_singleton vs v ih =>
    rw [run_append, run_cons, run_nil, visit_lookup, originTable_concat, keyAt_concat]
    by_cases h : v.operation = .clear
    · rw [if_pos h, if_pos h]
      rfl
    · rw [if_neg h, if_neg h]
      -- by the hypothesis a pair has an entry exactly when it has an origin, so a new entry and a
      -- new origin come together, and both from the table that this visit finds or reads
      rcases hlookup : (empty.run vs).projections.lookup key with - | shared <;>
        rcases horigin : originTable vs key with - | t <;> rw [hlookup, horigin] at ih
      · by_cases hkey : (empty.run vs).keyOf v = some key <;> simp [hkey]
      · cases ih
      · cases ih
      · exact ih

/-! ### What stays -/

/-- A held table `t` stays over `ws` until the tables are forgotten. -/
theorem heldTable_append {vs ws : List Visit} {l : Language} {t : RawTable}
    (hkeep : ∀ w ∈ ws, w.operation.dropsTables = false) (h : heldTable vs l = some t) :
    heldTable (vs ++ ws) l = some t := by
  induction ws using List.reverseRecOn with
  | nil => rwa [List.append_nil]
  | append_singleton ws w ih =>
    rw [← List.append_assoc, heldTable_concat, hkeep w (by simp),
      ih fun w hw => hkeep w (List.mem_append_left _ hw)]
    rfl

/-- After the moment `m` at which `key` was first asked for, there is a `rest` in which the cache
was not cleared any more. -/
theorem append_of_firstAsked {vs m : List Visit} {key : CacheKey}
    (h : firstAsked vs key = some m) :
    ∃ rest, vs = m ++ rest ∧ ∀ w ∈ rest, w.operation ≠ .clear := by
  induction vs using List.reverseRecOn with
  | nil => cases h
  | append_singleton vs v ih =>
    rw [firstAsked_concat] at h
    by_cases hclear : v.operation = .clear
    · rw [if_pos hclear] at h
      cases h
    · rw [if_neg hclear] at h
      rcases hfirst : firstAsked vs key with - | m' <;> rw [hfirst] at h
      · by_cases hkey : keyAt (vs ++ [v]) = some key <;> simp [hkey] at h
        exact ⟨[], by simp [h], by simp⟩
      · obtain rfl := Option.some.inj h
        obtain ⟨rest, hrest, hkept⟩ := ih hfirst
        refine ⟨rest ++ [v], by rw [hrest, List.append_assoc], ?_⟩
        simpa [or_imp, forall_and, hclear] using hkept

/-- Where no `clearTables` came after `m`, the table `t` of a projection is the one held now. -/
theorem heldTable_of_originTable {vs m : List Visit} {key : CacheKey} {t : RawTable}
    (hfirst : firstAsked vs key = some m) (ht : originTable vs key = some t)
    (hkeep : ∀ w ∈ vs.drop m.length, w.operation ≠ .clearTables) :
    heldTable vs key.2 = some t := by
  obtain ⟨rest, rfl, hclear⟩ := append_of_firstAsked hfirst
  rw [List.drop_left] at hkeep
  rw [originTable, hfirst, Option.bind_some] at ht
  refine heldTable_append (fun w hw => ?_) ht
  rcases h : w.operation <;> first | rfl | exact absurd h (hkeep w hw) | exact absurd h (hclear w hw)

/-- Where there is no `clearTables`, every projection `k` is one of the table held for its
language. -/
theorem taxonomy_of_kept {vs : List Visit} (hkeep : ∀ v ∈ vs, v.operation ≠ .clearTables)
    {key : CacheKey} {k : Shared} (h : (empty.run vs).projections.lookup key = some k) :
    ∃ t, heldTable vs key.2 = some t ∧ k.taxonomy = Taxonomy.project t key.1 key.2 := by
  have hlookup := lookup_run vs key
  rw [h, Option.map_some] at hlookup
  obtain ⟨t, ht, hproject⟩ := Option.map_eq_some_iff.mp hlookup.symm
  obtain ⟨m, hfirst, -⟩ := Option.bind_eq_some_iff.mp ht
  refine ⟨t, heldTable_of_originTable hfirst ht ?_, hproject.symm⟩
  exact fun v hv => hkeep v (List.mem_of_mem_drop hv)

/-! ### What is served -/

/-- A request for keywords serves a version that the `table` held `now` picks, and what it answers
stands under that version and its language afterwards. -/
theorem get_served (vs : List Visit) (source : TableSource) (version : Option String)
    (language : Option Language) :
    let l := language.getD .fallback
    let now := vs ++ [⟨source, .get version language⟩]
    ∃ table, heldTable now l = some table ∧
      keyAt now = some (servedVersion table (askedVersion version), l) ∧
      (empty.run now).projections.lookup (servedVersion table (askedVersion version), l)
        = some ((empty.run vs).get source version language).answer := by
  intro l now
  have hneed : (⟨source, .get version language⟩ : Visit).operation.language? = some l := rfl
  have hkey : keyAt now = some (_, l) := keyAt_concat vs ⟨source, .get version language⟩
  refine ⟨_, heldTable_of_needed vs hneed, hkey, ?_⟩
  have hanswer := visit_keywords? (empty.run vs) ⟨source, .get version language⟩
  rw [← keyAt_concat, show keyAt (vs ++ [_]) = _ from hkey, Option.bind_some] at hanswer
  rw [run_append]
  exact hanswer.symm

/-- A request for versions is answered by those of the `table` held then. -/
theorem versions_served (vs : List Visit) (source : TableSource) (language : Option Language) :
    let visit : Visit := ⟨source, .versions language⟩
    ∃ table, heldTable (vs ++ [visit]) (language.getD .fallback) = some table ∧
      ((empty.run vs).visit visit).answer.versions? = some table.versions.versions :=
  ⟨_, heldTable_of_needed vs rfl, visit_versions? _ _⟩

/-! ### What has been asked for -/

/-- The pairs that were asked for in `vs` since the cache was last cleared, in order and with
repetitions. -/
def askedKeys (vs : List Visit) : List CacheKey := (moments vs).filterMap keyAt

theorem askedKeys_concat (vs : List Visit) (v : Visit) :
    askedKeys (vs ++ [v])
      = if v.operation = .clear then [] else askedKeys vs ++ (keyAt (vs ++ [v])).toList := by
  unfold askedKeys
  rw [moments_concat]
  by_cases h : v.operation = .clear
  · have hkey : keyAt (vs ++ [v]) = none := by rw [keyAt_concat, keyOf, h]
    simp [h, hkey]
  · rw [if_neg h, if_neg h, List.filterMap_append]
    rcases hkey : keyAt (vs ++ [v]) with - | key <;> simp [hkey]

/-- The pair `key` has a projection exactly when it is among the `askedKeys`. -/
theorem mem_askedKeys_iff {vs : List Visit} {key : CacheKey} :
    key ∈ askedKeys vs ↔ ((empty.run vs).projections.lookup key).isSome := by
  have hfirst : key ∈ askedKeys vs ↔ (firstAsked vs key).isSome := by
    simp [askedKeys, firstAsked, List.find?_isSome]
  have horigin : (firstAsked vs key).isSome = (originTable vs key).isSome := by
    rcases h : firstAsked vs key with - | m
    · simp [originTable, h]
    · obtain ⟨t, ht⟩ := heldTable_of_firstAsked h
      simp [originTable, h, ht]
  have hlookup := congrArg Option.isSome (lookup_run vs key)
  rw [Option.isSome_map, Option.isSome_map] at hlookup
  rw [hfirst, horigin, hlookup]

end Cache

end DeckKeywords
