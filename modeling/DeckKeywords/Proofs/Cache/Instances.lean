/-
DeckKeywords/Proofs/Cache/Instances.lean

Which answers are the same projection, and not just equal ones.  A projection
bears the number that it was made under, so two answers are the same one exactly
when their numbers agree.

What carries this is that numbers are never given twice.  In a cache whose keys
and numbers are distinct (`Numbered`) a number stands for one key, an entry
stays as it is until the cache is cleared, and what is made after that bears a
number that was not given before (`NotBefore`).

Main results: `serial_eq_iff` and `projectionCount_run`.
-/
import DeckKeywords.Proofs.Cache.History
import DeckKeywords.Proofs.Segments

namespace DeckKeywords

namespace Cache

/-- What every visit of the run `vs` preserves, `P`, holds after the run. -/
theorem run_preserves {P : Cache → Prop} {vs : List Visit}
    (hstep : ∀ c, ∀ v ∈ vs, P c → P (c.visit v).state) {c : Cache} (h : P c) : P (c.run vs) := by
  induction vs generalizing c with
  | nil => exact h
  | cons v vs ih =>
    refine ih (fun c w hw => hstep c w (List.mem_cons_of_mem _ hw)) ?_
    exact hstep c v List.mem_cons_self h

/-! ### Numbers are given once -/

/-- The keys in the cache `c` are distinct, the numbers are distinct, and all of them have been
given, below `c.made`. -/
structure Numbered (c : Cache) : Prop where
  keys : (c.projections.map Prod.fst).Nodup
  serials : (c.projections.map fun e => e.2.serial).Nodup
  given : ∀ e ∈ c.projections, e.2.serial < c.made

/-- From `n` on: every projection in the cache `c`, and every later one, bears `n` or a later
number. -/
structure NotBefore (n : Nat) (c : Cache) : Prop where
  next : n ≤ c.made
  cached : ∀ e ∈ c.projections, n ≤ e.2.serial

theorem numbered_empty : Numbered empty := ⟨List.nodup_nil, List.nodup_nil, by simp [empty]⟩

theorem Numbered.visit {c : Cache} (h : c.Numbered) (v : Visit) : (c.visit v).state.Numbered := by
  rcases visit_projections c v with
    ⟨-, hp, hm⟩ | ⟨-, hp, hm⟩ | ⟨-, key, t, hmissing, hp, hm⟩
  · exact ⟨by simp [hp], by simp [hp], by simp [hp]⟩
  · exact ⟨by rw [hp]; exact h.keys, by rw [hp]; exact h.serials, by rw [hp, hm]; exact h.given⟩
  · refine ⟨?_, ?_, ?_⟩
    · rw [hp, List.map_cons, List.nodup_cons]
      refine ⟨?_, h.keys⟩
      intro hmem
      obtain ⟨e, he, hkey⟩ := List.mem_map.mp hmem
      have hne := List.lookup_eq_none_iff.mp hmissing e he
      simp [hkey] at hne
    · rw [hp, List.map_cons, List.nodup_cons]
      refine ⟨?_, h.serials⟩
      intro hmem
      obtain ⟨e, he, hserial⟩ := List.mem_map.mp hmem
      exact absurd hserial (Nat.ne_of_lt (h.given e he))
    · rw [hp, hm]
      intro e he
      rcases List.mem_cons.mp he with rfl | he
      · exact Nat.lt_succ_self _
      · exact Nat.lt_succ_of_lt (h.given e he)

theorem Numbered.run {c : Cache} (h : c.Numbered) (vs : List Visit) : (c.run vs).Numbered :=
  run_preserves (fun _ v _ hc => hc.visit v) h

theorem NotBefore.visit {n : Nat} {c : Cache} (h : c.NotBefore n) (v : Visit) :
    (c.visit v).state.NotBefore n := by
  rcases visit_projections c v with ⟨-, hp, hm⟩ | ⟨-, hp, hm⟩ | ⟨-, key, t, -, hp, hm⟩
  · exact ⟨hm ▸ h.next, by simp [hp]⟩
  · exact ⟨hm ▸ h.next, hp ▸ h.cached⟩
  · refine ⟨hm ▸ Nat.le_succ_of_le h.next, ?_⟩
    rw [hp]
    intro e he
    rcases List.mem_cons.mp he with rfl | he
    · exact h.next
    · exact h.cached e he

theorem NotBefore.run {n : Nat} {c : Cache} (h : c.NotBefore n) (vs : List Visit) :
    (c.run vs).NotBefore n :=
  run_preserves (fun _ v _ hc => hc.visit v) h

/-! ### Entries stay -/

theorem mem_of_lookup {c : Cache} {key : CacheKey} {k : Shared}
    (h : c.projections.lookup key = some k) : (key, k) ∈ c.projections := by
  obtain ⟨before, after, hsplit, -⟩ := List.lookup_eq_some_iff.mp h
  rw [hsplit]
  exact List.mem_append_right _ List.mem_cons_self

theorem Numbered.lookup_of_mem {c : Cache} (h : c.Numbered) {key : CacheKey} {k : Shared}
    (hmem : (key, k) ∈ c.projections) : c.projections.lookup key = some k := by
  rcases hlookup : c.projections.lookup key with - | k'
  · have hne := List.lookup_eq_none_iff.mp hlookup _ hmem
    simp at hne
  · have hsame := List.inj_on_of_nodup_map h.keys (mem_of_lookup hlookup) hmem rfl
    rw [(Prod.mk.inj hsame).2]

/-- In a `Numbered` cache a `serial` stands for one key. -/
theorem Numbered.key_of_serial {c : Cache} (h : c.Numbered) {key₁ key₂ : CacheKey} {k₁ k₂ : Shared}
    (h₁ : c.projections.lookup key₁ = some k₁) (h₂ : c.projections.lookup key₂ = some k₂)
    (hserial : k₁.serial = k₂.serial) : key₁ = key₂ :=
  congrArg Prod.fst
    (List.inj_on_of_nodup_map h.serials (mem_of_lookup h₁) (mem_of_lookup h₂) hserial)

theorem lookup_run_of_kept {c : Cache} {key : CacheKey} {k : Shared} {vs : List Visit}
    (hkeep : ∀ v ∈ vs, v.operation ≠ .clear) (h : c.projections.lookup key = some k) :
    (c.run vs).projections.lookup key = some k := by
  refine run_preserves (P := fun c => c.projections.lookup key = some k) ?_ h
  intro c v hv hlookup
  rw [visit_lookup, if_neg (hkeep v hv), hlookup]
  rfl

theorem made_le_run (c : Cache) (vs : List Visit) : c.made ≤ (c.run vs).made := by
  refine run_preserves (P := fun d => c.made ≤ d.made) ?_ (le_refl _)
  intro d v _ hle
  rcases visit_projections d v with ⟨-, -, hm⟩ | ⟨-, -, hm⟩ | ⟨-, _, _, -, -, hm⟩ <;> omega

/-- What is cached after a run with a `clear` in it bears a number that was not given before,
`c.made` or a later one. -/
theorem notBefore_run {c : Cache} {vs : List Visit} {v : Visit} (hv : v ∈ vs)
    (hclear : v.operation = .clear) : (c.run vs).NotBefore c.made := by
  obtain ⟨before, after, rfl⟩ := List.append_of_mem hv
  have hstate : ((c.run before).visit v).state = (c.run before).clear := by rw [visit, hclear]
  have hlater : (c.run before).clear.NotBefore c.made :=
    ⟨made_le_run c before, (by simp [clear])⟩
  rw [run_append, run_cons, hstate]
  exact hlater.run after

/-! ### The same projection -/

section Answers

variable {c : Cache} {between : List Visit} {v w : Visit} {k₁ k₂ : Shared}

theorem keyOf_of_keywords? (h : (c.visit v).answer.keywords? = some k₁) :
    ∃ key, c.keyOf v = some key ∧ (c.visit v).state.projections.lookup key = some k₁ := by
  rw [visit_keywords?] at h
  exact Option.bind_eq_some_iff.mp h

theorem ne_clear_of_keywords? (h : (c.visit v).answer.keywords? = some k₁) :
    v.operation ≠ .clear := by
  intro hclear
  rw [visit, hclear] at h
  cases h

/-- The entry `k₁` that the answer to `v` brought is there when `w` is answered, unless the cache
was cleared `between` them. -/
theorem lookup_of_kept (hkeep : ∀ u ∈ between, u.operation ≠ .clear) {key : CacheKey}
    (h₁ : (c.visit v).state.projections.lookup key = some k₁)
    (h₂ : (((c.visit v).state.run between).visit w).answer.keywords? = some k₂) :
    (((c.visit v).state.run between).visit w).state.projections.lookup key = some k₁ := by
  have hkeep' : ∀ u ∈ between ++ [w], u.operation ≠ .clear := by
    simpa [or_imp, forall_and, ne_clear_of_keywords? h₂] using hkeep
  have hlookup := lookup_run_of_kept hkeep' h₁
  rwa [run_append] at hlookup

/-- Visits `v` and `w` with one `keyOf` get one projection, unless the cache was cleared `between`
them. -/
theorem shared_of_kept (hkeep : ∀ u ∈ between, u.operation ≠ .clear)
    (hkey : c.keyOf v = ((c.visit v).state.run between).keyOf w)
    (h₁ : (c.visit v).answer.keywords? = some k₁)
    (h₂ : (((c.visit v).state.run between).visit w).answer.keywords? = some k₂) : k₁ = k₂ := by
  obtain ⟨key, hkey₁, hlookup₁⟩ := keyOf_of_keywords? h₁
  obtain ⟨key₂, hkey₂, hlookup₂⟩ := keyOf_of_keywords? h₂
  obtain rfl : key = key₂ := by
    rw [hkey₁, hkey₂] at hkey
    exact Option.some.inj hkey
  rw [lookup_of_kept hkeep hlookup₁ h₂] at hlookup₂
  exact Option.some.inj hlookup₂

/-- **Two answers are the same projection**, of one `serial`, exactly when the cache was not cleared
`between` them and both were asked for under one `keyOf`. -/
theorem serial_eq_iff (hc : c.Numbered) (h₁ : (c.visit v).answer.keywords? = some k₁)
    (h₂ : (((c.visit v).state.run between).visit w).answer.keywords? = some k₂) :
    k₁.serial = k₂.serial ↔
      (∀ u ∈ between, u.operation ≠ .clear) ∧
        c.keyOf v = ((c.visit v).state.run between).keyOf w := by
  obtain ⟨key₁, hkey₁, hlookup₁⟩ := keyOf_of_keywords? h₁
  obtain ⟨key₂, hkey₂, hlookup₂⟩ := keyOf_of_keywords? h₂
  constructor
  · intro hserial
    by_cases hkeep : ∀ u ∈ between, u.operation ≠ .clear
    · have hthen := lookup_of_kept hkeep hlookup₁ h₂
      have hnumbered := ((hc.visit v).run between).visit w
      rw [hkey₁, hkey₂, hnumbered.key_of_serial hthen hlookup₂ hserial]
      exact ⟨hkeep, rfl⟩
    · -- the first number was given before the cache was cleared, the second one after that
      push Not at hkeep
      obtain ⟨u, hu, hclear⟩ := hkeep
      have hbefore := (hc.visit v).given _ (mem_of_lookup hlookup₁)
      have hafter := ((notBefore_run hu hclear).visit w).cached _ (mem_of_lookup hlookup₂)
      exact absurd hserial (Nat.ne_of_lt (hbefore.trans_le hafter))
  · rintro ⟨hkeep, hkey⟩
    rw [shared_of_kept hkeep hkey h₁ h₂]

end Answers

/-! ### Counting projections -/

/-- The `projectionCount` after `vs` is the number of pairs asked for since the cache was last
cleared. -/
theorem projectionCount_run (vs : List Visit) :
    (empty.run vs).projectionCount = (askedKeys vs).dedup.length := by
  have hkeys := (numbered_empty.run vs).keys
  rw [projectionCount, ← List.length_map Prod.fst]
  refine length_eq_length_dedup hkeys fun key => ?_
  rw [mem_askedKeys_iff, List.lookup_isSome_iff]
  simp

end Cache

end DeckKeywords
