/-
DeckKeywords/Proofs/Taxonomy/Search.lean

Searching the names of a version.  All that a search can find are the listed
commands, each with its listed parameters behind it, `allHits`.  A search goes
through the entries of the maps and asks of one name after the other whether it
contains the term; so it keeps those of `allHits` that do, in their order,
`search_eq_filter`.  Every name contains the empty term.

No name is found twice at one place, as the places are told apart by their names
and each command lists a parameter once.  The number of names is what the
statistics count, module by module.

Main result: `search_keeps_order`.
-/
import DeckKeywords.Proofs.Taxonomy.Statistics
import DeckKeywords.Proofs.Text.Split
import DeckKeywords.Taxonomy.Search
import Mathlib.Algebra.BigOperators.Group.List.Basic
import Mathlib.Data.List.Infix

namespace DeckKeywords

open Text

/-- The name that was found. -/
def Hit.name : Hit → String
  | command _ c => c
  | param _ _ p => p

/-- The command that the hit belongs to, with its module. -/
def Hit.place : Hit → String × String
  | command m c => (m, c)
  | param m c _ => (m, c)

namespace Taxonomy

/-- A command and behind it its parameters. -/
def hitsAt (t : Taxonomy) (place : String × String) : List Hit :=
  .command place.1 place.2 :: (t.paramNames place.1 place.2).map (.param place.1 place.2)

/-- All names in order: every command, followed by its parameters. -/
def allHits (t : Taxonomy) : List Hit := t.allCommands.flatMap t.hitsAt

variable {t : Taxonomy} {m c p : String}

theorem place_of_mem_hitsAt {place : String × String} {hit : Hit} (h : hit ∈ t.hitsAt place) :
    hit.place = place := by
  rcases List.mem_cons.mp h with rfl | h
  · rfl
  · obtain ⟨p, -, rfl⟩ := List.mem_map.mp h
    rfl

theorem command_mem_allHits_iff : Hit.command m c ∈ t.allHits ↔ c ∈ t.commandNames m := by
  rw [allHits, List.mem_flatMap, ← mem_allCommands_iff]
  constructor
  · rintro ⟨place, hplace, hmem⟩
    obtain rfl : (m, c) = place := place_of_mem_hitsAt hmem
    exact hplace
  · intro h
    exact ⟨(m, c), h, List.mem_cons_self⟩

theorem param_mem_allHits_iff : Hit.param m c p ∈ t.allHits ↔ p ∈ t.paramNames m c := by
  rw [allHits, List.mem_flatMap]
  constructor
  · rintro ⟨place, -, hmem⟩
    obtain rfl : (m, c) = place := place_of_mem_hitsAt hmem
    simpa [hitsAt] using hmem
  · intro h
    refine ⟨(m, c), mem_allCommands_iff.mpr (mem_commandNames_of_mem_paramNames h), ?_⟩
    exact List.mem_cons_of_mem _ (List.mem_map_of_mem h)

theorem nodup_hitsAt (t : Taxonomy) (place : String × String) : (t.hitsAt place).Nodup := by
  rw [hitsAt, List.nodup_cons]
  constructor
  · simp
  · refine (nodup_paramNames t place.1 place.2).map fun p p' h => ?_
    exact (Hit.param.inj h).2.2

theorem nodup_allHits (t : Taxonomy) : t.allHits.Nodup :=
  nodup_flatMap_of_origin Hit.place (nodup_allCommands t) (fun place _ => nodup_hitsAt t place)
    fun _ _ => place_of_mem_hitsAt

/-! ### A search keeps some of the names -/

theorem hitsOf_eq_filter (wanted : String → Bool) (m c : String) (ps : ParamMap) :
    hitsOf wanted m c ps
      = (Hit.command m c :: ps.keys.map (Hit.param m c)).filter fun hit => wanted hit.name := by
  rw [hitsOf, List.filter_cons, List.filter_map]
  show (if wanted c then _ else _) ++ _ = if wanted c then _ else _
  by_cases h : wanted c
  · rw [if_pos h, if_pos h]
    rfl
  · rw [if_neg h, if_neg h]
    rfl

/-- A search finds the names that contain the `term`, in the order of `allHits`. -/
theorem search_eq_filter (t : Taxonomy) (term : String) :
    t.search term = t.allHits.filter fun hit => isPartOf (lower term) (lower hit.name) := by
  let wanted (name : String) : Bool := isPartOf (lower term) (lower name)
  calc t.search term
      = t.commandEntries.flatMap fun e => hitsOf wanted e.1.1 e.1.2 e.2 := by
        rw [commandEntries, List.flatMap_assoc]
        simp only [List.flatMap_map]
        rfl
    _ = t.commandEntries.flatMap fun e => (t.hitsAt e.1).filter fun hit => wanted hit.name := by
        refine List.flatMap_congr fun e he => ?_
        obtain ⟨⟨m, c⟩, ps⟩ := e
        rw [hitsOf_eq_filter, hitsAt, paramNames_of_params? (mem_commandEntries_iff.mp he)]
    _ = t.allHits.filter fun hit => wanted hit.name := by
        rw [allHits, List.filter_flatMap, ← map_fst_commandEntries, List.flatMap_map]

theorem mem_search_iff {hit : Hit} {term : String} :
    hit ∈ t.search term ↔
      hit ∈ t.allHits ∧ (lower term).toList <:+: (lower hit.name).toList := by
  rw [search_eq_filter, List.mem_filter, isPartOf_iff]

theorem search_empty (t : Taxonomy) : t.search "" = t.allHits := by
  rw [search_eq_filter, List.filter_eq_self]
  intro hit _
  rw [isPartOf_iff]
  exact List.nil_infix

/-! ### How many names there are -/

theorem length_hitsOfModule (t : Taxonomy) (m : String) :
    (((t.commandNames m).map (m, ·)).flatMap t.hitsAt).length
      = (t.listedCounts m).commands + (t.listedCounts m).params := by
  have hone : ∀ c, (t.hitsAt (m, c)).length = 1 + (t.paramNames m c).length := fun c => by
    rw [hitsAt, List.length_cons, List.length_map, Nat.add_comm]
  rw [List.flatMap_map, List.length_flatMap]
  simp only [hone]
  rw [List.sum_map_add, List.map_const', List.sum_replicate_nat, Nat.mul_one]
  rfl

/-- The names are as many as the commands and parameters that the `statistics` count. -/
theorem length_allHits (t : Taxonomy) :
    t.allHits.length = t.statistics.commands + t.statistics.params := by
  obtain ⟨-, -, hcommands, hparams⟩ := counts_statistics t
  rw [allHits, allCommands, List.flatMap_assoc, List.length_flatMap]
  simp only [length_hitsOfModule]
  rw [List.sum_map_add, hcommands, hparams]
  rfl

/-- **Searching keeps the order of the listings.**  `t.search ""` finds every command in the order
of modules and commands, each directly followed by its parameters in order, and nothing twice; these
are as many names as `t.statistics` counts commands and parameters.  `t.search term` finds those of
them, in the same order, whose name contains the `term`, both in lower case.  By `Counts` the
statistics have the modules by name in their order, with the numbers of listed commands and of
parameters listed for these commands, and the totals over all modules. -/
theorem search_keeps_order (t : Taxonomy) :
    t.search "" = (t.moduleNames.flatMap fun m => (t.commandNames m).flatMap fun c =>
      .command m c :: (t.paramNames m c).map (.param m c)) ∧
    (t.search "").Nodup ∧
    (t.search "").length = t.statistics.commands + t.statistics.params ∧
    (∀ term, t.search term
      = (t.search "").filter fun hit => (lower term).toList <:+: (lower hit.name).toList) ∧
    Counts t.statistics t := by
  rw [search_empty]
  refine ⟨?_, nodup_allHits t, length_allHits t, fun term => ?_, counts_statistics t⟩
  · rw [allHits, allCommands, List.flatMap_assoc]
    simp only [List.flatMap_map]
    rfl
  · rw [search_eq_filter]
    refine List.filter_congr fun hit _ => Bool.eq_iff_iff.mpr ?_
    rw [isPartOf_iff, decide_eq_true_iff]

end Taxonomy

end DeckKeywords
