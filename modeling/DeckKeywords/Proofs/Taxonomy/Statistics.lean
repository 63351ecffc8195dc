/-
DeckKeywords/Proofs/Taxonomy/Statistics.lean

What the statistics count.  They are made from the entries of the maps, and the
listings from look-ups by name; as each entry is what is found under its key,
both tell of the same commands and parameters.
-/
import DeckKeywords.Proofs.Taxonomy.Traversal
import DeckKeywords.Taxonomy.Statistics

namespace DeckKeywords.Taxonomy

/-- How many commands and parameters of a module `m` are listed. -/
def listedCounts (t : Taxonomy) (m : String) : ModuleCounts where
  commands := (t.commandNames m).length
  params := total ((t.commandNames m).map fun c => (t.paramNames m c).length)

/-- The statistics `s` count what `t` lists: the modules, for each of them in order its commands and
their parameters, and those of all the modules together. -/
structure Counts (s : Statistics) (t : Taxonomy) : Prop where
  modules : s.modules = t.moduleNames.length
  perModule : s.perModule.entries = t.moduleNames.map fun m => (m, t.listedCounts m)
  commands : s.commands = total (t.moduleNames.map fun m => (t.listedCounts m).commands)
  params : s.params = total (t.moduleNames.map fun m => (t.listedCounts m).params)

variable {t : Taxonomy} {m : String} {commands : CommandMap}

theorem countsOf_eq (h : (m, commands) ∈ t.modules.entries) :
    countsOf commands = t.listedCounts m := by
  have hsizes : commands.values.map (·.size)
      = commands.keys.map fun c => (t.paramNames m c).length := by
    rw [OrderedMap.values, OrderedMap.keys, List.map_map, List.map_map]
    refine List.map_congr_left fun e he => ?_
    show e.2.size = (t.paramNames m e.1).length
    rw [paramNames_of_params? (params?_of_mem h he), OrderedMap.keys, List.length_map]
    rfl
  rw [countsOf, listedCounts, commandNames_of_mem h, hsizes, OrderedMap.keys, List.length_map]
  rfl

theorem counts_statistics (t : Taxonomy) : Counts t.statistics t := by
  have hentries : (t.modules.map countsOf).entries
      = t.moduleNames.map fun m => (m, t.listedCounts m) := by
    rw [moduleNames, OrderedMap.keys, List.map_map]
    exact List.map_congr_left fun e he => congrArg (e.1, ·) (countsOf_eq he)
  have hvalues : (t.modules.map countsOf).values = t.moduleNames.map t.listedCounts := by
    rw [OrderedMap.values, hentries, List.map_map]
    rfl
  constructor
  · rw [moduleNames, OrderedMap.keys, List.length_map]
    rfl
  · exact hentries
  · show total ((t.modules.map countsOf).values.map _) = _
    rw [hvalues, List.map_map]
    rfl
  · show total ((t.modules.map countsOf).values.map _) = _
    rw [hvalues, List.map_map]
    rfl

end DeckKeywords.Taxonomy
