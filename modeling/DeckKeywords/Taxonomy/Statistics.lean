/-
DeckKeywords/Taxonomy/Statistics.lean

Counting modules, commands and parameters.
-/
import DeckKeywords.Taxonomy

namespace DeckKeywords

/-- The counts of one module. -/
structure ModuleCounts where
  commands : Nat
  params : Nat
  deriving DecidableEq, Repr

/-- The counts of a taxonomy, in total and by module. -/
structure Statistics where
  modules : Nat
  commands : Nat
  params : Nat
  perModule : OrderedMap ModuleCounts
  deriving DecidableEq

/-- The sum of the numbers `ns`. -/
def total (ns : List Nat) : Nat := ns.foldr (· + ·) 0

namespace Taxonomy

/-- The counts of the `commands` of one module. -/
def countsOf (commands : CommandMap) : ModuleCounts :=
  ⟨commands.size, total (commands.values.map (·.size))⟩

/-- The counts of a taxonomy `t`. -/
def statistics (t : Taxonomy) : Statistics :=
  let counts := t.modules.map countsOf
  ⟨t.modules.size, total (counts.values.map (·.commands)), total (counts.values.map (·.params)),
    counts⟩

end Taxonomy

end DeckKeywords
