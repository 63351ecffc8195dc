/-
DeckKeywords/Proofs/Taxonomy/Json.lean

What answers about a taxonomy look like as JSON: for each of them its value,
written out with all members in their order.  The counts are those of what is
listed, so `statistics_toJson` gives them over `moduleNames`, `commandNames` and
`paramNames` and not over the entries that they were made from.

None of these values has a floating-point number, so all of them are read as
themselves once they are printed.
-/
import DeckKeywords.Proofs.Json.ReadBack
import DeckKeywords.Proofs.Taxonomy.Statistics
import DeckKeywords.Taxonomy.Json
import Mathlib.Algebra.Ring.Nat

namespace DeckKeywords

open Json (Value)

/-! ### Parameters and allowed values -/

/-- What is printed for the allowed `values` of a parameter: `null` if anything is allowed, else the
list of its texts. -/
def allowedValue (values : Option (List String)) : Value :=
  values.elim .null fun vs => .array (vs.map .text)

/-- What is printed for parameters: under the name of each, in order, its allowed values. -/
def ParamMap.members (ps : ParamMap) : List (String × Value) :=
  ps.entries.map fun e => (e.1, allowedValue e.2)

@[simp] theorem allowedJson_eq (values : Option (List String)) :
    allowedJson values = allowedValue values := by
  rcases values with - | vs <;> rfl

theorem ParamMap.toJson_eq (ps : ParamMap) : ParamMap.toJson ps = .object (members ps) :=
  congrArg Value.object (List.map_congr_left fun e _ => congrArg (e.1, ·) (allowedJson_eq e.2))

namespace Taxonomy

/-- What is printed for the parameters of a command of `t`; nothing for a command that is not
listed. -/
def members (t : Taxonomy) (m c : String) : List (String × Value) :=
  ((t.params? m c).map ParamMap.members).getD []

variable {t : Taxonomy} {m c p : String}

/-- The keys of what is printed are the parameters `p`, and under each stands what `t` allows for
it. -/
theorem mem_members_iff {v : Value} :
    (p, v) ∈ t.members m c ↔ ∃ values, t.allowed? m c p = some values ∧ allowedValue values = v := by
  unfold members allowed?
  rcases t.params? m c with - | ps
  · simp
  · simp [ParamMap.members, OrderedMap.mem_entries_iff]

theorem length_members : (t.members m c).length = (t.paramNames m c).length := by
  unfold members paramNames
  rcases t.params? m c with - | ps
  · rfl
  · simp [ParamMap.members, OrderedMap.keys]

end Taxonomy

@[simp] theorem integral_allowedValue (values : Option (List String)) :
    (allowedValue values).Integral := by
  rcases values with - | vs <;> simp [allowedValue]

theorem OrderedMap.integral_toJson {α : Type} {write : α → Value}
    (h : ∀ a, (write a).Integral) (m : OrderedMap α) : (m.toJson write).Integral := by
  refine .object fun member hmember => ?_
  obtain ⟨e, -, rfl⟩ := List.mem_map.mp hmember
  exact h e.2

@[simp] theorem ParamMap.integral_toJson (ps : ParamMap) : (ParamMap.toJson ps).Integral :=
  OrderedMap.integral_toJson (by simp) ps

/-! ### Hits and validations -/

/-- What is printed for a hit: its kind, where it stands, and its name.  Only a parameter has the
member `param`. -/
def Hit.members : Hit → List (String × Value)
  | command m c => [("kind", .text "command"), ("module", .text m), ("command", .text c)]
  | param m c p =>
    [("kind", .text "param"), ("module", .text m), ("command", .text c), ("param", .text p)]

theorem Hit.listJson_eq (hits : List Hit) :
    Hit.listJson hits = .array (hits.map fun hit => .object hit.members) :=
  congrArg Value.array (List.map_congr_left fun hit _ => by cases hit <;> rfl)

theorem Hit.integral_listJson (hits : List Hit) : (Hit.listJson hits).Integral := by
  have hhit : ∀ hit : Hit, hit.toJson.Integral := by rintro (- | -) <;> simp [Hit.toJson]
  simpa [listJson] using fun hit _ => hhit hit

theorem Validation.integral_toJson (v : Option Validation) : (Validation.toJson v).Integral := by
  rcases v with - | (- | -) <;> simp [toJson]

/-! ### Counts -/

/-- The statistics of `t` are printed as what is listed in `t`: how many modules, how many commands
and parameters in all of them, and in each of them, under its name. -/
theorem Taxonomy.statistics_toJson (t : Taxonomy) :
    t.statistics.toJson =
      let commands (m : String) := (t.commandNames m).length
      let params (m : String) := ((t.commandNames m).map fun c => (t.paramNames m c).length).sum
      .object [("modules", .nat t.moduleNames.length),
        ("commands", .nat (t.moduleNames.map commands).sum),
        ("params", .nat (t.moduleNames.map params).sum),
        ("per_module", .object (t.moduleNames.map fun m =>
          (m, .object [("commands", .nat (commands m)), ("params", .nat (params m))])))] := by
  obtain ⟨hmodules, hperModule, hcommands, hparams⟩ := counts_statistics t
  rw [Statistics.toJson, OrderedMap.toJson, hmodules, hcommands, hparams, hperModule, List.map_map]
  rfl

theorem Statistics.integral_toJson (s : Statistics) : s.toJson.Integral := by
  have hmodule : ∀ m : ModuleCounts, m.toJson.Integral := by simp [ModuleCounts.toJson]
  have hperModule := OrderedMap.integral_toJson hmodule s.perModule
  simp only [toJson, Value.integral_object_iff, List.forall_mem_cons, Value.integral_nat, hperModule]
  simp

end DeckKeywords
