/-
DeckKeywords/Proofs/Taxonomy/Traversal.lean

Going through the commands of a version.  Search, validation and statistics go
through the entries of the maps, module by module and command by command in each
of them; the listings go by names.  Both ways meet the same commands in the same
order: `commandEntries` are the commands as entries and `allCommands` as names, an
entry stands under its names (`map_fst_commandEntries`) and is what is found there
(`mem_commandEntries_iff`).

Where the first command with some property counts, it is described by what stands
before it, `FirstWith`.
-/
import DeckKeywords.Proofs.Taxonomy.Lookups
import Mathlib.Data.List.Nodup
import Mathlib.Data.Prod.Basic

namespace DeckKeywords

variable {α β γ : Type*}

/-! ### Lists -/

/-- What `f` gives for each item of a list keeps the items apart if the `origin` can be told from
it. -/
theorem nodup_flatMap_of_origin {xs : List α} {f : α → List β} (origin : β → α)
    (hxs : xs.Nodup) (hf : ∀ x ∈ xs, (f x).Nodup) (horigin : ∀ x, ∀ y ∈ f x, origin y = x) :
    (xs.flatMap f).Nodup := by
  rw [List.nodup_flatMap]
  refine ⟨hf, hxs.imp fun {x x'} hne y hy hy' => hne ?_⟩
  rw [← horigin x y hy, horigin x' y hy']

theorem findSome?_congr {xs : List α} {f g : α → Option β} (h : ∀ x ∈ xs, f x = g x) :
    xs.findSome? f = xs.findSome? g := by
  rw [← List.head?_filterMap, List.filterMap_congr h, List.head?_filterMap]

theorem findSome?_flatMap (xs : List α) (f : α → List β) (g : β → Option γ) :
    (xs.flatMap f).findSome? g = xs.findSome? fun x => (f x).findSome? g := by
  induction xs with
  | nil => rfl
  | cons x xs ih =>
    rw [List.flatMap_cons, List.findSome?_append, List.findSome?_cons, ih]
    rcases (f x).findSome? g with - | z <;> rfl

/-- The first `x` of the items `xs` with the property `P`. -/
def FirstWith (P : α → Prop) (xs : List α) (x : α) : Prop :=
  ∃ before behind, xs = before ++ x :: behind ∧ P x ∧ ∀ y ∈ before, ¬P y

/-- What is found first, `z`, comes from the first item `x` that `f` gives something for. -/
theorem findSome?_map_eq_some_iff {xs : List α} {f : α → Option β} {g : α → β → γ} {z : γ} :
    xs.findSome? (fun x => (f x).map (g x)) = some z ↔
      ∃ x y, FirstWith (fun x => (f x).isSome) xs x ∧ f x = some y ∧ g x y = z := by
  rw [List.findSome?_eq_some_iff]
  constructor
  · rintro ⟨before, x, behind, hsplit, hfound, hbefore⟩
    obtain ⟨y, hy, hz⟩ := Option.map_eq_some_iff.mp hfound
    refine ⟨x, y, ⟨before, behind, hsplit, Option.isSome_of_eq_some hy, fun w hw => ?_⟩, hy, hz⟩
    rw [Option.not_isSome_iff_eq_none]
    exact Option.map_eq_none_iff.mp (hbefore w hw)
  · rintro ⟨x, y, ⟨before, behind, hsplit, -, hbefore⟩, hy, hz⟩
    refine ⟨before, x, behind, hsplit, ?_, fun w hw => ?_⟩
    · rw [hy, Option.map_some, hz]
    · rw [Option.map_eq_none_iff]
      exact Option.not_isSome_iff_eq_none.mp (hbefore w hw)

/-! ### Commands -/

namespace Taxonomy

/-- All commands, each with the module that lists it, in the order of modules and commands. -/
def allCommands (t : Taxonomy) : List (String × String) :=
  t.moduleNames.flatMap fun m => (t.commandNames m).map (m, ·)

/-- All commands as they stand in the maps, each with its parameters. -/
def commandEntries (t : Taxonomy) : List ((String × String) × ParamMap) :=
  t.modules.entries.flatMap fun (m, commands) => commands.entries.map fun (c, ps) => ((m, c), ps)

variable {t : Taxonomy} {m c : String}

theorem commandNames_of_mem {commands : CommandMap} (h : (m, commands) ∈ t.modules.entries) :
    t.commandNames m = commands.keys := by
  rw [commandNames, OrderedMap.mem_entries_iff.mp h]
  rfl

theorem params?_of_mem {commands : CommandMap} {ps : ParamMap}
    (h : (m, commands) ∈ t.modules.entries) (hc : (c, ps) ∈ commands.entries) :
    t.params? m c = some ps := by
  rw [params?, OrderedMap.mem_entries_iff.mp h, Option.bind_some, OrderedMap.mem_entries_iff.mp hc]

theorem paramNames_of_params? {ps : ParamMap} (h : t.params? m c = some ps) :
    t.paramNames m c = ps.keys := by
  rw [paramNames, h]
  rfl

theorem mem_moduleNames_of_mem_commandNames (h : c ∈ t.commandNames m) : m ∈ t.moduleNames :=
  mem_moduleNames_of_params? (mem_commandNames_iff.mp h)

theorem mem_commandNames_of_mem_paramNames {p : String} (h : p ∈ t.paramNames m c) :
    c ∈ t.commandNames m := by
  rw [mem_paramNames_iff] at h
  rw [mem_commandNames_iff]
  exact Option.isSome_of_isSome_bind h

theorem mem_allCommands_iff : (m, c) ∈ t.allCommands ↔ c ∈ t.commandNames m := by
  rw [allCommands, List.mem_flatMap]
  constructor
  · rintro ⟨m', -, hc⟩
    obtain ⟨c', hc', heq⟩ := List.mem_map.mp hc
    obtain ⟨rfl, rfl⟩ := Prod.mk.inj heq
    exact hc'
  · intro hc
    exact ⟨m, mem_moduleNames_of_mem_commandNames hc, List.mem_map_of_mem hc⟩

theorem nodup_allCommands (t : Taxonomy) : t.allCommands.Nodup := by
  refine nodup_flatMap_of_origin Prod.fst t.modules.distinct (fun m _ => ?_) fun m e he => ?_
  · exact (nodup_commandNames t m).map (Prod.mk_right_injective m)
  · obtain ⟨c, -, rfl⟩ := List.mem_map.mp he
    rfl

theorem map_fst_commandEntries (t : Taxonomy) : t.commandEntries.map Prod.fst = t.allCommands := by
  rw [commandEntries, List.map_flatMap, allCommands, moduleNames, OrderedMap.keys, List.flatMap_map]
  refine List.flatMap_congr fun e he => ?_
  obtain ⟨m, commands⟩ := e
  rw [commandNames_of_mem he, OrderedMap.keys, List.map_map, List.map_map]
  rfl

/-- Under the names `m` and `c` of a command stands what `params?` finds there. -/
theorem mem_commandEntries_iff {ps : ParamMap} :
    ((m, c), ps) ∈ t.commandEntries ↔ t.params? m c = some ps := by
  rw [commandEntries, List.mem_flatMap]
  constructor
  · rintro ⟨⟨m', commands⟩, hmodule, hcommand⟩
    obtain ⟨⟨c', ps'⟩, hmem, heq⟩ := List.mem_map.mp hcommand
    cases heq
    exact params?_of_mem hmodule hmem
  · intro h
    obtain ⟨commands, hmodule, hcommand⟩ := Option.bind_eq_some_iff.mp h
    refine ⟨(m, commands), OrderedMap.mem_entries_iff.mpr hmodule, ?_⟩
    exact List.mem_map_of_mem (OrderedMap.mem_entries_iff.mpr hcommand)

end Taxonomy

end DeckKeywords
