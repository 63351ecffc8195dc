/-
DeckKeywords/Proofs/Taxonomy/Projection.lean

What a version keeps of a table.  A projection goes through the modules and, in
each of them, through the commands; it leaves out the commands whose tags do not
cover the version, and takes the tags off the others.  Modules stay even if all
of their commands are left out.

The maps of a projection are described by the maps of the table, level by level.
Their keys are those of the table that stay, `keys_filterMap`, and what stands
under a key is found under it in the table.  As these keys are distinct, it makes
no difference whether entries are passed on as they are or written into a new map
one after the other, `modules_project`.

Only the tags of a table tell two versions apart, so versions that are covered by
the same tags keep the same.

Main result: `projection_keeps_available`.
-/
import DeckKeywords.Proofs.Taxonomy.Lookups

namespace DeckKeywords

/-! ### The table as published -/

namespace RawTable

/-- The commands of a `module`, those of all versions, in table order; none if there is no such
module. -/
def commandNames (table : RawTable) (module : String) : List String :=
  ((table.modules.get? module).map (·.keys)).getD []

/-- Whether the `table` has the `command`, and has it in the `version`. -/
def offers (table : RawTable) (version module command : String) : Bool :=
  (table.command? module command).any fun c => isAvailable c.availability version table.versions

/-- The tags of all commands. -/
def tags (table : RawTable) : List Availability :=
  table.modules.values.flatMap fun commands => commands.values.filterMap (·.availability)

/-- What a `version` keeps, with both levels of maps written entry by entry. -/
def collected (table : RawTable) (version : String) : OrderedMap CommandMap :=
  .ofList <| table.modules.entries.map fun (module, commands) =>
    (module, .ofList <|
      (commands.entries.filter fun e => isAvailable e.2.availability version table.versions).map
        fun (name, c) => (name, c.params.getD .empty))

variable {table : RawTable} {version : String}

/-- The tag `a` of a command `c` is one of the tags of its `table`. -/
theorem mem_tags {module name : String} {commands : OrderedMap Command} {c : Command}
    {a : Availability} (hcommands : (module, commands) ∈ table.modules.entries)
    (hc : (name, c) ∈ commands.entries) (ha : c.availability = some a) : a ∈ table.tags := by
  have hvalues : commands ∈ table.modules.values := List.mem_map_of_mem hcommands
  have hvalue : c ∈ commands.values := List.mem_map_of_mem hc
  exact List.mem_flatMap.mpr ⟨commands, hvalues, List.mem_filterMap.mpr ⟨c, hvalue, ha⟩⟩

end RawTable

theorem isAvailable_iff {tag : Option Availability} {version : String} {versions : VersionTable} :
    isAvailable tag version versions ↔
      tag = none ∨ ∃ a, tag = some a ∧ a.covers version versions := by
  rcases tag with - | a <;> simp [isAvailable]

namespace Taxonomy

variable (table : RawTable) (version : String) (language : Language)

/-! ### Commands that stay -/

theorem entries_availableCommands (versions : VersionTable) (commands : OrderedMap Command) :
    (availableCommands versions version commands).entries
      = (commands.entries.filter fun e => isAvailable e.2.availability version versions).map
          fun e => (e.1, e.2.params.getD .empty) := by
  show commands.entries.filterMap (fun e => (if isAvailable e.2.availability version versions
    then some (e.2.params.getD .empty) else none).map (e.1, ·)) = _
  rw [← List.filterMap_eq_map, List.filterMap_filter]
  refine List.filterMap_congr fun e _ => ?_
  by_cases h : isAvailable e.2.availability version versions <;> simp [h]

/-- The commands of a module `m` that stay are in the order of the `table`. -/
theorem commandNames_project (m : String) :
    (project table version language).commandNames m
      = (table.commandNames m).filter (table.offers version m ·) := by
  rw [commandNames, RawTable.commandNames, project, OrderedMap.get?_map]
  rcases hmodule : table.modules.get? m with - | commands
  · rfl
  · show (availableCommands table.versions version commands).keys = commands.keys.filter _
    rw [availableCommands, OrderedMap.keys_filterMap]
    refine List.filter_congr fun c _ => ?_
    have hcommand : table.command? m c = commands.get? c := by
      rw [RawTable.command?, hmodule, Option.bind_some]
    rw [RawTable.offers, hcommand]
    rcases commands.get? c with - | command
    · rfl
    · by_cases h : isAvailable command.availability version table.versions <;> simp [h]

/-- Of the commands of a `table` those stay that have no tag or one that covers the `version`. -/
theorem mem_commandNames_project_iff {m c : String} {command : Command}
    (h : table.command? m c = some command) :
    c ∈ (project table version language).commandNames m ↔ command.availability = none ∨
      ∃ a, command.availability = some a ∧ a.covers version table.versions := by
  rw [mem_commandNames_iff, params?_project, h, Option.bind_some, ← isAvailable_iff]
  by_cases havailable : isAvailable command.availability version table.versions <;>
    simp [havailable]

/-- A `command` that stays has the parameters that it declares. -/
theorem params?_of_mem_commandNames {m c : String} {command : Command}
    (h : table.command? m c = some command)
    (hc : c ∈ (project table version language).commandNames m) :
    (project table version language).params? m c = some (command.params.getD .empty) := by
  obtain ⟨kept, hkept, hparams⟩ := exists_command hc
  obtain rfl := Option.some.inj (h.symm.trans hkept)
  exact hparams

/-! ### The maps as a whole -/

/-- Nothing of what the `version` keeps is lost, repeated or moved where it is written into new
maps. -/
theorem modules_project :
    (project table version language).modules = table.collected version := by
  have hcommands : ∀ commands : OrderedMap Command,
      OrderedMap.ofList ((commands.entries.filter fun e =>
        isAvailable e.2.availability version table.versions).map
          fun e => (e.1, e.2.params.getD .empty))
        = availableCommands table.versions version commands := by
    intro commands
    rw [← entries_availableCommands]
    exact OrderedMap.ext_entries (OrderedMap.entries_ofList (OrderedMap.distinct _))
  have hmodules : table.collected version
      = .ofList (project table version language).modules.entries := by
    simp only [RawTable.collected, hcommands]
    rfl
  rw [hmodules]
  exact (OrderedMap.ext_entries (OrderedMap.entries_ofList (OrderedMap.distinct _))).symm

variable {table version} in
/-- Versions `version` and `other` that are covered by the same tags keep the same commands. -/
theorem modules_project_congr {other : String}
    (h : ∀ a ∈ table.tags, a.covers other table.versions ↔ a.covers version table.versions)
    (language' : Language) :
    (project table other language').modules = (project table version language).modules := by
  have hsame : ∀ e ∈ table.modules.entries, availableCommands table.versions other e.2
      = availableCommands table.versions version e.2 := by
    intro e he
    refine OrderedMap.ext_entries ?_
    rw [entries_availableCommands, entries_availableCommands]
    refine congrArg _ (List.filter_congr fun c hc => ?_)
    -- a command without a tag stays in both versions
    rcases ha : c.2.availability with - | a
    · rfl
    · exact Bool.eq_iff_iff.mpr (h a (RawTable.mem_tags he hc ha))
  refine OrderedMap.ext_entries (List.map_congr_left fun e he => ?_)
  rw [hsame e he]

/-- **A version keeps what exists in it.**  Seen from any `version`, listed or not, a `table` has
the modules that it has, in their order, with or without commands left in them.  In a module `m` it
has the commands that it `offers`, those without a tag or with a tag that covers the version, in
their order, and no others.  Each of them has the parameters that it declares, with their values and
in their order, or none if it declares none.  The maps are `table.collected version`, what one gets
by writing what stays entry by entry.  Two versions that the same of `table.tags` cover keep the
same modules. -/
theorem projection_keeps_available (table : RawTable) (version : String) (language : Language) :
    let t := project table version language
    t.moduleNames = table.modules.keys ∧
    (∀ m, t.commandNames m = (table.commandNames m).filter (table.offers version m ·)) ∧
    (∀ m c command, table.command? m c = some command →
      (c ∈ t.commandNames m ↔ command.availability = none ∨
        ∃ a, command.availability = some a ∧ a.covers version table.versions) ∧
      (c ∈ t.commandNames m → t.params? m c = some (command.params.getD .empty))) ∧
    t.modules = table.collected version ∧
    ∀ other language', (∀ a ∈ table.tags, a.covers other table.versions ↔
      a.covers version table.versions) → (project table other language').modules = t.modules := by
  intro t
  refine ⟨OrderedMap.keys_map _ _, commandNames_project table version language, ?_,
    modules_project table version language, ?_⟩
  · intro m c command h
    exact ⟨mem_commandNames_project_iff table version language h,
      params?_of_mem_commandNames table version language h⟩
  · intro other language' h
    exact modules_project_congr language h language'

/-- A module stays without its only command, and unlisted versions keep the same, whatever they are
called. -/
theorem emptied_module_kept :
    let beam : Command := ⟨some (.since "2022"), some (.ofList [("NO", none), ("TYPE", some ["A"])])⟩
    let aqua := [("BEAM", beam), ("NORM", ⟨none, none⟩), ("CONC", ⟨some (.only ["2020"]), none⟩)]
    let talpa := [("SLAB", (⟨some (.since "2022"), none⟩ : Command))]
    let table : RawTable :=
      ⟨⟨["2020", "2022"], "2022"⟩, .ofList [("TALPA", .ofList talpa), ("AQUA", .ofList aqua)]⟩
    let t := project table "2020" .en
    t.moduleNames = ["TALPA", "AQUA"] ∧ t.commandNames "TALPA" = [] ∧
      t.commandNames "AQUA" = ["NORM", "CONC"] ∧ t.params? "AQUA" "NORM" = some .empty ∧
      (project table "1999" .de).modules = (project table "2030" .en).modules := by
  intro beam aqua talpa table t
  obtain ⟨hmodules, hcommands, hkept, -, -⟩ := projection_keeps_available table "2020" .en
  obtain ⟨-, -, -, -, hsame⟩ := projection_keeps_available table "2030" .en
  have hnorm : table.command? "AQUA" "NORM" = some ⟨none, none⟩ := by decide
  have haqua : t.commandNames "AQUA" = ["NORM", "CONC"] := by
    rw [hcommands]
    decide
  refine ⟨?_, ?_, haqua, ?_, hsame "1999" .de (by decide)⟩
  · rw [hmodules]
    decide
  · rw [hcommands]
    decide
  · exact (hkept "AQUA" "NORM" _ hnorm).2 (haqua ▸ List.mem_cons_self)

end Taxonomy

end DeckKeywords
