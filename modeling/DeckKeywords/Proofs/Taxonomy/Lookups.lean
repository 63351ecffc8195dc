/-
DeckKeywords/Proofs/Taxonomy/Lookups.lean

Listings and look-ups of the keywords of a version.  A listing reads the keys of
a map, and a look-up finds the value under a key; the two agree on each of the
three levels, modules, commands and parameters.

What is found under a parameter is what the text of the table declares for it.
A command may declare parameters in three ways, by their names alone, with
`null`, or with a list of values, and in the first two any value is allowed.
Which way was taken is read off the last value that the text has for the
command, `commandValue?`, and `Declares` has one case for each way.

Main result: `listings_agree_with_lookups`.
-/
import DeckKeywords.Proofs.OrderedMap.Indexed
import DeckKeywords.Proofs.Table.Meaning
import DeckKeywords.Taxonomy

namespace DeckKeywords

open Json (Tree Value toOption_eq_some_iff)

/-! ### What a command declares -/

namespace Command

/-- What the value of a command declares for a parameter.  One of the names in a list allows
anything; among the members of an object the last one with the name counts, where `null` allows
anything and a list just what is in it. -/
inductive Declares : Value → String → Option (List String) → Prop where
  | name {items : List Value} {p : String} (hp : .text p ∈ items) :
    Declares (.array items) p none
  | free {fields ps : List (String × Value)} {p : String} (hps : ("params", .object ps) ∈ fields)
    (hp : lastValue? ps p = some .null) : Declares (.object fields) p none
  | listed {fields ps : List (String × Value)} {p : String} {values : List String}
    (hps : ("params", .object ps) ∈ fields) (hp : lastValue? ps p = some (.texts values)) :
    Declares (.object fields) p (some values)

theorem allowedValues?_eq_none_iff {v : Value} : allowedValues? v = some none ↔ v = .null := by
  cases v <;> simp [allowedValues?]

theorem allowedValues?_eq_some_iff {v : Value} {values : List String} :
    allowedValues? v = some (some values) ↔ v = .texts values := by
  cases v with
  | null => simp [allowedValues?, Value.texts]
  | array | bool | number | text | object => simp [allowedValues?, Json.texts?_eq_some_iff]

/-- Under a parameter `p`, a command `c` has what its value `v` declares for it. -/
theorem get?_params_iff {v : Value} {c : Command} (hc : ofValue? v = some c) {p : String}
    {values : Option (List String)} :
    (c.params.getD .empty).get? p = some values ↔ Declares v p values := by
  cases v with
  | array items =>
    obtain ⟨names, rfl, hparams⟩ := params_of_array hc
    rw [hparams, Option.getD_some, OrderedMap.get?_ofList_same]
    constructor
    · intro h
      obtain ⟨hp, hvalues⟩ : p ∈ names ∧ values = none := by simpa [eq_comm] using h
      exact hvalues ▸ .name (List.mem_map_of_mem hp)
    · rintro ⟨hp⟩
      simpa using hp
  | object fields =>
    -- the parameters of the command gather the members of the object that declares them
    constructor
    · intro h
      rcases hparams : c.params with - | ps
      · rw [hparams] at h
        cases h
      · obtain ⟨ms, hms, hgathers⟩ := object_of_params hc hparams
        rw [hparams, Option.getD_some, hgathers.get?_eq, Option.bind_eq_some_iff] at h
        obtain ⟨w, hw, hallowed⟩ := h
        rcases values with - | values
        · rw [allowedValues?_eq_none_iff.mp hallowed] at hw
          exact .free hms hw
        · rw [allowedValues?_eq_some_iff.mp hallowed] at hw
          exact .listed hms hw
    · intro h
      cases h with
      | free hms hp =>
        obtain ⟨ps, hparams, hgathers⟩ := params_of_object hc hms
        rw [hparams, Option.getD_some, hgathers.get?_eq, hp]
        rfl
      | listed hms hp =>
        obtain ⟨ps, hparams, hgathers⟩ := params_of_object hc hms
        rw [hparams, Option.getD_some, hgathers.get?_eq, hp, Option.bind_some,
          allowedValues?_eq_some_iff]
  | null | bool | number | text => cases hc

end Command

/-! ### The commands of a table -/

namespace RawTable

/-- A command of a table. -/
def command? (table : RawTable) (module command : String) : Option Command :=
  (table.modules.get? module).bind (·.get? command)

/-- The value that the `text` of a table has for a command: the last one under its name, in the last
`module` with that name. -/
def commandValue? (text module command : String) : Option Value := do
  let members ← Json.members? text
  let commands ← lastValue? (members.filter (·.1 ≠ metaKey)) module
  let t ← lastValue? (← commands.members?) command
  (t.value 2).toOption

/-- A `table` has the commands that the values in its `text` stand for. -/
theorem command?_eq {text : String} {table : RawTable} (h : ofJson text = .ok table)
    (module command : String) :
    table.command? module command = (commandValue? text module command).bind Command.ofValue? := by
  obtain ⟨members, hmembers, hgathers⟩ := ofJson_eq_ok_iff.mp h
  simp only [command?, commandValue?, hmembers, hgathers.modules_gather.get?_eq,
    Option.bind_eq_bind, Option.bind_some]
  rcases hmodule : lastValue? (members.filter (·.1 ≠ metaKey)) module with - | commands
  · rfl
  -- as the text is a table, its last module of that name can be read
  · have hreadable := hgathers.modules_gather.readable _ (mem_of_lastValue? hmodule)
    obtain ⟨map, hmap⟩ := Option.isSome_iff_exists.mp hreadable
    obtain ⟨ms, hms, hgathers⟩ := readCommands_eq_some_iff.mp hmap
    simp only [Option.bind_some, hmap, hms, hgathers.get?_eq, Option.bind_assoc]
    exact congrArg _ (funext Command.read_eq)

end RawTable

/-! ### Listings and look-ups -/

namespace Taxonomy

variable {t : Taxonomy} {m c p : String}

theorem nodup_commandNames (t : Taxonomy) (m : String) : (t.commandNames m).Nodup := by
  unfold commandNames
  rcases t.modules.get? m with - | commands
  · exact List.nodup_nil
  · exact commands.distinct

theorem nodup_paramNames (t : Taxonomy) (m c : String) : (t.paramNames m c).Nodup := by
  unfold paramNames
  rcases t.params? m c with - | params
  · exact List.nodup_nil
  · exact params.distinct

/-- The commands `c` of a module `m` are those that have parameters, be it none. -/
theorem mem_commandNames_iff : c ∈ t.commandNames m ↔ (t.params? m c).isSome := by
  unfold commandNames params?
  rcases t.modules.get? m with - | commands
  · simp
  · exact OrderedMap.isSome_get?_iff.symm

theorem mem_paramNames_iff : p ∈ t.paramNames m c ↔ (t.allowed? m c p).isSome := by
  unfold paramNames allowed?
  rcases t.params? m c with - | params
  · simp
  · exact OrderedMap.isSome_get?_iff.symm

/-- Only a module `m` that is listed has commands. -/
theorem mem_moduleNames_of_params? (h : (t.params? m c).isSome) : m ∈ t.moduleNames := by
  unfold moduleNames
  rw [← OrderedMap.isSome_get?_iff]
  exact Option.isSome_of_isSome_bind h

/-- The parameters of a command `c` are those that the `table` has for it, if it exists in the
`version`. -/
theorem params?_project (table : RawTable) (version : String) (language : Language)
    (m c : String) :
    (project table version language).params? m c = (table.command? m c).bind fun command =>
      if isAvailable command.availability version table.versions
      then some (command.params.getD .empty) else none := by
  rw [params?, project, OrderedMap.get?_map, RawTable.command?]
  rcases table.modules.get? m with - | commands
  · rfl
  · exact OrderedMap.get?_filterMap commands _ c

/-- A command `c` that is listed is one of the `table`, with its parameters. -/
theorem exists_command {table : RawTable} {version : String} {language : Language}
    (hc : c ∈ (project table version language).commandNames m) :
    ∃ command, table.command? m c = some command ∧
      (project table version language).params? m c = some (command.params.getD .empty) := by
  rw [mem_commandNames_iff, params?_project] at hc
  obtain ⟨params, hparams⟩ := Option.isSome_iff_exists.mp hc
  obtain ⟨command, hcommand, hkept⟩ := Option.bind_eq_some_iff.mp hparams
  rw [Option.ite_none_right_eq_some] at hkept
  exact ⟨command, hcommand, by rw [params?_project, hparams, ← hkept.2]⟩

/-- Under a parameter `p` of a command `c` that is listed stands what the `text` declares for it. -/
theorem allowed?_project_iff {text : String} {table : RawTable} {version : String}
    {language : Language} (h : RawTable.ofJson text = .ok table)
    (hc : c ∈ (project table version language).commandNames m) {values : Option (List String)} :
    (project table version language).allowed? m c p = some values ↔
      ∃ v, RawTable.commandValue? text m c = some v ∧ Command.Declares v p values := by
  obtain ⟨command, hcommand, hparams⟩ := exists_command hc
  rw [RawTable.command?_eq h] at hcommand
  obtain ⟨v, hv, hread⟩ := Option.bind_eq_some_iff.mp hcommand
  rw [allowed?, hparams, Option.bind_some, Command.get?_params_iff hread, hv]
  simp

/-- **Listings and look-ups agree.**  Seen from any `version`, a `table` lists modules, commands of
a module and parameters of a command without repetition, and `_meta` is not among the modules.  What
is listed is what can be looked up: `t.params? m c` is there, be it empty, exactly if `c` is listed
in a listed module `m`, and `t.allowed? m c p`, be it any value, exactly if `p` is listed.  The
`values` are those that the `text` declares for the command, `Command.Declares`: any if that is
`null` or if the command is a list of names, and otherwise just those in its list, which may be
empty.  No look-up in any `map` fails for an index that points outside its entries, `SafelyIndexed`,
however it was written. -/
theorem listings_agree_with_lookups {text : String} {table : RawTable}
    (h : RawTable.ofJson text = .ok table) (version : String) (language : Language) :
    let t := project table version language
    (t.moduleNames.Nodup ∧ "_meta" ∉ t.moduleNames) ∧
    (∀ m, (t.commandNames m).Nodup) ∧
    (∀ m c, (t.paramNames m c).Nodup) ∧
    (∀ m c, (t.params? m c).isSome ↔ m ∈ t.moduleNames ∧ c ∈ t.commandNames m) ∧
    (∀ m c p, (t.allowed? m c p).isSome ↔ p ∈ t.paramNames m c) ∧
    (∀ m c p values, t.allowed? m c p = some values ↔ c ∈ t.commandNames m ∧
      ∃ v, RawTable.commandValue? text m c = some v ∧ Command.Declares v p values) ∧
    ∀ (α : Type) (map : OrderedMap α), map.SafelyIndexed := by
  intro t
  obtain ⟨members, -, hgathers⟩ := RawTable.ofJson_eq_ok_iff.mp h
  have hmodules : t.moduleNames = table.modules.keys := OrderedMap.keys_map _ _
  refine ⟨⟨t.modules.distinct, ?_⟩, nodup_commandNames t, nodup_paramNames t, ?_, ?_, ?_,
    fun α map => map.safelyIndexed⟩
  · rw [hmodules]
    exact hgathers.metaKey_not_mem
  · intro m c
    rw [mem_commandNames_iff]
    exact ⟨fun hparams => ⟨mem_moduleNames_of_params? hparams, hparams⟩, And.right⟩
  · intro m c p
    exact mem_paramNames_iff.symm
  -- values are only looked up for a command that is listed, and then the text declares them
  · intro m c p values
    constructor
    · intro hallowed
      have hc : c ∈ t.commandNames m := by
        rw [mem_commandNames_iff]
        exact Option.isSome_of_isSome_bind (Option.isSome_of_eq_some hallowed)
      exact ⟨hc, (allowed?_project_iff h hc).mp hallowed⟩
    · rintro ⟨hc, hdeclared⟩
      exact (allowed?_project_iff h hc).mpr hdeclared

/-- With an empty list a parameter allows nothing, and with `null` or as one of the names in a list
it allows anything; a command of other versions has no parameters to ask for. -/
theorem empty_list_and_null_apart :
    let text := "\x7b\"AQUA\":\x7b\"BEAM\":\x7b\"params\":\x7b\"NO\":null,\"TYPE\":[]\x7d\x7d,
      \"NORM\":[\"DC\",\"DC\"],\"ECHO\":\x7b\"version\":\"2024,2025\"\x7d\x7d\x7d"
    ∃ table, RawTable.ofJson text = .ok table ∧
      let t := project table "2023" .en
      t.allowed? "AQUA" "BEAM" "TYPE" = some (some []) ∧ t.allowed? "AQUA" "BEAM" "NO" = some none ∧
      t.allowed? "AQUA" "NORM" "DC" = some none ∧ t.params? "AQUA" "ECHO" = none := by
  intro text
  let beam : Tree := .object [(.plain "params",
    .object [(.plain "NO", .null), (.plain "TYPE", .list [] none)] none)] none
  let norm : Tree := .list [.text (.plain "DC"), .text (.plain "DC")] none
  let echo : Tree := .object [(.plain "version", .text (.plain "2024,2025"))] none
  have hmembers : Json.members? text = some [("AQUA",
      .object [(.plain "BEAM", beam), (.plain "NORM", norm), (.plain "ECHO", echo)] none)] := by
    decide +kernel
  have hbeam : RawTable.commandValue? text "AQUA" "BEAM"
      = some (.object [("params", .object [("NO", .null), ("TYPE", .texts [])])]) := by
    rw [RawTable.commandValue?, hmembers]
    rfl
  have hnorm : RawTable.commandValue? text "AQUA" "NORM" = some (.texts ["DC", "DC"]) := by
    rw [RawTable.commandValue?, hmembers]
    rfl
  have hnames : (RawTable.ofJson text).toOption.map
      (fun table => (project table "2023" .en).commandNames "AQUA") = some ["BEAM", "NORM"] := by
    decide +kernel
  obtain ⟨table, hsome, hlisted⟩ := Option.map_eq_some_iff.mp hnames
  have htable := toOption_eq_some_iff.mp hsome
  obtain ⟨-, -, -, hparams, -, hdeclared, -⟩ := listings_agree_with_lookups htable "2023" .en
  have hbeam_mem : "BEAM" ∈ (project table "2023" .en).commandNames "AQUA" := by simp [hlisted]
  have hnorm_mem : "NORM" ∈ (project table "2023" .en).commandNames "AQUA" := by simp [hlisted]
  have hecho : "ECHO" ∉ (project table "2023" .en).commandNames "AQUA" := by simp [hlisted]
  refine ⟨table, htable, ?_, ?_, ?_, ?_⟩
  · exact (hdeclared _ _ _ _).mpr
      ⟨hbeam_mem, _, hbeam, .listed (List.mem_singleton_self _) rfl⟩
  · exact (hdeclared _ _ _ _).mpr ⟨hbeam_mem, _, hbeam, .free (List.mem_singleton_self _) rfl⟩
  · exact (hdeclared _ _ _ _).mpr ⟨hnorm_mem, _, hnorm, .name (by simp)⟩
  · rw [← Option.not_isSome_iff_eq_none, hparams]
    exact fun h => hecho h.2

end Taxonomy

end DeckKeywords
