/-
DeckKeywords/Proofs/Taxonomy/Validation.lean

Which words are keywords.  The word is put into upper case, and its upper-case form
is looked for among the commands of all modules, and then among the parameters of
all commands.  Each of the two searches goes through the listings in order and stops
at the first that has the name, `findCommand_eq` and `findParam_eq`; what it finds
there is what a look-up finds.

Only the word is put into upper case.  Names are compared as they were published, so
a command that is not in upper case is no keyword for any word,
`small_names_unknown`.  A keyword is one in every spelling exactly if its
upper-case form is a name itself.

Main results: `validation_finds_first`, `keywords_in_any_case_iff`.
-/
import DeckKeywords.Proofs.Taxonomy.Traversal
import DeckKeywords.Proofs.Text.Upper
import DeckKeywords.Taxonomy.Validation

namespace DeckKeywords

open Text

/-- The name that a word was recognised as. -/
def Validation.name : Validation → String
  | command _ c _ => c
  | param _ _ p _ => p

/-- Whether a word was recognised as a command. -/
def Validation.isCommand : Validation → Bool
  | command .. => true
  | param .. => false

namespace Taxonomy

variable {t : Taxonomy} {name word : String}

/-! ### The first one with a name -/

/-- The search for a command `name` goes through the modules by name. -/
theorem findCommand_eq (t : Taxonomy) (name : String) :
    t.findCommand name
      = t.moduleNames.findSome? fun m => (t.params? m name).map (.command m name) := by
  rw [findCommand, moduleNames, OrderedMap.keys, List.findSome?_map]
  refine findSome?_congr fun e he => ?_
  obtain ⟨m, commands⟩ := e
  show (commands.entries.find? (·.1 = name)).map _ = (t.params? m name).map _
  rw [OrderedMap.find?_entries, params?, OrderedMap.mem_entries_iff.mp he, Option.bind_some,
    Option.map_map]
  rfl

/-- The search for a parameter `name` goes through the commands by name. -/
theorem findParam_eq (t : Taxonomy) (name : String) :
    t.findParam name
      = t.allCommands.findSome? fun e => (t.allowed? e.1 e.2 name).map (.param e.1 e.2 name) := by
  calc t.findParam name
      = t.commandEntries.findSome? fun e => (e.2.entries.find? (·.1 = name)).map fun entry =>
          Validation.param e.1.1 e.1.2 entry.1 entry.2 := by
        rw [commandEntries, findSome?_flatMap]
        simp only [List.findSome?_map]
        rfl
    _ = t.commandEntries.findSome? fun e =>
          (t.allowed? e.1.1 e.1.2 name).map (.param e.1.1 e.1.2 name) := by
        refine findSome?_congr fun e he => ?_
        obtain ⟨⟨m, c⟩, ps⟩ := e
        rw [OrderedMap.find?_entries, allowed?, mem_commandEntries_iff.mp he, Option.bind_some,
          Option.map_map]
        rfl
    _ = _ := by
        rw [← map_fst_commandEntries, List.findSome?_map]
        rfl

theorem findCommand_eq_some_iff {found : Validation} :
    t.findCommand name = some found ↔
      ∃ m params, FirstWith (fun m => name ∈ t.commandNames m) t.moduleNames m ∧
        t.params? m name = some params ∧ found = .command m name params := by
  rw [findCommand_eq, findSome?_map_eq_some_iff]
  simp only [mem_commandNames_iff, eq_comm]

theorem findParam_eq_some_iff {found : Validation} :
    t.findParam name = some found ↔
      ∃ m c values, FirstWith (fun e => name ∈ t.paramNames e.1 e.2) t.allCommands (m, c) ∧
        t.allowed? m c name = some values ∧ found = .param m c name values := by
  rw [findParam_eq, findSome?_map_eq_some_iff]
  simp only [mem_paramNames_iff, eq_comm, Prod.exists]

theorem findCommand_eq_none_iff : t.findCommand name = none ↔ ∀ m, name ∉ t.commandNames m := by
  rw [findCommand_eq, List.findSome?_eq_none_iff]
  simp only [Option.map_eq_none_iff, mem_commandNames_iff, Option.not_isSome_iff_eq_none]
  refine ⟨fun h m => ?_, fun h m _ => h m⟩
  by_contra hne
  exact hne (h m (mem_moduleNames_of_params? (Option.isSome_iff_ne_none.mpr hne)))

theorem findParam_eq_none_iff : t.findParam name = none ↔ ∀ m c, name ∉ t.paramNames m c := by
  rw [findParam_eq, List.findSome?_eq_none_iff]
  simp only [Option.map_eq_none_iff, Prod.forall]
  refine forall₂_congr fun m c => ⟨fun h hp => ?_, fun h _ => ?_⟩
  · have hallowed := mem_paramNames_iff.mp hp
    rw [h (mem_allCommands_iff.mpr (mem_commandNames_of_mem_paramNames hp))] at hallowed
    cases hallowed
  · rw [← Option.not_isSome_iff_eq_none, ← mem_paramNames_iff]
    exact h

/-! ### Commands before parameters -/

theorem validate_eq (t : Taxonomy) (word : String) :
    t.validate word = (t.findCommand (upper word)).or (t.findParam (upper word)) := by
  rw [validate]
  rcases t.findCommand (upper word) with - | found <;> rfl

theorem validate_eq_command_iff {m c : String} {params : ParamMap} :
    t.validate word = some (.command m c params) ↔
      c = upper word ∧ FirstWith (fun m => upper word ∈ t.commandNames m) t.moduleNames m ∧
        t.params? m c = some params := by
  rw [validate_eq, Option.or_eq_some_iff]
  constructor
  · rintro (h | ⟨-, h⟩)
    · obtain ⟨m, params, hfirst, hparams, heq⟩ := findCommand_eq_some_iff.mp h
      cases heq
      exact ⟨rfl, hfirst, hparams⟩
    · obtain ⟨m, c, values, -, -, heq⟩ := findParam_eq_some_iff.mp h
      cases heq
  · rintro ⟨rfl, hfirst, hparams⟩
    exact .inl (findCommand_eq_some_iff.mpr ⟨m, params, hfirst, hparams, rfl⟩)

theorem validate_eq_param_iff {m c p : String} {values : Option (List String)} :
    t.validate word = some (.param m c p values) ↔
      (∀ m', upper word ∉ t.commandNames m') ∧ p = upper word ∧
        FirstWith (fun e => upper word ∈ t.paramNames e.1 e.2) t.allCommands (m, c) ∧
        t.allowed? m c p = some values := by
  rw [validate_eq, Option.or_eq_some_iff, findCommand_eq_none_iff]
  constructor
  · rintro (h | ⟨hnone, h⟩)
    · obtain ⟨m, params, -, -, heq⟩ := findCommand_eq_some_iff.mp h
      cases heq
    · obtain ⟨m, c, values, hfirst, hallowed, heq⟩ := findParam_eq_some_iff.mp h
      cases heq
      exact ⟨hnone, rfl, hfirst, hallowed⟩
  · rintro ⟨hnone, rfl, hfirst, hallowed⟩
    exact .inr ⟨hnone, findParam_eq_some_iff.mpr ⟨m, c, values, hfirst, hallowed, rfl⟩⟩

theorem validate_eq_none_iff :
    t.validate word = none ↔
      (∀ m, upper word ∉ t.commandNames m) ∧ ∀ m c, upper word ∉ t.paramNames m c := by
  rw [validate_eq, Option.or_eq_none_iff, findCommand_eq_none_iff, findParam_eq_none_iff]

/-- A `word` is recognised as a command if any module has it, wherever it is a parameter. -/
theorem exists_command_iff :
    (∃ m params, t.validate word = some (.command m (upper word) params)) ↔
      ∃ m, upper word ∈ t.commandNames m := by
  constructor
  · rintro ⟨m, params, h⟩
    obtain ⟨-, ⟨-, -, -, hmem, -⟩, -⟩ := validate_eq_command_iff.mp h
    exact ⟨m, hmem⟩
  · rintro ⟨m, hmem⟩
    rcases hfound : t.findCommand (upper word) with - | found
    · exact absurd hmem (findCommand_eq_none_iff.mp hfound m)
    · obtain ⟨m, params, hfirst, hparams, -⟩ := findCommand_eq_some_iff.mp hfound
      exact ⟨m, params, validate_eq_command_iff.mpr ⟨rfl, hfirst, hparams⟩⟩

/-- **What a word is recognised as.**  `t.validate word` is a command exactly if some module lists a
command `upper word`; the first such module is given, and the parameters that are looked up there.
It is a parameter exactly if no module at all lists such a command and some command lists a
parameter `upper word`; the first such command in the order of modules and commands is given, and
the values that are looked up there.  It is `none` exactly if the word is neither a command nor a
parameter anywhere. -/
theorem validation_finds_first (t : Taxonomy) (word : String) :
    (∀ m c params, t.validate word = some (.command m c params) ↔
      c = upper word ∧ FirstWith (fun m => upper word ∈ t.commandNames m) t.moduleNames m ∧
        t.params? m c = some params) ∧
    (∀ m c p values, t.validate word = some (.param m c p values) ↔
      (∀ m', upper word ∉ t.commandNames m') ∧ p = upper word ∧
        FirstWith (fun e => upper word ∈ t.paramNames e.1 e.2)
          (t.moduleNames.flatMap fun m => (t.commandNames m).map (m, ·)) (m, c) ∧
        t.allowed? m c p = some values) ∧
    (t.validate word = none ↔
      (∀ m, upper word ∉ t.commandNames m) ∧ ∀ m c, upper word ∉ t.paramNames m c) ∧
    ((∃ m params, t.validate word = some (.command m (upper word) params)) ↔
      ∃ m, upper word ∈ t.commandNames m) := by
  refine ⟨fun m c params => validate_eq_command_iff, fun m c p values => validate_eq_param_iff,
    validate_eq_none_iff, exists_command_iff⟩

/-! ### Names in other spellings -/

/-- What a `word` is recognised as, `found`, is called like the word in upper case. -/
theorem name_of_validate {found : Validation} (h : t.validate word = some found) :
    found.name = upper word := by
  cases found with
  | command m c params => exact (validate_eq_command_iff.mp h).1
  | param m c p values => exact (validate_eq_param_iff.mp h).2.1

theorem isCommand_validate_iff :
    (∃ found, t.validate word = some found ∧ found.isCommand) ↔
      ∃ m, upper word ∈ t.commandNames m := by
  rw [← exists_command_iff]
  constructor
  · rintro ⟨found, h, hcommand⟩
    cases found with
    | command m c params =>
      obtain rfl := (validate_eq_command_iff.mp h).1
      exact ⟨m, params, h⟩
    | param => cases hcommand
  · rintro ⟨m, params, h⟩
    exact ⟨_, h, rfl⟩

theorem isSome_validate_iff :
    (t.validate word).isSome ↔
      (∃ m, upper word ∈ t.commandNames m) ∨ ∃ m c, upper word ∈ t.paramNames m c := by
  rw [Option.isSome_iff_ne_none, ne_eq, validate_eq_none_iff, not_and_or]
  simp only [not_forall, not_not]

/-- **Keywords in any case.**  Words that are `SameButCase` are recognised as the same.  A listed
command `c` is recognised as a command exactly if `upper c` is listed as a command, in whatever
module, and a listed parameter `p` is recognised exactly if `upper p` is listed as a command or as a
parameter; so all names that were published in upper case are, in any spelling.  What a `word` is
recognised as is called `upper word`, and differs from the word in nothing but case. -/
theorem keywords_in_any_case_iff (t : Taxonomy) :
    (∀ word word', SameButCase word word' → t.validate word = t.validate word') ∧
    (∀ m c, c ∈ t.commandNames m →
      ((∃ found, t.validate c = some found ∧ found.isCommand) ↔
        ∃ m', upper c ∈ t.commandNames m')) ∧
    (∀ m c p, p ∈ t.paramNames m c →
      ((t.validate p).isSome ↔
        (∃ m', upper p ∈ t.commandNames m') ∨ ∃ m' c', upper p ∈ t.paramNames m' c')) ∧
    ∀ word found, t.validate word = some found →
      found.name = upper word ∧ SameButCase found.name word := by
  refine ⟨fun word word' hcase => ?_, fun m c _ => isCommand_validate_iff,
    fun m c p _ => isSome_validate_iff, fun word found h => ?_⟩
  · rw [validate_eq, validate_eq, show upper word = upper word' from hcase]
  · have hname := name_of_validate h
    refine ⟨hname, ?_⟩
    rw [hname]
    exact sameButCase_upper word

/-- A command and a parameter that were published in small letters are no keywords, not even as they
were published. -/
theorem small_names_unknown :
    let text := "\x7b\"AQUA\":\x7b\"beam\":[\"no\"]\x7d\x7d"
    ∃ table, RawTable.ofJson text = .ok table ∧
      let t := project table "2024" .en
      t.commandNames "AQUA" = ["beam"] ∧ t.paramNames "AQUA" "beam" = ["no"] ∧
        t.validate "beam" = none ∧ t.validate "no" = none := by
  intro text
  have hanswers : (RawTable.ofJson text).toOption.map (fun table =>
      let t := project table "2024" .en
      (t.commandNames "AQUA", t.paramNames "AQUA" "beam", t.validate "beam", t.validate "no"))
        = some (["beam"], ["no"], none, none) := by
    decide +kernel
  obtain ⟨table, hsome, heq⟩ := Option.map_eq_some_iff.mp hanswers
  simp only [Prod.mk.injEq] at heq
  exact ⟨table, Json.toOption_eq_some_iff.mp hsome, heq⟩

end Taxonomy

end DeckKeywords
