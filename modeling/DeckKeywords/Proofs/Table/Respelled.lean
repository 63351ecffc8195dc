/-
DeckKeywords/Proofs/Table/Respelled.lean

Tables that differ in the spelling of their commands only.  Any number of
commands may have been rewritten any number of times, in either direction, those
that a later member overrides included; keys stay where they are, and so does
what is said about versions.

Such tables are projected to the same keywords.  A projection sees no more of a
command than its meaning, `project_congr`, and the meanings of the commands of a
table are gathered from its members in the same way as the commands themselves.
-/
import DeckKeywords.Host
import DeckKeywords.Proofs.Table.Spelling
import Mathlib.Logic.Relation

namespace DeckKeywords

open Json (Token Tree toOption_eq_some_iff)
open Command (meaning meaning? Respelling)

/-! ### Projections see meanings -/

namespace Taxonomy

/-- The commands of a module that exist in a `version`, of which only the `meanings` are known. -/
def availableMeanings (versions : VersionTable) (version : String)
    (meanings : OrderedMap (Option Availability × ParamMap)) : CommandMap :=
  meanings.filterMap fun _ m => if isAvailable m.1 version versions then some m.2 else none

theorem availableCommands_eq (versions : VersionTable) (version : String)
    (commands : OrderedMap Command) :
    availableCommands versions version commands
      = availableMeanings versions version (commands.map meaning) := by
  ext1
  simp only [availableCommands, availableMeanings, OrderedMap.filterMap, OrderedMap.map,
    List.filterMap_map]
  rfl

/-- Tables `table` and `table'` with the same versions whose commands mean the same are projected to
the same keywords. -/
theorem project_congr {table table' : RawTable} (hversions : table'.versions = table.versions)
    (hmodules : table'.modules.map (·.map meaning) = table.modules.map (·.map meaning))
    (version : String) (language : Language) :
    project table' version language = project table version language := by
  have hproject : ∀ t : RawTable, (project t version language).modules
      = (t.modules.map (·.map meaning)).map (availableMeanings t.versions version) := by
    intro t
    rw [OrderedMap.map_map, project]
    exact congrArg (t.modules.map ·) (funext (availableCommands_eq t.versions version))
  have hsame : (project table' version language).modules
      = (project table version language).modules := by
    rw [hproject, hproject, hversions, hmodules]
  simpa [project] using hsame

end Taxonomy

/-! ### Respelled commands, modules and tables -/

namespace RawTable

/-- Two modules `t` and `t'` with the same keys, the commands under which are spelled in different
ways. -/
def RespelledModule (t t' : Tree) : Prop :=
  ∃ ms ms', t.members? = some ms ∧ t'.members? = some ms' ∧
    List.Forall₂ (fun p p' => p.1 = p'.1 ∧ Relation.EqvGen Respelling p.2 p'.2) ms ms'

/-- Two members `p` and `p'` of tables: the same versions, or one module whose commands are spelled
in different ways. -/
def RespelledMember (p p' : String × Tree) : Prop :=
  p.1 = p'.1 ∧ if p.1 = metaKey then p.2 = p'.2 else RespelledModule p.2 p'.2

/-- Two texts `s` and `s'` of tables that differ in the spelling of commands only. -/
def Respelled (s s' : String) : Prop :=
  ∃ ms ms', Json.members? s = some ms ∧ Json.members? s' = some ms' ∧
    List.Forall₂ RespelledMember ms ms'

theorem meaning?_eq_of_eqvGen {t t' : Tree} (h : Relation.EqvGen Respelling t t') :
    meaning? t = meaning? t' := by
  induction h with
  | rel _ _ hstep => exact hstep.meaning?_eq
  | refl _ => rfl
  | symm _ _ _ ih => exact ih.symm
  | trans _ _ _ _ _ ih₁ ih₂ => exact ih₁.trans ih₂

/-- Members with the same keys and the same values through `g` are the same members through `g`. -/
theorem map_eq_of_forall₂ {β : Type} {g : Tree → β} {ms ms' : List (String × Tree)}
    (h : List.Forall₂ (fun p p' => p.1 = p'.1 ∧ g p.2 = g p'.2) ms ms') :
    ms.map (Prod.map id g) = ms'.map (Prod.map id g) := by
  rw [← List.forall₂_eq_eq_eq, List.forall₂_map_left_iff, List.forall₂_map_right_iff]
  exact h.imp fun p p' hp => Prod.ext hp.1 hp.2

/-- The commands of a respelled module have the same `meaning`, if they are commands at all. -/
theorem map_readCommands_eq {t t' : Tree} (h : RespelledModule t t') :
    (readCommands t).map (·.map meaning) = (readCommands t').map (·.map meaning) := by
  obtain ⟨ms, ms', hms, hms', hcommands⟩ := h
  have hsame : ms.map (Prod.map id meaning?) = ms'.map (Prod.map id meaning?) :=
    map_eq_of_forall₂ (hcommands.imp fun p p' hp => ⟨hp.1, meaning?_eq_of_eqvGen hp.2⟩)
  -- the same holds with the two modules exchanged, so it is enough to find the commands of one
  have hone : ∀ {u u' : Tree} {ns ns' : List (String × Tree)}, u.members? = some ns →
      u'.members? = some ns' → ns.map (Prod.map id meaning?) = ns'.map (Prod.map id meaning?) →
      ∀ commands, readCommands u = some commands →
        ∃ commands', readCommands u' = some commands' ∧
          commands'.map meaning = commands.map meaning := by
    intro u u' ns ns' hns hns' heq commands hread
    obtain ⟨_, hmem, hgathers⟩ := readCommands_eq_some_iff.mp hread
    obtain rfl := Option.some.inj (hns.symm.trans hmem)
    obtain ⟨commands', hgathers', hmap⟩ := hgathers.exists_map_eq heq
    exact ⟨commands', readCommands_eq_some_iff.mpr ⟨ns', hns', hgathers'⟩, hmap⟩
  rcases hread : readCommands t with - | commands
  · rcases hread' : readCommands t' with - | commands'
    · rfl
    · obtain ⟨_, hfound, -⟩ := hone hms' hms hsame.symm commands' hread'
      rw [hread] at hfound
      cases hfound
  · obtain ⟨commands', hread', hmap⟩ := hone hms hms' hsame commands hread
    rw [hread', Option.map_some, Option.map_some, hmap]

/-! ### Respelled tables -/

variable {ms ms' : List (String × Tree)}

theorem filter_meta_of_respelled (h : List.Forall₂ RespelledMember ms ms') :
    ms.filter (·.1 = metaKey) = ms'.filter (·.1 = metaKey) := by
  induction h with
  | nil => rfl
  | @cons p p' ms ms' hp _ ih =>
    obtain ⟨hkey, hvalue⟩ := hp
    by_cases hmeta : p.1 = metaKey
    · rw [if_pos hmeta] at hvalue
      obtain rfl : p = p' := Prod.ext hkey hvalue
      rw [List.filter_cons_of_pos (by simpa using hmeta),
        List.filter_cons_of_pos (by simpa using hmeta), ih]
    · rw [List.filter_cons_of_neg (by simpa using hmeta),
        List.filter_cons_of_neg (by simpa using hkey ▸ hmeta), ih]

theorem filter_modules_of_respelled (h : List.Forall₂ RespelledMember ms ms') :
    List.Forall₂ (fun p p' => p.1 = p'.1 ∧ RespelledModule p.2 p'.2)
      (ms.filter (·.1 ≠ metaKey)) (ms'.filter (·.1 ≠ metaKey)) := by
  induction h with
  | nil => exact .nil
  | @cons p p' ms ms' hp _ ih =>
    obtain ⟨hkey, hvalue⟩ := hp
    by_cases hmeta : p.1 = metaKey
    · rw [List.filter_cons_of_neg (by simpa using hmeta),
        List.filter_cons_of_neg (by simpa using hkey ▸ hmeta)]
      exact ih
    · rw [if_neg hmeta] at hvalue
      rw [List.filter_cons_of_pos (by simpa using hmeta),
        List.filter_cons_of_pos (by simpa using hkey ▸ hmeta)]
      exact .cons ⟨hkey, hvalue⟩ ih

/-- Respelled members `ms'` are gathered by a `table'` with the same versions whose commands mean
the same. -/
theorem Gathers.exists_respelled {table : RawTable} (h : table.Gathers ms)
    (hrespelled : List.Forall₂ RespelledMember ms ms') :
    ∃ table' : RawTable, table'.Gathers ms' ∧ table'.versions = table.versions ∧
      table'.modules.map (·.map meaning) = table.modules.map (·.map meaning) := by
  have hmeta := filter_meta_of_respelled hrespelled
  have hmodules := (filter_modules_of_respelled hrespelled).imp fun p p' hp =>
    And.intro hp.1 (map_readCommands_eq hp.2)
  obtain ⟨modules', hgathers, hmap⟩ :=
    h.modules_gather.exists_map_eq (f := (·.map meaning)) (map_eq_of_forall₂ hmodules)
  exact ⟨⟨table.versions, modules'⟩,
    ⟨hmeta ▸ h.readable, hmeta ▸ h.versions_eq, hgathers⟩, rfl, hmap⟩

/-- **Respelled tables have the same keywords.**  If a text `s` is a `table`, then a text `s'` that
is `Respelled` from it, in the spelling of commands only, is a table `table'`.  Both list the same
versions, `Taxonomy.project` gives the same keywords for both, whatever the `version` and the
`language` are, and so every question `q` has the same answer. -/
theorem projections_of_respelled {s s' : String} {table : RawTable} (hrespelled : Respelled s s')
    (htable : ofJson s = .ok table) :
    ∃ table', ofJson s' = .ok table' ∧ table'.versions = table.versions ∧
      ∀ version language,
        Taxonomy.project table' version language = Taxonomy.project table version language ∧
        ∀ q, (Taxonomy.project table' version language).find q
          = (Taxonomy.project table version language).find q := by
  obtain ⟨ms, ms', hms, hms', hmembers⟩ := hrespelled
  obtain ⟨_, hfound, hgathers⟩ := ofJson_eq_ok_iff.mp htable
  obtain rfl := Option.some.inj (hms.symm.trans hfound)
  obtain ⟨table', hgathers', hversions, hmodules⟩ := hgathers.exists_respelled hmembers
  refine ⟨table', ofJson_eq_ok_iff.mpr ⟨ms', hms', hgathers'⟩, hversions, ?_⟩
  intro version language
  have hproject := Taxonomy.project_congr hversions hmodules version language
  exact ⟨hproject, fun q => by rw [hproject]⟩

/-- From `s` to `s'` a name that is listed twice is respelled as parameters beside a blank tag, and
a tag loses its white space beside parameters that are none. -/
theorem projections_of_respelled_names_and_tag :
    let s := "\x7b\"AQUA\":\x7b\"BEAM\":[\"NO\",\"NO\"],
      \"ECHO\":\x7b\"version\":\" 2024 , 2025\"\x7d\x7d\x7d"
    let s' := "\x7b\"AQUA\":\x7b\"BEAM\":\x7b\"version\":\" \",
      \"params\":\x7b\"NO\":null,\"NO\":null\x7d\x7d,
      \"ECHO\":\x7b\"version\":\"2024,2025\",\"params\":\x7b\x7d\x7d\x7d\x7d"
    Respelled s s' ∧ ∃ table table', ofJson s = .ok table ∧ ofJson s' = .ok table' ∧
      ∀ version language,
        Taxonomy.project table' version language = Taxonomy.project table version language := by
  intro s s'
  let names : List Token := [.plain "NO", .plain "NO"]
  let params : Token × Tree := (.plain "params", .object (names.map (·, .null)) none)
  let tagged (tag : String) : Token × Tree := (.plain "version", .text (.plain tag))
  let beam : Tree := .list (names.map .text) none
  let beam' : Tree := .object [tagged " ", params] none
  let echo : Tree := .object [tagged " 2024 , 2025"] none
  let echo' : Tree := .object [tagged "2024,2025", (.plain "params", .object [] none)] none
  have hbeam : Relation.EqvGen Respelling beam beam' := by
    have hnames : Respelling beam (.object [params] none) := .names rfl rfl
    have hblank : Respelling (.object [params] none) beam' :=
      @Respelling.omitted _ "version" _ [] [params] rfl (.blankTag rfl (by decide +kernel))
        (by decide +kernel)
    exact .trans _ _ _ (.rel _ _ hnames) (.rel _ _ hblank)
  have hecho : Relation.EqvGen Respelling echo echo' := by
    have htag : Respelling echo (.object [tagged "2024,2025"] none) :=
      @Respelling.tag _ _ _ " 2024 , 2025" (.only ["2024", "2025"]) [] [] rfl rfl
        (by decide +kernel) (by decide +kernel)
    have hempty : Respelling (.object [tagged "2024,2025"] none) echo' :=
      @Respelling.omitted _ "params" _ [tagged "2024,2025"] [] rfl .emptyParams
        (by decide +kernel)
    exact .trans _ _ _ (.rel _ _ htag) (.rel _ _ hempty)
  have hs : Json.members? s
      = some [("AQUA", .object [(.plain "BEAM", beam), (.plain "ECHO", echo)] none)] := by
    decide +kernel
  have hs' : Json.members? s'
      = some [("AQUA", .object [(.plain "BEAM", beam'), (.plain "ECHO", echo')] none)] := by
    decide +kernel
  have hrespelled : Respelled s s' := by
    refine ⟨_, _, hs, hs', .cons ⟨rfl, ?_⟩ .nil⟩
    rw [if_neg (by decide)]
    exact ⟨_, _, rfl, rfl, .cons ⟨rfl, hbeam⟩ (.cons ⟨rfl, hecho⟩ .nil)⟩
  have hreadable : (ofJson s).toOption.isSome := by decide +kernel
  obtain ⟨table, hsome⟩ := Option.isSome_iff_exists.mp hreadable
  have htable := toOption_eq_some_iff.mp hsome
  obtain ⟨table', htable', -, hprojections⟩ := projections_of_respelled hrespelled htable
  exact ⟨hrespelled, table, table', htable, htable',
    fun version language => (hprojections version language).1⟩

end RawTable

end DeckKeywords
