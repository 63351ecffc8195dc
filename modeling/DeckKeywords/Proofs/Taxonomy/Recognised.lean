/-
DeckKeywords/Proofs/Taxonomy/Recognised.lean

Searching for a word that is recognised.  What a word is recognised as is called like the
word in upper case, and a search compares lower-case forms.  So what was recognised is
found exactly if the word in lower case is part of its upper case in lower case, and
that is a question about the word alone, whatever else the version has.

Words in ASCII are found.  A word is missed if upper-casing loses one of its characters, as
it spells out a sharp s, `sharp_s_missed`, or if the capital is that of another one, as that
of the micro sign is.

Main result: `recognised_found_iff`.
-/
import DeckKeywords.Proofs.Taxonomy.Validation
import DeckKeywords.Proofs.Taxonomy.Verbatim
import DeckKeywords.Proofs.Text.Recased

namespace DeckKeywords

open Text

/-- What a search gives for what a word was recognised as. -/
def Validation.hit : Validation → Hit
  | command m c _ => .command m c
  | param m c p _ => .param m c p

theorem Validation.name_hit (found : Validation) : found.hit.name = found.name := by
  cases found with
  | command => rfl
  | param => rfl

namespace Taxonomy

variable {t : Taxonomy} {word : String} {found : Validation}

/-- A search for the `word` finds what `validate` recognises the word as. -/
structure FindsRecognised (t : Taxonomy) (word : String) : Prop where
  command : ∀ m c params, t.validate word = some (.command m c params) →
    .command m c ∈ t.search word
  param : ∀ m c p values, t.validate word = some (.param m c p values) →
    .param m c p ∈ t.search word

theorem findsRecognised_iff :
    t.FindsRecognised word ↔ ∀ found, t.validate word = some found → found.hit ∈ t.search word := by
  constructor
  · rintro h (⟨m, c, params⟩ | ⟨m, c, p, values⟩) hfound
    · exact h.command m c params hfound
    · exact h.param m c p values hfound
  · intro h
    exact ⟨fun _ _ _ => h _, fun _ _ _ _ => h _⟩

/-- What a `word` is recognised as is one of `allHits`. -/
theorem hit_mem_allHits (h : t.validate word = some found) : found.hit ∈ t.allHits := by
  cases found with
  | command m c params =>
    obtain ⟨rfl, ⟨-, -, -, hmem, -⟩, -⟩ := validate_eq_command_iff.mp h
    exact command_mem_allHits_iff.mpr hmem
  | param m c p values =>
    obtain ⟨-, rfl, ⟨-, -, -, hmem, -⟩, -⟩ := validate_eq_param_iff.mp h
    exact param_mem_allHits_iff.mpr hmem

theorem hit_mem_search_iff (h : t.validate word = some found) :
    found.hit ∈ t.search word ↔ lower (upper word) = lower word := by
  rw [mem_search_iff, and_iff_right (hit_mem_allHits h), found.name_hit, name_of_validate h,
    lower_infix_lower_upper_iff]

/-- **Searching for what is recognised.**  In every taxonomy `t` in which a `word` is recognised, a
search for it finds what it is recognised as, `found.hit`, exactly if `lower (upper word)` is
`lower word`.  So the words that every taxonomy `FindsRecognised` are those that `KeepsLower` holds
of: their small sigmas have the forms that capital ones have in their places, and their other
characters have each the lower case of their upper case; all words in ASCII are among them. -/
theorem recognised_found_iff (word : String) :
    (∀ (t : Taxonomy) found, t.validate word = some found →
      (found.hit ∈ t.search word ↔ lower (upper word) = lower word)) ∧
    ((∀ t : Taxonomy, t.FindsRecognised word) ↔ KeepsLower [] word.toList) ∧
    (lower (upper word) = lower word ↔ KeepsLower [] word.toList) ∧
    ((∀ c ∈ word.toList, c.toNat < 0x80) → ∀ t : Taxonomy, t.FindsRecognised word) := by
  have hall : (∀ t : Taxonomy, t.FindsRecognised word) ↔ KeepsLower [] word.toList := by
    simp only [findsRecognised_iff]
    rw [← lower_upper_eq_iff]
    constructor
    · intro h
      have hlisted := mem_commandNames_ofCommand (upper word)
      obtain ⟨m, params, hfound⟩ := exists_command_iff.mpr ⟨"", hlisted⟩
      exact (hit_mem_search_iff hfound).mp (h _ _ hfound)
    · intro h t found hfound
      exact (hit_mem_search_iff hfound).mpr h
  exact ⟨fun t found => hit_mem_search_iff, hall, lower_upper_eq_iff word,
    fun hascii => hall.mpr (keepsLower_of_ascii hascii)⟩

/-- A command and a parameter are recognised in words with `ß`, and searches for these words find
nothing. -/
theorem sharp_s_missed :
    let text := "\x7b\"AQUA\":\x7b\"STRASSE\":[\"GROSS\"]\x7d\x7d"
    ∃ table, RawTable.ofJson text = .ok table ∧
      let t := project table "2024" .en
      let params : ParamMap := .ofList [("GROSS", none)]
      t.validate "straße" = some (.command "AQUA" "STRASSE" params) ∧
        .command "AQUA" "STRASSE" ∉ t.search "straße" ∧
        t.validate "groß" = some (.param "AQUA" "STRASSE" "GROSS" none) ∧
        .param "AQUA" "STRASSE" "GROSS" ∉ t.search "groß" := by
  intro text
  have hanswers : (RawTable.ofJson text).toOption.map (fun table =>
      let t := project table "2024" .en
      (t.validate "straße", t.search "straße", t.validate "groß", t.search "groß"))
        = some (some (.command "AQUA" "STRASSE" (.ofList [("GROSS", none)])), [],
          some (.param "AQUA" "STRASSE" "GROSS" none), []) := by
    decide +kernel
  obtain ⟨table, hsome, heq⟩ := Option.map_eq_some_iff.mp hanswers
  simp only [Prod.mk.injEq] at heq
  obtain ⟨hcommand, hcommands, hparam, hparams⟩ := heq
  refine ⟨table, Json.toOption_eq_some_iff.mp hsome, hcommand, ?_, hparam, ?_⟩
  · rw [hcommands]
    exact List.not_mem_nil
  · rw [hparams]
    exact List.not_mem_nil

end Taxonomy

end DeckKeywords
