/-
DeckKeywords/Proofs/Taxonomy/Verbatim.lean

Searching for a piece of a name as it is written there.  The term and the name are
put into lower case apart from each other, and the term is looked for in lower case;
so the piece is found where its sigmas have the forms in the name that they have in the
term alone.  A term that ends a word with a capital sigma is not found where the word
goes on, `final_sigma_missed`.

Whether a term is found wherever it is written is a question about the term alone:
it has to decide about its sigmas itself, as all terms without a capital sigma do.
If it does not, there is a name with the term in it that a search for it misses.

Main result: `verbatim_search_iff`.
-/
import DeckKeywords.Proofs.Taxonomy.Search
import DeckKeywords.Proofs.Text.Sigma

namespace DeckKeywords

open Text

/-- The `term` is written in the `name`, with the forms of its sigmas that it has alone. -/
def WrittenAlike (term name : String) : Prop :=
  ∃ before behind, before ++ term.toList ++ behind = name.toList ∧
    SigmasKept before.reverse term.toList behind

theorem WrittenAlike.occurs_lower {term name : String} (h : WrittenAlike term name) :
    (lower term).toList <:+: (lower name).toList := by
  obtain ⟨before, behind, hname, hkept⟩ := h
  rw [toList_lower, toList_lower, ← hname]
  exact infix_of_kept hkept

namespace Taxonomy

/-- A search for the `term` finds every listed name that has the term in it as it is written. -/
structure FindsVerbatim (t : Taxonomy) (term : String) : Prop where
  command : ∀ m c, c ∈ t.commandNames m → term.toList <:+: c.toList →
    .command m c ∈ t.search term
  param : ∀ m c p, p ∈ t.paramNames m c → term.toList <:+: p.toList →
    .param m c p ∈ t.search term

/-- The taxonomy with nothing but the command `name`. -/
def ofCommand (name : String) : Taxonomy where
  version := ""
  language := .en
  modules := OrderedMap.empty.insert "" (OrderedMap.empty.insert name .empty)

theorem mem_commandNames_ofCommand (name : String) : name ∈ (ofCommand name).commandNames "" := by
  rw [mem_commandNames_iff, params?, ofCommand, OrderedMap.get?_insert, if_pos rfl,
    Option.bind_some, OrderedMap.get?_insert, if_pos rfl]
  rfl

/-- **Searching for a piece of a name.**  A listed command or parameter that is `WrittenAlike`, with
the `term` in it and the sigmas as the term has them alone, is found.  The terms that a taxonomy
`FindsVerbatim`, wherever they are written and whatever the taxonomy, are those that decide about
their sigmas themselves, `SigmasSettled`. -/
theorem verbatim_search_iff (term : String) :
    (∀ t : Taxonomy, (∀ m c, c ∈ t.commandNames m → WrittenAlike term c →
        .command m c ∈ t.search term) ∧
      ∀ m c p, p ∈ t.paramNames m c → WrittenAlike term p → .param m c p ∈ t.search term) ∧
    ((∀ t : Taxonomy, t.FindsVerbatim term) ↔ SigmasSettled term.toList) := by
  refine ⟨fun t => ⟨fun m c hc halike => ?_, fun m c p hp halike => ?_⟩, ?_⟩
  · exact mem_search_iff.mpr ⟨command_mem_allHits_iff.mpr hc, halike.occurs_lower⟩
  · exact mem_search_iff.mpr ⟨param_mem_allHits_iff.mpr hp, halike.occurs_lower⟩
  rw [← lower_infix_iff]
  constructor
  · intro h name hname
    have hlisted := mem_commandNames_ofCommand name
    exact (mem_search_iff.mp ((h (ofCommand name)).command "" name hlisted hname)).2
  · intro h t
    constructor
    · intro m c hc hname
      exact mem_search_iff.mpr ⟨command_mem_allHits_iff.mpr hc, h c hname⟩
    · intro m c p hp hname
      exact mem_search_iff.mpr ⟨param_mem_allHits_iff.mpr hp, h p hname⟩

/-- A command has the term in it and is not found: the term ends in a sigma, the name goes on. -/
theorem final_sigma_missed :
    let text := "\x7b\"AQUA\":\x7b\"ΑΣΑ\":\x7b\x7d\x7d\x7d"
    ∃ table, RawTable.ofJson text = .ok table ∧
      let t := project table "2024" .en
      "ΑΣΑ" ∈ t.commandNames "AQUA" ∧ "ΑΣ".toList <:+: "ΑΣΑ".toList ∧
        .command "AQUA" "ΑΣΑ" ∉ t.search "ΑΣ" := by
  intro text
  have hanswers : (RawTable.ofJson text).toOption.map (fun table =>
      let t := project table "2024" .en
      (t.commandNames "AQUA", t.search "ΑΣ")) = some (["ΑΣΑ"], []) := by
    decide +kernel
  obtain ⟨table, hsome, heq⟩ := Option.map_eq_some_iff.mp hanswers
  obtain ⟨hcommands, hsearch⟩ := Prod.mk.inj heq
  refine ⟨table, Json.toOption_eq_some_iff.mp hsome, ?_, by decide, ?_⟩
  · rw [hcommands]
    exact List.mem_singleton_self _
  · rw [hsearch]
    exact List.not_mem_nil

end Taxonomy

end DeckKeywords
