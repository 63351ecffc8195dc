/-
DeckKeywords/Proofs/Cache/Staleness.lean

When a cache serves what it should.  A projection is kept under its version and
language, and nothing in that pair says from which table it was made; the tables
beneath can be forgotten on their own, and be loaded again from a source that
offers something else by then.

So a request is given a projection of the table that its pair was first asked
for from since the cache was last cleared, which need not be the table that is
cached now.  `get_taxonomy_eq_iff` says exactly when this shows.  Where tables
are never forgotten on their own it does not.
-/
import DeckKeywords.Proofs.Cache.History

namespace DeckKeywords

namespace Cache

/-- **Coherence of what is served.**  A request is served the projection of `origin`, the table that
its pair was `first` asked for from since the cache was last cleared, while `loaded`, the table that
is cached afterwards, is the `heldTable` of now.  The two agree exactly when both tables look the
same from `served.version`, and `origin = loaded` unless a `clearTables` came in between. -/
theorem get_taxonomy_eq_iff (vs : List Visit) (source later : TableSource)
    (version : Option String) (language : Option Language) :
    let l := language.getD .fallback
    let now := vs ++ [⟨source, .get version language⟩]
    let o := (empty.run vs).get source version language
    let served := o.answer.taxonomy
    let loaded := (o.state.table later l).answer
    heldTable now l = some loaded ∧
    served.version = servedVersion loaded (askedVersion version) ∧ served.language = l ∧
    ∃ first origin, firstAsked now (served.version, l) = some first ∧
      heldTable first l = some origin ∧
      served = Taxonomy.project origin served.version l ∧
      (served = Taxonomy.project loaded served.version l ↔
        Taxonomy.project origin served.version l = Taxonomy.project loaded served.version l) ∧
      ((∀ v ∈ now.drop first.length, v.operation ≠ .clearTables) → origin = loaded) := by
  intro l now o served loaded
  obtain ⟨table, hheld, -, hlookup⟩ := get_served vs source version language
  have hstate : o.state = empty.run now := by rw [run_append]; rfl
  have hloaded : loaded = table := by
    show (o.state.table later l).answer = table
    rw [table_answer, hstate, tables_run, hheld]
    rfl
  -- what is served stands in the cache now, so it has the origin that the run gives its pair
  have hserved := lookup_run now (servedVersion table (askedVersion version), l)
  rw [hlookup, Option.map_some] at hserved
  obtain ⟨origin, horigin, hproject⟩ := Option.map_eq_some_iff.mp hserved.symm
  obtain ⟨first, hfirst, hthen⟩ := Option.bind_eq_some_iff.mp horigin
  have hversion : served.version = servedVersion table (askedVersion version) := by
    rw [← show _ = served from hproject]
    rfl
  have hlanguage : served.language = l := by
    rw [← show _ = served from hproject]
    rfl
  rw [hloaded, hversion]
  refine ⟨hheld, rfl, hlanguage, first, origin, hfirst, hthen, hproject.symm, ?_, fun hkeep => ?_⟩
  · rw [← show _ = served from hproject]
  · have hnow := heldTable_of_originTable hfirst horigin hkeep
    exact Option.some.inj (hnow.symm.trans hheld)

/-! ### A projection that outlives its table -/

/-- A source that offers one module for each language. -/
def oneModule : TableSource := fun _ => .ok "\x7b\"AQUA\": \x7b\x7d\x7d"

/-- Serving is not always coherent, `served` and `loaded` need not agree: where no table could be
had at first, forgetting the tables and loading one that is there by now does not bring its module
to the keywords. -/
theorem stale_projection_served :
    ¬ ∀ (vs : List Visit) (source later : TableSource) (version : Option String)
        (language : Option Language),
      let l := language.getD .fallback
      let o := (empty.run vs).get source version language
      let served := o.answer.taxonomy
      served = Taxonomy.project (o.state.table later l).answer served.version l := by
  intro h
  have hstale := h
    [⟨.ofTexts (.const none), .get (some "2024") (some .en)⟩, ⟨oneModule, .clearTables⟩]
    oneModule oneModule (some "2024") (some .en)
  exact absurd hstale (by decide +kernel)

end Cache

end DeckKeywords
