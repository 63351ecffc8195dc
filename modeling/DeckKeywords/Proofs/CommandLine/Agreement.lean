/-
DeckKeywords/Proofs/CommandLine/Agreement.lean

The actions agree with one another.  Each is a run of its own, which finds its
settings, resolves its deck and reads its table anew; but on the same files all
of them find the same.  So it is enough to know what one of them printed: a
resolution can be read off its printed form, `Resolution.eq_of_pretty`, and then
what the other actions print is what the keywords for this resolution say.

`Prints` and `Refuses` are about the runs of all command lines with JSON for an
action, of which there is at least one.  `prints_asking` and `refuses_asking` say
how they come out for an action that asks about keywords, given a single run with
the deck resolved.  `Tells` has the values that the actions print for a taxonomy,
with all their members, and `tells_keywords` goes through the actions; `Agrees`
compares what they print with each other and names no taxonomy.

Main result: `actions_agree`.
-/
import DeckKeywords.Proofs.CommandLine.Keywords
import DeckKeywords.Proofs.CommandLine.Words
import DeckKeywords.Proofs.Taxonomy.Json
import DeckKeywords.Proofs.Taxonomy.Lookups

namespace DeckKeywords

open Json (Tree Value)

/-! ### Printed resolutions -/

theorem Resolution.integral_toJson (r : Resolution) : r.toJson.Integral := by simp [toJson]

/-- Resolutions `r` and `r'` that are printed alike are the same. -/
theorem Resolution.eq_of_pretty {r r' : Resolution} (h : r.toJson.pretty = r'.toJson.pretty) :
    r = r' := by
  have hvalue := Json.pretty_inj r.integral_toJson r'.integral_toJson h
  simp only [toJson, Value.object.injEq, List.cons.injEq, Prod.mk.injEq, Value.text.injEq, true_and,
    and_true] at hvalue
  obtain ⟨hversion, hcode⟩ := hvalue
  rw [show r = ⟨r.version, r.language⟩ from rfl, hversion, Language.code_inj.mp hcode]

namespace CommandLine

/-! ### Runs with JSON -/

/-- The output `o` is what a run of a command line with JSON for the action `a` leaves behind. -/
def Leaves (files : FileSystem) (config : Path) (a : Action) (o : Output) : Prop :=
  ∃ words verbosity environment,
    Invocation.ofWords words = .ok ⟨config, verbosity, true, a⟩ ∧ o = run words files environment

/-- The output shows the value: the run succeeded, and what it printed is the value `v` over lines,
which is read as `v`. -/
structure Output.Shows (o : Output) (v : Value) : Prop where
  exitCode_eq : o.exitCode = 0
  printed_eq : o.printed = v.pretty ++ "\n"
  readBack : Json.Document.ofText o.printed = ⟨.ofValue v, false⟩

/-- The command lines with JSON for the action `a`, of which there is one, show the value `v`. -/
def Prints (files : FileSystem) (config : Path) (a : Action) (v : Value) : Prop :=
  (∃ o, Leaves files config a o) ∧ ∀ o, Leaves files config a o → o.Shows v

/-- The command lines with JSON for the action `a`, of which there is one, fail and print
nothing. -/
def Refuses (files : FileSystem) (config : Path) (a : Action) : Prop :=
  (∃ o, Leaves files config a o) ∧
    ∀ o, Leaves files config a o → o.exitCode ≠ 0 ∧ o.printed = ""

section

variable {files : FileSystem} {config : Path} {a : Action} {o : Output} {c : Config}
variable {deck : Option Path} {r : Resolution}

theorem printed_of_json? {ans : Answer} {v : Value} (h : ans.json? = some v) :
    ans.printed true = v.pretty ++ "\n" := by
  simp [Answer.printed, h]

theorem Leaves.exists_run (h : Leaves files config a o) :
    ∃ verbosity environment, o = Invocation.run ⟨config, verbosity, true, a⟩ files environment := by
  obtain ⟨words, verbosity, environment, hwords, rfl⟩ := h
  exact ⟨verbosity, environment, run_of_ofWords hwords files environment⟩

/-- If there is a command line for `a`, there is one for each other action `a'` about the same
deck. -/
theorem Leaves.exists_leaves {a' : Action} (h : Leaves files config a o) (hdeck : a'.deck? = a.deck?) :
    ∃ o', Leaves files config a' o' := by
  obtain ⟨words, verbosity, environment, hwords, -⟩ := h
  obtain ⟨hconfig, hne⟩ := writable_of_ofWords hwords
  have hwritable : Invocation.Writable ⟨config, verbosity, true, a'⟩ :=
    ⟨hconfig, fun p hp => hne p (hdeck ▸ hp)⟩
  obtain ⟨words', hwords'⟩ := (exists_words_iff _).mpr hwritable
  exact ⟨_, words', verbosity, environment, hwords', rfl⟩

/-- What printed the resolution `r` found settings `c`, and resolved the deck as printed. -/
theorem resolves_of_printed (h : Leaves files config (.resolve deck) o)
    (hprinted : o.printed = r.toJson.pretty ++ "\n") :
    ∃ c, Settled files config c ∧ Resolves c files deck r := by
  obtain ⟨verbosity, environment, rfl⟩ := h.exists_run
  have hsome : (Invocation.run ⟨config, verbosity, true, .resolve deck⟩ files environment).printed
      ≠ "" := by
    rw [hprinted]
    intro hempty
    simpa using congrArg String.toList hempty
  -- something was printed, so there were settings and the deck could be read
  by_cases hsettled : ∃ c, Settled files config c
  · obtain ⟨c, hc⟩ := hsettled
    refine ⟨c, hc, ?_⟩
    have hattempt : (Action.attempt ⟨config, verbosity, true, .resolve deck⟩ c files).value
        = (asking c files deck fun x => .ok (.resolution x.resolution)).value := rfl
    rcases resolves_or_unreadable c files deck with ⟨r', hr'⟩ | hdeck
    · obtain ⟨x, hresolution, -, hvalue⟩ := asking_of_resolves hr'
      obtain ⟨-, hprinted'⟩ := run_of_ok (hattempt.trans (hvalue _)) hc environment
      rw [hprinted, printed_of_json? rfl, hresolution] at hprinted'
      have hpretty : r.toJson.pretty = r'.toJson.pretty := by
        have hchars := congrArg String.toList hprinted'
        rw [String.toList_append, String.toList_append] at hchars
        exact String.toList_inj.mp (List.append_cancel_right hchars)
      rwa [Resolution.eq_of_pretty hpretty]
    · obtain ⟨f, hf⟩ := asking_of_unreadable (c := c) hdeck fun x => .ok (.resolution x.resolution)
      exact absurd (run_of_error (hattempt.trans hf) hc environment).2 hsome
  · exact absurd (run_of_unsettled (not_exists.mp hsettled) environment).2 hsome

/-- An action `a` whose `question` has an answer for the keywords prints it. -/
theorem prints_asking {question : Context → Except Failure Answer} {v : Value}
    (hleaves : ∃ o, Leaves files config a o) (hsettled : Settled files config c)
    (hresolves : Resolves c files deck r)
    (hattempt : ∀ verbosity,
      Action.attempt ⟨config, verbosity, true, a⟩ c files = asking c files deck question)
    (hquestion : ∀ x, keywordsOf x = c.keywords files r →
      ∃ ans, question x = .ok ans ∧ ans.json? = some v)
    (hintegral : v.Integral) :
    Prints files config a v := by
  refine ⟨hleaves, fun o ho => ?_⟩
  obtain ⟨verbosity, environment, rfl⟩ := ho.exists_run
  obtain ⟨x, -, hkeywords, hvalue⟩ := asking_of_resolves hresolves
  obtain ⟨ans, hanswer, hjson⟩ := hquestion x hkeywords
  have hattempted : (Action.attempt ⟨config, verbosity, true, a⟩ c files).value = .ok ans := by
    rw [hattempt, hvalue, hanswer]
  obtain ⟨hcode, hprinted⟩ := run_of_ok hattempted hsettled environment
  have hpretty := hprinted.trans (printed_of_json? hjson)
  exact ⟨hcode, hpretty, by rw [hpretty, Json.ofText_pretty hintegral]⟩

/-- An action `a` whose `question` has no answer for the keywords is refused. -/
theorem refuses_asking {question : Context → Except Failure Answer}
    (hleaves : ∃ o, Leaves files config a o) (hsettled : Settled files config c)
    (hresolves : Resolves c files deck r)
    (hattempt : ∀ verbosity,
      Action.attempt ⟨config, verbosity, true, a⟩ c files = asking c files deck question)
    (hquestion : ∀ x, keywordsOf x = c.keywords files r → ∃ f, question x = .error f) :
    Refuses files config a := by
  refine ⟨hleaves, fun o ho => ?_⟩
  obtain ⟨verbosity, environment, rfl⟩ := ho.exists_run
  obtain ⟨x, -, hkeywords, hvalue⟩ := asking_of_resolves hresolves
  obtain ⟨f, herror⟩ := hquestion x hkeywords
  have hattempted : (Action.attempt ⟨config, verbosity, true, a⟩ c files).value = .error f := by
    rw [hattempt, hvalue, herror]
  obtain ⟨hcode, hprinted⟩ := run_of_error hattempted hsettled environment
  exact ⟨by rw [hcode]; decide, hprinted⟩

/-! ### What the actions say -/

/-- The actions that ask about keywords for the `deck` say what is true of the taxonomy `t`: they
print its listings, its parameters, its hits and matches, and the counts of its listings. -/
structure Tells (files : FileSystem) (config : Path) (deck : Option Path) (t : Taxonomy) : Prop where
  modules : Prints files config (.modules deck) (.array (t.moduleNames.map .text))
  commands : ∀ m,
    Prints files config (.commands m deck) (.array ((t.commandNames m).map .text))
  params : ∀ m command ps, t.params? m command = some ps →
    Prints files config (.params m command deck) (.object (ParamMap.members ps))
  no_params : ∀ m command, t.params? m command = none →
    Refuses files config (.params m command deck)
  enums : ∀ m command param values, t.allowed? m command param = some values →
    Prints files config (.enums m command param deck) (allowedValue values)
  no_enums : ∀ m command param, t.allowed? m command param = none →
    Refuses files config (.enums m command param deck)
  search : ∀ term, Prints files config (.search term deck)
    (.array ((t.search term).map fun hit => .object hit.members))
  validate_command : ∀ word m command ps, t.validate word = some (.command m command ps) →
    Prints files config (.validate word deck)
      (.object [("kind", .text "command"), ("module", .text m), ("command", .text command),
        ("params", .object (ParamMap.members ps))])
  validate_param : ∀ word m command param values,
    t.validate word = some (.param m command param values) →
    Prints files config (.validate word deck)
      (.object [("kind", .text "param"), ("module", .text m), ("command", .text command),
        ("param", .text param), ("values", allowedValue values)])
  no_validate : ∀ word, t.validate word = none →
    Prints files config (.validate word deck) .null
  stats : Prints files config (.stats deck)
    (.object [("modules", .nat t.moduleNames.length),
      ("commands", .nat (t.moduleNames.map fun m => (t.commandNames m).length).sum),
      ("params", .nat (t.moduleNames.map fun m =>
        ((t.commandNames m).map fun command => (t.paramNames m command).length).sum).sum),
      ("per_module", .object (t.moduleNames.map fun m =>
        (m, .object [("commands", .nat (t.commandNames m).length),
          ("params", .nat ((t.commandNames m).map fun command =>
            (t.paramNames m command).length).sum)])))])

theorem tells_keywords (hleaves : Leaves files config (.resolve deck) o)
    (hsettled : Settled files config c) (hresolves : Resolves c files deck r) :
    Tells files config deck (c.keywords files r) := by
  -- as there is a command line for the resolution, there is one for each action about the deck, and
  -- its question is answered from the keywords for that resolution
  have hprints : ∀ {a : Action} {question : Context → Except Failure Answer} {v : Value},
      a.deck? = deck →
      (∀ n, Action.attempt ⟨config, n, true, a⟩ c files = asking c files deck question) →
      (∀ x, keywordsOf x = c.keywords files r → ∃ ans, question x = .ok ans ∧ ans.json? = some v) →
      v.Integral → Prints files config a v := fun hdeck =>
    prints_asking (hleaves.exists_leaves hdeck) hsettled hresolves
  have hrefuses : ∀ {a : Action} {question : Context → Except Failure Answer}, a.deck? = deck →
      (∀ n, Action.attempt ⟨config, n, true, a⟩ c files = asking c files deck question) →
      (∀ x, keywordsOf x = c.keywords files r → ∃ f, question x = .error f) →
      Refuses files config a := fun hdeck =>
    refuses_asking (hleaves.exists_leaves hdeck) hsettled hresolves
  -- a word is validated by one action, whatever comes out
  have hvalidates : ∀ word, Prints files config (.validate word deck)
      (Validation.toJson ((c.keywords files r).validate word)) := fun word =>
    hprints rfl (fun _ => rfl) (fun x hx => ⟨_, by rw [hx], rfl⟩) (Validation.integral_toJson _)
  constructor
  case modules =>
    exact hprints rfl (fun _ => rfl) (fun x hx => ⟨_, by rw [hx], rfl⟩) (Value.integral_texts _)
  case commands =>
    intro m
    exact hprints rfl (fun _ => rfl) (fun x hx => ⟨_, by rw [hx], rfl⟩) (Value.integral_texts _)
  -- parameters and values are printed if the command or the parameter is there, and refused if not
  case params =>
    intro m command ps hps
    rw [← ParamMap.toJson_eq]
    exact hprints rfl (fun _ => rfl) (fun x hx => ⟨.params ps, by simp only [hx, hps], rfl⟩)
      ps.integral_toJson
  case no_params =>
    intro m command hnone
    exact hrefuses rfl (fun _ => rfl) fun x hx => ⟨_, by simp only [hx, hnone]; rfl⟩
  case enums =>
    intro m command param values hvalues
    exact hprints rfl (fun _ => rfl)
      (fun x hx => ⟨.values values, by simp only [hx, hvalues], by simp [Answer.json?]⟩)
      (integral_allowedValue values)
  case no_enums =>
    intro m command param hnone
    exact hrefuses rfl (fun _ => rfl) fun x hx => ⟨_, by simp only [hx, hnone]; rfl⟩
  case search =>
    intro term
    rw [← Hit.listJson_eq]
    exact hprints rfl (fun _ => rfl) (fun x hx => ⟨_, by rw [hx], rfl⟩) (Hit.integral_listJson _)
  case validate_command =>
    intro word m command ps hvalid
    have h := hvalidates word
    rw [hvalid, Validation.toJson, ParamMap.toJson_eq] at h
    exact h
  case validate_param =>
    intro word m command param values hvalid
    have h := hvalidates word
    rw [hvalid, Validation.toJson, allowedJson_eq] at h
    exact h
  case no_validate =>
    intro word hnone
    have h := hvalidates word
    rw [hnone] at h
    exact h
  -- the counts are made from the entries, and stated of the listings
  case stats =>
    have h := hprints (a := .stats deck) rfl (fun _ => rfl) (fun x hx => ⟨_, by rw [hx], rfl⟩)
      (c.keywords files r).statistics.integral_toJson
    rw [Taxonomy.statistics_toJson] at h
    exact h

/-! ### What follows -/

/-- What the actions print for the deck agrees: with `ms` for the modules, with `cs m` for the
commands of a module, and with `ps m command` for the parameters of a command.  Parameters are
printed for just those commands that are printed, values for just those keys that are printed, as
they are printed there, and the counts are those of what is printed. -/
structure Agrees (files : FileSystem) (config : Path) (deck : Option Path) (ms : List String)
    (cs : String → List String) (ps : String → String → List (String × Value)) : Prop where
  modules : Prints files config (.modules deck) (.array (ms.map .text))
  commands : ∀ m, Prints files config (.commands m deck) (.array ((cs m).map .text))
  params : ∀ m command, command ∈ cs m →
    Prints files config (.params m command deck) (.object (ps m command))
  no_params : ∀ m command, command ∉ cs m → Refuses files config (.params m command deck)
  enums : ∀ m command param v, command ∈ cs m → (param, v) ∈ ps m command →
    Prints files config (.enums m command param deck) v
  no_enums : ∀ m command param, (command ∈ cs m → ∀ v, (param, v) ∉ ps m command) →
    Refuses files config (.enums m command param deck)
  stats : Prints files config (.stats deck)
    (.object [("modules", .nat ms.length),
      ("commands", .nat (ms.map fun m => (cs m).length).sum),
      ("params", .nat (ms.map fun m => ((cs m).map fun command => (ps m command).length).sum).sum),
      ("per_module", .object (ms.map fun m =>
        (m, .object [("commands", .nat (cs m).length),
          ("params", .nat ((cs m).map fun command => (ps m command).length).sum)])))])

namespace Tells

variable {t : Taxonomy} (h : Tells files config deck t)
include h

/-- Parameters are printed for a `command` exactly if it is listed in `m`. -/
theorem params_iff {m command : String} (ho : Leaves files config (.params m command deck) o) :
    o.exitCode = 0 ↔ command ∈ t.commandNames m := by
  rw [Taxonomy.mem_commandNames_iff]
  rcases hps : t.params? m command with - | ps
  · exact iff_of_false ((h.no_params m command hps).2 o ho).1 (by simp)
  · exact iff_of_true ((h.params m command ps hps).2 o ho).exitCode_eq rfl

/-- Values are printed for a `param` exactly if it is a key of the parameters `ps`, and just those
that stand there. -/
theorem enums_iff {m command param : String}
    (ho : Leaves files config (.enums m command param deck) o) :
    o.exitCode = 0 ↔ ∃ ps, t.params? m command = some ps ∧ ∃ values, (param, values) ∈ ps.entries ∧
      o.Shows (allowedValue values) := by
  rcases hvalues : t.allowed? m command param with - | values
  · refine iff_of_false ((h.no_enums m command param hvalues).2 o ho).1 ?_
    rintro ⟨ps, hps, values, hmem, -⟩
    rw [Taxonomy.allowed?, hps, Option.bind_some, OrderedMap.mem_entries_iff.mp hmem] at hvalues
    cases hvalues
  · have hshows := (h.enums m command param values hvalues).2 o ho
    obtain ⟨ps, hps, hget⟩ := Option.bind_eq_some_iff.mp hvalues
    exact iff_of_true hshows.exitCode_eq
      ⟨ps, hps, values, OrderedMap.mem_entries_iff.mpr hget, hshows⟩

/-- Actions that say what is true of one taxonomy `t` agree with one another. -/
theorem agrees : Agrees files config deck t.moduleNames t.commandNames t.members where
  modules := h.modules
  commands := h.commands
  params m command hcommand := by
    obtain ⟨ps, hps⟩ := Option.isSome_iff_exists.mp (Taxonomy.mem_commandNames_iff.mp hcommand)
    have hprints := h.params m command ps hps
    rwa [Taxonomy.members, hps]
  no_params m command hcommand := by
    rw [Taxonomy.mem_commandNames_iff, Option.not_isSome_iff_eq_none] at hcommand
    exact h.no_params m command hcommand
  enums m command param v _ hmem := by
    obtain ⟨values, hvalues, rfl⟩ := Taxonomy.mem_members_iff.mp hmem
    exact h.enums m command param values hvalues
  no_enums m command param habsent := by
    refine h.no_enums m command param (Option.eq_none_iff_forall_ne_some.mpr fun values hvalues => ?_)
    -- what allows values is a parameter of a command that is listed
    have hcommand : command ∈ t.commandNames m := Taxonomy.mem_commandNames_iff.mpr
      (Option.isSome_of_isSome_bind (Option.isSome_of_eq_some hvalues))
    exact habsent hcommand _ (Taxonomy.mem_members_iff.mpr ⟨values, hvalues, rfl⟩)
  stats := by
    simp only [Taxonomy.length_members]
    exact h.stats

end Tells

/-- **The actions agree on the keywords.**  If a run of `resolve` printed the version and the
language of `r` for a deck, then on the same files every other action is about one taxonomy `t`: the
table of the language as it lies there, empty if it cannot be read, seen from the version if the
table lists it, and else from the fallback of the table.  `Tells` is what they print for `t`, and by
`Agrees` parameters are printed for just those commands that are printed, values for just those keys
that are printed as parameters, and as they are printed there, and the counts are those of the
listings. -/
theorem actions_agree (hleaves : Leaves files config (.resolve deck) o)
    (hprinted : o.printed = (Value.object [("version", .text r.version),
      ("language", .text r.language.code)]).pretty ++ "\n") :
    ∃ c, Settled files config c ∧
      let table := (c.surroundings files).tables.offered r.language
      let served :=
        if r.version ∈ table.versions.versions then r.version else table.versions.fallback
      let t := Taxonomy.project table served r.language
      Tells files config deck t ∧
      Agrees files config deck t.moduleNames t.commandNames t.members ∧
      (∀ m command o, Leaves files config (.params m command deck) o →
        (o.exitCode = 0 ↔ command ∈ t.commandNames m)) ∧
      (∀ m command param o, Leaves files config (.enums m command param deck) o →
        (o.exitCode = 0 ↔ ∃ ps, t.params? m command = some ps ∧ ∃ values,
          (param, values) ∈ ps.entries ∧ o.Shows (allowedValue values))) ∧
      Taxonomy.Counts t.statistics t := by
  obtain ⟨c, hsettled, hresolves⟩ := resolves_of_printed hleaves hprinted
  have htells := tells_keywords hleaves hsettled hresolves
  exact ⟨c, hsettled, htells, htells.agrees, fun m command o ho => htells.params_iff ho,
    fun m command param o ho => htells.enums_iff ho, Taxonomy.counts_statistics _⟩

end

/-- A deck is for a version that the `table` does not list, and its keywords are those of the
fallback.  The command `node` has two parameters, one with a list and one without, and the fallback
does not know the other command. -/
theorem unlisted_version_answered :
    let table := "\x7b\"_meta\":\x7b\"versions\":[\"2024\",\"2025\"],\"default\":\"2024\"\x7d," ++
      "\"AQUA\":\x7b\"BEAM\":\x7b\"version\":\"2025\"\x7d," ++
      "\"NODE\":\x7b\"version\":\"2024\",\"params\":\x7b\"FIX\":[\"PP\"],\"NO\":null\x7d\x7d\x7d\x7d"
    let files := FileSystem.ofFindings
      [(⟨"deck.dat"⟩, .ok "@ SOFiSTiK 2022 DE"), (⟨"assets/keywords_de.json"⟩, .ok table)]
    let config : Path := ⟨"sofkey.toml"⟩
    let deck : Option Path := some ⟨"deck.dat"⟩
    let node : List (String × Value) := [("FIX", .array [.text "PP"]), ("NO", .null)]
    ∃ o, Leaves files config (.resolve deck) o ∧
      o.printed = (Value.object [("version", .text "2022"), ("language", .text "de")]).pretty ++ "\n" ∧
      Prints files config (.modules deck) (.array [.text "AQUA"]) ∧
      Prints files config (.commands "AQUA" deck) (.array [.text "NODE"]) ∧
      Prints files config (.params "AQUA" "NODE" deck) (.object node) ∧
      Refuses files config (.params "AQUA" "BEAM" deck) ∧
      Prints files config (.enums "AQUA" "NODE" "FIX" deck) (.array [.text "PP"]) ∧
      Prints files config (.enums "AQUA" "NODE" "NO" deck) .null ∧
      Refuses files config (.enums "AQUA" "NODE" "PP" deck) ∧
      Prints files config (.search "fix" deck) (.array [.object [("kind", .text "param"),
        ("module", .text "AQUA"), ("command", .text "NODE"), ("param", .text "FIX")]]) ∧
      Prints files config (.validate "node" deck) (.object [("kind", .text "command"),
        ("module", .text "AQUA"), ("command", .text "NODE"), ("params", .object node)]) ∧
      Prints files config (.validate "beam" deck) .null ∧
      Prints files config (.stats deck) (.object [("modules", .nat 1), ("commands", .nat 1),
        ("params", .nat 2), ("per_module", .object [("AQUA",
          .object [("commands", .nat 1), ("params", .nat 2)])])]) := by
  intro table files config deck node
  have hleaves : Leaves files config (.resolve deck) (run ["--json", "resolve", "deck.dat"] files none) :=
    ⟨["--json", "resolve", "deck.dat"], 0, none, by decide +kernel, rfl⟩
  have hprinted : (run ["--json", "resolve", "deck.dat"] files none).printed
      = (Value.object [("version", .text "2022"), ("language", .text "de")]).pretty ++ "\n" := by
    decide +kernel
  obtain ⟨c, hsettled, htells, -⟩ := actions_agree (r := ⟨"2022", .de⟩) hleaves hprinted
  -- there is no file of settings, so the default ones count
  obtain rfl := hsettled.unique (.missing rfl)
  let ps : ParamMap := .ofList [("FIX", some ["PP"]), ("NO", none)]
  let t : Taxonomy := ⟨"2024", .de, .ofList [("AQUA", .ofList [("NODE", ps)])]⟩
  have hkeywords : Config.default.keywords files ⟨"2022", .de⟩ = t := by decide +kernel
  replace htells : Tells files config deck t := hkeywords ▸ htells
  have hsearch : t.search "fix" = [.param "AQUA" "NODE" "FIX"] := by decide +kernel
  have hvalidate : t.validate "node" = some (.command "AQUA" "NODE" ps) := by decide +kernel
  have hfix := htells.search "fix"
  rw [hsearch] at hfix
  exact ⟨_, hleaves, hprinted, htells.modules, htells.commands "AQUA", htells.params _ _ ps rfl,
    htells.no_params _ _ rfl, htells.enums _ _ _ (some ["PP"]) rfl, htells.enums _ _ _ none rfl,
    htells.no_enums _ _ _ rfl, hfix, htells.validate_command _ _ _ ps hvalidate,
    htells.no_validate _ (by decide +kernel), htells.stats⟩

end CommandLine
end DeckKeywords
