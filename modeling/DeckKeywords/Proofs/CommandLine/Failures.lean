/-
DeckKeywords/Proofs/CommandLine/Failures.lean

When a run of the program fails.  Either its settings are not in order, or its
action is refused, and an action is refused for three reasons only: its deck
cannot be read, the language that it names is none, or the keyword that it names
is missing.  Keyword tables come in with the last reason alone, so no other
action can fail because of them.

A question about keywords is asked of a context, and the context is there if the
deck can be read.  `error_asking_iff` says this once for all the actions that ask,
`error_attempt_iff` goes through the actions, and `run_fails_iff` through the run.
-/
import DeckKeywords.Proofs.CommandLine.Keywords
import DeckKeywords.Proofs.CommandLine.Words

namespace DeckKeywords.CommandLine

variable {c : Config} {files files' : FileSystem} {deck : Option Path} {inv : Invocation}

/-! ### Refused actions -/

/-- With the settings `c` the action is refused, on these `files`. -/
inductive Refused (c : Config) (files : FileSystem) : Action → Prop where
  | deck {a : Action} (hdeck : Unreadable files a.deck?) : Refused c files a
  | language {name : String} (hname : Language.ofName? name = none) :
    Refused c files (.versions (some name))
  | params {m command : String} {deck : Option Path} {r : Resolution}
    (hresolves : Resolves c files deck r)
    (habsent : (c.keywords files r).params? m command = none) :
    Refused c files (.params m command deck)
  | enums {m command param : String} {deck : Option Path} {r : Resolution}
    (hresolves : Resolves c files deck r)
    (habsent : (c.keywords files r).allowed? m command param = none) :
    Refused c files (.enums m command param deck)

/-- A `question` that has no answer for keywords with `P` has none for a `deck` that is
`Unreadable`, or that is for such keywords. -/
theorem error_asking_iff {question : Context → Except Failure Answer} {P : Taxonomy → Prop}
    (hquestion : ∀ x, (∃ f, question x = .error f) ↔ P (keywordsOf x)) :
    (∃ f, (asking c files deck question).value = .error f) ↔
      Unreadable files deck ∨ ∃ r, Resolves c files deck r ∧ P (c.keywords files r) := by
  have hasked : ∀ {r}, Resolves c files deck r →
      ((∃ f, (asking c files deck question).value = .error f) ↔ P (c.keywords files r)) := by
    intro r hr
    obtain ⟨x, -, hkeywords, hvalue⟩ := asking_of_resolves hr
    rw [hvalue, hquestion, hkeywords]
  constructor
  · intro herror
    rcases resolves_or_unreadable c files deck with ⟨r, hr⟩ | hdeck
    · exact .inr ⟨r, hr, (hasked hr).mp herror⟩
    · exact .inl hdeck
  · rintro (hdeck | ⟨r, hr, hP⟩)
    · exact asking_of_unreadable hdeck question
    · exact (hasked hr).mpr hP

/-- A `question` that always has an answer is refused for an `Unreadable` deck only. -/
theorem error_asking_iff_of_total {question : Context → Except Failure Answer}
    (htotal : ∀ x, ∃ a, question x = .ok a) :
    (∃ f, (asking c files deck question).value = .error f) ↔ Unreadable files deck := by
  rw [error_asking_iff (P := fun _ => False)]
  · simp
  · intro x
    obtain ⟨a, ha⟩ := htotal x
    simp [ha]

/-- An action of `inv` that asks a `question` which always has an answer is `Refused` for its deck
only. -/
theorem error_attempt_iff_of_total {question : Context → Except Failure Answer}
    (hattempt : Action.attempt inv c files = asking c files inv.action.deck? question)
    (htotal : ∀ x, ∃ a, question x = .ok a)
    (hdeck : Refused c files inv.action → Unreadable files inv.action.deck?) :
    (∃ f, (Action.attempt inv c files).value = .error f) ↔ Refused c files inv.action := by
  rw [hattempt, error_asking_iff_of_total htotal]
  exact ⟨.deck, hdeck⟩

theorem not_unreadable_none : ¬Unreadable files none := by
  rintro ⟨path, hpath, -⟩
  cases hpath

/-- The attempts that come to nothing are those at actions that are `Refused`. -/
theorem error_attempt_iff :
    (∃ f, (Action.attempt inv c files).value = .error f) ↔ Refused c files inv.action := by
  obtain ⟨config, verbosity, json, action⟩ := inv
  cases action with
  -- these have an answer for all keywords, empty ones included
  | resolve | modules | commands | search | validate | stats =>
    exact error_attempt_iff_of_total rfl (fun x => ⟨_, rfl⟩) (by rintro ⟨hdeck⟩; exact hdeck)
  | config showAll =>
    cases showAll <;> refine iff_of_false (by rintro ⟨f, ⟨⟩⟩) ?_ <;> rintro ⟨hdeck⟩
    · exact not_unreadable_none hdeck
    · exact not_unreadable_none hdeck
  | versions name =>
    show (∃ f, (versionsFor c files name).value = .error f) ↔ _
    rcases name with - | name
    · refine iff_of_false (by rintro ⟨f, ⟨⟩⟩) ?_
      rintro ⟨hdeck⟩
      exact not_unreadable_none hdeck
    · rcases hname : Language.ofName? name with - | l
      · rw [versionsFor, hname]
        exact ⟨fun _ => .language hname, fun _ => ⟨_, rfl⟩⟩
      · refine iff_of_false (by rw [versionsFor, hname]; rintro ⟨f, ⟨⟩⟩) ?_
        rintro (hdeck | hnot)
        · exact not_unreadable_none hdeck
        · rw [hname] at hnot
          cases hnot
  | params m command deck =>
    show (∃ f, (asking c files deck _).value = .error f) ↔ _
    rw [error_asking_iff (P := fun t => t.params? m command = none)]
    · constructor
      · rintro (hdeck | ⟨r, hr, habsent⟩)
        · exact .deck hdeck
        · exact .params hr habsent
      · rintro (hdeck | - | ⟨hr, habsent⟩)
        · exact .inl hdeck
        · exact .inr ⟨_, hr, habsent⟩
    · intro x
      rcases (keywordsOf x).params? m command with - | ps <;> simp
  | enums m command param deck =>
    show (∃ f, (asking c files deck _).value = .error f) ↔ _
    rw [error_asking_iff (P := fun t => t.allowed? m command param = none)]
    · constructor
      · rintro (hdeck | ⟨r, hr, habsent⟩)
        · exact .deck hdeck
        · exact .enums hr habsent
      · rintro (hdeck | - | - | ⟨hr, habsent⟩)
        · exact .inl hdeck
        · exact .inr ⟨_, hr, habsent⟩
    · intro x
      rcases (keywordsOf x).allowed? m command param with - | vs <;> simp

/-! ### Runs that fail -/

/-- The settings at `config` are not in order, or the action `a` is refused with them. -/
inductive Fails (files : FileSystem) (config : Path) (a : Action) : Prop where
  | settings (hpresent : files.present config) (hwrong : ∀ c, ¬Loads files config c)
  | action {c : Config} (hsettled : Settled files config c) (hrefused : Refused c files a)

theorem fails_of_unsettled {config : Path} {a : Action} (h : ∀ c, ¬Settled files config c) :
    Fails files config a := by
  have hpresent : files.present config := by
    by_contra habsent
    exact h _ (.missing (Bool.eq_false_of_not_eq_true habsent))
  exact .settings hpresent fun c hloads => h c (.loaded hpresent hloads)

theorem fails_iff_of_settled {config : Path} {a : Action} (h : Settled files config c) :
    Fails files config a ↔ Refused c files a := by
  refine ⟨?_, .action h⟩
  rintro (⟨hpresent, hwrong⟩ | ⟨hsettled, hrefused⟩)
  · cases h with
    | missing habsent =>
      rw [hpresent] at habsent
      cases habsent
    | loaded _ hloads => exact absurd hloads (hwrong c)
  · rwa [h.unique hsettled]

/-- A run of `inv` prints nothing if it fails, and it fails if `Fails` says so. -/
theorem run_cases (inv : Invocation) (files : FileSystem) (environment : Option String) :
    let o := inv.run files environment
    (o.exitCode = 0 ∧ ¬Fails files inv.config inv.action) ∨
      (o.exitCode = 1 ∧ o.printed = "" ∧ Fails files inv.config inv.action) := by
  intro o
  by_cases hsettled : ∃ c, Settled files inv.config c
  · obtain ⟨c, hc⟩ := hsettled
    rw [fails_iff_of_settled hc, ← error_attempt_iff]
    rcases hvalue : (Action.attempt inv c files).value with f | a
    · obtain ⟨hcode, hprinted⟩ := run_of_error hvalue hc environment
      exact .inr ⟨hcode, hprinted, f, rfl⟩
    · exact .inl ⟨(run_of_ok hvalue hc environment).1, by rintro ⟨f, ⟨⟩⟩⟩
  · have hnone := not_exists.mp hsettled
    obtain ⟨hcode, hprinted⟩ := run_of_unsettled hnone environment
    exact .inr ⟨hcode, hprinted, fails_of_unsettled hnone⟩

theorem exitCode_ne_zero_iff (environment : Option String) :
    (inv.run files environment).exitCode ≠ 0 ↔ Fails files inv.config inv.action := by
  rcases run_cases inv files environment with ⟨hcode, hnot⟩ | ⟨hcode, -, hfails⟩
  · exact iff_of_false (absurd hcode) hnot
  · exact iff_of_true (by rw [hcode]; decide) hfails

/-! ### What does not matter -/

/-- The action names a keyword that has to be there, as `params` and `enums` do. -/
def Action.NamesKeyword : Action → Prop
  | .params _ _ _ | .enums _ _ _ _ => True
  | _ => False

/-- The file systems `files` and `files'` show the same settings and the same deck, whatever else
there is. -/
structure SameInput (files files' : FileSystem) (config : Path) (deck : Option Path) : Prop where
  present_eq : files.present config = files'.present config
  settings_eq : files.read config = files'.read config
  deck_eq : ∀ path, deck = some path → files.read path = files'.read path

theorem SameInput.symm {config : Path} (h : SameInput files files' config deck) :
    SameInput files' files config deck :=
  ⟨h.present_eq.symm, h.settings_eq.symm, fun path hpath => (h.deck_eq path hpath).symm⟩

theorem SameInput.loads {config : Path} (h : SameInput files files' config deck)
    (hc : Loads files config c) : Loads files' config c := by
  rwa [Loads, ← h.settings_eq]

theorem SameInput.fails {config : Path} {a : Action} (h : SameInput files files' config a.deck?)
    (ha : ¬a.NamesKeyword) (hfails : Fails files config a) : Fails files' config a := by
  rcases hfails with ⟨hpresent, hwrong⟩ | @⟨c, hsettled, hrefused⟩
  · exact .settings (h.present_eq ▸ hpresent) fun c hc => hwrong c (h.symm.loads hc)
  · have hsettled' : Settled files' config c := by
      cases hsettled with
      | missing habsent => exact .missing (h.present_eq ▸ habsent)
      | loaded hpresent hloads => exact .loaded (h.present_eq ▸ hpresent) (h.loads hloads)
    refine .action hsettled' ?_
    cases hrefused with
    | deck hdeck =>
      obtain ⟨path, hpath, hread⟩ := hdeck
      exact .deck ⟨path, hpath, fun text htext => hread text (h.deck_eq path hpath ▸ htext)⟩
    | language hname => exact .language hname
    | params => exact absurd trivial ha
    | enums => exact absurd trivial ha

/-- **When a run fails**, for each well-formed command line: `Fails` if the file of settings is
there and is not right, or if the action is refused, and then nothing is `printed`.  For each value
of `json` there are `words'` that say the same otherwise, and all of them fail alike.  And only an
action that `NamesKeyword` can fail because of the tables: any other does the same on `files'` with
the `SameInput`. -/
theorem run_fails_iff {words : List String} {inv : Invocation}
    (hwords : Invocation.ofWords words = .ok inv) (files : FileSystem)
    (environment : Option String) :
    let o := run words files environment
    (o.exitCode ≠ 0 ↔ Fails files inv.config inv.action) ∧
    (o.exitCode ≠ 0 → o.printed = "") ∧
    (∀ json, (∃ words', Invocation.ofWords words' = .ok { inv with json }) ∧
      ∀ words' environment', Invocation.ofWords words' = .ok { inv with json } →
        ((run words' files environment').exitCode ≠ 0 ↔ o.exitCode ≠ 0)) ∧
    (¬inv.action.NamesKeyword → ∀ files', SameInput files files' inv.config inv.action.deck? →
      ((run words files' environment).exitCode ≠ 0 ↔ o.exitCode ≠ 0)) := by
  intro o
  have ho : o = inv.run files environment := run_of_ofWords hwords files environment
  rw [ho]
  refine ⟨exitCode_ne_zero_iff environment, fun hcode => ?_, fun json => ⟨?_, ?_⟩, ?_⟩
  · rcases run_cases inv files environment with ⟨hzero, -⟩ | ⟨-, hprinted, -⟩
    · exact absurd hzero hcode
    · exact hprinted
  -- JSON is a word of its own, so it can be written or left out whatever else is written
  · obtain ⟨hconfig, hdeck⟩ := writable_of_ofWords hwords
    exact (exists_words_iff _).mpr ⟨hconfig, hdeck⟩
  · intro words' environment' hwords'
    rw [run_of_ofWords hwords', exitCode_ne_zero_iff, exitCode_ne_zero_iff]
  · intro hkeyword files' hsame
    rw [run_of_ofWords hwords, exitCode_ne_zero_iff, exitCode_ne_zero_iff]
    exact ⟨hsame.symm.fails hkeyword, hsame.fails hkeyword⟩

/-- The `words` ask for a command that no table has: they are refused, and nothing is printed. -/
theorem absent_command_refused :
    let words := ["--json", "params", "AQUA", "NOPE"]
    let inv : Invocation := ⟨⟨"sofkey.toml"⟩, 0, true, .params "AQUA" "NOPE" none⟩
    let o := run words (.ofFindings []) none
    Invocation.ofWords words = .ok inv ∧ o.exitCode ≠ 0 ∧ o.printed = "" := by
  intro words inv o
  have hwords : Invocation.ofWords words = .ok inv := by decide +kernel
  have hfails : Fails (.ofFindings []) inv.config inv.action :=
    .action (.missing rfl) (.params ⟨none, .none, rfl⟩ (by decide +kernel))
  obtain ⟨hcode, hprinted, -, -⟩ := run_fails_iff hwords (.ofFindings []) none
  exact ⟨hwords, hcode.mpr hfails, hprinted (hcode.mpr hfails)⟩

end DeckKeywords.CommandLine
