/-
DeckKeywords/Proofs/CommandLine/Words.lean

What can be asked for in words.  An invocation has words of its own: its options
each in one word, then the name of its action, and its operands behind two
dashes, where none of them is taken for an option.  Reading these words gives the
invocation back, `ofWords_words`, unless the path of its settings or that of its
deck is empty.

Words cannot ask for an empty path.  To see this for all words, however they
are written, follow what has been read so far: all of it was given by one of the
options (`Keeps`, `Keeps.sound_readWords`), and what stands between options fits
at its place.

Main result: `exists_words_iff`.
-/
import DeckKeywords.CommandLine.Run
import DeckKeywords.Proofs.Json.Members
import DeckKeywords.Proofs.Text.Split

namespace DeckKeywords.CommandLine

/-! ### Invocations in words -/

/-- The name of an action. -/
def Action.name : Action → String
  | resolve _ => "resolve"
  | versions _ => "versions"
  | modules _ => "modules"
  | commands _ _ => "commands"
  | params _ _ _ => "params"
  | enums _ _ _ _ => "enums"
  | search _ _ => "search"
  | validate _ _ => "validate"
  | stats _ => "stats"
  | config _ => "config"

/-- The words that an action cannot do without, such as the module and the command of `params`. -/
def Action.needed : Action → List String
  | commands m _ => [m]
  | params m c _ => [m, c]
  | enums m c p _ => [m, c, p]
  | search term _ => [term]
  | validate word _ => [word]
  | resolve _ | versions _ | modules _ | stats _ | config _ => []

/-- Whether an action may be about a deck; `versions` and `config` are not. -/
def Action.isAboutDeck : Action → Bool
  | versions _ | config _ => false
  | _ => true

/-- The words behind the name of the action `a`, its deck last. -/
def Action.operands (a : Action) : List String := a.needed ++ a.deck?.toList.map Path.text

/-- The option `name` with its `value` in one word. -/
def valued (name value : String) : String := "--" ++ name ++ "=" ++ value

/-- The options of an action. -/
def Action.options : Action → List String
  | versions (some l) => [valued "language" l]
  | config true => ["--show"]
  | _ => []

/-- Words that ask for the invocation `inv`.  The operands stand behind two dashes, so that none of
them is taken for an option. -/
def Invocation.words (inv : Invocation) : List String :=
  valued "config" inv.config.text :: (List.replicate inv.verbosity "-v" ++
    ((if inv.json then ["--json"] else []) ++
      inv.action.name :: (inv.action.options ++ "--" :: inv.action.operands)))

/-! ### Reading words -/

section Reading

variable {specs : List OptionSpec} {between : Between} {g g' : Given} {count : Nat}
variable {rest : List String}

theorem readWords_cons (word : String) :
    readWords specs between (g, none) count (word :: rest) =
      match shapeOf word with
      | .separator => readPlain between g count rest
      | .long cs => do
        let progress ← readLong specs g cs
        readWords specs between progress count rest
      | .letters cs => do
        let progress ← readLetters specs g cs
        readWords specs between progress count rest
      | .plain =>
        match between with
        | .nothing => .ok ⟨g, [], word :: rest⟩
        | .words fits =>
          if fits count word then do
            let more ← readWords specs between (g, none) (count + 1) rest
            return { more with words := word :: more.words }
          else .error .usage :=
  readWords.eq_def specs between (g, none) count (word :: rest)

theorem shapeOf_valued {name value : String} (hne : name.toList ≠ []) :
    shapeOf (valued name value) = .long (name.toList ++ '=' :: value.toList) := by
  obtain ⟨c, cs, hcs⟩ := List.exists_cons_of_ne_nil hne
  simp [shapeOf, valued, String.toList_append, hcs]

/-- The option `o` with its `value` in one word is given. -/
theorem readWords_valued {o : OptionSpec} {name value : String}
    (hfind : specs.find? (·.name.toList = name.toList) = some o) (htakes : o.takesValue)
    (hname : '=' ∉ name.toList) (hne : name.toList ≠ []) (hgive : o.give value g = .ok g') :
    readWords specs between (g, none) count (valued name value :: rest)
      = readWords specs between (g', none) count rest := by
  have hlong : readLong specs g (name.toList ++ '=' :: value.toList) = .ok (g', none) := by
    rw [readLong, Text.splitFirst_append_cons hname]
    simp only [hfind, htakes, String.ofList_toList, hgive]
    rfl
  rw [readWords_cons, shapeOf_valued hne]
  simp only [hlong]
  rfl

theorem readWords_verbose (n : Nat) :
    readWords programOptions between (g, none) count (List.replicate n "-v" ++ rest)
      = readWords programOptions between (g ++ List.replicate n ("verbose", ""), none) count rest := by
  induction n generalizing g with
  | zero => simp
  | succ n ih =>
    have hletters : readLetters programOptions g ['v'] = .ok (g ++ [("verbose", "")], none) := rfl
    have hshape : shapeOf "-v" = .letters ['v'] := rfl
    rw [List.replicate_succ, List.cons_append, readWords_cons, hshape]
    simp only [hletters]
    show readWords _ _ _ _ _ = _
    rw [ih, List.append_assoc]
    rfl

/-- The option `o`, without a value, is given by its `name`. -/
theorem readWords_flag {o : OptionSpec} {name : String}
    (hfind : specs.find? (·.name.toList = name.toList) = some o) (hflag : o.takesValue = false)
    (hname : '=' ∉ name.toList) (hne : name.toList ≠ []) (hgive : o.give "" g = .ok g') :
    readWords specs between (g, none) count (("--" ++ name) :: rest)
      = readWords specs between (g', none) count rest := by
  have hshape : shapeOf ("--" ++ name) = .long name.toList := by
    obtain ⟨c, cs, hcs⟩ := List.exists_cons_of_ne_nil hne
    simp [shapeOf, String.toList_append, hcs]
  have hlong : readLong specs g name.toList = .ok (g', none) := by
    rw [readLong, Text.splitFirst_of_not_mem hname]
    simp only [hfind, hflag, hgive]
    rfl
  rw [readWords_cons, hshape]
  simp only [hlong]
  rfl

theorem shapeOf_name (a : Action) : shapeOf a.name = .plain := by
  cases a <;> simp [shapeOf, Action.name]

/-- What the words of the invocation `inv` give to the program. -/
def Invocation.given (inv : Invocation) : Given :=
  [("config", inv.config.text)] ++ List.replicate inv.verbosity ("verbose", "") ++
    if inv.json then [("json", "")] else []

/-- The options of the program are read from `inv.words` up to the name of the action. -/
theorem readWords_program {inv : Invocation} (h : inv.config.text ≠ "") :
    readWords programOptions .nothing ([], none) 0 inv.words = .ok ⟨inv.given, [],
      inv.action.name :: (inv.action.options ++ "--" :: inv.action.operands)⟩ := by
  have hgive : OptionSpec.give ⟨"config", some 'c', .value false⟩ inv.config.text []
      = .ok [("config", inv.config.text)] := by
    simp [OptionSpec.give, Given.has, h]
  have hplain : ∀ {g : Given} {rest : List String},
      readWords programOptions .nothing (g, none) 0 (inv.action.name :: rest)
        = .ok ⟨g, [], inv.action.name :: rest⟩ := by
    intro g rest
    rw [readWords_cons, shapeOf_name]
  rw [Invocation.words, readWords_valued rfl rfl (by decide) (by decide) hgive, readWords_verbose]
  rcases hjson : inv.json with - | -
  · simp [hplain, Invocation.given, hjson]
  · have hgive' : jsonOption.give "" ([("config", inv.config.text)] ++
        List.replicate inv.verbosity ("verbose", "")) = .ok inv.given := by
      simp [OptionSpec.give, jsonOption, Given.has, Invocation.given, hjson]
    show readWords _ _ _ _ (("--" ++ "json") :: _) = _
    rw [readWords_flag rfl rfl (by decide) (by decide) hgive']
    exact hplain

/-- What the words of an action give to it. -/
def Action.given : Action → Given
  | versions (some l) => [("language", l)]
  | config true => [("show", "")]
  | _ => []

/-- A `word` fits at the place `i` behind the name of the action `a` if the action needs it, or as
the path of its deck. -/
theorem wordFits_name (a : Action) (i : Nat) (word : String) : wordFits a.name i word
    = (i < a.needed.length || (a.isAboutDeck && i = a.needed.length && !word.isEmpty)) := by
  have hlookup : actionWords.lookup a.name = some (a.needed.length, a.isAboutDeck) := by
    cases a <;> rfl
  rw [wordFits, hlookup]

theorem isAboutDeck_of_deck? {a : Action} {p : Path} (h : a.deck? = some p) : a.isAboutDeck := by
  cases a <;> first | rfl | cases h

/-- The operands of the action `a` fit behind its name. -/
theorem wordFits_operands {a : Action} (h : ∀ p, a.deck? = some p → p.text ≠ "") :
    (a.operands.zipIdx 0).all fun (word, i) => wordFits a.name i word := by
  rw [Action.operands, List.zipIdx_append, List.all_append, Bool.and_eq_true]
  constructor
  · rw [List.all_eq_true]
    rintro ⟨word, i⟩ hmem
    simpa [wordFits_name] using .inl (by simpa using List.snd_lt_of_mem_zipIdx hmem)
  · rcases hdeck : a.deck? with - | p
    · rfl
    · simp [wordFits_name, isAboutDeck_of_deck? hdeck, h p hdeck]

/-- The words of the action `a` are read to their end. -/
theorem readWords_action {a : Action} (h : ∀ p, a.deck? = some p → p.text ≠ "") :
    readWords (actionOptions a.name) (.words (wordFits a.name)) ([], none) 0
      (a.options ++ "--" :: a.operands) = .ok ⟨a.given, a.operands, []⟩ := by
  -- behind the separator every word is an operand, also one that starts with a dash
  have hbehind : ∀ {g : Given}, readWords (actionOptions a.name) (.words (wordFits a.name))
      (g, none) 0 ("--" :: a.operands) = .ok ⟨g, a.operands, []⟩ := by
    intro g
    have hshape : shapeOf "--" = .separator := rfl
    rw [readWords_cons, hshape]
    simp only [readPlain, wordFits_operands h, if_true]
  cases a with
  | versions language =>
    rcases language with - | l
    · exact hbehind
    · have hgive : OptionSpec.give ⟨"language", some 'l', .value true⟩ l [] = .ok [("language", l)] := by
        simp [OptionSpec.give, Given.has]
      rw [Action.options, List.singleton_append,
        readWords_valued rfl rfl (by decide) (by decide) hgive]
      exact hbehind
  | config showAll =>
    cases showAll
    · exact hbehind
    · show readWords _ _ _ _ (("--" ++ "show") :: _) = _
      rw [readWords_flag (o := ⟨"show", none, .flag⟩) rfl rfl (by decide) (by decide) rfl]
      exact hbehind
  | resolve | modules | commands | params | enums | search | validate | stats => exact hbehind

end Reading

/-! ### Invocations that can be written -/

/-- Neither the path of the settings of `inv` nor that of its deck is empty. -/
structure Invocation.Writable (inv : Invocation) : Prop where
  config_ne : inv.config.text ≠ ""
  deck_ne : ∀ p, inv.action.deck? = some p → p.text ≠ ""

theorem of?_name (a : Action) : Action.of? a.name a.given a.operands = some a := by
  cases a with
  | versions language => rcases language with - | l <;> rfl
  | config showAll => cases showAll <;> rfl
  | resolve deck => rcases deck with - | p <;> rfl
  | modules deck => rcases deck with - | p <;> rfl
  | commands m deck => rcases deck with - | p <;> rfl
  | params m c deck => rcases deck with - | p <;> rfl
  | enums m c param deck => rcases deck with - | p <;> rfl
  | search term deck => rcases deck with - | p <;> rfl
  | validate word deck => rcases deck with - | p <;> rfl
  | stats deck => rcases deck with - | p <;> rfl

theorem ofWords_words {inv : Invocation} (h : inv.Writable) :
    Invocation.ofWords inv.words = .ok inv := by
  have hhelp : inv.action.name ≠ "help" := by
    cases inv.action <;> simp [Action.name]
  have hname : isActionName inv.action.name = true := by
    cases inv.action <;> simp [Action.name, isActionName, actionWords]
  have hconfig : inv.given.lookup "config" = some inv.config.text := rfl
  have hverbosity : inv.given.count "verbose" = inv.verbosity := by
    rcases hjson : inv.json with - | - <;>
      simp [Given.count, Invocation.given, hjson, List.countP_replicate]
  have hjson : (inv.given.has "json" || inv.action.given.has "json") = inv.json := by
    have hown : inv.action.given.has "json" = false := by
      rcases inv.action with - | (- | l) | - | - | - | - | - | - | - | (- | -) <;> rfl
    rw [hown, Bool.or_false]
    rcases hjson : inv.json with - | - <;> simp [Given.has, Invocation.given, hjson]
  rw [Invocation.ofWords, readWords_program h.config_ne]
  show (if inv.action.name = "help" then _ else _) = _
  rw [if_neg hhelp, hname]
  show (readWords (actionOptions inv.action.name) (.words (wordFits inv.action.name)) ([], none) 0
    (inv.action.options ++ "--" :: inv.action.operands) >>= _) = _
  simp only [readWords_action h.deck_ne, bind, Except.bind, of?_name, hconfig, hverbosity, hjson,
    Option.getD_some]
  rfl

/-! ### Invocations that are read -/

/-- Whatever the options `specs` give has the property `P`, if what was given before has it. -/
def Keeps (specs : List OptionSpec) (P : String × String → Prop) : Prop :=
  ∀ o ∈ specs, ∀ value g g', o.give value g = .ok g' → (∀ e ∈ g, P e) → ∀ e ∈ g', P e

/-- All that is given so far has the property `P`, and the option whose value is still to come is
one of the `specs`. -/
structure Sound (specs : List OptionSpec) (P : String × String → Prop) (progress : Progress) :
    Prop where
  given : ∀ e ∈ progress.1, P e
  pending : ∀ o ∈ progress.2, o ∈ specs

section Sound

open Json (bind_eq_ok_iff map_eq_ok_iff pure_eq_ok_iff)

variable {specs : List OptionSpec} {P : String × String → Prop} {g g' : Given}
variable {progress : Progress} {cs : List Char}

theorem Keeps.sound_give (h : Keeps specs P) {o : OptionSpec} (ho : o ∈ specs) {value : String}
    (hgive : (·, none) <$> o.give value g = .ok progress) (hg : ∀ e ∈ g, P e) :
    Sound specs P progress := by
  obtain ⟨g', hgiven, rfl⟩ := map_eq_ok_iff.mp hgive
  exact ⟨h o ho value g g' hgiven hg, by simp⟩

theorem Keeps.sound_readLetters (h : Keeps specs P)
    (hread : readLetters specs g cs = .ok progress) (hg : ∀ e ∈ g, P e) :
    Sound specs P progress := by
  induction cs generalizing g with
  | nil =>
    obtain rfl := Except.ok.inj hread
    exact ⟨hg, by simp⟩
  | cons c cs ih =>
    rw [readLetters] at hread
    rcases hfind : specs.find? (·.letter = some c) with - | o
    · rw [hfind] at hread
      cases hread
    · have ho : o ∈ specs := List.mem_of_find?_eq_some hfind
      simp only [hfind] at hread
      split at hread
      · split at hread
        · obtain rfl := Except.ok.inj hread
          exact ⟨hg, by simp [ho]⟩
        · exact h.sound_give ho hread hg
        · exact h.sound_give ho hread hg
      · obtain ⟨g', hgive, hrest⟩ := bind_eq_ok_iff.mp hread
        exact ih hrest (h o ho "" g g' hgive hg)

theorem Keeps.sound_readLong (h : Keeps specs P)
    (hread : readLong specs g cs = .ok progress) (hg : ∀ e ∈ g, P e) :
    Sound specs P progress := by
  unfold readLong at hread
  split at hread
  next name value hsplit =>
    split at hread
    · cases hread
    next o v hfind =>
      split at hread
      · exact h.sound_give (List.mem_of_find?_eq_some hfind) hread hg
      · cases hread
    next o hfind =>
      have ho : o ∈ specs := List.mem_of_find?_eq_some hfind
      split at hread
      · obtain rfl := Except.ok.inj hread
        exact ⟨hg, by simp [ho]⟩
      · exact h.sound_give ho hread hg

/-- What the `reading` was given has the property `P`, and the words `between` the options fit at
their places, from `count` on. -/
structure Reading.Sound (P : String × String → Prop) (between : Between) (count : Nat)
    (reading : Reading) : Prop where
  given : ∀ e ∈ reading.given, P e
  fits : ∀ fits, between = .words fits → ∀ i word, reading.words[i]? = some word →
    fits (count + i) word

theorem sound_readPlain {between : Between} {count : Nat} {words : List String} {reading : Reading}
    (hread : readPlain between g count words = .ok reading) (hg : ∀ e ∈ g, P e) :
    reading.Sound P between count := by
  cases between with
  | nothing =>
    rw [readPlain] at hread
    split at hread
    · obtain rfl := Except.ok.inj hread
      exact ⟨hg, by rintro _ ⟨⟩⟩
    · cases hread
  | words fits =>
    rw [readPlain] at hread
    split at hread
    · next hall =>
      obtain rfl := Except.ok.inj hread
      refine ⟨hg, ?_⟩
      rintro _ ⟨⟩ i word hword
      rw [List.all_eq_true] at hall
      exact hall (word, count + i) (List.mk_add_mem_zipIdx_iff_getElem?.mpr hword)
    · cases hread

theorem Reading.Sound.cons {fits : Nat → String → Bool} {count : Nat} {reading : Reading}
    {word : String} (h : reading.Sound P (.words fits) (count + 1)) (hword : fits count word) :
    ({ reading with words := word :: reading.words } : Reading).Sound P (.words fits) count := by
  refine ⟨h.given, ?_⟩
  rintro _ ⟨⟩ i word' hword'
  rcases i with - | i
  · obtain rfl := Option.some.inj hword'
    exact hword
  · rw [← Nat.add_assoc, Nat.add_right_comm]
    exact h.fits fits rfl i word' hword'

theorem Keeps.sound_readWords (h : Keeps specs P) {between : Between} {count : Nat}
    {words : List String} {reading : Reading} (hsound : Sound specs P progress)
    (hread : readWords specs between progress count words = .ok reading) :
    reading.Sound P between count := by
  induction words generalizing progress count reading with
  | nil =>
    obtain ⟨g, - | o⟩ := progress
    · obtain rfl := Except.ok.inj hread
      exact ⟨hsound.given, by simp⟩
    · cases hread
  | cons word rest ih =>
    obtain ⟨g, - | o⟩ := progress
    · rw [readWords_cons] at hread
      split at hread
      · exact sound_readPlain hread hsound.given
      · obtain ⟨progress, hlong, hrest⟩ := bind_eq_ok_iff.mp hread
        exact ih (h.sound_readLong hlong hsound.given) hrest
      · obtain ⟨progress, hletters, hrest⟩ := bind_eq_ok_iff.mp hread
        exact ih (h.sound_readLetters hletters hsound.given) hrest
      · cases between with
        | nothing =>
          obtain rfl := Except.ok.inj hread
          exact ⟨hsound.given, by rintro _ ⟨⟩⟩
        | words fits =>
          simp only at hread
          split at hread
          next hword =>
            obtain ⟨more, hmore, hreading⟩ := bind_eq_ok_iff.mp hread
            obtain rfl := pure_eq_ok_iff.mp hreading
            exact (ih hsound hmore).cons hword
          next => cases hread
    -- the word is the value of the option before it
    · rw [readWords.eq_def] at hread
      simp only at hread
      split at hread
      · obtain ⟨g', hgive, hrest⟩ := bind_eq_ok_iff.mp hread
        have ho : o ∈ specs := hsound.pending o rfl
        exact ih ⟨h o ho word g g' hgive hsound.given, by simp⟩ hrest
      · cases hread

/-- The option `o` gives its name with the `value`, which is not empty unless it may be. -/
theorem give_eq_ok {o : OptionSpec} {value : String} (h : o.give value g = .ok g') :
    g' = g ++ [(o.name, value)] ∧ (o.kind = .value false → value ≠ "") := by
  unfold OptionSpec.give at h
  split at h
  next => cases h
  next hkind => exact ⟨(Except.ok.inj h).symm, by simp [hkind]⟩
  next hkind =>
    split at h
    · cases h
    · exact ⟨(Except.ok.inj h).symm, by simp [hkind]⟩
  next mayBeEmpty hkind =>
    split at h
    · cases h
    next hvalue =>
      refine ⟨(Except.ok.inj h).symm, ?_⟩
      rw [hkind]
      rintro ⟨⟩ rfl
      exact hvalue (by simp)

/-- The path of the settings is not given as an empty one by `programOptions`. -/
theorem keeps_programOptions : Keeps programOptions fun e => e.1 = "config" → e.2 ≠ "" := by
  intro o ho value g g' hgive hg e he
  obtain ⟨rfl, hvalue⟩ := give_eq_ok hgive
  rcases List.mem_append.mp he with he | he
  · exact hg e he
  · obtain rfl := List.mem_singleton.mp he
    intro hname
    have hkind : ∀ o ∈ programOptions, o.name = "config" → o.kind = .value false := by decide
    exact hvalue (hkind o ho hname)

end Sound

/-- The action `a` has the `name` that it is read by, and its deck is the word behind those it
needs. -/
theorem of?_eq_some {name : String} {g : Given} {words : List String} {a : Action}
    (h : Action.of? name g words = some a) :
    a.name = name ∧ ∀ p, a.deck? = some p → words[a.needed.length]? = some p.text := by
  have hdeck : ∀ {ws : List String} {p : Path}, ws.head?.map Path.mk = some p →
      ws[0]? = some p.text := by
    rintro (- | ⟨w, ws⟩) p hp
    · cases hp
    · obtain rfl := Option.some.inj hp
      rfl
  unfold Action.of? at h
  split at h
  -- the actions that say nothing about a deck, and words that make no action
  case h_2 | h_10 =>
    obtain rfl := Option.some.inj h
    exact ⟨rfl, by rintro p ⟨⟩⟩
  case h_11 => cases h
  all_goals
    obtain rfl := Option.some.inj h
    exact ⟨rfl, fun p hp => hdeck hp⟩

theorem ofWords_cases {words : List String} {inv : Invocation}
    (h : Invocation.ofWords words = .ok inv) :
    ∃ program own name rest, readWords programOptions .nothing ([], none) 0 words = .ok program ∧
      program.left = name :: rest ∧
      readWords (actionOptions name) (.words (wordFits name)) ([], none) 0 rest = .ok own ∧
      Action.of? name own.given own.words = some inv.action ∧
      inv.config = ⟨(program.given.lookup "config").getD usualConfig⟩ := by
  obtain ⟨program, hprogram, h⟩ := Json.bind_eq_ok_iff.mp h
  split at h
  · cases h
  next name rest hleft =>
    split at h
    · cases h
    · split at h
      · cases h
      · obtain ⟨own, hown, h⟩ := Json.bind_eq_ok_iff.mp h
        split at h
        · cases h
        next action haction =>
          obtain rfl := Json.pure_eq_ok_iff.mp h
          exact ⟨program, own, name, rest, hprogram, hleft, hown, haction, rfl⟩

theorem writable_of_ofWords {words : List String} {inv : Invocation}
    (h : Invocation.ofWords words = .ok inv) : inv.Writable := by
  obtain ⟨program, own, name, rest, hprogram, -, hown, haction, hconfig⟩ := ofWords_cases h
  constructor
  · have hsound := keeps_programOptions.sound_readWords ⟨by simp, by simp⟩ hprogram
    rw [hconfig]
    rcases hlookup : program.given.lookup "config" with - | value
    · decide
    · obtain ⟨before, behind, hsplit, -⟩ := List.lookup_eq_some_iff.mp hlookup
      exact hsound.given ("config", value) (by simp [hsplit]) rfl
  · intro p hp
    obtain ⟨rfl, hdeck⟩ := of?_eq_some haction
    have hkeeps : Keeps (actionOptions inv.action.name) fun _ => True := fun _ _ _ _ _ _ _ _ _ => trivial
    have hsound := hkeeps.sound_readWords ⟨by simp, by simp⟩ hown
    have hfits := hsound.fits _ rfl _ _ (hdeck p hp)
    rw [Nat.zero_add, wordFits_name] at hfits
    rintro hempty
    simp [hempty] at hfits

/-- What can be asked for in `words`: every invocation that is `Writable`, with paths that are not
empty. -/
theorem exists_words_iff (inv : Invocation) :
    (∃ words, Invocation.ofWords words = .ok inv) ↔ inv.Writable := by
  constructor
  · rintro ⟨words, h⟩
    exact writable_of_ofWords h
  · intro h
    exact ⟨inv.words, ofWords_words h⟩

end DeckKeywords.CommandLine
