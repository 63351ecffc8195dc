/-
DeckKeywords/Proofs/CommandLine/Keywords.lean

What a run of the program works with, apart from what it is asked.  There are
three things, each found from files alone:

  * the settings, `Settled`: those of the file of settings, which has to be right
    if it is there at all,
  * the resolution for the deck, `Resolves`, unless the deck cannot be read,
  * the keywords for the resolution, `Config.keywords`: as every run starts with
    empty caches, they are the projection of the table as it lies in the files.

`contextFor_of_resolves` and `run_of_ok` say that these three are what a run
goes by.
-/
import DeckKeywords.CommandLine.Run
import DeckKeywords.Proofs.Resolution

namespace DeckKeywords

/-- Empty caches give the projection of the table that is offered, `source.offered l`. -/
theorem Cache.taxonomy_get_empty (source : TableSource) (version : Option String) (l : Language) :
    (Cache.empty.get source version (some l)).answer.taxonomy
      = Taxonomy.project (source.offered l)
        (servedVersion (source.offered l) (askedVersion version)) l := by
  have hoffered : Cache.empty.tableFor ⟨source, .get version (some l)⟩ l = source.offered l := by
    cases l <;> rfl
  obtain ⟨-, v, hkey, ⟨hfound, -⟩ | ⟨-, hmade, -⟩⟩ := get_cases .empty source version (some l)
  · cases hfound
  · obtain ⟨rfl, -⟩ := Prod.mk.inj (Option.some.inj hkey)
    rw [hmade]
    show Taxonomy.project (Cache.empty.tableFor _ l) _ l = _
    rw [Option.getD_some, hoffered]

/-- The keywords for a resolution `r`: its language's table as it lies in the `files`, seen from the
version that the table serves for it. -/
def Config.keywords (c : Config) (files : FileSystem) (r : Resolution) : Taxonomy :=
  let table := (c.surroundings files).tables.offered r.language
  Taxonomy.project table (Cache.servedVersion table r.version) r.language

namespace CommandLine

variable {c : Config} {files : FileSystem} {deck : Option Path} {r : Resolution}

/-! ### Decks -/

/-- The document that a run is about: that of the text at the deck, if there is a deck. -/
inductive DocumentFor (files : FileSystem) : Option Path → Option Document → Prop where
  | none : DocumentFor files none none
  | deck {path : Path} {text : String} (hread : files.read path = .ok text) :
    DocumentFor files (some path) (some (TextDocument.mk (some path) text).toDocument)

/-- With the settings `c`, the `deck` is for the version and the language of `r`. -/
def Resolves (c : Config) (files : FileSystem) (deck : Option Path) (r : Resolution) : Prop :=
  ∃ document, DocumentFor files deck document ∧
    (c.service.resolver.resolve files document none).value = r

/-- A `deck` is given, and it is not a text that can be read. -/
def Unreadable (files : FileSystem) (deck : Option Path) : Prop :=
  ∃ path, deck = some path ∧ ∀ text, files.read path ≠ .ok text

theorem contextFor_of_resolves (h : Resolves c files deck r) :
    ∃ x, (contextFor c files deck).value = .ok x ∧ x.resolution = r ∧
      keywordsOf x = c.keywords files r := by
  obtain ⟨document, hdocument, rfl⟩ := h
  refine ⟨(c.service.context .empty (c.surroundings files) document none).answer, ?_, rfl, ?_⟩
  · cases hdocument with
    | none => rfl
    | deck hread => simp [contextFor, TextDocument.read, hread, Except.map]
  · have hdefinite := c.service.resolver.definite_resolve files document none
    show (Cache.empty.get (c.surroundings files).tables
      (some (c.service.resolver.resolve files document none).value.version) (some _)).answer.taxonomy
        = _
    rw [Cache.taxonomy_get_empty, ← Cache.requestedVersion_eq, hdefinite.requestedVersion_eq]
    rfl

theorem contextFor_of_unreadable (h : Unreadable files deck) :
    ∃ f, (contextFor c files deck).value = .error f := by
  obtain ⟨path, rfl, hread⟩ := h
  rcases hwhy : files.read path with why | text
  · exact ⟨.deck path why, by simp [contextFor, TextDocument.read, hwhy, Except.map]⟩
  · exact absurd hwhy (hread text)

theorem resolves_or_unreadable (c : Config) (files : FileSystem) (deck : Option Path) :
    (∃ r, Resolves c files deck r) ∨ Unreadable files deck := by
  rcases deck with - | path
  · exact .inl ⟨_, none, .none, rfl⟩
  · rcases hread : files.read path with why | text
    · exact .inr ⟨path, rfl, by simp [hread]⟩
    · exact .inl ⟨_, _, .deck hread, rfl⟩

theorem asking_of_resolves (h : Resolves c files deck r) :
    ∃ x, x.resolution = r ∧ keywordsOf x = c.keywords files r ∧
      ∀ question, (asking c files deck question).value = question x := by
  obtain ⟨x, hx, hresolution, hkeywords⟩ := contextFor_of_resolves h
  refine ⟨x, hresolution, hkeywords, fun question => ?_⟩
  rw [asking, hx]
  rfl

theorem asking_of_unreadable (h : Unreadable files deck) (question : Context → Except Failure Answer) :
    ∃ f, (asking c files deck question).value = .error f := by
  obtain ⟨f, hf⟩ := contextFor_of_unreadable (c := c) h
  refine ⟨f, ?_⟩
  rw [asking, hf]
  rfl

/-! ### Settings -/

/-- The file at `path` gives the settings `c`: it is a text that says so, and they are right. -/
def Loads (files : FileSystem) (path : Path) (c : Config) : Prop :=
  ∃ text, files.read path = .ok text ∧ Config.ofToml? text = some c ∧ c.validate = .ok ()

/-- The settings of a run: `Config.default` if nothing lies at `path`, else those of the file there,
which then has to give some. -/
inductive Settled (files : FileSystem) (path : Path) : Config → Prop where
  | missing (habsent : files.present path = false) : Settled files path .default
  | loaded {c : Config} (hpresent : files.present path) (hloads : Loads files path c) :
    Settled files path c

theorem parse_eq_ok_iff {text : String} :
    Config.parse text = .ok c ↔ Config.ofToml? text = some c ∧ c.validate = .ok () := by
  rw [Config.parse]
  rcases Config.ofToml? text with - | c'
  · simp
  · rw [Option.some.injEq]
    rcases hvalid : c'.validate with problem | ⟨⟩
    · constructor
      · intro h
        simp only [hvalid] at h
        cases h
      · rintro ⟨rfl, hvalid'⟩
        rw [hvalid] at hvalid'
        cases hvalid'
    · simp only [hvalid]
      constructor
      · intro h
        obtain rfl := Except.ok.inj h
        exact ⟨rfl, hvalid⟩
      · rintro ⟨rfl, -⟩
        rfl

theorem load_eq_ok_iff {path : Path} :
    (Config.load files path).value = .ok c ↔ Loads files path c := by
  unfold Config.load Loads
  rcases files.read path with why | text
  · simp
  · rcases hparse : Config.parse text with why | c'
    · simp [← parse_eq_ok_iff, hparse]
    · simp [← parse_eq_ok_iff, hparse]

theorem settled_iff {path : Path} : Settled files path c ↔
    ∃ found, (Config.loadIfPresent files path).value = .ok found ∧ found.getD .default = c := by
  unfold Config.loadIfPresent
  rcases hpresent : files.present path with - | -
  · constructor
    · rintro (- | ⟨hthere, -⟩)
      · exact ⟨none, rfl, rfl⟩
      · rw [hpresent] at hthere
        cases hthere
    · rintro ⟨found, ⟨⟩, rfl⟩
      exact .missing hpresent
  · constructor
    · rintro (habsent | ⟨-, hloads⟩)
      · rw [hpresent] at habsent
        cases habsent
      · exact ⟨some c, by simp [load_eq_ok_iff.mpr hloads, Except.map], rfl⟩
    · rintro ⟨found, hfound, rfl⟩
      rcases hvalue : (Config.load files path).value with why | c'
      · simp [hvalue, Except.map] at hfound
      · obtain rfl : some c' = found := by simpa [hvalue, Except.map] using hfound
        exact .loaded hpresent (load_eq_ok_iff.mp hvalue)

theorem Settled.unique {path : Path} {c' : Config} (h : Settled files path c)
    (h' : Settled files path c') : c = c' := by
  obtain ⟨found, hfound, rfl⟩ := settled_iff.mp h
  obtain ⟨found', hfound', rfl⟩ := settled_iff.mp h'
  rw [Except.ok.inj (hfound.symm.trans hfound')]

/-! ### Runs -/

variable {inv : Invocation}

theorem run_of_ofWords {words : List String} (h : Invocation.ofWords words = .ok inv)
    (files : FileSystem) (environment : Option String) :
    run words files environment = inv.run files environment := by
  rw [run, h]

theorem run_of_ok {a : Answer} (ha : (Action.attempt inv c files).value = .ok a)
    (h : Settled files inv.config c) (environment : Option String) :
    (inv.run files environment).exitCode = 0 ∧
      (inv.run files environment).printed = a.printed inv.json := by
  obtain ⟨found, hfound, rfl⟩ := settled_iff.mp h
  simp [Invocation.run, hfound, ha]

theorem run_of_error {f : Failure} (hf : (Action.attempt inv c files).value = .error f)
    (h : Settled files inv.config c) (environment : Option String) :
    (inv.run files environment).exitCode = 1 ∧ (inv.run files environment).printed = "" := by
  obtain ⟨found, hfound, rfl⟩ := settled_iff.mp h
  simp [Invocation.run, hfound, hf]

theorem run_of_unsettled (h : ∀ c, ¬Settled files inv.config c) (environment : Option String) :
    (inv.run files environment).exitCode = 1 ∧ (inv.run files environment).printed = "" := by
  rcases hfound : (Config.loadIfPresent files inv.config).value with why | found
  · simp [Invocation.run, hfound]
  · exact absurd (settled_iff.mpr ⟨found, hfound, rfl⟩) (h _)

end CommandLine
end DeckKeywords
