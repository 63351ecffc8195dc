/-
DeckKeywords/Proofs/Cache/Operations.lean

What one visit does to a cache, said in terms of look-ups.  Both caches follow
the same pattern: a visit that forgets leaves nothing behind, and any other one
keeps what is there and adds what it needs and misses,

    (c.visit v).tables l        =  c.tables l        <|>  the table offered for l
    (c.visit v).projections k   =  c.projections k   <|>  a new projection for k

where the right-hand side counts only if `l`, or `k`, is what the visit is
about.  Everything later rests on these equations, and no later proof opens the
operations themselves.
-/
import DeckKeywords.Cache.Visit

namespace DeckKeywords

namespace PerLanguage

variable {α : Type}

@[simp] theorem set_get_self (p : PerLanguage α) (l : Language) : p.set l (p.get l) = p := by
  cases l <;> rfl

theorem get_set (p : PerLanguage α) (l m : Language) (a : α) :
    (p.set l a).get m = if m = l then a else p.get m := by
  by_cases h : m = l
  · rw [h, get_set_self, if_pos rfl]
  · rw [get_set_of_ne p a h, if_neg h]

end PerLanguage

/-- The table that `source` offers for `language`: the empty one if its text cannot be had, or is
not a table. -/
def TableSource.offered (source : TableSource) (language : Language) : RawTable :=
  match source language with
  | .ok text => (RawTable.ofJson text).toOption.getD .empty
  | .error _ => .empty

namespace Cache

/-! ### What an operation is about -/

/-- The language whose table an operation needs; `clearTables` and `clear` need none. -/
def Operation.language? : Operation → Option Language
  | .get _ language | .versions language => some (language.getD .fallback)
  | .load language => some language
  | .clearTables | .clear => none

/-- Whether an operation forgets the tables, as `clearTables` and `clear` do. -/
def Operation.dropsTables : Operation → Bool
  | .clearTables | .clear => true
  | _ => false

/-- The version that a request is for: `version` trimmed, and `defaultVersion` if nothing is left of
it. -/
def askedVersion (version : Option String) : String :=
  ((version.map Text.trim).filter fun v => !v.isEmpty).getD defaultVersion

/-- The version that `table` serves for a request: `version` if it is listed, else the fallback of
the table. -/
def servedVersion (table : RawTable) (version : String) : String :=
  if version ∈ table.versions.versions then version else table.versions.fallback

@[simp] theorem requestedVersion_eq (version : Option String) :
    requestedVersion version = askedVersion version := by
  unfold requestedVersion askedVersion
  rcases version.map Text.trim with - | v
  · rfl
  · rcases h : v.isEmpty <;> simp [Option.filter, h]

@[simp] theorem effective_eq (table : RawTable) (version : String) :
    table.versions.effective version = servedVersion table version := by
  simp [VersionTable.effective, VersionTable.contains, servedVersion]

@[simp] theorem readsOf_append (l : Language) (xs ys : List Happening) :
    readsOf l (xs ++ ys) = readsOf l xs + readsOf l ys := List.countP_append

/-! ### Tables -/

@[simp] theorem fetch_fst (source : TableSource) (language : Language) :
    (fetch source language).1 = source.offered language := by
  unfold fetch TableSource.offered
  rcases source language with why | text
  · rfl
  · rcases h : RawTable.ofJson text with why | table <;> simp [h, Except.toOption]

@[simp] theorem table_answer (c : Cache) (source : TableSource) (l : Language) :
    (c.table source l).answer = (c.tables.get l).getD (source.offered l) := by
  unfold table
  rcases c.tables.get l with - | t
  · exact fetch_fst source l
  · rfl

/-- Loading, `c.table`, caches the table that it answers, and touches nothing else. -/
theorem table_state (c : Cache) (source : TableSource) (l : Language) :
    (c.table source l).state
      = { c with tables := c.tables.set l (some (c.table source l).answer) } := by
  unfold table
  rcases h : c.tables.get l with - | t
  · rfl
  · show c = { c with tables := c.tables.set l (some t) }
    rw [← h, PerLanguage.set_get_self]

@[simp] theorem table_projections (c : Cache) (source : TableSource) (l : Language) :
    (c.table source l).state.projections = c.projections := by
  rw [table_state]

@[simp] theorem table_made (c : Cache) (source : TableSource) (l : Language) :
    (c.table source l).state.made = c.made := by
  rw [table_state]

theorem readsOf_table (c : Cache) (source : TableSource) (l m : Language) :
    readsOf m (c.table source l).trace = if l = m ∧ c.tables.get l = none then 1 else 0 := by
  unfold table
  rcases h : c.tables.get l with - | t
  · by_cases hm : l = m <;> simp [readsOf, hm]
  · simp [readsOf]

/-! ### Projections -/

/-- A projection is found under `(v, l)` and nothing happens, or it is missing and is made under the
next number, `c.made`. -/
theorem project_cases (c : Cache) (t : RawTable) (v : String) (l : Language) :
    (c.projections.lookup (v, l) = some (c.project t v l).answer ∧ (c.project t v l).state = c) ∨
    (c.projections.lookup (v, l) = none ∧
      (c.project t v l).answer = ⟨c.made, Taxonomy.project t v l⟩ ∧
      (c.project t v l).state
        = ⟨c.tables, ((v, l), (c.project t v l).answer) :: c.projections, c.made + 1⟩) := by
  rcases h : c.projections.lookup (v, l) with - | shared
  · exact .inr ⟨rfl, by simp [project, h], by simp [project, h]⟩
  · exact .inl ⟨by simp [project, h], by simp [project, h]⟩

@[simp] theorem readsOf_project (c : Cache) (t : RawTable) (v : String) (l m : Language) :
    readsOf m (c.project t v l).trace = 0 := by
  rcases h : c.projections.lookup (v, l) with - | shared <;> simp [project, h, readsOf]

/-! ### Requests for keywords -/

/-- The table for `l` that a visit `v` works with: the cached one, or else the one that is
offered. -/
def tableFor (c : Cache) (v : Visit) (l : Language) : RawTable :=
  (c.tables.get l).getD (v.source.offered l)

/-- The pair whose projection a visit `v` asks for, as the tables stand in `c`. -/
def keyOf (c : Cache) (v : Visit) : Option CacheKey :=
  match v.operation with
  | .get version language =>
    let l := language.getD .fallback
    some (servedVersion (c.tableFor v l) (askedVersion version), l)
  | _ => none

/-- A request for keywords caches the table `t` of its language `l`, and finds or makes the
projection of `t` onto the version `v` that it serves. -/
theorem get_cases (c : Cache) (source : TableSource) (version : Option String)
    (language : Option Language) :
    let o := c.get source version language
    let visit : Visit := ⟨source, .get version language⟩
    let l := language.getD .fallback
    let t := c.tableFor visit l
    o.state.tables = c.tables.set l (some t) ∧ ∃ v, c.keyOf visit = some (v, l) ∧
    ((c.projections.lookup (v, l) = some o.answer ∧
        o.state.projections = c.projections ∧ o.state.made = c.made) ∨
      (c.projections.lookup (v, l) = none ∧
        o.answer = ⟨c.made, Taxonomy.project t v l⟩ ∧
        o.state.projections = ((v, l), o.answer) :: c.projections ∧
        o.state.made = c.made + 1)) := by
  intro o visit l t
  have ht : (c.table source l).answer = t := table_answer c source l
  have hs : (c.table source l).state = { c with tables := c.tables.set l (some t) } := by
    rw [table_state, ht]
  have hkey : c.keyOf visit = some (servedVersion t (askedVersion version), l) := rfl
  have hv : (c.table source l).answer.versions.effective (requestedVersion version)
      = servedVersion t (askedVersion version) := by
    rw [ht, requestedVersion_eq, effective_eq]
  -- from here on it does not matter how the version was found
  generalize servedVersion t (askedVersion version) = v at hkey hv
  have ho : o.answer = ((c.table source l).state.project t v l).answer ∧
      o.state = ((c.table source l).state.project t v l).state := by
    rw [← hv, ← ht]
    exact ⟨rfl, rfl⟩
  rw [hs] at ho
  obtain ⟨hanswer, hstate⟩ := ho
  rcases project_cases { c with tables := c.tables.set l (some t) } t v l with
    ⟨hfound, hsame⟩ | ⟨hmissing, hnew, hmade⟩
  · rw [hstate, hsame, hanswer]
    exact ⟨rfl, v, hkey, .inl ⟨hfound, rfl, rfl⟩⟩
  · rw [hstate, hmade, hanswer, hnew]
    exact ⟨rfl, v, hkey, .inr ⟨hmissing, rfl, rfl, rfl⟩⟩

theorem readsOf_get (c : Cache) (source : TableSource) (version : Option String)
    (language : Option Language) (m : Language) :
    readsOf m (c.get source version language).trace
      = if language.getD .fallback = m ∧ c.tables.get (language.getD .fallback) = none
        then 1 else 0 := by
  have hwarning : ∀ (b : Bool) (e : Event),
      readsOf m (if b = true then [] else [Happening.event e]) = 0 := by
    intro b e
    cases b <;> rfl
  rw [← readsOf_table c source]
  show readsOf m (_ ++ _ ++ _) = _
  simp [hwarning]

/-- The warnings of a request for keywords: it warns when `askedVersion version` is not `listed`,
and then names that version, the `fallback` and the language `m`. -/
theorem versionReplaced_mem_get_iff (c : Cache) (source : TableSource) (version : Option String)
    (language : Option Language) (requested fallback : String) (m : Language) :
    let l := language.getD .fallback
    let listed := (c.tableFor ⟨source, .get version language⟩ l).versions
    Happening.event (.versionReplaced requested fallback m) ∈ (c.get source version language).trace
      ↔ askedVersion version ∉ listed.versions ∧
        requested = askedVersion version ∧ fallback = listed.fallback ∧ m = l := by
  intro l listed
  -- neither loading nor projecting warns, so the warning is the part in between
  have htable :
      Happening.event (.versionReplaced requested fallback m) ∉ (c.table source l).trace := by
    unfold table fetch
    rcases c.tables.get l with - | t
    · rcases source l with why | text
      · simp
      · rcases h : RawTable.ofJson text <;> simp [h]
    · simp
  have hproject : ∀ (d : Cache) (t : RawTable) (v : String),
      Happening.event (.versionReplaced requested fallback m) ∉ (d.project t v l).trace := by
    intro d t v
    rcases h : d.projections.lookup (v, l) with - | shared <;> simp [project, h]
  have hlisted : (c.table source l).answer.versions = listed :=
    congrArg RawTable.versions (table_answer c source l)
  show _ ∈ _ ++ _ ++ _ ↔ _
  rw [List.mem_append, List.mem_append, or_iff_left (hproject _ _ _), or_iff_right htable,
    requestedVersion_eq, hlisted]
  by_cases h : askedVersion version ∈ listed.versions
  · simp [VersionTable.contains, h]
  · simp [VersionTable.contains, h, l]

/-! ### Visits -/

theorem visit_tables (c : Cache) (v : Visit) (l : Language) :
    (c.visit v).state.tables.get l
      = if v.operation.dropsTables then none
        else if v.operation.language? = some l then some (c.tableFor v l)
        else c.tables.get l := by
  obtain ⟨source, operation⟩ := v
  -- all visits that need a table leave the same one behind
  have hload : ∀ m, (c.tables.set m (some ((c.tables.get m).getD (source.offered m)))).get l
      = if some m = some l then some (c.tableFor ⟨source, operation⟩ l) else c.tables.get l := by
    intro m
    rw [PerLanguage.get_set]
    by_cases h : m = l
    · subst h; simp [tableFor]
    · simp [h, Ne.symm h]
  cases operation with
  | get version language =>
    show (c.get source version language).state.tables.get l = _
    rw [(get_cases c source version language).1]
    exact hload _
  | versions language =>
    show (c.table source (language.getD .fallback)).state.tables.get l = _
    rw [table_state, table_answer]
    exact hload _
  | load language =>
    show (c.table source language).state.tables.get l = _
    rw [table_state, table_answer]
    exact hload _
  | clearTables => exact PerLanguage.get_const none l
  | clear => exact PerLanguage.get_const none l

theorem visit_lookup (c : Cache) (v : Visit) (key : CacheKey) :
    (c.visit v).state.projections.lookup key
      = if v.operation = .clear then none
        else c.projections.lookup key <|>
          if c.keyOf v = some key
          then some ⟨c.made, Taxonomy.project (c.tableFor v key.2) key.1 key.2⟩ else none := by
  obtain ⟨source, operation⟩ := v
  cases operation with
  | get version language =>
    obtain ⟨-, v, hkey, h⟩ := get_cases c source version language
    show (c.get source version language).state.projections.lookup key = _
    rw [if_neg Operation.noConfusion, hkey]
    -- only the pair that is asked for can be new, and a pair that was there stays as it is
    rcases h with ⟨hfound, hprojections, -⟩ | ⟨hmissing, hanswer, hprojections, -⟩
    · rw [hprojections]
      by_cases e : (v, language.getD .fallback) = key
      · subst e; simp [hfound]
      · simp [e]
    · rw [hprojections, hanswer, List.lookup_cons]
      by_cases e : (v, language.getD .fallback) = key
      · subst e; simp [hmissing]
      · rw [beq_false_of_ne (Ne.symm e)]; simp [e]
  | versions language =>
    show (c.table source (language.getD .fallback)).state.projections.lookup key = _
    simp [keyOf]
  | load language =>
    show (c.table source language).state.projections.lookup key = _
    simp [keyOf]
  | clearTables => simp [visit, clearTables, keyOf]
  | clear => rfl

/-- By a visit `v` projections are forgotten, or kept as they are, or joined by one under a new
`key` that bears the next number, `c.made`. -/
theorem visit_projections (c : Cache) (v : Visit) :
    let c' := (c.visit v).state
    (v.operation = .clear ∧ c'.projections = [] ∧ c'.made = c.made) ∨
    (v.operation ≠ .clear ∧ c'.projections = c.projections ∧ c'.made = c.made) ∨
    (v.operation ≠ .clear ∧ ∃ key taxonomy, c.projections.lookup key = none ∧
      c'.projections = (key, ⟨c.made, taxonomy⟩) :: c.projections ∧ c'.made = c.made + 1) := by
  obtain ⟨source, operation⟩ := v
  cases operation with
  | get version language =>
    obtain ⟨-, v, -, h⟩ := get_cases c source version language
    rcases h with ⟨-, hsame, hmade⟩ | ⟨hmissing, hanswer, hnew, hmade⟩
    · exact .inr (.inl ⟨Operation.noConfusion, hsame, hmade⟩)
    · rw [hanswer] at hnew
      exact .inr (.inr ⟨Operation.noConfusion, _, _, hmissing, hnew, hmade⟩)
  | versions language =>
    exact .inr (.inl ⟨Operation.noConfusion, table_projections .., table_made ..⟩)
  | load language =>
    exact .inr (.inl ⟨Operation.noConfusion, table_projections .., table_made ..⟩)
  | clearTables => exact .inr (.inl ⟨Operation.noConfusion, rfl, rfl⟩)
  | clear => exact .inl ⟨rfl, rfl, rfl⟩

/-- The keywords that a visit `v` answers are those that stand under its `keyOf` afterwards. -/
theorem visit_keywords? (c : Cache) (v : Visit) :
    (c.visit v).answer.keywords?
      = (c.keyOf v).bind fun key => (c.visit v).state.projections.lookup key := by
  obtain ⟨source, operation⟩ := v
  cases operation with
  | get version language =>
    obtain ⟨-, v, hkey, h⟩ := get_cases c source version language
    show some (c.get source version language).answer = _
    rw [hkey, Option.bind_some]
    show _ = (c.get source version language).state.projections.lookup _
    rcases h with ⟨hfound, hprojections, -⟩ | ⟨-, -, hprojections, -⟩
    · rw [hprojections, hfound]
    · rw [hprojections, List.lookup_cons_self]
  | versions | load | clearTables | clear => rfl

theorem visit_versions? (c : Cache) (v : Visit) :
    (c.visit v).answer.versions? = match v.operation with
      | .versions language => some (c.tableFor v (language.getD .fallback)).versions.versions
      | _ => none := by
  obtain ⟨source, operation⟩ := v
  cases operation with
  | versions language =>
    show some (c.table source (language.getD .fallback)).answer.versions.versions = _
    simp [tableFor]
  | get | load | clearTables | clear => rfl

/-- A visit `v` reads the table of `l` if it needs that and it is not cached, and no other one. -/
theorem readsOf_visit (c : Cache) (v : Visit) (l : Language) :
    readsOf l (c.visit v).trace
      = if v.operation.language? = some l ∧ c.tables.get l = none then 1 else 0 := by
  have hsome : ∀ m, (if m = l ∧ c.tables.get m = none then 1 else 0)
      = if some m = some l ∧ c.tables.get l = none then 1 else 0 := by
    intro m
    by_cases h : m = l
    · subst h; simp
    · simp [h]
  obtain ⟨source, operation⟩ := v
  cases operation with
  | get version language =>
    exact (readsOf_get c source version language l).trans (hsome _)
  | versions language =>
    exact (readsOf_table c source (language.getD .fallback) l).trans (hsome _)
  | load language => exact (readsOf_table c source language l).trans (hsome _)
  | clearTables | clear => rfl

end Cache

end DeckKeywords
