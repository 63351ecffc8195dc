/-
DeckKeywords/Proofs/Table/Meaning.lean

What a keyword table means, read off the members of its text.  A text is taken
for the list of its members in order, repetitions included, and nothing but
this list counts:

  * every value must decode, those that a later member overrides included,
  * the versions are those of the last `_meta` member,
  * the modules are gathered from the other members, and in the same way the
    commands of a module and the parameters of a command from theirs.

A table is made by adding members one after another.  `ofMembers_eq` says what
that comes to: versions and modules are each a function of their own members
alone, so it does not matter how the two kinds of members are mixed.
-/
import DeckKeywords.Proofs.Json.Members
import DeckKeywords.RawTable

namespace DeckKeywords

open Json (Token Tree Value bind_eq_ok_iff map_eq_ok_iff pure_eq_ok_iff toOption_eq_some_iff)

/-! ### Commands -/

namespace Command

/-- The command that the value `t` of a member of a module stands for. -/
def read (t : Tree) : Option Command := (decode 2 t).toOption

theorem decode_eq_ok_iff {opened : Nat} {t : Tree} {c : Command} :
    decode opened t = .ok c ↔ ∃ v, t.value opened = .ok v ∧ ofValue? v = some c := by
  simp only [decode, bind_eq_ok_iff]
  refine exists_congr fun v => and_congr_right fun _ => ?_
  rcases ofValue? v with - | d <;> simp

/-- A tree `t` is read as a command by its value. -/
theorem read_eq (t : Tree) : read t = (t.value 2).toOption.bind ofValue? := by
  ext c
  simp only [read, toOption_eq_some_iff, decode_eq_ok_iff, Option.bind_eq_some_iff]

/-- An object of parameters is the map `ps` that gathers its `members`. -/
theorem params?_object_iff {members : List (String × Value)} {ps : ParamMap} :
    params? (.object members) = some (some ps) ↔ ps.Gathers allowedValues? members := by
  have hread : ∀ (p : String × Value) (x : String × Option (List String)),
      ((p.1, ·) <$> allowedValues? p.2) = some x ↔ OrderedMap.ReadsAs allowedValues? p x := by
    rintro ⟨k, v⟩ ⟨k', a⟩
    simp only [Option.map_eq_map, Option.map_eq_some_iff, Prod.mk.injEq, OrderedMap.ReadsAs]
    constructor
    · rintro ⟨b, hb, rfl, rfl⟩
      exact ⟨rfl, hb⟩
    · rintro ⟨rfl, ha⟩
      exact ⟨a, ha, rfl, rfl⟩
  simp only [OrderedMap.gathers_iff, params?, Option.bind_eq_bind, Option.bind_eq_some_iff,
    Json.mapM_eq_some_iff, hread]
  simp [eq_comm]

/-- A field is read from the `members` with its `name`: from none of them, or from the only one. -/
theorem field?_eq_some_iff {name : String} {members : List (String × Value)} {f : Option Value} :
    field? name members = some f ↔ members.filter (·.1 = name) = f.toList.map (name, ·) := by
  have hkeys : ∀ p ∈ members.filter (·.1 = name), p.1 = name := by simp
  unfold field?
  generalize members.filter (·.1 = name) = found at hkeys
  -- two such members are no field, and no field is written as two members
  rcases found with - | ⟨⟨k, v⟩, - | ⟨p, rest⟩⟩
  · cases f <;> simp
  · obtain rfl : k = name := hkeys (k, v) (List.mem_singleton_self _)
    cases f <;> simp
  · cases f <;> simp

/-- A field that is there at all has the value `v` of any member with its `name`. -/
theorem field?_of_mem {name : String} {members : List (String × Value)} {f : Option Value}
    {v : Value} (hfield : field? name members = some f) (hmem : (name, v) ∈ members) :
    f = some v := by
  have hfound : (name, v) ∈ members.filter (·.1 = name) := by simp [hmem]
  rw [field?_eq_some_iff.mp hfield] at hfound
  simpa using hfound

theorem mem_of_field? {name : String} {members : List (String × Value)} {v : Value}
    (hfield : field? name members = some (some v)) : (name, v) ∈ members := by
  have hfound : (name, v) ∈ members.filter (·.1 = name) := by
    rw [field?_eq_some_iff.mp hfield]
    exact List.mem_singleton_self _
  exact (List.mem_filter.mp hfound).1

section Objects

variable {fields ms : List (String × Value)} {c : Command}

/-- The parameters of a command `c` that is an object are those of its field `params`. -/
theorem params_of_field (hc : ofValue? (.object fields) = some c) :
    ∃ f, field? "params" fields = some f ∧ params? (f.getD .null) = some c.params := by
  simp only [ofValue?, Option.bind_eq_bind, Option.bind_eq_some_iff] at hc
  obtain ⟨tag, -, f, hf, availability, -, params, hparams, hc⟩ := hc
  obtain rfl : _ = c := Option.some.inj hc
  exact ⟨f, hf, hparams⟩

/-- The parameters `ps` of a command `c` that has an object of them. -/
theorem params_of_object (hc : ofValue? (.object fields) = some c)
    (hmem : ("params", .object ms) ∈ fields) :
    ∃ ps, c.params = some ps ∧ ps.Gathers allowedValues? ms := by
  obtain ⟨f, hf, hparams⟩ := params_of_field hc
  obtain rfl := field?_of_mem hf hmem
  rw [Option.getD_some] at hparams
  rcases hps : c.params with - | ps
  · rw [hps] at hparams
    simp [params?, Option.bind_eq_some_iff] at hparams
  · exact ⟨ps, rfl, params?_object_iff.mp (hps ▸ hparams)⟩

/-- Parameters `ps` that a command `c` has come from an object `ms` of them. -/
theorem object_of_params {ps : ParamMap} (hc : ofValue? (.object fields) = some c)
    (hps : c.params = some ps) :
    ∃ ms, ("params", .object ms) ∈ fields ∧ ps.Gathers allowedValues? ms := by
  obtain ⟨f, hf, hparams⟩ := params_of_field hc
  rw [hps] at hparams
  -- without a field, or with one that is no object, there would be no parameters
  rcases f with - | v
  · cases hparams
  · cases v with
    | object ms => exact ⟨ms, mem_of_field? hf, params?_object_iff.mp hparams⟩
    | null | bool | number | text | array => cases hparams

end Objects

/-- The parameters of a command `c` that is a list are its `names`. -/
theorem params_of_array {items : List Value} {c : Command} (hc : ofValue? (.array items) = some c) :
    ∃ names : List String, items = names.map .text ∧
      c.params = some (.ofList (names.map (·, none))) := by
  simp only [ofValue?, Option.bind_eq_bind, Option.bind_eq_some_iff] at hc
  obtain ⟨names, hnames, hc⟩ := hc
  obtain rfl : _ = c := Option.some.inj hc
  exact ⟨names, Json.mapM_text?_eq_some_iff.mp hnames, rfl⟩

end Command

/-! ### Tables -/

namespace RawTable

/-- The versions that the value of a `_meta` member stands for. -/
def readVersions (t : Tree) : Option VersionTable := (VersionTable.decode 1 t).toOption

/-- The commands that the value `t` of any other member stands for. -/
def readCommands (t : Tree) : Option (OrderedMap Command) :=
  (t.asMap 1 (Command.decode 2)).toOption

/-- The `commands` are gathered from the members of their module `t`. -/
theorem readCommands_eq_some_iff {t : Tree} {commands : OrderedMap Command} :
    readCommands t = some commands ↔
      ∃ ms, t.members? = some ms ∧ commands.Gathers Command.read ms := by
  rw [readCommands, toOption_eq_some_iff, Json.asMap_eq_ok_iff]
  exact and_iff_right (by decide)

/-- A table gathers members if all of them can be read, its versions are those of the last `_meta`
member, and its modules gather the other members. -/
structure Gathers (table : RawTable) (members : List (String × Tree)) : Prop where
  readable : ∀ p ∈ members.filter (·.1 = metaKey), (readVersions p.2).isSome
  versions_eq : table.versions
    = ((members.filter (·.1 = metaKey)).getLast?.bind fun p => readVersions p.2).getD ⟨[], "2025"⟩
  modules_gather : table.modules.Gathers readCommands (members.filter (·.1 ≠ metaKey))

/-- The `members` are gathered by one table only. -/
theorem Gathers.unique {table other : RawTable} {members : List (String × Tree)}
    (h : table.Gathers members) (h' : other.Gathers members) : table = other := by
  obtain ⟨versions, modules⟩ := table
  obtain ⟨versions', modules'⟩ := other
  obtain rfl : versions = versions' := h.versions_eq.trans h'.versions_eq.symm
  obtain rfl : modules = modules' := h.modules_gather.unique h'.modules_gather
  rfl

/-- Where they stand among the other members does not matter for `_meta` members. -/
theorem gathers_congr {table : RawTable} {members members' : List (String × Tree)}
    (hmeta : members.filter (·.1 = metaKey) = members'.filter (·.1 = metaKey))
    (hothers : members.filter (·.1 ≠ metaKey) = members'.filter (·.1 ≠ metaKey)) :
    table.Gathers members ↔ table.Gathers members' := by
  constructor
  · rintro ⟨hreadable, hversions, hmodules⟩
    exact ⟨hmeta ▸ hreadable, hmeta ▸ hversions, hothers ▸ hmodules⟩
  · rintro ⟨hreadable, hversions, hmodules⟩
    exact ⟨hmeta ▸ hreadable, hmeta ▸ hversions, hothers ▸ hmodules⟩

/-- `_meta` is never a module. -/
theorem Gathers.metaKey_not_mem {table : RawTable} {members : List (String × Tree)}
    (h : table.Gathers members) : metaKey ∉ table.modules.keys := by
  rw [h.modules_gather.keys_eq, List.mem_eraseDups, List.mem_map]
  rintro ⟨p, hp, hkey⟩
  simp [hkey] at hp

/-! ### Adding members in turn -/

/-- The versions of a member, if it brings any. -/
def Member.versions? : Member → Option VersionTable
  | .versions t => some t
  | .commands _ _ => none

/-- The module of a member with its commands, if it brings one. -/
def Member.module? : Member → Option (String × OrderedMap Command)
  | .versions _ => none
  | .commands name cs => some (name, cs)

/-- Versions and modules each come from their own members of `xs`: the versions from the last one,
the modules from all of them. -/
theorem ofMembers_eq (xs : List Member) :
    ofMembers xs = ⟨(xs.filterMap Member.versions?).getLast?.getD .empty,
      .ofList (xs.filterMap Member.module?)⟩ := by
  induction xs using List.reverseRecOn with
  | nil => rfl
  | append_singleton xs x ih =>
    have hadd : ofMembers (xs ++ [x]) = (ofMembers xs).add x := by
      rw [ofMembers, List.foldl_append]
      rfl
    rw [hadd, ih, List.filterMap_append, List.filterMap_append]
    cases x with
    | versions t => simp [add, Member.versions?, Member.module?, List.filterMap_cons]
    | commands name commands =>
      simp [add, Member.versions?, Member.module?, OrderedMap.ofList_concat]

/-- The member `p` decodes to `x`. -/
abbrev Decodes (p : String × Tree) (x : Member) : Prop := decodeMember p.1 p.2 = .ok x

variable {members : List (String × Tree)} {xs : List Member}

/-- A member under `_meta` decodes as versions, and any other one as commands under its key. -/
theorem decodes_iff {p : String × Tree} {x : Member} :
    Decodes p x ↔ (p.1 = metaKey ∧ ∃ v, readVersions p.2 = some v ∧ x = .versions v) ∨
      (p.1 ≠ metaKey ∧ ∃ cs, readCommands p.2 = some cs ∧ x = .commands p.1 cs) := by
  unfold Decodes decodeMember
  by_cases hkey : p.1 = metaKey
  · simp [hkey, readVersions, eq_comm (a := x)]
  · simp [hkey, readCommands, eq_comm (a := x)]

/-- If related items are kept by `keep` and `f` on both sides or on neither, those that are kept are
related. -/
theorem forall₂_filter_filterMap {α β γ : Type} {R : α → β → Prop} {S : α → γ → Prop}
    {keep : α → Bool} {f : β → Option γ} {xs : List α} {ys : List β} (h : List.Forall₂ R xs ys)
    (hkept : ∀ x y, R x y → keep x → ∃ z, f y = some z ∧ S x z)
    (hleft : ∀ x y, R x y → keep x = false → f y = none) :
    List.Forall₂ S (xs.filter keep) (ys.filterMap f) := by
  induction h with
  | nil => exact .nil
  | @cons x y xs ys hxy _ ih =>
    rcases hkeep : keep x with - | -
    · rw [List.filter_cons_of_neg (by simp [hkeep]), List.filterMap_cons, hleft x y hxy hkeep]
      exact ih
    · obtain ⟨z, hz, hxz⟩ := hkept x y hxy hkeep
      rw [List.filter_cons_of_pos hkeep, List.filterMap_cons, hz]
      exact .cons hxz ih

theorem versions_of_decodes (h : List.Forall₂ Decodes members xs) :
    List.Forall₂ (fun p v => readVersions p.2 = some v) (members.filter (·.1 = metaKey))
      (xs.filterMap Member.versions?) := by
  refine forall₂_filter_filterMap h (fun p x hx hkeep => ?_) fun p x hx hkeep => ?_
  · obtain ⟨-, v, hv, rfl⟩ | ⟨hkey, -⟩ := decodes_iff.mp hx
    · exact ⟨v, rfl, hv⟩
    · exact absurd (of_decide_eq_true hkeep) hkey
  · obtain ⟨hkey, -⟩ | ⟨-, cs, -, rfl⟩ := decodes_iff.mp hx
    · exact absurd hkey (of_decide_eq_false hkeep)
    · rfl

theorem modules_of_decodes (h : List.Forall₂ Decodes members xs) :
    List.Forall₂ (OrderedMap.ReadsAs readCommands) (members.filter (·.1 ≠ metaKey))
      (xs.filterMap Member.module?) := by
  refine forall₂_filter_filterMap h (fun p x hx hkeep => ?_) fun p x hx hkeep => ?_
  · obtain ⟨hkey, -⟩ | ⟨-, cs, hcs, rfl⟩ := decodes_iff.mp hx
    · exact absurd hkey (of_decide_eq_true hkeep)
    · exact ⟨_, rfl, rfl, hcs⟩
  · obtain ⟨-, v, -, rfl⟩ | ⟨hkey, -⟩ := decodes_iff.mp hx
    · rfl
    · exact absurd hkey (of_decide_eq_false hkeep)

theorem getLast?_of_forall₂ {σ β : Type} {f : σ → Option β} {ps : List σ} {vs : List β}
    (h : List.Forall₂ (fun p v => f p = some v) ps vs) : ps.getLast?.bind f = vs.getLast? := by
  rw [← List.head?_reverse, ← List.head?_reverse]
  have hlast := List.forall₂_reverse_iff.mpr h
  generalize ps.reverse = qs at hlast
  generalize vs.reverse = ws at hlast
  cases hlast with
  | nil => rfl
  | cons hread _ => exact hread

/-- The table of what `members` decode to, `xs`, gathers them. -/
theorem gathers_ofMembers (h : List.Forall₂ Decodes members xs) :
    (ofMembers xs).Gathers members := by
  have hversions := versions_of_decodes h
  rw [ofMembers_eq]
  refine ⟨fun p hp => ?_, ?_, OrderedMap.gathers_ofList (modules_of_decodes h)⟩
  · obtain ⟨v, hv⟩ := exists_forall₂_iff.mp ⟨_, hversions⟩ p hp
    simp [hv]
  · have hlast := getLast?_of_forall₂ hversions
    rw [hlast]
    rfl

/-- A value is of the kind that its key asks for: versions under `_meta`, commands under any other
key. -/
def Readable (p : String × Tree) : Prop :=
  if p.1 = metaKey then (readVersions p.2).isSome else (readCommands p.2).isSome

instance : DecidablePred Readable := fun p =>
  inferInstanceAs (Decidable (if p.1 = metaKey then (readVersions p.2).isSome
    else (readCommands p.2).isSome))

theorem readable_iff (p : String × Tree) : Readable p ↔ ∃ x, Decodes p x := by
  simp only [decodes_iff, Readable]
  by_cases hkey : p.1 = metaKey <;> simp [hkey, Option.isSome_iff_exists]

theorem Gathers.readable_of_mem {table : RawTable} (h : table.Gathers members) :
    ∀ p ∈ members, Readable p := by
  intro p hp
  unfold Readable
  by_cases hkey : p.1 = metaKey
  · rw [if_pos hkey]
    exact h.readable p (List.mem_filter.mpr ⟨hp, by simpa using hkey⟩)
  · rw [if_neg hkey]
    exact h.modules_gather.readable p (List.mem_filter.mpr ⟨hp, by simpa using hkey⟩)

/-- The `members` are gathered by a table exactly when all of them are `Readable`. -/
theorem exists_gathers_iff :
    (∃ table : RawTable, table.Gathers members) ↔ ∀ p ∈ members, Readable p := by
  constructor
  · rintro ⟨table, h⟩
    exact h.readable_of_mem
  · intro h
    obtain ⟨xs, hxs⟩ := exists_forall₂_iff.mpr fun p hp => (readable_iff p).mp (h p hp)
    exact ⟨ofMembers xs, gathers_ofMembers hxs⟩

/-- A tree `t` is a `table` exactly if it is an object whose members the table gathers. -/
theorem decode_eq_ok_iff {t : Tree} {table : RawTable} :
    decode t = .ok table ↔ ∃ ms, t.members? = some ms ∧ table.Gathers ms := by
  simp only [decode, map_eq_ok_iff, Json.asMembers_eq_ok_iff]
  constructor
  · rintro ⟨xs, ⟨-, ms, hms, hxs⟩, rfl⟩
    exact ⟨ms, hms, gathers_ofMembers hxs⟩
  · rintro ⟨ms, hms, h⟩
    obtain ⟨xs, hxs⟩ := exists_forall₂_iff.mpr fun p hp =>
      (readable_iff p).mp (h.readable_of_mem p hp)
    exact ⟨xs, ⟨by decide, ms, hms, hxs⟩, (gathers_ofMembers hxs).unique h⟩

/-- A text `s` is a `table` exactly if it is an object whose members the table gathers. -/
theorem ofJson_eq_ok_iff {s : String} {table : RawTable} :
    ofJson s = .ok table ↔ ∃ ms, Json.members? s = some ms ∧ table.Gathers ms := by
  rw [ofJson, Json.decode_eq_ok_iff, decode_eq_ok_iff, Json.members?]
  rcases (Json.Document.ofText s).trailing with - | - <;> simp

/-- A `_meta` member alone of its kind may stand anywhere among the other members. -/
theorem ofJson_of_moved_meta {s s' : String} {before after before' after' : List (String × Tree)}
    {t : Tree} (hs : Json.members? s = some (before ++ (metaKey, t) :: after))
    (hs' : Json.members? s' = some (before' ++ (metaKey, t) :: after'))
    (hothers : before ++ after = before' ++ after') (hmeta : ∀ p ∈ before ++ after, p.1 ≠ metaKey) :
    (ofJson s).toOption = (ofJson s').toOption := by
  -- on either side the `_meta` members are just that one, and the rest is the other members
  have hsplit : ∀ xs ys : List (String × Tree), (∀ p ∈ xs ++ ys, p.1 ≠ metaKey) →
      (xs ++ (metaKey, t) :: ys).filter (·.1 = metaKey) = [(metaKey, t)] ∧
        (xs ++ (metaKey, t) :: ys).filter (·.1 ≠ metaKey) = xs ++ ys := by
    intro xs ys hne
    have hnone : (xs ++ ys).filter (·.1 = metaKey) = [] :=
      List.filter_eq_nil_iff.mpr fun p hp => by simpa using hne p hp
    have hall : (xs ++ ys).filter (·.1 ≠ metaKey) = xs ++ ys :=
      List.filter_eq_self.mpr fun p hp => by simpa using hne p hp
    rw [List.filter_append, List.append_eq_nil_iff] at hnone
    rw [List.filter_append] at hall
    rw [List.filter_append, List.filter_append, List.filter_cons_of_pos (by simp),
      List.filter_cons_of_neg (by simp), hnone.1, hnone.2, hall]
    exact ⟨rfl, rfl⟩
  obtain ⟨hone, hrest⟩ := hsplit before after hmeta
  obtain ⟨hone', hrest'⟩ := hsplit before' after' (hothers ▸ hmeta)
  have hsame : ∀ table : RawTable, table.Gathers (before ++ (metaKey, t) :: after)
      ↔ table.Gathers (before' ++ (metaKey, t) :: after') := fun _ =>
    gathers_congr (hone.trans hone'.symm) (hrest.trans (hothers.trans hrest'.symm))
  ext table
  rw [toOption_eq_some_iff, toOption_eq_some_iff, ofJson_eq_ok_iff, ofJson_eq_ok_iff, hs, hs']
  simp [hsame]

/-- **The meaning of a keyword table.**  A text whose members are `members` is a `table` exactly
when all of them are `Readable`, and then `table.Gathers members`: the versions are those of the
last member under `metaKey`, and each other key is a module, in the order of the first places and
with the commands of the last.  Commands are gathered in the same way from the members of their
module, and parameters from those of their object.  So a single `metaKey` member `t` may stand
anywhere, `before` and `after` the others, and `metaKey` is never a module. -/
theorem ofJson_means_members :
    (∀ s members, Json.members? s = some members →
      ((∃ table, ofJson s = .ok table) ↔ ∀ p ∈ members, Readable p)) ∧
    (∀ s table, ofJson s = .ok table ↔
      ∃ members, Json.members? s = some members ∧ table.Gathers members) ∧
    (∀ t commands, readCommands t = some commands ↔
      ∃ members, t.members? = some members ∧ commands.Gathers Command.read members) ∧
    (∀ t fields members command, t.value 2 = .ok (.object fields) →
      ("params", .object members) ∈ fields → Command.read t = some command →
      ∃ params, command.params = some params ∧ params.Gathers Command.allowedValues? members) ∧
    (∀ s s' before after before' after' t,
      Json.members? s = some (before ++ (metaKey, t) :: after) →
      Json.members? s' = some (before' ++ (metaKey, t) :: after') →
      before ++ after = before' ++ after' → (∀ p ∈ before ++ after, p.1 ≠ metaKey) →
      (ofJson s).toOption = (ofJson s').toOption) ∧
    ∀ s table, ofJson s = .ok table → metaKey ∉ table.modules.keys := by
  refine ⟨?_, ?_, ?_, ?_, ?_, ?_⟩
  · intro s members hmembers
    simp only [ofJson_eq_ok_iff, hmembers, Option.some.injEq, exists_eq_left', exists_gathers_iff]
  · intro s table
    exact ofJson_eq_ok_iff
  · intro t commands
    exact readCommands_eq_some_iff
  · intro t fields members command hvalue hparams hread
    obtain ⟨v, hv, hcommand⟩ := Command.decode_eq_ok_iff.mp (toOption_eq_some_iff.mp hread)
    obtain rfl : Value.object fields = v := Except.ok.inj (hvalue.symm.trans hv)
    exact Command.params_of_object hcommand hparams
  · intro s s' before after before' after' t hs hs' hothers hmeta
    exact ofJson_of_moved_meta hs hs' hothers hmeta
  · intro s table htable
    obtain ⟨members, -, hgathers⟩ := ofJson_eq_ok_iff.mp htable
    exact hgathers.metaKey_not_mem

/-- The `versions` are found behind the modules, a module that comes twice keeps its place and its
last commands, and so does a parameter. -/
theorem meta_found_behind_modules :
    let versions : Tree := .object [(.plain "versions", .list [.text (.plain "2024")] none)] none
    let beam : Tree := .object [(.plain "params",
      .object [(.plain "NO", .null), (.plain "NO", .list [.text (.plain "A")] none)] none)] none
    let aqua : Tree := .object [(.plain "BEAM", beam)] none
    let others := [("AQUA", Tree.object [] none), ("TALPA", .object [] none), ("AQUA", aqua)]
    ∃ s s' table command params,
      Json.members? s = some (("_meta", versions) :: others) ∧
      Json.members? s' = some (others ++ [("_meta", versions)]) ∧
      ofJson s = .ok table ∧ (ofJson s').toOption = some table ∧
      table.versions = ⟨["2024"], "2025"⟩ ∧ table.modules.keys = ["AQUA", "TALPA"] ∧
      table.modules.get? "AQUA" = readCommands aqua ∧ metaKey ∉ table.modules.keys ∧
      Command.read beam = some command ∧ command.params = some params ∧
      params.get? "NO" = some (some ["A"]) := by
  intro versions beam aqua others
  obtain ⟨hreadable, htable, -, hparams, hmoved, hnever⟩ := ofJson_means_members
  have hs : Json.members? "\x7b\"_meta\": \x7b\"versions\": [\"2024\"]\x7d, \"AQUA\": \x7b\x7d,
    \"TALPA\": \x7b\x7d, \"AQUA\": \x7b\"BEAM\": \x7b\"params\": \x7b\"NO\": null,
    \"NO\": [\"A\"]\x7d\x7d\x7d\x7d" = some (("_meta", versions) :: others) := by decide +kernel
  have hs' : Json.members? "\x7b\"AQUA\": \x7b\x7d, \"TALPA\": \x7b\x7d,
    \"AQUA\": \x7b\"BEAM\": \x7b\"params\": \x7b\"NO\": null, \"NO\": [\"A\"]\x7d\x7d\x7d,
    \"_meta\": \x7b\"versions\": [\"2024\"]\x7d\x7d" = some (others ++ [("_meta", versions)]) := by
    decide +kernel
  obtain ⟨table, hok⟩ := (hreadable _ _ hs).mpr (by decide +kernel)
  obtain ⟨members, hmembers, hgathers⟩ := (htable _ table).mp hok
  obtain rfl : _ = members := Option.some.inj (hs.symm.trans hmembers)
  have hmove := hmoved _ _ [] others others [] versions hs hs' (by simp)
    (by decide +kernel)
  obtain ⟨command, hcommand⟩ : ∃ command, Command.read beam = some command :=
    Option.isSome_iff_exists.mp (by decide +kernel)
  obtain ⟨params, hfound, hno⟩ := hparams beam
    [("params", .object [("NO", .null), ("NO", .array [.text "A"])])] _ command rfl
    (List.mem_singleton.mpr rfl) hcommand
  refine ⟨_, _, table, command, params, hs, hs', hok, ?_, ?_, ?_, ?_, hnever _ _ hok, hcommand,
    hfound, ?_⟩
  · rw [← hmove, hok]
    rfl
  · rw [hgathers.versions_eq]
    decide +kernel
  · rw [hgathers.modules_gather.keys_eq]
    decide +kernel
  · rw [hgathers.modules_gather.get?_eq]
    decide +kernel
  · rw [hno.get?_eq]
    rfl

end RawTable

end DeckKeywords
