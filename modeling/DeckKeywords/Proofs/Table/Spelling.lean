/-
DeckKeywords/Proofs/Table/Spelling.lean

A command can be written in several ways: a list of names for an object of
parameters that allow anything; no tag, `null` or white space; no parameters,
`null` or an empty object; a tag, or the one that is written for its meaning.

A respelling is one such rewrite of the tree of a command.  None of them touches
what the command means: when it exists, and the parameters that it has then.

A rewrite is followed first where it is easy to see, among the members of a JSON
value that are the two fields of a command, and then in the tree, whose members
have yet to be read.  `Respelling.meaning?_eq` has one case for each rewrite.
-/
import DeckKeywords.Proofs.Availability
import DeckKeywords.Proofs.Table.Meaning

namespace DeckKeywords

open Json (Token Tree Value toOption_eq_some_iff mapM_eq_some_iff)

/-! ### What a command means -/

namespace Command

/-- What a command `c` means: when it exists, and its parameters, none if it declares none. -/
def meaning (c : Command) : Option Availability × ParamMap :=
  (c.availability, c.params.getD .empty)

/-- What the tree `t` of a command means, if it is one. -/
def meaning? (t : Tree) : Option (Option Availability × ParamMap) := (read t).map meaning

/-- What a JSON value `v` means as a command, if it is one. -/
def valueMeaning? (v : Value) : Option (Option Availability × ParamMap) := (ofValue? v).map meaning

theorem meaning?_eq (t : Tree) : meaning? t = (t.value 2).toOption.bind valueMeaning? := by
  rw [meaning?, read_eq, Option.map_bind]
  rfl

/-! ### Fields -/

variable {name : String}

theorem filter_key_eq_nil {members : List (String × Value)} (h : ∀ p ∈ members, p.1 ≠ name) :
    members.filter (·.1 = name) = [] :=
  List.filter_eq_nil_iff.mpr fun p hp => by simpa using h p hp

theorem field?_of_forall_ne {members : List (String × Value)} (h : ∀ p ∈ members, p.1 ≠ name) :
    field? name members = some none := by
  unfold field?
  rw [filter_key_eq_nil h]

theorem field?_append_cons_of_ne {k : String} (h : k ≠ name) (v : Value)
    (before after : List (String × Value)) :
    field? name (before ++ (k, v) :: after) = field? name (before ++ after) := by
  unfold field?
  rw [List.filter_append, List.filter_append, List.filter_cons_of_neg (by simpa using h)]

/-- A field is there if no other member, `before` or `after` it, has its `name`. -/
theorem field?_append_cons_self (v : Value) (before after : List (String × Value)) :
    field? name (before ++ (name, v) :: after)
      = if (before ++ after).filter (·.1 = name) = [] then some (some v) else none := by
  unfold field?
  rw [List.filter_append, List.filter_append, List.filter_cons_of_pos (by simp)]
  generalize before.filter (·.1 = name) = xs
  generalize after.filter (·.1 = name) = ys
  -- one more member of that name on either side makes two, and the field is refused
  rcases xs with - | ⟨x, - | ⟨x', xs⟩⟩
  · rcases ys with - | ⟨y, ys⟩ <;> rfl
  · rfl
  · rfl

theorem field?_of_only {v : Value} {before after : List (String × Value)}
    (honly : ∀ p ∈ before ++ after, p.1 ≠ name) :
    field? name (before ++ (name, v) :: after) = some (some v) := by
  rw [field?_append_cons_self, if_pos (filter_key_eq_nil honly)]

/-- The parameters of the value under `params`, none if it gives none. -/
def paramsOf? (v : Value) : Option ParamMap := (params? v).map (·.getD .empty)

theorem valueMeaning?_object (members : List (String × Value)) :
    valueMeaning? (.object members) = (field? "version" members).bind fun tag =>
      (field? "params" members).bind fun ps => (availability? (tag.getD .null)).bind fun a =>
        (paramsOf? (ps.getD .null)).map (a, ·) := by
  simp only [valueMeaning?, ofValue?, paramsOf?, Option.bind_eq_bind, Option.map_eq_bind,
    Option.bind_assoc]
  rfl

theorem valueMeaning?_array (items : List Value) :
    valueMeaning? (.array items) = (items.mapM Value.text?).map fun names =>
      (none, .ofList (names.map (·, none))) := by
  simp only [valueMeaning?, ofValue?, Option.bind_eq_bind, Option.map_eq_bind, Option.bind_assoc]
  rfl

section Members

variable {before after : List (String × Value)} {v : Value}

/-- Under its key a value `v` says no more than if the field were not there: as a tag no
availability, as parameters none. -/
inductive Omittable : String → Value → Prop where
  | tag {v : Value} (hv : availability? v = some none) : Omittable "version" v
  | params {v : Value} (hv : paramsOf? v = some .empty) : Omittable "params" v

/-- What is `Omittable` may be left out, unless another member has its `key`. -/
theorem valueMeaning?_omit {key : String} (hv : Omittable key v)
    (honly : ∀ p ∈ before ++ after, p.1 ≠ key) :
    valueMeaning? (.object (before ++ (key, v) :: after))
      = valueMeaning? (.object (before ++ after)) := by
  rw [valueMeaning?_object, valueMeaning?_object]
  cases hv with
  | tag hv | params hv =>
    rw [field?_of_only honly, field?_append_cons_of_ne (by decide), field?_of_forall_ne honly]
    simp only [Option.bind_some, Option.getD_some, hv]
    rfl

/-- A tag `v` may be replaced by another one, `w`, that means the same. -/
theorem valueMeaning?_replace_version {w : Value} (hvw : availability? v = availability? w) :
    valueMeaning? (.object (before ++ ("version", v) :: after))
      = valueMeaning? (.object (before ++ ("version", w) :: after)) := by
  simp only [valueMeaning?_object, field?_append_cons_self,
    field?_append_cons_of_ne (show "version" ≠ "params" by decide)]
  by_cases h : (before ++ after).filter (·.1 = "version") = []
  · simp only [if_pos h, Option.bind_some, Option.getD_some, hvw]
  · simp only [if_neg h, Option.bind_none]

end Members

/-- The `names` in a list are parameters that allow anything. -/
theorem valueMeaning?_names (names : List String) :
    valueMeaning? (.array (names.map .text))
      = valueMeaning? (.object [("params", .object (names.map (·, .null)))]) := by
  have htexts : (names.map Value.text).mapM Value.text? = some names := by
    rw [mapM_eq_some_iff, List.forall₂_map_left_iff, List.forall₂_same]
    exact fun _ _ => rfl
  have hparams : params? (.object (names.map (·, .null)))
      = some (some (.ofList (names.map (·, none)))) := by
    have hread : (names.map (·, Value.null)).mapM (fun p => (p.1, ·) <$> allowedValues? p.2)
        = some (names.map (·, none)) := by
      rw [mapM_eq_some_iff, List.forall₂_map_left_iff, List.forall₂_map_right_iff,
        List.forall₂_same]
      exact fun _ _ => rfl
    rw [params?]
    simp only [hread]
    rfl
  rw [valueMeaning?_array, htexts, valueMeaning?_object]
  simp [field?, paramsOf?, hparams, availability?]

/-! ### Rewriting the tree of a command -/

/-- Values that say no more under their key than if it were not there: `null`, a blank tag, or no
parameters. -/
inductive SaysNothing : String → Tree → Prop where
  | noTag : SaysNothing "version" .null
  | blankTag {tag : Token} {s : String} (htag : tag.read = .ok s) (hs : Text.isBlankText s) :
    SaysNothing "version" (.text tag)
  | noParams : SaysNothing "params" .null
  | emptyParams : SaysNothing "params" (.object [] none)

/-- One command written in two ways: its names in a list or as the keys of an object, a field that
says nothing left out or not, and a tag replaced by the one that is written for its meaning. -/
inductive Respelling : Tree → Tree → Prop where
  | names {k : Token} {names names' : List Token} (hk : k.read = .ok "params")
    (hnames : names.map Token.read = names'.map Token.read) :
    Respelling (.list (names.map .text) none)
      (.object [(k, .object (names'.map (·, .null)) none)] none)
  | omitted {k : Token} {key : String} {t : Tree} {before after : List (Token × Tree)}
    (hk : k.read = .ok key) (ht : SaysNothing key t)
    (honly : ∀ m ∈ before ++ after, m.1.read ≠ .ok key) :
    Respelling (.object (before ++ after) none) (.object (before ++ (k, t) :: after) none)
  | tag {k tag tag' : Token} {s : String} {a : Availability} {before after : List (Token × Tree)}
    (hk : k.read = .ok "version") (htag : tag.read = .ok s) (hs : Availability.parse s = some a)
    (htag' : tag'.read = .ok a.tag) :
    Respelling (.object (before ++ (k, .text tag) :: after) none)
      (.object (before ++ (k, .text tag') :: after) none)

theorem meaning?_object (members : List (Token × Tree)) :
    meaning? (.object members none)
      = (members.mapM (Tree.memberValue? 3)).bind fun vs => valueMeaning? (.object vs) := by
  rw [meaning?_eq, Json.toOption_value_object (by decide), Option.bind_map]
  rfl

theorem meaning?_list (items : List Tree) :
    meaning? (.list items none)
      = (items.mapM fun t : Tree => (t.value 3).toOption).bind fun vs =>
        valueMeaning? (.array vs) := by
  rw [meaning?_eq, Json.toOption_value_list (by decide), Option.bind_map]
  rfl

/-- The texts of the strings `names`, if they can be unescaped. -/
def readNames? (names : List Token) : Option (List String) :=
  (names.map Token.read).mapM Except.toOption

theorem meaning?_list_of_names (names : List Token) :
    meaning? (.list (names.map .text) none)
      = (readNames? names).bind fun ns => valueMeaning? (.array (ns.map .text)) := by
  have hvalue : (fun t : Tree => (t.value 3).toOption) ∘ Tree.text
      = fun name => name.read.toOption.map Value.text := by
    funext name
    rw [Function.comp_apply, Tree.value, Json.toOption_map]
  rw [meaning?_list, readNames?, List.mapM_map, List.mapM_map, hvalue, Json.mapM_map_eq,
    Option.bind_map]
  rfl

theorem meaning?_object_of_names {k : Token} (hk : k.read = .ok "params") (names : List Token) :
    meaning? (.object [(k, .object (names.map (·, .null)) none)] none)
      = (readNames? names).bind fun ns =>
        valueMeaning? (.object [("params", .object (ns.map (·, .null)))]) := by
  have hmember : (Tree.memberValue? 4) ∘ (fun name : Token => (name, Tree.null))
      = fun name => name.read.toOption.map (·, Value.null) := by
    funext name
    rcases h : name.read with e | n <;> simp [Tree.memberValue?, h, Tree.value, Except.toOption]
  have hvalue : ((Tree.object (names.map (·, Tree.null)) none).value 3).toOption
      = (readNames? names).map fun ns => .object (ns.map (·, Value.null)) := by
    rw [Json.toOption_value_object (by decide), readNames?, List.mapM_map, List.mapM_map, hmember,
      Json.mapM_map_eq, Option.map_map]
    rfl
  rw [meaning?_object, List.mapM_cons, List.mapM_nil, Tree.memberValue?, hk, hvalue]
  rcases readNames? names with - | ns <;> rfl

/-- The `meaning?` of an object in whose midst stands a member that can be read. -/
theorem meaning?_object_append_cons {k : Token} {key : String} {t : Tree} {v : Value}
    (hk : k.read = .ok key) (hv : t.value 3 = .ok v) (before after : List (Token × Tree)) :
    meaning? (.object (before ++ (k, t) :: after) none)
      = (before.mapM (Tree.memberValue? 3)).bind fun bs =>
        (after.mapM (Tree.memberValue? 3)).bind fun as =>
          valueMeaning? (.object (bs ++ (key, v) :: as)) := by
  have hmember : Tree.memberValue? 3 (k, t) = some (key, v) := by
    rw [Tree.memberValue?, hk, hv]
    rfl
  rw [meaning?_object, List.mapM_append, List.mapM_cons, hmember]
  simp [Option.bind_assoc]

/-- What `SaysNothing` has a value `v` that says nothing. -/
theorem SaysNothing.exists_value {key : String} {t : Tree} (h : SaysNothing key t) :
    ∃ v, t.value 3 = .ok v ∧ Omittable key v := by
  cases h with
  | noTag => exact ⟨.null, rfl, .tag rfl⟩
  | @blankTag tag s htag hs =>
    have hnone : availability? (.text s) = some none :=
      congrArg some (Availability.parse_of_isBlankText hs)
    exact ⟨.text s, by rw [Tree.value, htag]; rfl, .tag hnone⟩
  | noParams => exact ⟨.null, rfl, .params rfl⟩
  | emptyParams => exact ⟨.object [], rfl, .params rfl⟩

theorem ne_of_mapM_memberValue? {key : String} {ms : List (Token × Tree)}
    {vs : List (String × Value)} (hvs : ms.mapM (Tree.memberValue? 3) = some vs)
    (hne : ∀ m ∈ ms, m.1.read ≠ .ok key) : ∀ p ∈ vs, p.1 ≠ key := by
  rw [mapM_eq_some_iff] at hvs
  induction hvs with
  | nil => simp
  | @cons m p ms vs hmp _ ih =>
    rw [List.forall_mem_cons] at hne ⊢
    refine ⟨fun hkey => hne.1 ?_, ih hne.2⟩
    obtain ⟨k, hk, v, -, rfl⟩ : ∃ k, m.1.read.toOption = some k ∧
        ∃ v, (m.2.value 3).toOption = some v ∧ (k, v) = p := by
      simpa [Tree.memberValue?, Option.bind_eq_some_iff] using hmp
    rw [← hkey, toOption_eq_some_iff.mp hk]

/-- **A respelled command means the same**: `t` and `t'` have one `meaning?`. -/
theorem Respelling.meaning?_eq {t t' : Tree} (h : Respelling t t') : meaning? t = meaning? t' := by
  cases h with
  | @names k names names' hk hnames =>
    rw [meaning?_list_of_names, meaning?_object_of_names hk, readNames?, readNames?, hnames]
    simp only [valueMeaning?_names]
  | @omitted k key t before after hk ht honly =>
    obtain ⟨v, hv, homittable⟩ := ht.exists_value
    rw [meaning?_object_append_cons hk hv, meaning?_object, List.mapM_append]
    -- another member that cannot be read spoils both objects
    rcases hbefore : before.mapM (Tree.memberValue? 3) with - | bs
    · rfl
    rcases hafter : after.mapM (Tree.memberValue? 3) with - | as
    · rfl
    · have hne : ∀ p ∈ bs ++ as, p.1 ≠ key :=
        ne_of_mapM_memberValue? (by rw [List.mapM_append, hbefore, hafter]; rfl) honly
      exact (valueMeaning?_omit homittable hne).symm
  | @tag k tag tag' s a before after hk htag hs htag' =>
    have hv : (Tree.text tag).value 3 = .ok (.text s) := by rw [Tree.value, htag]; rfl
    have hv' : (Tree.text tag').value 3 = .ok (.text a.tag) := by rw [Tree.value, htag']; rfl
    -- the written tag is read back as what it was written for
    have hsame : availability? (.text s) = availability? (.text a.tag) := by
      rw [availability?, availability?, hs, Availability.parse_tag hs]
    rw [meaning?_object_append_cons hk hv, meaning?_object_append_cons hk hv']
    simp only [valueMeaning?_replace_version hsame]

end Command

end DeckKeywords
