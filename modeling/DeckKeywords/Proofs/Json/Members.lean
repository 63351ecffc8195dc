/-
DeckKeywords/Proofs/Json/Members.lean

An object as its list of members.  `members?` takes a tree, or a text, for the
members that it has in the order of the text, with their keys unescaped and
their values as they were written; there are none where the object breaks off
or a key cannot be unescaped.

Main results: `asMembers_eq_ok_iff` and `asMap_eq_ok_iff`, by which a decoder
succeeds exactly on an object all of whose values decode, and its map gathers
the members of the object.
-/
import DeckKeywords.Json.Decode
import DeckKeywords.Proofs.Json.Equality
import DeckKeywords.Proofs.OrderedMap

namespace DeckKeywords.Json

variable {ε α β : Type}

/-! ### Results -/

@[simp] theorem bind_eq_ok_iff {x : Except ε α} {f : α → Except ε β} {b : β} :
    x >>= f = .ok b ↔ ∃ a, x = .ok a ∧ f a = .ok b := by
  rcases x with e | a <;> simp [bind, Except.bind]

@[simp] theorem map_eq_ok_iff {x : Except ε α} {f : α → β} {b : β} :
    f <$> x = .ok b ↔ ∃ a, x = .ok a ∧ f a = b := by
  rcases x with e | a <;> simp [Functor.map, Except.map]

@[simp] theorem pure_eq_ok_iff {a b : α} : (pure a : Except ε α) = .ok b ↔ a = b := by
  simp [pure, Except.pure]

@[simp] theorem toOption_eq_some_iff {x : Except ε α} {a : α} : x.toOption = some a ↔ x = .ok a := by
  rcases x with e | b <;> simp [Except.toOption]

/-- Reading the list `xs` by `f` succeeds exactly when each item does. -/
theorem mapM_eq_some_iff {f : α → Option β} {xs : List α} {ys : List β} :
    xs.mapM f = some ys ↔ List.Forall₂ (fun x y => f x = some y) xs ys := by
  induction xs generalizing ys with
  | nil => cases ys <;> simp
  | cons x xs ih =>
    rw [List.mapM_cons]
    rcases hx : f x with - | y
    · cases ys <;> simp [hx]
    · rcases hxs : xs.mapM f with - | rest
      · cases ys <;> simp [← ih, hxs]
      · cases ys <;> simp [← ih, hxs, hx]

@[simp] theorem text?_eq_some_iff {v : Value} {s : String} : v.text? = some s ↔ v = .text s := by
  cases v <;> simp [Value.text?]

theorem mapM_text?_eq_some_iff {items : List Value} {ss : List String} :
    items.mapM Value.text? = some ss ↔ items = ss.map .text := by
  rw [mapM_eq_some_iff, ← List.forall₂_eq_eq_eq, List.forall₂_map_right_iff]
  simp only [text?_eq_some_iff]

@[simp] theorem texts?_eq_some_iff {v : Value} {ss : List String} : v.texts? = some ss ↔ v = .texts ss := by
  cases v with
  | array items => rw [Value.texts?, mapM_text?_eq_some_iff, Value.texts, Value.array.injEq]
  | null | bool | number | text | object => simp [Value.texts?, Value.texts]

/-- Items may be changed by `g` after all of them have been read. -/
theorem mapM_map_eq {γ : Type} (f : α → Option β) (g : β → γ) (xs : List α) :
    (xs.mapM fun x => (f x).map g) = (xs.mapM f).map (List.map g) := by
  induction xs with
  | nil => rfl
  | cons x xs ih =>
    rw [List.mapM_cons, List.mapM_cons, ih]
    rcases f x with - | y
    · rfl
    · rcases xs.mapM f with - | ys <;> rfl

@[simp] theorem toOption_bind (x : Except ε α) (f : α → Except ε β) :
    (x >>= f).toOption = x.toOption.bind fun a => (f a).toOption := by
  rcases x with e | a <;> rfl

@[simp] theorem toOption_map (x : Except ε α) (f : α → β) : (f <$> x).toOption = x.toOption.map f := by
  rcases x with e | a <;> rfl

/-! ### Members -/

/-- The `member` with its key unescaped. -/
def withKey? (member : Token × Tree) : Option (String × Tree) :=
  member.1.read.toOption.map (·, member.2)

/-- The members of a tree that is an object to its end, in the order of the text. -/
def Tree.members? : Tree → Option (List (String × Tree))
  | .object members none => members.mapM withKey?
  | _ => none

/-- The members of a text `s` that is one object. -/
def members? (s : String) : Option (List (String × Tree)) :=
  let document := Document.ofText s
  if document.trailing then none else document.root.members?

@[simp] theorem withKey?_eq_some_iff {k : Token} {t : Tree} {p : String × Tree} :
    withKey? (k, t) = some p ↔ k.read = .ok p.1 ∧ t = p.2 := by
  rcases p with ⟨key, u⟩
  rcases h : k.read with e | key' <;> simp [withKey?, h, Except.toOption]

/-! ### Values of members -/

@[simp] theorem checkDepth_eq_ok_iff {opened : Nat} {u : Unit} :
    checkDepth opened = .ok u ↔ opened < nestingLimit := by
  unfold checkDepth
  by_cases h : nestingLimit ≤ opened
  · simp [h]
  · simpa [h] using Nat.lt_of_not_le h

/-- The `member` read in full, inside so many open brackets. -/
def Tree.memberValue? (opened : Nat) (member : Token × Tree) : Option (String × Value) :=
  member.1.read.toOption.bind fun key => (member.2.value opened).toOption.map (key, ·)

theorem toOption_memberValues (opened : Nat) (ms : List (Token × Tree)) :
    (Tree.memberValues opened ms).toOption = ms.mapM (Tree.memberValue? opened) := by
  induction ms with
  | nil => rfl
  | cons m ms ih =>
    obtain ⟨k, t⟩ := m
    rw [List.mapM_cons, ← ih, Tree.memberValue?]
    simp only [Tree.memberValues, toOption_bind]
    rcases k.read.toOption with - | key
    · rfl
    · rcases (t.value opened).toOption with - | v <;> rfl

theorem toOption_itemValues (opened : Nat) (ts : List Tree) :
    (Tree.itemValues opened ts).toOption = ts.mapM fun t => (t.value opened).toOption := by
  induction ts with
  | nil => rfl
  | cons t ts ih =>
    rw [List.mapM_cons, ← ih]
    simp only [Tree.itemValues, toOption_bind]
    rcases (t.value opened).toOption with - | v <;> rfl

/-- The value of an object that is not too deep holds the values of its members `ms`. -/
theorem toOption_value_object {opened : Nat} (h : opened < nestingLimit)
    (ms : List (Token × Tree)) :
    (Tree.value opened (.object ms none)).toOption
      = (ms.mapM (Tree.memberValue? (opened + 1))).map .object := by
  have hdepth : checkDepth opened = .ok () := checkDepth_eq_ok_iff.mpr h
  rw [← toOption_memberValues, Tree.value, hdepth]
  rcases Tree.memberValues (opened + 1) ms with e | vs <;> rfl

/-- The value of a list that is not too deep holds the values of its items `ts`. -/
theorem toOption_value_list {opened : Nat} (h : opened < nestingLimit) (ts : List Tree) :
    (Tree.value opened (.list ts none)).toOption
      = (ts.mapM fun t : Tree => (t.value (opened + 1)).toOption).map .array := by
  have hdepth : checkDepth opened = .ok () := checkDepth_eq_ok_iff.mpr h
  rw [← toOption_itemValues, Tree.value, hdepth]
  rcases Tree.itemValues (opened + 1) ts with e | vs <;> rfl

/-! ### Decoding members -/

variable {member : String → Tree → Except Fault α}

theorem readEach_eq_ok_iff {ms : List (Token × Tree)} {xs : List α} :
    Tree.readEach member ms = .ok xs ↔ ∃ ps, ms.mapM withKey? = some ps ∧
      List.Forall₂ (fun p x => member p.1 p.2 = .ok x) ps xs := by
  simp only [mapM_eq_some_iff]
  induction ms generalizing xs with
  | nil => cases xs <;> simp [Tree.readEach]
  | cons m ms ih =>
    obtain ⟨k, t⟩ := m
    simp only [Tree.readEach, bind_eq_ok_iff, ih]
    constructor
    · rintro ⟨key, hkey, x, hx, rest, ⟨ps, hps, hrest⟩, hxs⟩
      cases hxs
      exact ⟨(key, t) :: ps, .cons (withKey?_eq_some_iff.mpr ⟨hkey, rfl⟩) hps, .cons hx hrest⟩
    · rintro ⟨ps, hps, hxs⟩
      cases hps with
      | @cons _ p _ ps hp hps =>
        obtain ⟨hkey, rfl⟩ := withKey?_eq_some_iff.mp hp
        cases hxs with
        | cons hx hrest => exact ⟨p.1, hkey, _, hx, _, ⟨ps, hps, hrest⟩, rfl⟩

@[simp] theorem close_eq_ok_iff {stop : Option Break} {u : Unit} : close stop = .ok u ↔ stop = none := by
  rcases stop with - | b <;> simp [close]

/-- A tree `t` decodes to what its members decode to, `xs`, if it is an object of members that
do. -/
theorem asMembers_eq_ok_iff {expected : String} {opened : Nat} {t : Tree} {xs : List α} :
    t.asMembers expected opened member = .ok xs ↔ opened < nestingLimit ∧
      ∃ ms, t.members? = some ms ∧ List.Forall₂ (fun p x => member p.1 p.2 = .ok x) ms xs := by
  cases t with
  | object members stop =>
    simp only [Tree.asMembers, bind_eq_ok_iff, checkDepth_eq_ok_iff, close_eq_ok_iff,
      readEach_eq_ok_iff, pure_eq_ok_iff]
    constructor
    · rintro ⟨-, hdepth, ys, hys, -, rfl, rfl⟩
      exact ⟨hdepth, hys⟩
    · rintro ⟨hdepth, ms, hms, hxs⟩
      rcases stop with - | b
      · exact ⟨(), hdepth, xs, ⟨ms, hms, hxs⟩, (), rfl, rfl⟩
      · cases hms
  | null | bool | number | text | list | broken => simp [Tree.asMembers, Tree.members?]

/-- A tree `t` decodes to a map `m` exactly if it is an object whose members `m` gathers. -/
theorem asMap_eq_ok_iff {item : Tree → Except Fault α} {opened : Nat} {t : Tree}
    {m : OrderedMap α} :
    t.asMap opened item = .ok m ↔ opened < nestingLimit ∧
      ∃ ms, t.members? = some ms ∧ m.Gathers (fun t => (item t).toOption) ms := by
  have hread : ∀ (p : String × Tree) (x : String × α), (∃ a, item p.2 = .ok a ∧ (p.1, a) = x) ↔
      OrderedMap.ReadsAs (fun t => (item t).toOption) p x := by
    rintro ⟨k, t⟩ ⟨k', v⟩
    simp only [Prod.mk.injEq, OrderedMap.ReadsAs, toOption_eq_some_iff]
    constructor
    · rintro ⟨a, ha, rfl, rfl⟩
      exact ⟨rfl, ha⟩
    · rintro ⟨rfl, ha⟩
      exact ⟨v, ha, rfl, rfl⟩
  simp only [Tree.asMap, map_eq_ok_iff, asMembers_eq_ok_iff, OrderedMap.gathers_iff]
  constructor
  · rintro ⟨pairs, ⟨hdepth, ms, hms, hpairs⟩, rfl⟩
    exact ⟨hdepth, ms, hms, pairs, hpairs.imp fun p x => (hread p x).mp, rfl⟩
  · rintro ⟨hdepth, ms, hms, pairs, hpairs, rfl⟩
    exact ⟨pairs, ⟨hdepth, ms, hms, hpairs.imp fun p x => (hread p x).mpr⟩, rfl⟩

/-- A text `s` decodes by `root` if what it holds does and nothing follows that. -/
theorem decode_eq_ok_iff {root : Tree → Except Fault α} {s : String} {a : α} :
    decode root s = .ok a ↔
      (Document.ofText s).trailing = false ∧ root (Document.ofText s).root = .ok a := by
  rcases h : (Document.ofText s).trailing with - | - <;>
    simp [decode, h]

end DeckKeywords.Json
