/-
DeckKeywords/Proofs/OrderedMap/Changes.lean

Ordered maps through any sequence of changes.  A variable that holds a map can
be set back to the empty one, have a value written to it, and be given a new map
made from pairs or read from JSON; JSON that does not read as a map leaves it as
it is.

The changes are carried out twice: on the ordered list of entries, and on
entries with an index beside them.  One step keeps the two together, so any
sequence does, `exists_changed?`, and what is known of the one carries over to
the other:

  * the keys are distinct, and the index says of each key where it stands and of
    nothing else,
  * writing a value reports the one that stood there and moves no other entry,
  * comparing the entries and the index is comparing the entries.

Main result: `changes_keep_index`.
-/
import DeckKeywords.Json.Decode
import DeckKeywords.Proofs.OrderedMap.Indexed

namespace DeckKeywords

open Json (Tree Fault)

/-- What can be done to a variable that holds a map: `clear` it, `insert` a value, or put another
map in its place, given by pairs or decoded. -/
inductive Change (α : Type) where
  | clear
  | insert (key : String) (value : α)
  | ofList (pairs : List (String × α))
  | ofTree (opened : Nat) (item : Tree → Except Fault α) (tree : Tree)

namespace OrderedMap

variable {α : Type}

/-- Carries out a `Change` of `m`. -/
def change (m : OrderedMap α) : Change α → OrderedMap α
  | .clear => empty
  | .insert key value => m.insert key value
  | .ofList pairs => ofList pairs
  | .ofTree opened item tree => (tree.asMap opened item).toOption.getD m

/-- The map after `changes` in turn, from the `empty` one on. -/
def changed (changes : List (Change α)) : OrderedMap α := changes.foldl change empty

end OrderedMap

namespace IndexedMap

variable {α : Type} {im jm : IndexedMap α} {m n : OrderedMap α}

/-- The keys of `im`, in order. -/
def keys (im : IndexedMap α) : List String := im.entries.map Prod.fst

/-- Whether the index of `im` knows the `key`. -/
def contains (im : IndexedMap α) (key : String) : Bool := im.index.contains key

/-- Maps are compared by their entries and by their indexes. -/
instance [BEq α] : BEq (IndexedMap α) :=
  ⟨fun im jm => im.entries == jm.entries && im.index == jm.index⟩

/-- Carries out a `Change` of `im`, unless it meets an index that points outside the entries. -/
def change? (im : IndexedMap α) : Change α → Option (IndexedMap α)
  | .clear => some empty
  | .insert key value => (im.exchange? key value).map (·.2)
  | .ofList pairs => ofList? pairs
  | .ofTree opened item tree =>
    match tree.asMembers "a map with string keys" opened fun k t => (k, ·) <$> item t with
    | .ok pairs => ofList? pairs
    | .error _ => some im

/-- The map after `changes` in turn, from the `empty` one on, if none meets an index that points
outside. -/
def changed? (changes : List (Change α)) : Option (IndexedMap α) := changes.foldlM change? empty

/-! ### Changes -/

/-- A change `c` can be carried out on the map `im` with an index, and it comes to the same there as
in `m`, without. -/
theorem Keeps.change? (h : im.Keeps m) (c : Change α) :
    ∃ im', im.change? c = some im' ∧ im'.Keeps (m.change c) := by
  cases c with
  | clear => exact ⟨empty, rfl, keeps_empty⟩
  | insert key value =>
    obtain ⟨im', hstep, hkeeps⟩ := h.exchange? key value
    refine ⟨im', ?_, hkeeps⟩
    rw [IndexedMap.change?, hstep, Option.map_some]
  | ofList pairs => exact exists_ofList? pairs
  | ofTree opened item tree =>
    rw [IndexedMap.change?, OrderedMap.change, Tree.asMap]
    rcases tree.asMembers "a map with string keys" opened fun k t => (k, ·) <$> item t with
      fault | pairs
    · exact ⟨im, rfl, h⟩
    · exact exists_ofList? pairs

theorem exists_changed? (changes : List (Change α)) :
    ∃ im, changed? changes = some im ∧ im.Keeps (.changed changes) := by
  induction changes using List.reverseRecOn with
  | nil => exact ⟨empty, rfl, keeps_empty⟩
  | append_singleton changes c ih =>
    obtain ⟨im, him, hkeeps⟩ := ih
    obtain ⟨im', hstep, hkeeps'⟩ := hkeeps.change? c
    refine ⟨im', ?_, ?_⟩
    · rw [changed?, List.foldlM_append, ← changed?, him]
      simp [hstep]
    · rw [OrderedMap.changed, List.foldl_append]
      exact hkeeps'

/-! ### What the index knows -/

theorem Keeps.keys_eq (h : im.Keeps m) : im.keys = m.keys := by
  rw [keys, h.entries_eq, OrderedMap.keys]

/-- The index says of each `key` where it stands in `im.keys`. -/
theorem Keeps.index_eq_some_iff (h : im.Keeps m) {key : String} {i : Nat} :
    im.index[key]? = some i ↔ im.keys[i]? = some key := by
  rw [h.index_eq, h.keys_eq]
  exact OrderedMap.position?_eq_some_iff

theorem Keeps.contains_eq (h : im.Keeps m) (key : String) :
    im.contains key = (m.get? key).isSome := by
  rw [contains, Std.HashMap.contains_eq_isSome_getElem?, h.index_eq]
  rcases hposition : m.position? key with - | i
  · rw [OrderedMap.get?_of_position?_eq_none hposition]
    rfl
  · obtain ⟨value, -, hvalue⟩ := OrderedMap.getElem?_of_position? hposition
    rw [hvalue]
    rfl

/-- What it means to write `value` under `key`: the value `old` that stood there is reported, a new
key goes to the end, and nothing else changes from `im` to `im'`, neither what stands under the
other keys nor where a key or another entry stands. -/
structure Writes (im : IndexedMap α) (key : String) (value : α) (old : Option α)
    (im' : IndexedMap α) : Prop where
  old_eq : im.get? key = some old
  keys_eq : im'.keys = if key ∈ im.keys then im.keys else im.keys ++ [key]
  get?_eq : ∀ k, im'.get? k = if k = key then some (some value) else im.get? k
  positions : ∀ (k : String) (i : Nat), im.index[k]? = some i → im'.index[k]? = some i
  others : ∀ (i : Nat) (e : String × α), im.entries[i]? = some e → e.1 ≠ key →
    im'.entries[i]? = some e

/-- An entry `e` under another key stays where it is when a `value` is written under `key`. -/
theorem getElem?_insert_of_ne {key : String} {i : Nat} {e : String × α}
    (he : m.entries[i]? = some e) (hne : e.1 ≠ key) (value : α) :
    (m.insert key value).entries[i]? = some e := by
  rcases hposition : m.position? key with - | j
  · obtain ⟨hi, -⟩ := List.getElem?_eq_some_iff.mp he
    rw [(OrderedMap.exchange_of_position?_eq_none hposition value).2,
      List.getElem?_append_left hi, he]
  · have hij : j ≠ i := by
      rintro rfl
      obtain ⟨value', hentry, -⟩ := OrderedMap.getElem?_of_position? hposition
      rw [he] at hentry
      exact hne (congrArg Prod.fst (Option.some.inj hentry))
    rw [(OrderedMap.exchange_of_position? hposition value).2, List.getElem?_set_ne hij, he]

/-- A `value` can be written to any map `im` that is met on the way. -/
theorem Keeps.exists_writes (h : im.Keeps m) (key : String) (value : α) :
    ∃ old im', im.exchange? key value = some (old, im') ∧ im.Writes key value old im' := by
  obtain ⟨im', hstep, h'⟩ := h.exchange? key value
  have hold : (m.exchange key value).1 = m.get? key := by
    rcases hposition : m.position? key with - | i
    · rw [(OrderedMap.exchange_of_position?_eq_none hposition value).1,
        OrderedMap.get?_of_position?_eq_none hposition]
    · exact (OrderedMap.exchange_of_position? hposition value).1
  refine ⟨_, im', hstep, ?_, ?_, ?_, ?_, ?_⟩
  · rw [h.get?_eq, hold]
  · rw [h'.keys_eq, h.keys_eq, OrderedMap.keys_insert]
  · intro k
    rw [h'.get?_eq, h.get?_eq, OrderedMap.get?_insert]
    by_cases hk : k = key <;> simp [hk]
  · intro k i hi
    -- a key that has a position is no new one, so it does not get the position behind the last
    rw [h.index_eq] at hi
    have hk : k ∈ m.keys := List.mem_of_getElem? (OrderedMap.position?_eq_some_iff.mp hi)
    rw [h'.index_eq, OrderedMap.position?_insert, if_neg, hi]
    rintro ⟨rfl, hnew⟩
    exact hnew hk
  · intro i e he hne
    rw [h.entries_eq] at he
    rw [h'.entries_eq]
    exact getElem?_insert_of_ne he hne value

/-! ### Comparing maps -/

/-- Entries `es` and `fs` that compare as equal have the same keys. -/
theorem keys_eq_of_beq [BEq α] {es fs : List (String × α)} (h : (es == fs) = true) :
    es.map Prod.fst = fs.map Prod.fst := by
  induction es generalizing fs with
  | nil =>
    cases fs with
    | nil => rfl
    | cons f fs => cases h
  | cons e es ih =>
    cases fs with
    | nil => cases h
    | cons f fs =>
      rw [List.cons_beq_cons, Bool.and_eq_true] at h
      have hkey : e.1 = f.1 := by
        have hentry : (e.1 == f.1 && e.2 == f.2) = true := h.1
        rw [Bool.and_eq_true] at hentry
        exact eq_of_beq hentry.1
      rw [List.map_cons, List.map_cons, hkey, ih h.2]

/-- The indexes of maps with the same keys agree, so comparing them in `im == jm` adds nothing. -/
theorem Keeps.beq_eq [BEq α] (h : im.Keeps m) (h' : jm.Keeps n) :
    (im == jm) = (im.entries == jm.entries) := by
  show (im.entries == jm.entries && im.index == jm.index) = _
  rcases hentries : im.entries == jm.entries with - | -
  · rfl
  · have hkeys : m.keys = n.keys := by
      rw [← h.keys_eq, ← h'.keys_eq]
      exact keys_eq_of_beq hentries
    have hindex : im.index.Equiv jm.index := by
      refine Std.HashMap.Equiv.of_forall_getElem?_eq fun key => ?_
      rw [h.index_eq, h'.index_eq, OrderedMap.position?, OrderedMap.position?, hkeys]
    rw [hindex.beq]
    rfl

/-! ### Insertions -/

/-- Writing the values of `pairs` in turn is a sequence of changes. -/
theorem changed_inserts (pairs : List (String × α)) :
    OrderedMap.changed (pairs.map fun p => .insert p.1 p.2) = .ofList pairs := by
  rw [OrderedMap.changed, List.foldl_map]
  rfl

/-- **The index follows the entries.**  Whatever `changes` are made to a map `im` with an index, it
comes to what they make of `m`, the ordered list of its entries: `changed?` meets no index that
points outside, `im.keys` are distinct, and `im.index` says of each `key` where it stands and of
nothing else.  `get?`, `contains` and `exchange?` go through to the entries, and `im == jm` exactly
if their entries do.  After `pairs` were written in turn, the keys stand in the order in which they
first came, each with its `lastValue?`. -/
theorem changes_keep_index (α : Type) [BEq α] :
    (∀ changes : List (Change α), ∃ im, changed? changes = some im ∧
      let m := OrderedMap.changed changes
      im.entries = m.entries ∧ im.keys.Nodup ∧
      (∀ (key : String) (i : Nat), im.index[key]? = some i ↔ im.keys[i]? = some key) ∧
      (∀ key, im.get? key = some (m.get? key) ∧ im.contains key = (m.get? key).isSome) ∧
      (∀ key value, ∃ old im', im.exchange? key value = some (old, im') ∧
        im.Writes key value old im') ∧
      ∀ others, ∃ jm, changed? others = some jm ∧
        (im == jm) = (im.entries == jm.entries)) ∧
    ∀ pairs : List (String × α), ∃ im,
      changed? (pairs.map fun p => .insert p.1 p.2) = some im ∧
      im.keys = (pairs.map Prod.fst).eraseDups ∧
      ∀ key, im.get? key = some (lastValue? pairs key) ∧
        im.contains key = (lastValue? pairs key).isSome := by
  constructor
  -- the map with the index keeps to the ordered one, which has distinct keys
  · intro changes
    obtain ⟨im, him, h⟩ := exists_changed? changes
    refine ⟨im, him, h.entries_eq, ?_, fun key i => h.index_eq_some_iff, ?_, h.exists_writes, ?_⟩
    · rw [h.keys_eq]
      exact (OrderedMap.changed changes).distinct
    · exact fun key => ⟨h.get?_eq key, h.contains_eq key⟩
    · intro others
      obtain ⟨jm, hjm, h'⟩ := exists_changed? others
      exact ⟨jm, hjm, h.beq_eq h'⟩
  · intro pairs
    obtain ⟨im, him, h⟩ := exists_changed? (pairs.map fun p => .insert p.1 p.2)
    rw [changed_inserts] at h
    refine ⟨im, him, ?_, fun key => ?_⟩
    · rw [h.keys_eq, OrderedMap.keys_ofList]
    · rw [h.get?_eq, h.contains_eq, OrderedMap.get?_ofList]
      exact ⟨rfl, rfl⟩

end IndexedMap

end DeckKeywords
