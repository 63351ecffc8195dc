/-
DeckKeywords/Proofs/OrderedMap/Indexed.lean

Ordered maps with an index.  To find a key without going through the entries, a
hash map beside them remembers where each key stands.  Nothing in the type says
that the two fit together: an index that points outside the entries would leave
a look-up without an answer, and a key that the index does not know would be
written a second time.

An indexed map keeps an ordered map if it has its entries and its index says of
each key the position that the key has there.  This is so for the empty map,
and writing a value preserves it, so no index that is met on the way ever points
outside the entries.

Main result: `safelyIndexed`, for every ordered map and every way to write it.
-/
import DeckKeywords.Proofs.OrderedMap

namespace DeckKeywords

universe u

variable {α : Type u}

/-! ### Positions -/

namespace OrderedMap

variable {m : OrderedMap α} {key : String} {i : Nat}

/-- A `value` is written at the position `i` of its `key`, or else at the end. -/
theorem exchangeEntry_eq (key : String) (value : α) (entries : List (String × α)) :
    exchangeEntry key value entries
      = match (entries.map Prod.fst).idxOf? key with
        | none => (none, entries ++ [(key, value)])
        | some i => (entries[i]?.map Prod.snd, entries.set i (key, value)) := by
  induction entries with
  | nil => rfl
  | cons e rest ih =>
    obtain ⟨k, w⟩ := e
    rw [List.map_cons, List.idxOf?_cons]
    by_cases h : k = key
    · simp [exchangeEntry, h]
    · rw [exchangeEntry, if_neg h, ih, beq_false_of_ne h]
      rcases (rest.map Prod.fst).idxOf? key with - | i <;> rfl

theorem position?_eq_none_iff : m.position? key = none ↔ key ∉ m.keys :=
  List.idxOf?_eq_none_iff

/-- As `m.keys` are distinct, `key` has no other position than the one where it stands. -/
theorem position?_eq_some_iff : m.position? key = some i ↔ m.keys[i]? = some key := by
  rw [position?, List.idxOf?_eq_some_iff, List.getElem?_eq_some_iff]
  constructor
  · rintro ⟨hi, hkey, -⟩
    exact ⟨hi, hkey⟩
  · rintro ⟨hi, hkey⟩
    refine ⟨hi, hkey, fun j hj heq => ?_⟩
    have hsame : m.keys[i]? = m.keys[j]? := by
      rw [List.getElem?_eq_getElem hi, List.getElem?_eq_getElem (Nat.lt_trans hj hi), hkey, heq]
    exact Nat.ne_of_lt hj ((List.getElem?_inj hi m.distinct).mp hsame).symm

/-- The entry at the position `i` of `key` is the key with its `value`. -/
theorem getElem?_of_position? (h : m.position? key = some i) :
    ∃ value, m.entries[i]? = some (key, value) ∧ m.get? key = some value := by
  have hkey : (m.entries[i]?).map Prod.fst = some key := by
    rw [← List.getElem?_map]
    exact position?_eq_some_iff.mp h
  obtain ⟨⟨k, value⟩, hentry, rfl⟩ := Option.map_eq_some_iff.mp hkey
  refine ⟨value, hentry, ?_⟩
  rw [get?, h, Option.bind_some, values, List.getElem?_map, hentry]
  rfl

theorem get?_of_position?_eq_none (h : m.position? key = none) : m.get? key = none := by
  rw [get?, h, Option.bind_none]

/-- A new `key` gets the position behind the last one, `m.size`, and all other positions stay. -/
theorem position?_insert (m : OrderedMap α) (key k : String) (value : α) :
    (m.insert key value).position? k
      = if k = key ∧ key ∉ m.keys then some m.size else m.position? k := by
  unfold position?
  rw [keys_insert]
  by_cases hkey : key ∈ m.keys
  · rw [if_pos hkey, if_neg fun h => h.2 hkey]
  · rw [if_neg hkey, List.idxOf?, List.findIdx?_append]
    by_cases hk : k = key
    · have hnone : m.keys.findIdx? (· == k) = none := position?_eq_none_iff.mpr (hk ▸ hkey)
      rw [if_pos ⟨hk, hkey⟩, hnone]
      simp [hk, keys, size]
    · rw [if_neg fun h => hk h.1]
      simp [Ne.symm hk]

/-- Writing under a new `key` appends an entry, and replaces nothing. -/
theorem exchange_of_position?_eq_none (h : m.position? key = none) (value : α) :
    (m.exchange key value).1 = none ∧
      (m.insert key value).entries = m.entries ++ [(key, value)] := by
  have hwritten := exchangeEntry_eq key value m.entries
  rw [show (m.entries.map Prod.fst).idxOf? key = none from h] at hwritten
  exact ⟨congrArg Prod.fst hwritten, congrArg Prod.snd hwritten⟩

/-- Writing under a `key` that is there, at `i`, replaces its value, in place. -/
theorem exchange_of_position? (h : m.position? key = some i) (value : α) :
    (m.exchange key value).1 = m.get? key ∧
      (m.insert key value).entries = m.entries.set i (key, value) := by
  have hwritten := exchangeEntry_eq key value m.entries
  rw [show (m.entries.map Prod.fst).idxOf? key = some i from h] at hwritten
  refine ⟨(congrArg Prod.fst hwritten).trans ?_, congrArg Prod.snd hwritten⟩
  rw [get?, h, Option.bind_some, values, List.getElem?_map]

end OrderedMap

/-! ### Indexed maps -/

/-- The `entries` in order, and beside them the `index`, where each key stands. -/
structure IndexedMap (α : Type u) where
  entries : List (String × α)
  index : Std.HashMap String Nat

namespace IndexedMap

/-- The map without entries. -/
def empty : IndexedMap α := ⟨[], ∅⟩

/-- Writes `value` where the index says that `key` stands, or at the end if the index says nothing,
and reports the value that it replaces.  Nothing can be written where the index points outside the
entries. -/
def exchange? (im : IndexedMap α) (key : String) (value : α) : Option (Option α × IndexedMap α) :=
  match im.index[key]? with
  | none => some (none, ⟨im.entries ++ [(key, value)], im.index.insert key im.entries.length⟩)
  | some i => im.entries[i]?.map fun e => (some e.2, ⟨im.entries.set i (e.1, value), im.index⟩)

/-- Writes the `pairs` in turn, if none of them meets an index that points outside the entries. -/
def ofList? (pairs : List (String × α)) : Option (IndexedMap α) :=
  pairs.foldlM (fun im p => (im.exchange? p.1 p.2).map (·.2)) empty

/-- The value where the index says that `key` stands, none if the index says nothing.  There is no
answer where the index points outside the entries. -/
def get? (im : IndexedMap α) (key : String) : Option (Option α) :=
  match im.index[key]? with
  | none => some none
  | some i => im.entries[i]?.map fun e => some e.2

/-- The indexed map `im` keeps the ordered map `m`: it has the same entries, and its index knows the
`position?` of each key. -/
structure Keeps (im : IndexedMap α) (m : OrderedMap α) : Prop where
  entries_eq : im.entries = m.entries
  index_eq : ∀ key, im.index[key]? = m.position? key

variable {im : IndexedMap α} {m : OrderedMap α}

theorem keeps_empty : (empty : IndexedMap α).Keeps .empty where
  entries_eq := rfl
  index_eq _ := Std.HashMap.getElem?_empty

/-- Looking up `key` in `im` comes to an end, with what `m` has under it. -/
theorem Keeps.get?_eq (h : im.Keeps m) (key : String) : im.get? key = some (m.get? key) := by
  rw [get?, h.index_eq, h.entries_eq]
  rcases hposition : m.position? key with - | i
  · rw [OrderedMap.get?_of_position?_eq_none hposition]
  · obtain ⟨value, hentry, hvalue⟩ := OrderedMap.getElem?_of_position? hposition
    simp [hentry, hvalue]

/-- Writing `value` to both maps, the same value is replaced, and `im'` keeps the map that `m` has
become. -/
theorem Keeps.exchange? (h : im.Keeps m) (key : String) (value : α) :
    ∃ im', im.exchange? key value = some ((m.exchange key value).1, im') ∧
      im'.Keeps (m.insert key value) := by
  rcases hposition : m.position? key with - | i
  -- a new key: the index gains the position behind the last entry, where the value goes
  · have hkey : key ∉ m.keys := OrderedMap.position?_eq_none_iff.mp hposition
    obtain ⟨hold, hentries⟩ := OrderedMap.exchange_of_position?_eq_none hposition value
    refine ⟨⟨im.entries ++ [(key, value)], im.index.insert key im.entries.length⟩, ?_, ?_, ?_⟩
    · rw [IndexedMap.exchange?, h.index_eq, hposition, hold]
    · rw [h.entries_eq, hentries]
    · intro k
      rw [Std.HashMap.getElem?_insert, h.index_eq, h.entries_eq, OrderedMap.position?_insert]
      by_cases hk : k = key
      · simp [hk, hkey, OrderedMap.size]
      · simp [hk, Ne.symm hk]
  -- a known key: the index stays as it is, and so do the positions of all keys
  · have hkey : key ∈ m.keys := List.mem_of_getElem? (OrderedMap.position?_eq_some_iff.mp hposition)
    obtain ⟨hold, hentries⟩ := OrderedMap.exchange_of_position? hposition value
    obtain ⟨old, hentry, hvalue⟩ := OrderedMap.getElem?_of_position? hposition
    refine ⟨⟨im.entries.set i (key, value), im.index⟩, ?_, ?_, ?_⟩
    · simp only [IndexedMap.exchange?, h.index_eq, h.entries_eq, hposition, hentry, hold, hvalue,
        Option.map_some]
    · rw [h.entries_eq, hentries]
    · intro k
      rw [h.index_eq, OrderedMap.position?_insert, if_neg fun h => h.2 hkey]

/-- The `pairs` can be written in turn, and what they are written to keeps the map that they
make. -/
theorem exists_ofList? (pairs : List (String × α)) :
    ∃ im, ofList? pairs = some im ∧ im.Keeps (.ofList pairs) := by
  induction pairs using List.reverseRecOn with
  | nil => exact ⟨empty, rfl, keeps_empty⟩
  | append_singleton pairs p ih =>
    obtain ⟨im, him, hkeeps⟩ := ih
    obtain ⟨im', hstep, hkeeps'⟩ := hkeeps.exchange? p.1 p.2
    refine ⟨im', ?_, ?_⟩
    · rw [ofList?, List.foldlM_append, ← ofList?, him]
      simp [hstep]
    · rw [OrderedMap.ofList_concat]
      exact hkeeps'

end IndexedMap

/-! ### Every map, however it is written -/

namespace OrderedMap

/-- The `entries`, with distinct keys, are written as they are. -/
theorem entries_ofList {entries : List (String × α)} (h : (entries.map Prod.fst).Nodup) :
    (ofList entries).entries = entries := by
  induction entries using List.reverseRecOn with
  | nil => rfl
  | append_singleton entries e ih =>
    rw [List.map_append, List.nodup_append] at h
    obtain ⟨hentries, -, hnew⟩ := h
    have hwritten := ih hentries
    have hkey : e.1 ∉ (ofList entries).keys := by
      rw [keys, hwritten]
      exact fun hmem => hnew e.1 hmem e.1 (by simp) rfl
    rw [ofList_concat, (exchange_of_position?_eq_none (position?_eq_none_iff.mpr hkey) e.2).2,
      hwritten]

/-- The map `m` can be written pair by pair, and in whatever way that is done, an index can be kept
beside it: it never points outside the entries, and it leads every look-up to what `m` has. -/
def SafelyIndexed (m : OrderedMap α) : Prop :=
  (∃ pairs, ofList pairs = m) ∧ ∀ pairs, ofList pairs = m →
    ∃ im, IndexedMap.ofList? pairs = some im ∧ im.entries = m.entries ∧
      (∀ (key : String) (i : Nat), im.index[key]? = some i → i < im.entries.length) ∧
      ∀ key, im.get? key = some (m.get? key)

theorem safelyIndexed (m : OrderedMap α) : m.SafelyIndexed := by
  refine ⟨⟨m.entries, ext_entries (entries_ofList m.distinct)⟩, ?_⟩
  rintro pairs rfl
  obtain ⟨im, him, hkeeps⟩ := IndexedMap.exists_ofList? pairs
  refine ⟨im, him, hkeeps.entries_eq, fun key i hindex => ?_, hkeeps.get?_eq⟩
  rw [hkeeps.index_eq] at hindex
  obtain ⟨value, hentry, -⟩ := getElem?_of_position? hindex
  rw [hkeeps.entries_eq]
  exact (List.getElem?_eq_some_iff.mp hentry).1

end OrderedMap

end DeckKeywords
