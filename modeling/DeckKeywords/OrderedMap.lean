/-
DeckKeywords/OrderedMap.lean

Maps from texts that keep their keys in the order of first insertion.  The
keys are distinct by the type, so a key has one position, and a map is its
list of entries.

`exchange` writes a value and reports the one it replaces: a key that is
already there keeps its position, a new key goes to the end.
-/
import DeckKeywords.Text.Quoted

namespace DeckKeywords

universe u v

variable {α : Type u} {β : Type v}

/-! ### Writing to a list of entries -/

/-- Writes a `value` under a `key`, and reports the value that stood there. -/
def exchangeEntry (key : String) (value : α) : List (String × α) → Option α × List (String × α)
  | [] => (none, [(key, value)])
  | (k, w) :: rest =>
    if k = key then (some w, (key, value) :: rest)
    else
      let (old, rest') := exchangeEntry key value rest
      (old, (k, w) :: rest')

theorem mem_keys_exchangeEntry (key : String) (value : α) (entries : List (String × α))
    (k : String) :
    k ∈ (exchangeEntry key value entries).2.map Prod.fst ↔ k = key ∨ k ∈ entries.map Prod.fst := by
  induction entries with
  | nil => simp [exchangeEntry]
  | cons e rest ih =>
    obtain ⟨k', w⟩ := e
    by_cases h : k' = key
    · subst h; simp [exchangeEntry]
    · simp only [exchangeEntry, h, if_false, List.map_cons, List.mem_cons, ih]
      grind

theorem nodup_exchangeEntry (key : String) (value : α) {entries : List (String × α)}
    (h : (entries.map Prod.fst).Nodup) :
    ((exchangeEntry key value entries).2.map Prod.fst).Nodup := by
  induction entries with
  | nil => simp [exchangeEntry]
  | cons e rest ih =>
    obtain ⟨k', w⟩ := e
    rw [List.map_cons, List.nodup_cons] at h
    by_cases hk : k' = key
    · subst hk; simpa [exchangeEntry] using h
    · simp only [exchangeEntry, hk, if_false, List.map_cons, List.nodup_cons]
      refine ⟨?_, ih h.2⟩
      rw [mem_keys_exchangeEntry]
      rintro (h' | h')
      · exact hk h'
      · exact h.1 h'

/-! ### Maps -/

/-- Entries with distinct keys and values in `α`, in the order in which the keys first arrived. -/
structure OrderedMap (α : Type u) where
  entries : List (String × α)
  distinct : (entries.map Prod.fst).Nodup

namespace OrderedMap

@[ext] theorem ext_entries {m n : OrderedMap α} (h : m.entries = n.entries) : m = n := by
  cases m; cases n; cases h; rfl

instance [DecidableEq α] : DecidableEq (OrderedMap α) := fun m n =>
  decidable_of_iff (m.entries = n.entries) ⟨ext_entries, fun h => h ▸ rfl⟩

/-- The map without entries. -/
def empty : OrderedMap α := ⟨[], List.nodup_nil⟩

instance : Inhabited (OrderedMap α) := ⟨empty⟩

/-- Writes a `value` under a `key` of `m`, and reports the value that it replaces. -/
def exchange (m : OrderedMap α) (key : String) (value : α) : Option α × OrderedMap α :=
  ((exchangeEntry key value m.entries).1,
    ⟨(exchangeEntry key value m.entries).2, nodup_exchangeEntry key value m.distinct⟩)

/-- Writes a `value` under a `key` of `m`. -/
def insert (m : OrderedMap α) (key : String) (value : α) : OrderedMap α :=
  (m.exchange key value).2

/-- Writes the `pairs` in turn: a repeated key keeps its first position and its last value. -/
def ofList (pairs : List (String × α)) : OrderedMap α :=
  pairs.foldl (fun m (k, v) => m.insert k v) empty

/-- The keys of `m`, in order. -/
def keys (m : OrderedMap α) : List String := m.entries.map Prod.fst

/-- The values of `m`, in the order of their keys. -/
def values (m : OrderedMap α) : List α := m.entries.map Prod.snd

/-- The number of entries of `m`. -/
def size (m : OrderedMap α) : Nat := m.entries.length

/-- Whether `m` has no entry. -/
def isEmpty (m : OrderedMap α) : Bool := m.entries.isEmpty

/-- Where the `key` stands in `m`. -/
def position? (m : OrderedMap α) (key : String) : Option Nat := m.keys.idxOf? key

/-- The value under a `key`, found at the key's position. -/
def get? (m : OrderedMap α) (key : String) : Option α :=
  (m.position? key).bind (m.values[·]?)

/-- Whether the `key` is there. -/
def contains (m : OrderedMap α) (key : String) : Bool := (m.position? key).isSome

/-! ### Maps made from a map -/

/-- Keeps the entries that `f` gives a new value, in their order. -/
def filterMap (f : String → α → Option β) (m : OrderedMap α) : OrderedMap β where
  entries := m.entries.filterMap fun e => (f e.1 e.2).map (e.1, ·)
  distinct := by
    refine List.Sublist.nodup ?_ m.distinct
    induction m.entries with
    | nil => simp
    | cons e rest ih =>
      rcases h : f e.1 e.2 with - | b <;> simp [h, ih]

/-- Gives each entry a new value by `f`. -/
def map (f : α → β) (m : OrderedMap α) : OrderedMap β where
  entries := m.entries.map fun e => (e.1, f e.2)
  distinct := by simpa [Function.comp_def] using m.distinct

/-! ### Showing a map -/

/-- The entries of `m` between braces, each key quoted. -/
def shown (item : α → String) (m : OrderedMap α) : String :=
  let parts := m.entries.map fun (k, v) => Text.quoted k ++ ": " ++ item v
  "\x7b" ++ String.intercalate ", " parts ++ "\x7d"

end OrderedMap

end DeckKeywords
