/-
DeckKeywords/Proofs/OrderedMap.lean

Ordered maps seen from outside: the list of their keys, and what stands under
each key.  The two together are the whole map, `ext_get?`, and writing a value
says what becomes of each of them, `keys_insert` and `get?_insert`.

A map that is written pair by pair has the keys in the order of their first
places, each with the value of its last one.  `Gathers` says the same of members
whose values have to be read first: every one of them must be readable, those
that a later member replaces included.

Main results: `gathers_ofList` and `Gathers.unique`, by which the map written
from what the members read as is the one that gathers them.
-/
import DeckKeywords.OrderedMap
import Mathlib.Data.List.Forall2
import Mathlib.Data.List.Induction

namespace DeckKeywords

variable {α τ : Type*}

/-- The value of the last of the `pairs` with the `key`. -/
def lastValue? (pairs : List (String × τ)) (key : String) : Option τ :=
  pairs.reverse.lookup key

/-- Each item of `xs` can be given a partner by `R` exactly when `xs` can be given a list of
partners. -/
theorem exists_forall₂_iff {R : τ → α → Prop} {xs : List τ} :
    (∃ ys, List.Forall₂ R xs ys) ↔ ∀ x ∈ xs, ∃ y, R x y := by
  induction xs with
  | nil => exact ⟨fun _ x hx => absurd hx List.not_mem_nil, fun _ => ⟨[], .nil⟩⟩
  | cons x xs ih =>
    rw [List.forall_mem_cons, ← ih]
    constructor
    · rintro ⟨_, hxs⟩
      cases hxs with
      | cons hx hrest => exact ⟨⟨_, hx⟩, _, hrest⟩
    · rintro ⟨⟨y, hy⟩, ys, hys⟩
      exact ⟨y :: ys, .cons hy hys⟩

/-- A look-up of `key` stops at the first entry if that has the key, and goes on in the `rest`
otherwise. -/
theorem lookup_cons_eq (k : String) (v : α) (rest : List (String × α)) (key : String) :
    ((k, v) :: rest).lookup key = if key = k then some v else rest.lookup key := by
  rw [List.lookup_cons]
  by_cases h : key = k
  · rw [if_pos h, beq_iff_eq.mpr h]
  · rw [if_neg h, beq_false_of_ne h]

theorem lookup_eq_none_of_not_mem {key : String} {entries : List (String × α)}
    (h : key ∉ entries.map Prod.fst) : entries.lookup key = none := by
  rw [List.lookup_eq_none_iff]
  intro p hp
  have hne : key ≠ p.1 := fun hk => h (hk.symm ▸ List.mem_map_of_mem hp)
  simpa using hne

/-- The last item `x` is dropped as a repetition if it came before, in `xs`. -/
theorem eraseDups_concat [DecidableEq α] (xs : List α) (x : α) :
    (xs ++ [x]).eraseDups = if x ∈ xs then xs.eraseDups else xs.eraseDups ++ [x] := by
  rw [List.eraseDups_append]
  by_cases h : x ∈ xs <;> simp [List.removeAll, List.eraseDups_cons, h]

/-- The `lastValue?` under a `key` is one of the values under it. -/
theorem mem_of_lastValue? {pairs : List (String × τ)} {key : String} {value : τ}
    (h : lastValue? pairs key = some value) : (key, value) ∈ pairs := by
  obtain ⟨before, after, hsplit, -⟩ := List.lookup_eq_some_iff.mp h
  rw [← List.mem_reverse, hsplit]
  simp

namespace OrderedMap

/-! ### Writing a value -/

theorem keys_exchangeEntry (key : String) (value : α) (entries : List (String × α)) :
    (exchangeEntry key value entries).2.map Prod.fst
      = if key ∈ entries.map Prod.fst then entries.map Prod.fst
        else entries.map Prod.fst ++ [key] := by
  induction entries with
  | nil => rfl
  | cons e rest ih =>
    obtain ⟨k, w⟩ := e
    by_cases h : k = key
    · subst h
      simp [exchangeEntry]
    · rw [exchangeEntry, if_neg h, List.map_cons, List.map_cons, ih]
      by_cases hmem : key ∈ rest.map Prod.fst <;> simp [hmem, Ne.symm h]

theorem lookup_exchangeEntry (key k : String) (value : α) (entries : List (String × α)) :
    (exchangeEntry key value entries).2.lookup k
      = if k = key then some value else entries.lookup k := by
  induction entries with
  | nil => exact lookup_cons_eq key value [] k
  | cons e rest ih =>
    obtain ⟨k', w⟩ := e
    rw [lookup_cons_eq]
    by_cases h : k' = key
    · rw [exchangeEntry, if_pos h, lookup_cons_eq, h]
      by_cases hk : k = key <;> simp [hk]
    · rw [exchangeEntry, if_neg h, lookup_cons_eq, ih]
      by_cases hk : k = k'
      · simp [hk, h]
      · simp [hk]

/-- The position of `key` leads to the value that stands beside it in `m.entries`. -/
theorem get?_eq_lookup (m : OrderedMap α) (key : String) : m.get? key = m.entries.lookup key := by
  show ((m.entries.map Prod.fst).idxOf? key).bind (fun i => (m.entries.map Prod.snd)[i]?) = _
  induction m.entries with
  | nil => rfl
  | cons e rest ih =>
    obtain ⟨k, w⟩ := e
    rw [List.map_cons, List.map_cons, List.idxOf?_cons, lookup_cons_eq]
    by_cases h : k = key
    · simp [h]
    · rw [beq_false_of_ne h, if_neg (Ne.symm h), ← ih]
      show (((rest.map Prod.fst).idxOf? key).map (· + 1)).bind _ = _
      rw [Option.bind_map]
      rfl

/-- A new `key` goes to the end of `m.keys`, and one that is there stays where it is. -/
theorem keys_insert (m : OrderedMap α) (key : String) (value : α) :
    (m.insert key value).keys = if key ∈ m.keys then m.keys else m.keys ++ [key] :=
  keys_exchangeEntry key value m.entries

theorem get?_insert (m : OrderedMap α) (key k : String) (value : α) :
    (m.insert key value).get? k = if k = key then some value else m.get? k := by
  rw [get?_eq_lookup, get?_eq_lookup]
  exact lookup_exchangeEntry key k value m.entries

/-! ### A map is its keys with what stands under them -/

/-- `m.get?` finds something under `m.keys`, and under nothing else. -/
theorem isSome_get?_iff {m : OrderedMap α} {key : String} : (m.get? key).isSome ↔ key ∈ m.keys := by
  rw [get?_eq_lookup]
  constructor
  · contrapose
    intro h
    rw [lookup_eq_none_of_not_mem h]
    exact Bool.false_ne_true
  · intro h
    obtain ⟨e, he, rfl⟩ := List.mem_map.mp h
    rw [List.lookup_isSome_iff]
    exact ⟨e, he, beq_self_eq_true e.1⟩

/-- The entries of `m` are the keys with the values that `m.get?` finds under them. -/
theorem mem_entries_iff {m : OrderedMap α} {key : String} {value : α} :
    (key, value) ∈ m.entries ↔ m.get? key = some value := by
  rw [get?_eq_lookup, List.lookup_eq_some_iff]
  constructor
  · intro h
    obtain ⟨before, behind, hsplit⟩ := List.append_of_mem h
    have hdistinct := m.distinct
    rw [hsplit, List.map_append, List.nodup_append] at hdistinct
    refine ⟨before, behind, hsplit, fun e he => ?_⟩
    simpa using (hdistinct.2.2 e.1 (List.mem_map_of_mem he) key (by simp)).symm
  · rintro ⟨before, behind, hsplit, -⟩
    rw [hsplit]
    exact List.mem_append_right before List.mem_cons_self

theorem entries_eq_of_lookup {es fs : List (String × α)} (hes : (es.map Prod.fst).Nodup)
    (hkeys : es.map Prod.fst = fs.map Prod.fst)
    (hlookup : ∀ key, es.lookup key = fs.lookup key) : es = fs := by
  induction es generalizing fs with
  | nil => exact (List.map_eq_nil_iff.mp hkeys.symm).symm
  | cons e es ih =>
    obtain ⟨k, v⟩ := e
    rcases fs with - | ⟨⟨k', w⟩, fs⟩
    · cases hkeys
    · obtain ⟨rfl, htail⟩ := List.cons.inj hkeys
      rw [List.map_cons, List.nodup_cons] at hes
      have hvalue : v = w := by simpa [lookup_cons_eq] using hlookup k
      -- the key of the first entries comes nowhere else, so look-ups in the rest agree as well
      have hrest : ∀ key, es.lookup key = fs.lookup key := by
        intro key
        by_cases h : key = k
        · rw [h, lookup_eq_none_of_not_mem hes.1, lookup_eq_none_of_not_mem (htail ▸ hes.1)]
        · simpa [lookup_cons_eq, h] using hlookup key
      rw [hvalue, ih hes.2 htail hrest]

/-- Two maps `m` and `n` with the same keys in the same order and the same values under them are
one. -/
theorem ext_get? {m n : OrderedMap α} (hkeys : m.keys = n.keys)
    (hget : ∀ key, m.get? key = n.get? key) : m = n := by
  refine ext_entries (entries_eq_of_lookup m.distinct hkeys fun key => ?_)
  rw [← get?_eq_lookup, ← get?_eq_lookup, hget]

/-- The first entry of `m` with the `key` is the key with what `m.get?` finds under it. -/
theorem find?_entries (m : OrderedMap α) (key : String) :
    m.entries.find? (·.1 = key) = (m.get? key).map (key, ·) := by
  rw [get?_eq_lookup]
  induction m.entries with
  | nil => rfl
  | cons e rest ih =>
    obtain ⟨k, v⟩ := e
    rw [List.find?_cons, lookup_cons_eq]
    by_cases h : k = key
    · simp [h]
    · simp [h, Ne.symm h, ih]

/-! ### Writing pairs in turn -/

theorem ofList_concat (pairs : List (String × α)) (key : String) (value : α) :
    ofList (pairs ++ [(key, value)]) = (ofList pairs).insert key value := by
  rw [ofList, List.foldl_append]
  rfl

/-- The keys of `ofList pairs`, a map that is written pair by pair, stand in the order of their
first places. -/
theorem keys_ofList (pairs : List (String × α)) :
    (ofList pairs).keys = (pairs.map Prod.fst).eraseDups := by
  induction pairs using List.reverseRecOn with
  | nil => rfl
  | append_singleton pairs p ih =>
    obtain ⟨key, value⟩ := p
    rw [ofList_concat, keys_insert, ih, List.map_append, List.map_singleton, eraseDups_concat]
    simp only [List.mem_eraseDups]

/-- Under each `key` of `ofList pairs` stands the value of the last pair with it, `lastValue?`. -/
theorem get?_ofList (pairs : List (String × α)) (key : String) :
    (ofList pairs).get? key = lastValue? pairs key := by
  induction pairs using List.reverseRecOn with
  | nil => rfl
  | append_singleton pairs p ih =>
    obtain ⟨k, value⟩ := p
    rw [ofList_concat, get?_insert, ih]
    by_cases h : key = k <;> simp [lastValue?, lookup_cons_eq, h]

/-- All `names` that are written with one `value` have that value. -/
theorem get?_ofList_same (names : List String) (value : α) (key : String) :
    (ofList (names.map (·, value))).get? key = if key ∈ names then some value else none := by
  induction names using List.reverseRecOn with
  | nil => rfl
  | append_singleton names name ih =>
    rw [List.map_append, List.map_singleton, ofList_concat, get?_insert, ih]
    by_cases h : key = name <;> simp [h]

/-! ### Gathering members -/

/-- The map `m` gathers `members` whose values have yet to be read: `read` succeeds for all of them,
the keys of `m` are theirs in the order of their first places, and under each stands what its last
value reads as. -/
structure Gathers (m : OrderedMap α) (read : τ → Option α) (members : List (String × τ)) :
    Prop where
  readable : ∀ p ∈ members, (read p.2).isSome
  keys_eq : m.keys = (members.map Prod.fst).eraseDups
  get?_eq : ∀ key, m.get? key = (lastValue? members key).bind read

/-- A `member` reads as a `pair`: the key stays, and the value is read by `read`. -/
def ReadsAs (read : τ → Option α) (member : String × τ) (pair : String × α) : Prop :=
  member.1 = pair.1 ∧ read member.2 = some pair.2

variable {read : τ → Option α} {members : List (String × τ)} {pairs : List (String × α)}

theorem lookup_of_readsAs (h : List.Forall₂ (ReadsAs read) members pairs) (key : String) :
    pairs.lookup key = (members.lookup key).bind read := by
  induction h with
  | nil => rfl
  | @cons m p members pairs hread _ ih =>
    obtain ⟨k, t⟩ := m
    obtain ⟨k', v⟩ := p
    obtain ⟨rfl, hvalue⟩ : k = k' ∧ read t = some v := hread
    rw [lookup_cons_eq, lookup_cons_eq]
    by_cases hk : key = k <;> simp [hk, hvalue, ih]

theorem keys_of_readsAs (h : List.Forall₂ (ReadsAs read) members pairs) :
    pairs.map Prod.fst = members.map Prod.fst := by
  induction h with
  | nil => rfl
  | cons hread _ ih => rw [List.map_cons, List.map_cons, ih, hread.1]

theorem exists_readsAs_iff :
    (∃ pairs, List.Forall₂ (ReadsAs read) members pairs) ↔ ∀ p ∈ members, (read p.2).isSome := by
  rw [exists_forall₂_iff]
  refine forall₂_congr fun p _ => ?_
  rw [Option.isSome_iff_exists]
  constructor
  · rintro ⟨pair, -, hvalue⟩
    exact ⟨pair.2, hvalue⟩
  · rintro ⟨v, hv⟩
    exact ⟨(p.1, v), rfl, hv⟩

/-- The map of the `pairs` that `members` read as gathers them. -/
theorem gathers_ofList (h : List.Forall₂ (ReadsAs read) members pairs) :
    (ofList pairs).Gathers read members where
  readable := exists_readsAs_iff.mp ⟨pairs, h⟩
  keys_eq := by rw [keys_ofList, keys_of_readsAs h]
  get?_eq key := by
    rw [get?_ofList]
    exact lookup_of_readsAs (List.forall₂_reverse_iff.mpr h) key

/-- The `members` are gathered by one map only: `m` and `n` are the same. -/
theorem Gathers.unique {m n : OrderedMap α} (hm : m.Gathers read members)
    (hn : n.Gathers read members) : m = n := by
  refine ext_get? (hm.keys_eq.trans hn.keys_eq.symm) fun key => ?_
  rw [hm.get?_eq, hn.get?_eq]

/-- The map `m` gathers `members` exactly when it is written from the `pairs` they read as. -/
theorem gathers_iff {m : OrderedMap α} :
    m.Gathers read members ↔
      ∃ pairs, List.Forall₂ (ReadsAs read) members pairs ∧ m = ofList pairs := by
  constructor
  · intro h
    obtain ⟨pairs, hpairs⟩ := exists_readsAs_iff.mpr h.readable
    exact ⟨pairs, hpairs, h.unique (gathers_ofList hpairs)⟩
  · rintro ⟨pairs, hpairs, rfl⟩
    exact gathers_ofList hpairs

/-! ### Looking at values through a function -/

variable {β γ : Type*}

@[simp] theorem keys_map (m : OrderedMap α) (f : α → β) : (m.map f).keys = m.keys := by
  simp [keys, map, Function.comp_def]

@[simp] theorem lookup_map (entries : List (String × α)) (f : α → β) (key : String) :
    (entries.map (Prod.map id f)).lookup key = (entries.lookup key).map f := by
  induction entries with
  | nil => rfl
  | cons e rest ih =>
    obtain ⟨k, v⟩ := e
    rw [List.map_cons, Prod.map_apply, lookup_cons_eq, lookup_cons_eq, ih]
    by_cases h : key = k <;> simp [h]

@[simp] theorem get?_map (m : OrderedMap α) (f : α → β) (key : String) :
    (m.map f).get? key = (m.get? key).map f := by
  rw [get?_eq_lookup, get?_eq_lookup]
  exact lookup_map m.entries f key

theorem lookup_filterMap (f : String → α → Option β) {entries : List (String × α)}
    (h : (entries.map Prod.fst).Nodup) (key : String) :
    (entries.filterMap fun e => (f e.1 e.2).map (e.1, ·)).lookup key
      = (entries.lookup key).bind (f key) := by
  induction entries with
  | nil => rfl
  | cons e rest ih =>
    obtain ⟨k, v⟩ := e
    rw [List.map_cons, List.nodup_cons] at h
    rw [List.filterMap_cons, lookup_cons_eq]
    by_cases hk : key = k
    · subst hk
      -- if the entry is dropped, no other one has its key
      have hrest : rest.lookup key = none := lookup_eq_none_of_not_mem h.1
      rcases hf : f key v with - | w <;> simp [hf, ih h.2, hrest]
    · rcases hf : f k v with - | w <;> simp [hk, ih h.2, lookup_cons_eq]

theorem get?_filterMap (m : OrderedMap α) (f : String → α → Option β) (key : String) :
    (m.filterMap f).get? key = (m.get? key).bind (f key) := by
  rw [get?_eq_lookup, get?_eq_lookup]
  exact lookup_filterMap f m.distinct key

/-- The keys of the entries of `m` that `f` gives a new value stay in their order. -/
theorem keys_filterMap (m : OrderedMap α) (f : String → α → Option β) :
    (m.filterMap f).keys = m.keys.filter fun key => ((m.get? key).bind (f key)).isSome := by
  show (m.entries.filterMap fun e => (f e.1 e.2).map (e.1, ·)).map Prod.fst
    = (m.entries.map Prod.fst).filter _
  rw [List.map_filterMap, List.filter_map, ← List.filterMap_eq_map, List.filterMap_filter]
  refine List.filterMap_congr fun e he => ?_
  have hvalue : m.get? e.1 = some e.2 := mem_entries_iff.mp he
  rcases hf : f e.1 e.2 with - | w <;> simp [hvalue, hf]

@[simp] theorem map_map (m : OrderedMap α) (f : α → β) (g : β → γ) : (m.map f).map g = m.map (g ∘ f) := by
  ext1
  simp [map]

@[simp] theorem lastValue?_map (members : List (String × α)) (f : α → β) (key : String) :
    lastValue? (members.map (Prod.map id f)) key = (lastValue? members key).map f := by
  rw [lastValue?, ← List.map_reverse, lookup_map]
  rfl

/-- Members whose values look the same through `f` are gathered by maps that look the same. -/
theorem Gathers.exists_map_eq {m : OrderedMap α} {f : α → β} {ms ms' : List (String × τ)}
    (h : m.Gathers read ms)
    (hsame : ms.map (Prod.map id fun t => (read t).map f)
      = ms'.map (Prod.map id fun t => (read t).map f)) :
    ∃ m' : OrderedMap α, m'.Gathers read ms' ∧ m'.map f = m.map f := by
  have hreadable : ∀ p' ∈ ms', (read p'.2).isSome := by
    intro p' hp'
    have hmem := List.mem_map_of_mem (f := Prod.map id fun t => (read t).map f) hp'
    rw [← hsame] at hmem
    obtain ⟨p, hp, heq⟩ := List.mem_map.mp hmem
    have hvalue : (read p.2).map f = (read p'.2).map f := congrArg Prod.snd heq
    rw [← Option.isSome_map, ← hvalue, Option.isSome_map]
    exact h.readable p hp
  obtain ⟨pairs, hpairs⟩ := exists_readsAs_iff.mpr hreadable
  have h' := gathers_ofList hpairs
  have hkeys : ms.map Prod.fst = ms'.map Prod.fst := by
    simpa [Function.comp_def] using congrArg (List.map Prod.fst) hsame
  -- the last value under a key is looked at through `f` on both sides
  have hlook : ∀ (ns : List (String × τ)) (key : String), ((lastValue? ns key).bind read).map f
      = (lastValue? (ns.map (Prod.map id fun t => (read t).map f)) key).join := by
    intro ns key
    rw [lastValue?_map]
    rcases lastValue? ns key with - | t <;> simp
  refine ⟨_, h', ext_get? ?_ fun key => ?_⟩
  · simp [h.keys_eq, h'.keys_eq, hkeys]
  · simp only [get?_map, h.get?_eq, h'.get?_eq, hlook, hsame]

end OrderedMap

end DeckKeywords
