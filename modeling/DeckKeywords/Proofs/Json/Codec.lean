/-
DeckKeywords/Proofs/Json/Codec.lean

Data that can be written as JSON and read again.  A codec is a way to write the
values of a type together with a decoder for it, such that whatever the decoder
has read can be written and read once more.  Integers of 64 bits and version
tables have one, and with any type also the ordered maps to it.

A map is written entry by entry, and a text is read into a map member by member,
so what comes back from a written map has the same entries in the same order.
A text that is not written by this library may repeat keys: the map that it is
read as gathers its members, and writing that map drops the repetitions without
changing the map.

Decoders count open brackets and refuse to go too deep, and a value that leaves
out something may be written with more brackets than it was read from.  A codec
therefore says how many brackets deep it writes.

Main results: `Codec.decode_compact`, and `decode_undoes_encode` for the maps of
integers, for the version tables and for all maps that are read from a text.
-/
import DeckKeywords.Proofs.OrderedMap.Indexed
import DeckKeywords.Proofs.Taxonomy.Json
import DeckKeywords.VersionTable

namespace DeckKeywords

open Json (Fault Tree Value nestingLimit)

/-! ### Integers -/

namespace Json

theorem asInt64_eq_ok_iff {t : Tree} {i : Int} :
    t.asInt64 = .ok i ↔ ∃ n, t = .number n ∧ n.read = .ok (.integer i) ∧ i < 2 ^ 63 := by
  have hhalf : (Decimal.twoTo 63 : Int) = 2 ^ 63 := rfl
  cases t with
  | number n =>
    simp only [Tree.asInt64, bind_eq_ok_iff, Tree.number.injEq, exists_eq_left']
    constructor
    · rintro ⟨x, hx, hi⟩
      rcases x with j | m
      · dsimp only at hi
        split_ifs at hi with hj
        obtain rfl := Except.ok.inj hi
        exact ⟨hx, hhalf ▸ hj⟩
      · cases hi
    · rintro ⟨hn, hi⟩
      exact ⟨_, hn, if_pos (hhalf ▸ hi)⟩
  | null | bool | text | list | object | broken => simp [Tree.asInt64]

theorem asInt64_ofValue {i : Int} (hlow : -2 ^ 63 ≤ i) (hhigh : i < 2 ^ 63) :
    (Tree.ofValue (.int i)).asInt64 = .ok i :=
  asInt64_eq_ok_iff.mpr ⟨.ofInt i, rfl, read_ofInt hlow (by omega), hhigh⟩

/-! ### Texts and objects -/

@[simp] theorem asText_ofValue (s : String) : (Tree.ofValue (.text s)).asText = .ok s := read_ofText s

/-- A written list of texts `ss` is read text by text. -/
theorem asList_ofValue_texts {opened : Nat} (h : opened < nestingLimit) (expected : String)
    (ss : List String) :
    (Tree.ofValue (.texts ss)).asList expected opened Tree.asText = .ok ss := by
  have hitems : (Tree.ofItems (ss.map .text)).mapM Tree.asText = .ok ss := by
    induction ss with
    | nil => rfl
    | cons s ss ih =>
      simp only [List.map_cons, Tree.ofItems, List.mapM_cons, asText_ofValue, ih]
      rfl
  show Tree.asList expected opened Tree.asText (.list (Tree.ofItems (ss.map .text)) none) = _
  simp only [Tree.asList, bind_eq_ok_iff]
  exact ⟨(), checkDepth_eq_ok_iff.mpr h, ss, hitems, (), rfl, rfl⟩

/-- The members of a written object are its members `ms`, each with the tree of its value. -/
@[simp] theorem members?_ofValue_object (ms : List (String × Value)) :
    (Tree.ofValue (.object ms)).members? = some (ms.map (Prod.map id Tree.ofValue)) := by
  show (Tree.ofMembers ms).mapM withKey? = _
  rw [mapM_eq_some_iff, Tree.ofMembers_eq_map, List.forall₂_map_left_iff,
    List.forall₂_map_right_iff, List.forall₂_same]
  exact fun m _ => withKey?_eq_some_iff.mpr ⟨read_ofText m.1, rfl⟩

end Json

/-! ### Maps -/

namespace OrderedMap

variable {α : Type}

/-- A map `m` whose values can be read once they are written can be read itself, with its entries in
their order. -/
theorem asMap_ofValue {m : OrderedMap α} {write : α → Value} {read : Tree → Except Fault α}
    {opened : Nat} (hdepth : opened < nestingLimit)
    (h : ∀ e ∈ m.entries, read (.ofValue (write e.2)) = .ok e.2) :
    (Tree.ofValue (m.toJson write)).asMap opened read = .ok m := by
  refine Json.asMap_eq_ok_iff.mpr ⟨hdepth, _, Json.members?_ofValue_object _, ?_⟩
  -- the entries have distinct keys, so writing them in turn gives the map that has them
  refine gathers_iff.mpr ⟨m.entries, ?_, (ext_entries (entries_ofList m.distinct)).symm⟩
  rw [List.forall₂_map_left_iff, List.forall₂_map_left_iff, List.forall₂_same]
  exact fun e he => ⟨rfl, Json.toOption_eq_some_iff.mpr (h e he)⟩

/-- The values of a map `m` that gathers `members` have all been read. -/
theorem Gathers.exists_read {τ : Type} {m : OrderedMap α} {read : τ → Option α}
    {members : List (String × τ)} (h : m.Gathers read members) {e : String × α}
    (he : e ∈ m.entries) : ∃ t, read t = some e.2 := by
  have hget := h.get?_eq e.1
  rw [mem_entries_iff.mp he] at hget
  obtain ⟨t, -, ht⟩ := Option.bind_eq_some_iff.mp hget.symm
  exact ⟨t, ht⟩

end OrderedMap

/-! ### Version tables -/

namespace VersionTable

theorem integral_toJson (t : VersionTable) : t.toJson.Integral := by simp [toJson]

/-- A written table `t` is read as itself where two more brackets may be opened. -/
theorem decode_ofValue {opened : Nat} (h : opened + 2 ≤ nestingLimit) (t : VersionTable) :
    decode opened (.ofValue t.toJson) = .ok t := by
  have hversions : decodeTexts (opened + 1) (.ofValue (.texts t.versions)) = .ok t.versions :=
    Json.asList_ofValue_texts (by omega) _ _
  have hmembers : decodeMembers (opened + 1) {} (Tree.ofMembers
      [("versions", .texts t.versions), ("default", .text t.fallback)])
      = .ok ⟨some t.versions, some t.fallback⟩ := by
    simp [Tree.ofMembers, decodeMembers, hversions, bind, Except.bind]
  show decode opened (.object (Tree.ofMembers
      [("versions", .texts t.versions), ("default", .text t.fallback)]) none) = _
  simp only [decode, Json.bind_eq_ok_iff]
  exact ⟨(), Json.checkDepth_eq_ok_iff.mpr (by omega), _, hmembers, (), rfl, rfl⟩

end VersionTable

/-! ### Codecs -/

/-- A way to `write` values as JSON and to `read` them inside some number of open brackets: whatever
has been read can be written and read again, if there is room for the `brackets` that it is written
with. -/
structure Codec (α : Type) where
  write : α → Value
  read : Nat → Tree → Except Fault α
  brackets : Nat
  integral : ∀ a, (write a).Integral
  read_write : ∀ {opened : Nat} {t : Tree} {a : α}, opened + brackets ≤ nestingLimit →
    read opened t = .ok a → read opened (.ofValue (write a)) = .ok a

namespace Codec

variable {α : Type}

/-- Integers of 64 bits, with a sign. -/
def int64 : Codec Int where
  write := .int
  read _ := Tree.asInt64
  brackets := 0
  integral := .integer
  read_write _ h := by
    obtain ⟨n, -, hread, hhigh⟩ := Json.asInt64_eq_ok_iff.mp h
    exact Json.asInt64_ofValue (Json.le_of_read hread) hhigh

/-- Version tables.  A table that was read from `{}` is written with a list inside. -/
def versionTable : Codec VersionTable where
  write := VersionTable.toJson
  read := VersionTable.decode
  brackets := 2
  integral := VersionTable.integral_toJson
  read_write hdepth _ := VersionTable.decode_ofValue hdepth _

/-- Maps to values that have a codec `c`. -/
def map (c : Codec α) : Codec (OrderedMap α) where
  write := OrderedMap.toJson c.write
  read opened := Tree.asMap opened (c.read (opened + 1))
  brackets := c.brackets + 1
  integral := OrderedMap.integral_toJson c.integral
  read_write hdepth h := by
    obtain ⟨hopened, members, -, hgathers⟩ := Json.asMap_eq_ok_iff.mp h
    refine OrderedMap.asMap_ofValue hopened fun e he => ?_
    -- what stands in the map was read from one of the members, so it can be read again
    obtain ⟨t, ht⟩ := hgathers.exists_read he
    exact c.read_write (by omega) (Json.toOption_eq_some_iff.mp ht)

/-- The text that `a` is written as decodes to what its tree does. -/
theorem decode_compact_eq (c : Codec α) (a : α) :
    Json.decode (c.read 0) (c.write a).compact = c.read 0 (.ofValue (c.write a)) := by
  rw [Json.decode, Json.ofText_compact (c.integral a)]
  rcases c.read 0 (.ofValue (c.write a)) with e | b <;> rfl

/-- What `text` decodes to, `a`, can be written, and decodes to the same again. -/
theorem decode_compact (c : Codec α) (hdepth : c.brackets ≤ nestingLimit) {text : String} {a : α}
    (h : Json.decode (c.read 0) text = .ok a) :
    Json.decode (c.read 0) (c.write a).compact = .ok a := by
  rw [decode_compact_eq]
  exact c.read_write (by omega) (Json.decode_eq_ok_iff.mp h).2

/-- A map `m` is decoded from `text` when it is written from the `pairs` that the `members` of the
text read as, in the order of the text. -/
theorem exists_members (c : Codec α) {text : String} {m : OrderedMap α}
    (h : Json.decode (c.map.read 0) text = .ok m) :
    ∃ members pairs, Json.members? text = some members ∧
      List.Forall₂ (fun p x => p.1 = x.1 ∧ c.read 1 p.2 = .ok x.2) members pairs ∧
      m = .ofList pairs := by
  obtain ⟨htrailing, hroot⟩ := Json.decode_eq_ok_iff.mp h
  obtain ⟨-, members, hmembers, hgathers⟩ := Json.asMap_eq_ok_iff.mp hroot
  obtain ⟨pairs, hpairs, hm⟩ := OrderedMap.gathers_iff.mp hgathers
  refine ⟨members, pairs, ?_, hpairs.imp fun p x hx => ?_, hm⟩
  · simp only [Json.members?, htrailing]
    exact hmembers
  · exact ⟨hx.1, Json.toOption_eq_some_iff.mp hx.2⟩

end Codec

/-- **Decoding undoes encoding.**  Every map `m` to integers of 64 bits and every version table `t`
is written as a text that decodes to the same map, entry order included, and to the same table.  If
a `text` decodes to a map by a codec `c`, be it to integers, to tables, to maps of these or to
anything else with room for its `brackets`, then the text that this map is written as decodes to it
as well; and the map is that of the `pairs` that were read from the `members` of the first text in
their order, so that a repeated key has its first position and its last value. -/
theorem decode_undoes_encode :
    (∀ m : OrderedMap Int, (∀ i ∈ m.values, -2 ^ 63 ≤ i ∧ i < 2 ^ 63) →
      Json.decode (·.asMap 0 Tree.asInt64) (m.toJson .int).compact = .ok m) ∧
    (∀ t : VersionTable, VersionTable.ofJson t.toJson.compact = .ok t) ∧
    ∀ {α : Type} (c : Codec α), c.brackets < nestingLimit →
      ∀ (text : String) (m : OrderedMap α),
        Json.decode (·.asMap 0 (c.read 1)) text = .ok m →
        Json.decode (·.asMap 0 (c.read 1)) (m.toJson c.write).compact = .ok m ∧
        ∃ members pairs, Json.members? text = some members ∧
          List.Forall₂ (fun p x => p.1 = x.1 ∧ c.read 1 p.2 = .ok x.2) members pairs ∧
          m = .ofList pairs := by
  refine ⟨fun m hvalues => ?_, fun t => ?_, fun c hdepth text m h => ?_⟩
  · refine (Codec.int64.map.decode_compact_eq m).trans (OrderedMap.asMap_ofValue (by decide) ?_)
    intro e he
    obtain ⟨hlow, hhigh⟩ := hvalues e.2 (List.mem_map_of_mem he)
    exact Json.asInt64_ofValue hlow hhigh
  · exact (Codec.versionTable.decode_compact_eq t).trans (VersionTable.decode_ofValue (by decide) t)
  · exact ⟨c.map.decode_compact hdepth h, c.exists_members h⟩

/-- The keys of `m` that are empty, that have to be escaped, or that are not ASCII come back beside
the extreme integers; and a key that is spelled in two ways is one key. -/
theorem awkward_keys_kept :
    let m : OrderedMap Int :=
      .ofList [("", -2 ^ 63), ("\"\\", 2 ^ 63 - 1), ("\n\x01", 0), ("ä𝄞", 7)]
    let t : VersionTable := ⟨["2024", "\t"], ""⟩
    let text := "\x7b \"b\": 1, \"a\": 2, \"\\u0062\": 3 \x7d"
    let n : OrderedMap Int := .ofList [("b", 3), ("a", 2)]
    Json.decode (·.asMap 0 Tree.asInt64) (m.toJson .int).compact = .ok m ∧
      VersionTable.ofJson t.toJson.compact = .ok t ∧
      Json.decode (·.asMap 0 Tree.asInt64) text = .ok n ∧
      Json.decode (·.asMap 0 Tree.asInt64) (n.toJson .int).compact = .ok n := by
  intro m t text n
  have htext : Json.decode (·.asMap 0 Tree.asInt64) text = .ok n := by decide +kernel
  obtain ⟨hmap, htable, hread⟩ := decode_undoes_encode
  exact ⟨hmap m (by decide), htable t, htext, (hread Codec.int64 (by decide) text n htext).1⟩

end DeckKeywords
