/-
DeckKeywords/Proofs/Text/Matcher.lean

Matchers as languages.  `Reads m L` says that the results of `m` at a cursor are
the ways to cut a front off what follows it that `L` allows: `L a xs` says that
`a` can be read off the characters `xs`, whatever stands before and behind them.
The language of a pattern is put together from those of its parts, by
`Reads.bind` for a sequence and `Reads.optional` for a part that may be missing.
The end of a word is no such part, as it depends on both of its sides;
`Reads.mem_ended_iff` says what becomes of a language when it has to end there.

The preferred match is one of the matches, and the only one if no other result
is possible, `first?_eq_some_iff_of_unique`.  In a sequence it is enough that what
follows the first part goes on from one result of it only, `first?_bind_of_unique`.
-/
import DeckKeywords.Text.Matcher
import Mathlib.Data.List.Forall2

namespace DeckKeywords.Text

/-- No word goes on in `rest`: it is empty, or starts with a character that is not one of words. -/
def EndsWord (rest : List Char) : Prop := ∀ c ∈ rest.head?, isWord c = false

/-- The cursor behind the characters `xs`, in front of the `rest`. -/
def Cursor.past (k : Cursor) (xs rest : List Char) : Cursor := ⟨xs.getLast?.or k.before, rest⟩

@[simp] theorem Cursor.past_past (k : Cursor) (xs ys rest rest' : List Char) :
    (k.past xs rest).past ys rest' = k.past (xs ++ ys) rest' := by
  rw [past, past, past, List.getLast?_append, Option.or_assoc]

theorem Cursor.past_cons (before : Option Char) (c : Char) (xs rest cs ds : List Char) :
    past ⟨before, cs⟩ (c :: xs) rest = past ⟨some c, ds⟩ xs rest :=
  (past_past ⟨before, cs⟩ [c] xs ds rest).symm

/-- The cursors `k` behind the fronts of `c :: cs`: the one in front of them all, and those behind
`c`. -/
theorem Cursor.exists_past_cons_iff {before : Option Char} {c : Char} {cs : List Char} {k : Cursor}
    {Q : List Char → Prop} :
    (∃ xs rest, c :: cs = xs ++ rest ∧ Q xs ∧ k = past ⟨before, c :: cs⟩ xs rest) ↔
      Q [] ∧ k = ⟨before, c :: cs⟩ ∨
        ∃ xs rest, cs = xs ++ rest ∧ Q (c :: xs) ∧ k = past ⟨some c, cs⟩ xs rest := by
  constructor
  · rintro ⟨xs, rest, heq, hQ, rfl⟩
    rcases List.cons_eq_append_iff.mp heq with ⟨rfl, rfl⟩ | ⟨ys, rfl, rfl⟩
    · exact .inl ⟨hQ, rfl⟩
    · exact .inr ⟨ys, rest, rfl, hQ, past_cons _ _ _ _ _ _⟩
  · rintro (⟨hQ, rfl⟩ | ⟨xs, rest, rfl, hQ, rfl⟩)
    · exact ⟨[], c :: cs, rfl, hQ, rfl⟩
    · exact ⟨c :: xs, rest, rfl, hQ, (past_cons _ _ _ _ _ _).symm⟩

namespace Matcher

variable {α β : Type}

/-! ### Results -/

@[simp] theorem mem_pure_iff {a b : α} {k k' : Cursor} :
    (b, k') ∈ (pure a : Matcher α) k ↔ b = a ∧ k' = k := by
  show (b, k') ∈ [(a, k)] ↔ _
  simp

/-- A sequence `m >>= f` matches in two steps. -/
@[simp] theorem mem_bind_iff {m : Matcher α} {f : α → Matcher β} {b : β} {k k' : Cursor} :
    (b, k') ∈ (m >>= f) k ↔ ∃ a between, (a, between) ∈ m k ∧ (b, k') ∈ f a between := by
  show (b, k') ∈ (m k).flatMap (fun p => f p.1 p.2) ↔ _
  simp [List.mem_flatMap]

theorem mem_optional_iff {m : Matcher α} {found : Option α} {k k' : Cursor} :
    (found, k') ∈ optional m k ↔
      (∃ a, found = some a ∧ (a, k') ∈ m k) ∨ (found = none ∧ k' = k) := by
  rw [optional, List.mem_append, List.mem_map, List.mem_singleton, Prod.mk.injEq]
  refine or_congr_left ?_
  constructor
  · rintro ⟨⟨a, k'⟩, hmem, heq⟩
    obtain ⟨rfl, rfl⟩ := Prod.mk.inj heq
    exact ⟨a, rfl, hmem⟩
  · rintro ⟨a, rfl, hmem⟩
    exact ⟨(a, k'), hmem, rfl⟩

/-- A sequence of sequences may be grouped from either side. -/
@[simp] theorem bind_assoc {γ : Type} (m : Matcher α) (f : α → Matcher β) (g : β → Matcher γ) :
    m >>= f >>= g = m >>= fun a => f a >>= g :=
  funext fun _ => List.flatMap_assoc

@[simp] theorem pure_bind (a : α) (f : α → Matcher β) : pure a >>= f = f a :=
  funext fun _ => List.flatMap_singleton _ _

/-! ### Languages -/

/-- The matcher `m` reads exactly what the language `L` allows off the front of what follows a
cursor. -/
def Reads (m : Matcher α) (L : α → List Char → Prop) : Prop :=
  ∀ k a k', (a, k') ∈ m k ↔ ∃ xs rest, k.rest = xs ++ rest ∧ L a xs ∧ k' = k.past xs rest

section Languages

variable {m : Matcher α} {f : α → Matcher β} {L L' : α → List Char → Prop}
variable {F : α → β → List Char → Prop} {p : Char → Bool}

theorem Reads.congr (h : Reads m L) (hL : ∀ a xs, L a xs ↔ L' a xs) : Reads m L' := by
  intro k a k'
  simp only [h k a k', hL]

theorem reads_pure (a : α) : Reads (pure a) fun b xs => b = a ∧ xs = [] := by
  intro k b k'
  rw [mem_pure_iff]
  constructor
  · rintro ⟨rfl, rfl⟩
    exact ⟨[], _, rfl, ⟨rfl, rfl⟩, rfl⟩
  · rintro ⟨_, rest, hrest, ⟨rfl, rfl⟩, rfl⟩
    obtain rfl : k.rest = rest := hrest
    exact ⟨rfl, rfl⟩

theorem Reads.bind (hm : Reads m L) (hf : ∀ a, Reads (f a) (F a)) :
    Reads (m >>= f) fun b xs => ∃ a ys zs, xs = ys ++ zs ∧ L a ys ∧ F a b zs := by
  intro k b k'
  rw [mem_bind_iff]
  constructor
  · rintro ⟨a, between, ha, hb⟩
    obtain ⟨ys, rest, hrest, hys, rfl⟩ := (hm k a between).mp ha
    obtain ⟨zs, rest', hrest', hzs, rfl⟩ := (hf a _ b k').mp hb
    obtain rfl : rest = zs ++ rest' := hrest'
    refine ⟨ys ++ zs, rest', ?_, ⟨a, ys, zs, rfl, hys, hzs⟩, Cursor.past_past _ _ _ _ _⟩
    rw [hrest, List.append_assoc]
  · rintro ⟨_, rest, hrest, ⟨a, ys, zs, rfl, hys, hzs⟩, rfl⟩
    refine ⟨a, k.past ys (zs ++ rest), (hm k a _).mpr ⟨ys, zs ++ rest, ?_, hys, rfl⟩,
      (hf a _ b _).mpr ⟨zs, rest, rfl, hzs, (Cursor.past_past _ _ _ _ _).symm⟩⟩
    rw [hrest, List.append_assoc]

theorem Reads.optional (hm : Reads m L) :
    Reads (optional m) fun found xs => (∃ a, found = some a ∧ L a xs) ∨ found = none ∧ xs = [] := by
  intro k found k'
  rw [mem_optional_iff]
  constructor
  · rintro (⟨a, rfl, ha⟩ | ⟨rfl, rfl⟩)
    · obtain ⟨xs, rest, hrest, hxs, rfl⟩ := (hm k a k').mp ha
      exact ⟨xs, rest, hrest, .inl ⟨a, rfl, hxs⟩, rfl⟩
    · exact ⟨[], _, rfl, .inr ⟨rfl, rfl⟩, rfl⟩
  · rintro ⟨xs, rest, hrest, ⟨a, rfl, hxs⟩ | ⟨rfl, rfl⟩, rfl⟩
    · exact .inl ⟨a, rfl, (hm k a _).mpr ⟨xs, rest, hrest, hxs, rfl⟩⟩
    · obtain rfl : k.rest = rest := hrest
      exact .inr ⟨rfl, rfl⟩

/-- A part `m` that may be missing, and whose result does not matter to `g`. -/
theorem Reads.optional_bind {g : Matcher β} {P : List Char → Prop} {G : β → List Char → Prop}
    (hm : Reads m L) (hP : ∀ {xs}, P xs ↔ (∃ a, L a xs) ∨ xs = []) (hg : Reads g G) :
    Reads (Matcher.optional m >>= fun _ => g) fun b xs => ∃ ys zs, xs = ys ++ zs ∧ P ys ∧ G b zs := by
  refine (hm.optional.bind fun _ => hg).congr fun b xs => ?_
  constructor
  · rintro ⟨_, ys, zs, rfl, ⟨a, -, hys⟩ | ⟨-, hys⟩, hzs⟩
    · exact ⟨ys, zs, rfl, hP.mpr (.inl ⟨a, hys⟩), hzs⟩
    · exact ⟨ys, zs, rfl, hP.mpr (.inr hys), hzs⟩
  · rintro ⟨ys, zs, rfl, hys, hzs⟩
    rcases hP.mp hys with ⟨a, ha⟩ | hnil
    · exact ⟨some a, ys, zs, rfl, .inl ⟨a, rfl, ha⟩, hzs⟩
    · exact ⟨none, ys, zs, rfl, .inr ⟨rfl, hnil⟩, hzs⟩

/-! ### Characters of a class -/

theorem reads_char (p : Char → Bool) : Reads (char p) fun c xs => p c ∧ xs = [c] := by
  rintro ⟨before, cs⟩ c k'
  rcases cs with - | ⟨d, ds⟩
  · simp [char]
  · have hresults : char p ⟨before, d :: ds⟩ = if p d then [(d, ⟨some d, ds⟩)] else [] := rfl
    rw [hresults]
    constructor
    · intro h
      by_cases hd : p d
      · rw [if_pos hd, List.mem_singleton] at h
        obtain ⟨rfl, rfl⟩ := Prod.mk.inj h
        exact ⟨[c], ds, rfl, ⟨hd, rfl⟩, rfl⟩
      · rw [if_neg hd] at h
        cases h
    · rintro ⟨_, rest, hrest, ⟨hc, rfl⟩, rfl⟩
      obtain ⟨rfl, rfl⟩ := List.cons.inj (show d :: ds = c :: rest from hrest)
      rw [if_pos hc, List.mem_singleton]
      rfl

theorem mem_cursorsOver_iff {before : Option Char} {reached : List Cursor} {cs : List Char}
    {k' : Cursor} :
    k' ∈ cursorsOver p before reached cs ↔ k' ∈ reached ∨
      ∃ xs rest, cs = xs ++ rest ∧ (∀ c ∈ xs, p c) ∧ k' = Cursor.past ⟨before, cs⟩ xs rest := by
  induction cs generalizing before reached with
  | nil =>
    rw [cursorsOver, List.mem_cons, or_comm]
    refine or_congr_right ⟨?_, ?_⟩
    · rintro rfl
      exact ⟨[], [], rfl, by simp, rfl⟩
    · rintro ⟨xs, rest, heq, -, rfl⟩
      obtain ⟨rfl, rfl⟩ := List.append_eq_nil_iff.mp heq.symm
      rfl
  | cons c cs ih =>
    have hnil : ∀ d ∈ ([] : List Char), p d := by simp
    rw [Cursor.exists_past_cons_iff, and_iff_right hnil, cursorsOver]
    by_cases hc : p c
    · simp only [List.forall_mem_cons, and_iff_right hc]
      rw [if_pos hc, ih, List.mem_cons, or_comm (a := k' = _), or_assoc]
    · rw [if_neg hc, List.mem_cons, or_comm (a := k' = _)]
      refine or_congr_right (or_iff_left ?_).symm
      rintro ⟨xs, rest, -, hall, -⟩
      exact hc (hall c List.mem_cons_self)

theorem reads_skipMany (p : Char → Bool) : Reads (skipMany p) fun _ xs => ∀ c ∈ xs, p c := by
  intro k a k'
  simp [skipMany, mem_cursorsOver_iff]

theorem reads_skipSome (p : Char → Bool) :
    Reads (skipSome p) fun _ xs => xs ≠ [] ∧ ∀ c ∈ xs, p c := by
  refine ((reads_char p).bind fun _ => reads_skipMany p).congr fun _ xs => ?_
  constructor
  · rintro ⟨c, _, zs, rfl, ⟨hc, rfl⟩, hzs⟩
    exact ⟨List.cons_ne_nil c zs, List.forall_mem_cons.mpr ⟨hc, hzs⟩⟩
  · rintro ⟨hne, hall⟩
    obtain ⟨c, zs, rfl⟩ := List.exists_cons_of_ne_nil hne
    obtain ⟨hc, hzs⟩ := List.forall_mem_cons.mp hall
    exact ⟨c, [c], zs, rfl, ⟨hc, rfl⟩, hzs⟩

/-- A character in front of what a matcher `m` reads as it stands. -/
theorem Reads.cons {m : Matcher (List Char)} {P : List Char → Prop}
    (hm : Reads m fun cs xs => cs = xs ∧ P xs) :
    Reads (do let c ← char p; let cs ← m; pure (c :: cs))
      fun cs xs => cs = xs ∧ ∃ c ds, xs = c :: ds ∧ p c ∧ P ds := by
  refine ((reads_char p).bind fun c => hm.bind fun cs => reads_pure (c :: cs)).congr fun cs xs => ?_
  constructor
  · rintro ⟨c, _, _, rfl, ⟨hc, rfl⟩, ds, _, _, rfl, ⟨rfl, hds⟩, rfl, rfl⟩
    rw [List.append_nil]
    exact ⟨rfl, c, ds, rfl, hc, hds⟩
  · rintro ⟨rfl, c, ds, rfl, hc, hds⟩
    exact ⟨c, [c], ds, rfl, ⟨hc, rfl⟩, ds, ds, [], (List.append_nil ds).symm, ⟨rfl, hds⟩, rfl, rfl⟩

theorem reads_atMost (p : Char → Bool) (n : Nat) :
    Reads (atMost p n) fun cs xs => cs = xs ∧ xs.length ≤ n ∧ ∀ c ∈ xs, p c := by
  induction n with
  | zero =>
    refine (reads_pure []).congr fun cs xs => ?_
    rw [Nat.le_zero, List.length_eq_zero_iff]
    constructor
    · rintro ⟨rfl, rfl⟩
      exact ⟨rfl, rfl, by simp⟩
    · rintro ⟨rfl, rfl, -⟩
      exact ⟨rfl, rfl⟩
  | succ n ih =>
    intro k cs k'
    -- one character and at most `n` more, or none at all
    show (cs, k') ∈ (do let c ← char p; let cs ← atMost p n; pure (c :: cs) : Matcher _) k
      ++ [([], k)] ↔ _
    rw [List.mem_append, ih.cons, List.mem_singleton]
    constructor
    · rintro (⟨_, rest, hrest, ⟨rfl, c, ds, rfl, hc, hlength, hds⟩, rfl⟩ | h)
      · exact ⟨c :: ds, rest, hrest, ⟨rfl, Nat.succ_le_succ hlength,
          List.forall_mem_cons.mpr ⟨hc, hds⟩⟩, rfl⟩
      · obtain ⟨rfl, rfl⟩ := Prod.mk.inj h
        exact ⟨[], _, rfl, ⟨rfl, Nat.zero_le _, by simp⟩, rfl⟩
    · rintro ⟨xs, rest, hrest, ⟨rfl, hlength, hall⟩, rfl⟩
      rcases cs with - | ⟨c, ds⟩
      · obtain rfl : k.rest = rest := hrest
        exact .inr rfl
      · obtain ⟨hc, hds⟩ := List.forall_mem_cons.mp hall
        exact .inl ⟨c :: ds, rest, hrest, ⟨rfl, c, ds, rfl, hc, Nat.le_of_succ_le_succ hlength, hds⟩,
          rfl⟩

/-- One to `n` characters of a class. -/
theorem reads_oneTo (p : Char → Bool) {n : Nat} (hn : 1 ≤ n) :
    Reads (oneTo p n) fun cs xs => cs = xs ∧ 1 ≤ xs.length ∧ xs.length ≤ n ∧ ∀ c ∈ xs, p c := by
  refine (reads_atMost p (n - 1)).cons.congr fun cs xs => and_congr_right fun _ => ?_
  constructor
  · rintro ⟨c, ds, rfl, hc, hlength, hds⟩
    refine ⟨Nat.le_add_left 1 _, ?_, List.forall_mem_cons.mpr ⟨hc, hds⟩⟩
    rw [List.length_cons]
    omega
  · rintro ⟨hpos, hlength, hall⟩
    obtain ⟨c, ds, rfl⟩ := List.exists_cons_of_length_pos hpos
    obtain ⟨hc, hds⟩ := List.forall_mem_cons.mp hall
    rw [List.length_cons] at hlength
    exact ⟨c, ds, rfl, hc, by omega, hds⟩

theorem reads_each (ps : List (Char → Bool)) :
    Reads (each ps) fun cs xs => cs = xs ∧ List.Forall₂ (fun q c => q c) ps xs := by
  induction ps with
  | nil =>
    refine (reads_pure []).congr fun cs xs => ?_
    rw [List.forall₂_nil_left_iff]
    constructor
    · rintro ⟨rfl, rfl⟩
      exact ⟨rfl, rfl⟩
    · rintro ⟨rfl, rfl⟩
      exact ⟨rfl, rfl⟩
  | cons q ps ih =>
    refine ih.cons.congr fun cs xs => and_congr_right fun _ => ?_
    rw [List.forall₂_cons_left_iff]
    constructor
    · rintro ⟨c, ds, rfl, hc, hds⟩
      exact ⟨c, ds, hc, hds, rfl⟩
    · rintro ⟨c, ds, hc, hds, rfl⟩
      exact ⟨c, ds, rfl, hc, hds⟩

end Languages

/-! ### Ends of words -/

theorem mem_boundary_iff {u : Unit} {k k' : Cursor} :
    (u, k') ∈ boundary k ↔ atBoundary k ∧ k' = k := by
  unfold boundary
  by_cases h : atBoundary k <;> simp [h]

/-- Behind the last character of a word `xs` there is a boundary if no word goes on in `rest`. -/
theorem atBoundary_past_iff {k : Cursor} {xs rest : List Char} (h : ∃ c ∈ xs.getLast?, isWord c) :
    atBoundary (k.past xs rest) ↔ EndsWord rest := by
  obtain ⟨c, hlast, hword⟩ := h
  have hbefore : (k.past xs rest).before = some c := by
    rw [Cursor.past, Option.mem_def.mp hlast, Option.some_or]
  unfold atBoundary EndsWord
  rw [hbefore, Option.any_some, hword]
  rcases rest with - | ⟨d, ds⟩ <;> simp [Cursor.past]

/-- The matcher `m`, where a word ends behind what it reads. -/
def ended (m : Matcher α) : Matcher α := do
  let a ← m
  boundary
  return a

theorem Reads.mem_ended_iff {m : Matcher α} {L : α → List Char → Prop} (hm : Reads m L)
    (hword : ∀ a xs, L a xs → ∃ c ∈ xs.getLast?, isWord c) {k k' : Cursor} {a : α} :
    (a, k') ∈ ended m k ↔
      ∃ xs rest, k.rest = xs ++ rest ∧ L a xs ∧ EndsWord rest ∧ k' = k.past xs rest := by
  simp only [ended, mem_bind_iff, mem_boundary_iff, mem_pure_iff]
  constructor
  · rintro ⟨a, _, hmem, u, _, ⟨hboundary, rfl⟩, rfl, rfl⟩
    obtain ⟨xs, rest, hrest, hxs, rfl⟩ := (hm k _ _).mp hmem
    exact ⟨xs, rest, hrest, hxs, (atBoundary_past_iff (hword _ _ hxs)).mp hboundary, rfl⟩
  · rintro ⟨xs, rest, hrest, hxs, hends, rfl⟩
    have hboundary := (atBoundary_past_iff (k := k) (hword _ _ hxs)).mpr hends
    exact ⟨a, _, (hm k a _).mpr ⟨xs, rest, hrest, hxs, rfl⟩, (), _, ⟨hboundary, rfl⟩, rfl, rfl⟩

/-! ### The preferred match -/

section Preference

variable {m : Matcher α} {f : α → Matcher β} {k : Cursor}

theorem mem_of_first? {a : α} (h : m.first? k = some a) : ∃ k', (a, k') ∈ m k := by
  obtain ⟨⟨b, k'⟩, hhead, rfl⟩ := Option.map_eq_some_iff.mp h
  exact ⟨k', List.mem_of_head? hhead⟩

theorem first?_isSome_iff : (m.first? k).isSome ↔ ∃ a k', (a, k') ∈ m k := by
  constructor
  · intro h
    obtain ⟨a, ha⟩ := Option.isSome_iff_exists.mp h
    exact ⟨a, mem_of_first? ha⟩
  · rintro ⟨a, k', hmem⟩
    rw [first?, Option.isSome_map, List.isSome_head?]
    exact List.ne_nil_of_mem hmem

/-- If `m` has only one result, it is the preferred one. -/
theorem first?_eq_some_iff_of_unique (h : ∀ a b k' k'', (a, k') ∈ m k → (b, k'') ∈ m k → a = b)
    {a : α} : m.first? k = some a ↔ ∃ k', (a, k') ∈ m k := by
  refine ⟨mem_of_first?, ?_⟩
  rintro ⟨k', hmem⟩
  obtain ⟨b, hb⟩ := Option.isSome_iff_exists.mp (first?_isSome_iff.mpr ⟨a, k', hmem⟩)
  obtain ⟨k'', hmem'⟩ := mem_of_first? hb
  rw [hb, h b a k'' k' hmem' hmem]

theorem first?_bind : (m >>= f).first? k = (m k).findSome? fun r => (f r.1).first? r.2 := by
  show (((m k).flatMap fun r => f r.1 r.2).head?).map Prod.fst = _
  rw [List.head?_flatMap, List.map_findSome?]
  rfl

/-- If `f` goes on from one result of `m` only, the preferred match is the one from there. -/
theorem first?_bind_of_unique
    (h : ∀ r ∈ m k, ∀ r' ∈ m k, ((f r.1).first? r.2).isSome → ((f r'.1).first? r'.2).isSome → r = r')
    {b : β} : (m >>= f).first? k = some b ↔ ∃ a k', (a, k') ∈ m k ∧ (f a).first? k' = some b := by
  rw [first?_bind]
  constructor
  · intro hfound
    obtain ⟨⟨a, k'⟩, hmem, hfirst⟩ := List.exists_of_findSome?_eq_some hfound
    exact ⟨a, k', hmem, hfirst⟩
  · rintro ⟨a, k', hmem, hfirst⟩
    have hsome : ((m k).findSome? fun r => (f r.1).first? r.2).isSome := by
      rw [List.findSome?_isSome_iff]
      exact ⟨(a, k'), hmem, Option.isSome_of_eq_some hfirst⟩
    obtain ⟨b', hb'⟩ := Option.isSome_iff_exists.mp hsome
    obtain ⟨r, hr, hfirst'⟩ := List.exists_of_findSome?_eq_some hb'
    obtain rfl := h r hr (a, k') hmem (Option.isSome_of_eq_some hfirst')
      (Option.isSome_of_eq_some hfirst)
    rw [hb', ← hfirst', hfirst]

/-- A part `m` that may be missing is there if that lets the rest `g` match. -/
theorem first?_optional_bind {g : Option α → Matcher β} :
    (optional m >>= g).first? k
      = ((m >>= fun a => g (some a)).first? k).or ((g none).first? k) := by
  rw [first?_bind, first?_bind, optional, List.findSome?_append, List.findSome?_map,
    List.findSome?_singleton]
  rfl

theorem first?_bind_pure {g : α → β} :
    (m >>= fun a => pure (g a)).first? k = (m.first? k).map g := by
  rw [first?_bind, first?]
  rcases m k with - | ⟨r, rs⟩
  · rfl
  · rfl

/-- A part `m` that may be missing is there if a word can end behind it, and else may be missing
only if a word ends right here. -/
theorem first?_ended_optional :
    (ended (optional m)).first? k
      = (((ended m).first? k).map some).or (if atBoundary k then some none else none) := by
  have hthere : (m >>= fun a => boundary >>= fun _ => pure (some a))
      = ended m >>= fun a => pure (some a) := by
    simp only [ended, bind_assoc, pure_bind]
  have hmissing : (boundary >>= fun _ => pure (none : Option α)).first? k
      = if atBoundary k then some none else none := by
    rw [first?_bind, boundary]
    by_cases h : atBoundary k
    · rw [if_pos h, if_pos h]
      rfl
    · rw [if_neg h, if_neg h]
      rfl
  rw [ended, first?_optional_bind, hthere, first?_bind_pure, hmissing]

end Preference

/-! ### Letters in any case -/

/-- The lower-case ASCII letter that a character `c` is another form of, if there is one: of
capitals, of the long `'ſ'` and of the Kelvin sign. -/
def fold (c : Char) : Char :=
  if c = 'ſ' then 's' else if c = '\u212A' then 'k' else c.toLower

theorem foldsTo_iff {letter c : Char} (h : letter.toNat < 0x80) :
    foldsTo letter c ↔ fold c = letter := by
  unfold foldsTo fold
  simp only [Bool.or_eq_true, Bool.and_eq_true, beq_iff_eq]
  by_cases hlong : c = 'ſ'
  · subst hlong
    have hlower : ('ſ' : Char).toLower ≠ letter := by
      rintro rfl
      exact absurd h (by decide)
    have hne : ('ſ' : Char) ≠ '\u212A' := by decide
    rw [if_pos rfl, or_iff_left fun hk => hne hk.1, or_iff_right hlower, and_iff_right rfl, eq_comm]
  · rw [if_neg hlong, or_iff_left (b := _ ∧ letter = 's') fun hs => hlong hs.1]
    by_cases hkelvin : c = '\u212A'
    · subst hkelvin
      have hlower : ('\u212A' : Char).toLower ≠ letter := by
        rintro rfl
        exact absurd h (by decide)
      rw [if_pos rfl, or_iff_right hlower, and_iff_right rfl, eq_comm]
    · rw [if_neg hkelvin, or_iff_left fun hk => hkelvin hk.1]

theorem forall₂_foldsTo_iff {letters xs : List Char} (h : ∀ c ∈ letters, c.toNat < 0x80) :
    List.Forall₂ (fun letter c => foldsTo letter c) letters xs ↔ xs.map fold = letters := by
  induction letters generalizing xs with
  | nil => simp
  | cons l ls ih =>
    obtain ⟨hl, hls⟩ := List.forall_mem_cons.mp h
    rcases xs with - | ⟨x, xs⟩
    · simp
    · rw [List.forall₂_cons, foldsTo_iff hl, ih hls, List.map_cons, List.cons.injEq]

/-- A word of ASCII `letters` is read in any case. -/
theorem reads_word {letters : String} (h : letters.toList.all fun c => c.toNat < 0x80) :
    Reads (word letters) fun cs xs => cs = xs ∧ xs.map fold = letters.toList := by
  have hascii : ∀ c ∈ letters.toList, c.toNat < 0x80 := by
    intro c hc
    exact of_decide_eq_true (List.all_eq_true.mp h c hc)
  refine (reads_each _).congr fun cs xs => and_congr_right fun _ => ?_
  rw [List.forall₂_map_left_iff, forall₂_foldsTo_iff hascii]

/-! ### Cutting off a front -/

/-- Characters of a class `p` can be cut off in one way only if what is left starts with none. -/
theorem append_inj_of_run {p : Char → Bool} {xs ys rs ss : List Char} (hxs : ∀ c ∈ xs, p c)
    (hrs : ∀ c ∈ rs.head?, p c = false) (hys : ∀ c ∈ ys, p c) (hss : ∀ c ∈ ss.head?, p c = false)
    (h : xs ++ rs = ys ++ ss) : xs = ys ∧ rs = ss := by
  have hfront : ∀ {zs ts : List Char}, (∀ c ∈ zs, p c) → (∀ c ∈ ts.head?, p c = false) →
      (zs ++ ts).takeWhile p = zs := by
    intro zs ts hzs hts
    rw [List.takeWhile_append_of_pos hzs]
    rcases ts with - | ⟨t, ts⟩
    · rw [List.takeWhile_nil, List.append_nil]
    · rw [List.takeWhile_cons_of_neg (by simp [hts t rfl]), List.append_nil]
  have heq : xs = ys := by rw [← hfront hxs hrs, h, hfront hys hss]
  exact ⟨heq, List.append_cancel_left (heq ▸ h)⟩

/-- Two words `xs` and `ys` with the same `letters` are cut off alike, whatever their case. -/
theorem append_inj_of_map_fold {letters xs ys rs ss : List Char} (hxs : xs.map fold = letters)
    (hys : ys.map fold = letters) (h : xs ++ rs = ys ++ ss) : xs = ys ∧ rs = ss := by
  have hlength := congrArg List.length (hxs.trans hys.symm)
  rw [List.length_map, List.length_map] at hlength
  exact List.append_inj h hlength

end Matcher
end DeckKeywords.Text
