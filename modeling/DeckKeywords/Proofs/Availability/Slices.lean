/-
DeckKeywords/Proofs/Availability/Slices.lean

Which versions an availability covers, as a part of the order of versions.  A
table may list a version twice, and what counts is the first place; without the
repetitions the versions stand in the order of these places, `pairwise_order`.
So the comparisons of places cut the order apart:

  * a version on its own covers the order from that version on,
  * two versions cover what lies between them, both included,
  * listed versions cover themselves.

An unlisted version stands before all others.  As a first bound it cuts nothing
off, as a last bound it leaves nothing, and as a target it is covered where no
first bound stands before it.

Main result: `covered_versions_are_slices`.
-/
import DeckKeywords.Availability
import DeckKeywords.Proofs.OrderedMap

namespace DeckKeywords

/-! ### Parts of a list -/

section Parts

variable {α : Type*} [DecidableEq α]

/-- The list `xs` from the item `a` on, and all of it if `a` is not in it. -/
def fromItem (a : α) (xs : List α) : List α :=
  if a ∈ xs then xs.dropWhile (· ≠ a) else xs

/-- The list `xs` up to the item `a` and with it, and nothing if `a` is not in it. -/
def throughItem (a : α) (xs : List α) : List α :=
  if a ∈ xs then xs.takeWhile (· ≠ a) ++ [a] else []

variable {a : α} {before behind xs : List α}

theorem fromItem_append_cons (h : a ∉ before) : fromItem a (before ++ a :: behind) = a :: behind := by
  have hbefore : ∀ b ∈ before, decide (b ≠ a) = true := fun b hb =>
    decide_eq_true fun hba => h (hba ▸ hb)
  rw [fromItem, if_pos (by simp), List.dropWhile_append_of_pos hbefore,
    List.dropWhile_cons_of_neg (by simp)]

theorem throughItem_append_cons (h : a ∉ before) :
    throughItem a (before ++ a :: behind) = before ++ [a] := by
  have hbefore : ∀ b ∈ before, decide (b ≠ a) = true := fun b hb =>
    decide_eq_true fun hba => h (hba ▸ hb)
  rw [throughItem, if_pos (by simp), List.takeWhile_append_of_pos hbefore,
    List.takeWhile_cons_of_neg (by simp), List.append_nil]

variable {rank : α → Int}

/-- Where ranks rise along `xs`, what does not rank below `a` is the list from `a` on. -/
theorem filter_le_rank (h : xs.Pairwise (rank · < rank ·)) (ha : a ∈ xs) :
    xs.filter (rank a ≤ rank ·) = fromItem a xs := by
  obtain ⟨before, behind, rfl, hfirst⟩ := List.eq_append_cons_of_mem ha
  obtain ⟨-, hrest, hacross⟩ := List.pairwise_append.mp h
  have hbefore : before.filter (rank a ≤ rank ·) = [] := by
    rw [List.filter_eq_nil_iff]
    intro b hb
    have hlt : rank b < rank a := hacross b hb a List.mem_cons_self
    simpa using hlt
  have hbehind : (a :: behind).filter (rank a ≤ rank ·) = a :: behind := by
    rw [List.filter_eq_self, List.forall_mem_cons]
    refine ⟨by simp, fun b hb => ?_⟩
    have hlt : rank a < rank b := (List.pairwise_cons.mp hrest).1 b hb
    simpa using Int.le_of_lt hlt
  rw [List.filter_append, hbefore, hbehind, fromItem_append_cons hfirst, List.nil_append]

/-- Where ranks rise along `xs`, what does not rank above `a` is the list up to `a`. -/
theorem filter_rank_le (h : xs.Pairwise (rank · < rank ·)) (ha : a ∈ xs) :
    xs.filter (rank · ≤ rank a) = throughItem a xs := by
  obtain ⟨before, behind, rfl, hfirst⟩ := List.eq_append_cons_of_mem ha
  obtain ⟨-, hrest, hacross⟩ := List.pairwise_append.mp h
  have hbefore : before.filter (rank · ≤ rank a) = before := by
    rw [List.filter_eq_self]
    intro b hb
    have hlt : rank b < rank a := hacross b hb a List.mem_cons_self
    simpa using Int.le_of_lt hlt
  have hbehind : behind.filter (rank · ≤ rank a) = [] := by
    rw [List.filter_eq_nil_iff]
    intro b hb
    have hlt : rank a < rank b := (List.pairwise_cons.mp hrest).1 b hb
    simpa using hlt
  rw [List.filter_append, List.filter_cons_of_pos (by simp), hbefore, hbehind,
    throughItem_append_cons hfirst]

end Parts

/-! ### The order of versions -/

namespace VersionTable

/-- The versions of `t` without repetitions, in the order of their first places. -/
def order (t : VersionTable) : List String := t.versions.eraseDups

/-- The versions that `a` covers, in the `order` of `t`. -/
def covered (t : VersionTable) (a : Availability) : List String := t.order.filter (a.covers · t)

variable {t : VersionTable} {v : String}

theorem mem_order_iff : v ∈ t.order ↔ v ∈ t.versions := List.mem_eraseDups

theorem position_of_not_mem (h : v ∉ t.versions) : t.position v = -1 := by
  rw [position, List.idxOf?_eq_none_iff.mpr h]

theorem exists_position_eq (h : v ∈ t.versions) :
    ∃ i : Nat, i < t.versions.length ∧ t.position v = i := by
  have hsome : (t.versions.idxOf? v).isSome := by
    rw [Option.isSome_iff_ne_none, Ne, List.idxOf?_eq_none_iff]
    exact fun hnot => hnot h
  obtain ⟨i, hi⟩ := Option.isSome_iff_exists.mp hsome
  obtain ⟨hlt, -, -⟩ := List.idxOf?_eq_some_iff.mp hi
  exact ⟨i, hlt, by rw [position, hi]⟩

theorem position_nonneg (h : v ∈ t.versions) : 0 ≤ t.position v := by
  obtain ⟨i, -, hi⟩ := exists_position_eq h
  omega

theorem neg_one_le_position (t : VersionTable) (v : String) : -1 ≤ t.position v := by
  by_cases h : v ∈ t.versions
  · have hpos := position_nonneg h
    omega
  · exact Int.le_of_eq (position_of_not_mem h).symm

/-- A version `w` at the end changes no `position` that was there before, and stands behind all of
them if it is new. -/
theorem position_concat (vs : List String) (w fallback : String) :
    (⟨vs ++ [w], fallback⟩ : VersionTable).position v
      = if v ∈ vs then (⟨vs, fallback⟩ : VersionTable).position v
        else if v = w then (vs.length : Int) else -1 := by
  have hsplit : (vs ++ [w]).idxOf? v
      = (vs.idxOf? v).or (([w].idxOf? v).map (· + vs.length)) := List.findIdx?_append
  unfold position
  rw [hsplit]
  by_cases h : v ∈ vs
  · have hne : vs.idxOf? v ≠ none := fun hnone => List.idxOf?_eq_none_iff.mp hnone h
    obtain ⟨i, hi⟩ := Option.ne_none_iff_exists'.mp hne
    simp [h, hi]
  · rw [List.idxOf?_eq_none_iff.mpr h, if_neg h, List.idxOf?_cons]
    by_cases hw : v = w
    · simp [hw]
    · simp [hw, Ne.symm hw]

/-- In `t.order` the `position` rises: it is the order of the first places. -/
theorem pairwise_order (t : VersionTable) : t.order.Pairwise (t.position · < t.position ·) := by
  obtain ⟨vs, fallback⟩ := t
  unfold order
  -- each version at the end of the table is either known or a new last one
  induction vs using List.reverseRecOn with
  | nil => exact List.Pairwise.nil
  | append_singleton vs w ih =>
    have hkept : vs.eraseDups.Pairwise fun v v' =>
        (⟨vs ++ [w], fallback⟩ : VersionTable).position v
          < (⟨vs ++ [w], fallback⟩ : VersionTable).position v' := by
      refine ih.imp_of_mem fun {v v'} hv hv' hlt => ?_
      rw [position_concat, position_concat, if_pos (List.mem_eraseDups.mp hv),
        if_pos (List.mem_eraseDups.mp hv')]
      exact hlt
    show (vs ++ [w]).eraseDups.Pairwise _
    rw [eraseDups_concat]
    by_cases hw : w ∈ vs
    · rw [if_pos hw]
      exact hkept
    · rw [if_neg hw, List.pairwise_append]
      refine ⟨hkept, List.pairwise_singleton _ _, fun v hv v' hv' => ?_⟩
      obtain rfl := List.mem_singleton.mp hv'
      have hmem : v ∈ vs := List.mem_eraseDups.mp hv
      obtain ⟨i, hi, hposition⟩ := exists_position_eq (t := ⟨vs, fallback⟩) hmem
      rw [position_concat, position_concat, if_pos hmem, if_neg hw, if_pos rfl, hposition]
      exact_mod_cast hi

/-! ### What is covered -/

variable {first last target : String} {versions : List String}

/-- A version `first` covers itself and all that stands behind it, and an unlisted one all there
is. -/
theorem covered_since (t : VersionTable) (first : String) :
    t.covered (.since first) = fromItem first t.order := by
  show t.order.filter (t.position first ≤ t.position ·) = _
  by_cases h : first ∈ t.order
  · exact filter_le_rank t.pairwise_order h
  · have hfirst : t.position first = -1 := position_of_not_mem (mem_order_iff.not.mp h)
    have hall : ∀ v ∈ t.order, decide (t.position first ≤ t.position v) = true := by
      intro v _
      rw [hfirst]
      exact decide_eq_true (t.neg_one_le_position v)
    rw [List.filter_eq_self.mpr hall, fromItem, if_neg h]

/-- Of what `first` covers, `last` leaves what stands up to it. -/
theorem covered_range (t : VersionTable) (first last : String) :
    t.covered (.range first last) = throughItem last (fromItem first t.order) := by
  have hcut : t.covered (.range first last)
      = (t.covered (.since first)).filter (t.position · ≤ t.position last) := by
    rw [covered, covered, List.filter_filter]
    refine List.filter_congr fun v _ => ?_
    simp [Availability.covers, Bool.and_comm]
  rw [hcut, ← covered_since]
  by_cases h : last ∈ t.covered (.since first)
  · exact filter_rank_le (t.pairwise_order.filter _) h
  · rw [throughItem, if_neg h, List.filter_eq_nil_iff]
    intro v hv
    obtain ⟨hlisted, hcovers⟩ := List.mem_filter.mp hv
    have hfirst : t.position first ≤ t.position v := of_decide_eq_true hcovers
    have hv : 0 ≤ t.position v := position_nonneg (mem_order_iff.mp hlisted)
    -- the last bound is unlisted, or it stands before the first one
    have hlast : t.position last < t.position v := by
      by_cases hmem : last ∈ t.order
      · have hnot : ¬ t.position first ≤ t.position last := fun hle =>
          h (List.mem_filter.mpr ⟨hmem, decide_eq_true hle⟩)
        omega
      · rw [position_of_not_mem (mem_order_iff.not.mp hmem)]
        omega
    simpa using hlast

theorem covered_only (t : VersionTable) (versions : List String) :
    t.covered (.only versions) = t.order.filter (· ∈ versions) :=
  List.filter_congr fun _ _ => List.contains_eq_mem _ _

/-- Nothing but an unlisted version `first` stands as far in front as an unlisted `target`. -/
theorem position_le_unlisted_iff (h : target ∉ t.versions) :
    t.position first ≤ t.position target ↔ first ∉ t.versions := by
  rw [position_of_not_mem h]
  constructor
  · intro hle hmem
    have hpos := position_nonneg hmem
    omega
  · intro hnot
    exact Int.le_of_eq (position_of_not_mem hnot)

theorem covers_since_unlisted_iff (h : target ∉ t.versions) :
    (Availability.since first).covers target t ↔ first ∉ t.versions := by
  show decide (t.position first ≤ t.position target) = true ↔ _
  rw [decide_eq_true_iff, position_le_unlisted_iff h]

/-- The bound `last` makes no difference to an unlisted `target`. -/
theorem covers_range_unlisted_iff (h : target ∉ t.versions) :
    (Availability.range first last).covers target t ↔ first ∉ t.versions := by
  have hlast : t.position target ≤ t.position last := by
    rw [position_of_not_mem h]
    exact t.neg_one_le_position last
  show (decide (t.position first ≤ t.position target)
    && decide (t.position target ≤ t.position last)) = true ↔ _
  rw [Bool.and_eq_true, decide_eq_true_iff, decide_eq_true_iff, and_iff_left hlast,
    position_le_unlisted_iff h]

theorem covers_only_iff : (Availability.only versions).covers target t ↔ target ∈ versions :=
  List.contains_iff_mem

/-- **Availability is a part of the order.**  In `t.order`, the versions without repetitions in the
order of their first places, `.since first` covers those from `first` on, or all of them if that is
unlisted; `.range first last` covers those of them up to `last` and with it, and none if `last` is
unlisted or comes before `first`; `.only versions` covers just those that are in `versions`.  A
`target` that the table does not have is covered exactly where `first` is unlisted as well, whatever
`last` is, or where it is one of the `versions`. -/
theorem covered_versions_are_slices (t : VersionTable) :
    (∀ first, t.covered (.since first) = fromItem first t.order) ∧
    (∀ first last, t.covered (.range first last) = throughItem last (fromItem first t.order)) ∧
    (∀ versions, t.covered (.only versions) = t.order.filter (· ∈ versions)) ∧
    ∀ target, target ∉ t.versions →
      (∀ first, (Availability.since first).covers target t ↔ first ∉ t.versions) ∧
      (∀ first last, (Availability.range first last).covers target t ↔ first ∉ t.versions) ∧
      ∀ versions, (Availability.only versions).covers target t ↔ target ∈ versions := by
  refine ⟨t.covered_since, t.covered_range, t.covered_only, fun target htarget => ⟨?_, ?_, ?_⟩⟩
  · intro first
    exact covers_since_unlisted_iff htarget
  · intro first last
    exact covers_range_unlisted_iff htarget
  · intro versions
    exact covers_only_iff

/-- In a table `t` that lists a version twice its first place counts.  A target that is not listed
is not covered from a listed bound on, but from an unlisted one, also where the `range` ends
before. -/
theorem repeated_version_and_unlisted_target :
    let t : VersionTable := ⟨["2020", "2018", "2020", "2022"], "2022"⟩
    t.covered (.range "2018" "2022") = ["2018", "2022"] ∧
      t.covered (.range "2022" "2020") = [] ∧
      "2030" ∉ t.versions ∧ (Availability.since "2018").covers "2030" t = false ∧
      (Availability.range "1990" "1980").covers "2030" t := by
  intro t
  have htarget : "2030" ∉ t.versions := by decide
  obtain ⟨-, hrange, -, hunlisted⟩ := covered_versions_are_slices t
  obtain ⟨hsince, hbetween, -⟩ := hunlisted "2030" htarget
  refine ⟨?_, ?_, htarget, ?_, ?_⟩
  · rw [hrange]
    decide
  · rw [hrange]
    decide
  · rw [← Bool.not_eq_true, hsince]
    decide
  · rw [hbetween]
    decide

end VersionTable

end DeckKeywords
