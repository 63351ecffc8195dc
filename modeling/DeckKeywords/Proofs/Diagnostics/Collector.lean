/-
DeckKeywords/Proofs/Diagnostics/Collector.lean

What a collector holds.  A collector with room for `n` diagnostics holds the
latest `n` of the records that it admitted, or all of them if there are fewer,
`Holds`.  Emitting one more record preserves that, whether the collector is
full, has room left or never had any.

Taking everything out cuts a run into segments, and each segment is seen at its
end on its own, `batches_run`:

    the batches taken out, then what is held  =  the latest of each segment

All that a host may rely on follows: nothing comes twice or out of order, and
nothing is lost while no segment admits more than there is room for.

Main result: `latest_events_kept`.
-/
import DeckKeywords.Diagnostics.Emission
import DeckKeywords.Proofs.OrderedMap
import DeckKeywords.Proofs.Segments
import Mathlib.Data.List.Flatten

namespace DeckKeywords

/-! ### Records of events -/

namespace Emission

/-- The diagnostic of an event `e`: its level and target, the text of its last message, and the
texts of its other fields in their order. -/
def diagnostic (e : Emission) : Diagnostic where
  level := e.level
  target := e.target
  message := ((lastValue? e.fields messageField).map (·.raw)).getD ""
  fields := (e.fields.filter (·.1 ≠ messageField)).map fun (name, value) => (name, value.raw)

theorem visited_eq (fields : List (String × FieldValue)) :
    fields.foldl Visited.push {}
      = ⟨((lastValue? fields messageField).map (·.raw)).getD "",
        fields.filter (·.1 ≠ messageField)⟩ := by
  induction fields using List.reverseRecOn with
  | nil => rfl
  | append_singleton fields field ih =>
    obtain ⟨name, value⟩ := field
    have hlast : lastValue? (fields ++ [(name, value)]) messageField
        = if messageField = name then some value else lastValue? fields messageField := by
      rw [lastValue?, List.reverse_concat, lookup_cons_eq]
      rfl
    rw [List.foldl_append, ih, hlast, List.filter_append, List.foldl_cons, List.foldl_nil,
      Visited.push]
    by_cases h : name = messageField
    · simp [h]
    · simp [h, Ne.symm h]

/-- Visiting the fields of an event `e` leads to its `diagnostic`. -/
@[simp] theorem ofRecord_record (e : Emission) : Diagnostic.ofRecord e.record = e.diagnostic := by
  rw [record, visited, visited_eq]
  rfl

end Emission

namespace Collector

/-! ### What stays as it is

The room of a collector and the level that it admits never change. -/

@[simp] theorem capacity_new (capacity : Nat) (least : Level) :
    (new capacity least).capacity = capacity := rfl

@[simp] theorem least_new (capacity : Nat) (least : Level) :
    (new capacity least).least = least := rfl

@[simp] theorem capacity_emit (c : Collector) (r : Record) :
    (c.emit r).capacity = c.capacity := by
  unfold emit
  split <;> rfl

@[simp] theorem least_emit (c : Collector) (r : Record) : (c.emit r).least = c.least := by
  unfold emit
  split <;> rfl

@[simp] theorem admits_emit (c : Collector) (r : Record) : (c.emit r).admits = c.admits := by
  funext r'
  simp [admits]

@[simp] theorem emitAll_nil (c : Collector) : c.emitAll [] = c := rfl

@[simp] theorem emitAll_cons (c : Collector) (r : Record) (rs : List Record) :
    c.emitAll (r :: rs) = (c.emit r).emitAll rs := rfl

@[simp] theorem emitAll_append (c : Collector) (rs rs' : List Record) :
    c.emitAll (rs ++ rs') = (c.emitAll rs).emitAll rs' := List.foldl_append

@[simp] theorem capacity_emitAll (c : Collector) (rs : List Record) :
    (c.emitAll rs).capacity = c.capacity := by
  induction rs generalizing c with
  | nil => rfl
  | cons r rs ih => simp [ih]

@[simp] theorem capacity_perform (c : Collector) (op : Operation) :
    (c.perform op).capacity = c.capacity := by
  cases op with
  | emit e => exact capacity_emit c e.record
  | drain => rfl

@[simp] theorem least_perform (c : Collector) (op : Operation) :
    (c.perform op).least = c.least := by
  cases op with
  | emit e => exact least_emit c e.record
  | drain => rfl

@[simp] theorem run_concat (c : Collector) (ops : List Operation) (op : Operation) :
    c.run (ops ++ [op]) = (c.run ops).perform op := List.foldl_append

@[simp] theorem capacity_run (c : Collector) (ops : List Operation) :
    (c.run ops).capacity = c.capacity := by
  induction ops using List.reverseRecOn with
  | nil => rfl
  | append_singleton ops op ih => simp [ih]

@[simp] theorem least_run (c : Collector) (ops : List Operation) :
    (c.run ops).least = c.least := by
  induction ops using List.reverseRecOn with
  | nil => rfl
  | append_singleton ops op ih => simp [ih]

/-! ### One record more -/

/-- The collector `c` holds the latest of the records `rs`: as many as it has room for,
`c.capacity`. -/
def Holds (c : Collector) (rs : List Record) : Prop :=
  c.entries = (rs.rtake c.capacity).map .ofRecord

theorem holds_nil {c : Collector} (h : c.entries = []) : c.Holds [] := by
  rw [Holds, h, List.rtake_nil]
  rfl

/-- When the oldest of the latest `n` elements makes way for a new one, `x`, the latest are held
again. -/
theorem rtake_concat {α : Type} (xs : List α) (x : α) {n : Nat} (hn : n ≠ 0) :
    (xs ++ [x]).rtake n
      = (if n ≤ (xs.rtake n).length then (xs.rtake n).drop 1 else xs.rtake n) ++ [x] := by
  obtain ⟨n, rfl⟩ := Nat.exists_eq_succ_of_ne_zero hn
  rw [List.rtake_concat_succ]
  unfold List.rtake
  rw [List.length_drop]
  split
  · rw [List.drop_drop]
    congr 2
    omega
  · rw [show xs.length - n = 0 by omega, show xs.length - (n + 1) = 0 by omega]

theorem Holds.emit {c : Collector} {rs : List Record} (h : c.Holds rs) (r : Record) :
    (c.emit r).Holds (rs ++ if c.admits r then [r] else []) := by
  unfold Holds
  rw [capacity_emit]
  by_cases hr : c.admits r
  · rw [if_pos hr]
    by_cases hroom : c.capacity = 0
    · rw [Collector.emit, if_pos (by simp [hroom]), h]
      simp [hroom, List.rtake_zero]
    · rw [Collector.emit, if_neg (by simp [hr, hroom]), rtake_concat rs r hroom]
      show _ ++ [_] = _
      rw [h, List.length_map, List.map_append]
      split <;> simp
  · rw [Collector.emit, if_pos (by simp [hr]), h, if_neg hr, List.append_nil]

/-- The records `more` in turn: those that `c.admits` join the ones before them, `rs`. -/
theorem Holds.emitAll {c : Collector} {rs : List Record} (h : c.Holds rs) (more : List Record) :
    (c.emitAll more).Holds (rs ++ more.filter c.admits) := by
  induction more generalizing c rs with
  | nil => simpa using h
  | cons r more ih =>
    have hholds := ih (h.emit r)
    by_cases hr : c.admits r <;> simpa [hr] using hholds

/-! ### Runs -/

/-- The events of a run `ops` that are at least as severe as `least`. -/
def admitted (least : Level) (ops : List Operation) : List Emission :=
  ops.filterMap fun op =>
    match op with
    | .emit e => if least.severity ≤ e.level.severity then some e else none
    | .drain => none

/-- The operations of `ops` since the host last took everything out. -/
def sinceDrain (ops : List Operation) : List Operation := ops.rtakeWhile fun op => op ≠ .drain

/-- The segments of a run `ops`, the last one after the host last took everything out. -/
def segments (ops : List Operation) : List (List Operation) := ops.splitOnP fun op => op = .drain

/-- The diagnostics of the latest events of a `segment` that are at least as severe as `least`. -/
def latest (capacity : Nat) (least : Level) (segment : List Operation) : List Diagnostic :=
  ((admitted least segment).rtake capacity).map Emission.diagnostic

theorem batches_concat (c : Collector) (ops : List Operation) (op : Operation) :
    c.batches (ops ++ [op])
      = c.batches ops ++ if op = .drain then [(c.run ops).entries] else [] := by
  induction ops generalizing c with
  | nil => cases op <;> rfl
  | cons o ops ih =>
    cases o with
    | emit e => exact ih _
    | drain => exact congrArg (c.entries :: ·) (ih _)

theorem admitted_append (least : Level) (xs ys : List Operation) :
    admitted least (xs ++ ys) = admitted least xs ++ admitted least ys := List.filterMap_append

theorem admitted_emit (least : Level) (e : Emission) :
    admitted least [.emit e] = if least.severity ≤ e.level.severity then [e] else [] := by
  by_cases h : least.severity ≤ e.level.severity <;> simp [admitted, h]

theorem sinceDrain_concat (ops : List Operation) (op : Operation) :
    sinceDrain (ops ++ [op]) = if op = .drain then [] else sinceDrain ops ++ [op] := by
  unfold sinceDrain
  rw [List.rtakeWhile_concat]
  by_cases h : op = .drain <;> simp [h]

/-- After the run `ops` a collector holds the latest of what it admitted since the host last took
everything out. -/
theorem holds_run (capacity : Nat) (least : Level) (ops : List Operation) :
    ((new capacity least).run ops).Holds ((admitted least (sinceDrain ops)).map Emission.record) := by
  induction ops using List.reverseRecOn with
  | nil => exact holds_nil rfl
  | append_singleton ops op ih =>
    rw [run_concat, sinceDrain_concat]
    cases op with
    | emit e =>
      have hadmits : ((new capacity least).run ops).admits e.record
          = decide (least.severity ≤ e.level.severity) := by
        simp [admits, Emission.record]
      have hnext := ih.emit e.record
      rw [hadmits] at hnext
      rw [if_neg Operation.noConfusion, admitted_append, List.map_append, admitted_emit, perform]
      by_cases h : least.severity ≤ e.level.severity <;> simpa [h] using hnext
    | drain => exact holds_nil rfl

theorem entries_run (capacity : Nat) (least : Level) (ops : List Operation) :
    ((new capacity least).run ops).entries = latest capacity least (sinceDrain ops) := by
  have h := holds_run capacity least ops
  rw [h, latest, List.rtake, List.rtake]
  simp [← List.map_drop]

/-- What is taken out during `ops`, batch by batch, and what is held in the end are the `latest` of
each segment. -/
theorem batches_run (capacity : Nat) (least : Level) (ops : List Operation) :
    (new capacity least).batches ops ++ [((new capacity least).run ops).entries]
      = (segments ops).map (latest capacity least) := by
  induction ops using List.reverseRecOn with
  | nil => rw [entries_run, batches, segments, List.splitOnP_nil]; rfl
  | append_singleton ops op ih =>
    rw [entries_run] at ih
    rw [batches_concat, entries_run, entries_run, sinceDrain_concat]
    cases op with
    | emit e =>
      -- the event joins the last segment, and the ones before that stay as they are
      obtain ⟨earlier, hsegments⟩ :=
        splitOnP_append_of_none (p := fun op : Operation => op = .drain) ops
      have hnow := hsegments [] (by simp)
      have hlast : ops.rtakeWhile (fun op => !decide (op = .drain)) = sinceDrain ops := by
        simp [sinceDrain]
      rw [hlast] at hsegments hnow
      rw [List.append_nil, List.append_nil] at hnow
      rw [segments, hnow, List.map_append] at ih
      rw [segments, hsegments [.emit e] (by simp), List.map_append, ← (List.append_inj' ih rfl).1,
        if_neg Operation.noConfusion, if_neg Operation.noConfusion, List.append_nil]
      rfl
    | drain =>
      have hsplit : segments (ops ++ [.drain]) = segments ops ++ [[]] :=
        List.splitOnP_append_cons ops [] (by simp)
      rw [if_pos rfl, if_pos rfl, ih, hsplit, List.map_append]
      rfl

/-- The events of a run `ops` are those of its `segments`. -/
theorem flatMap_segments (least : Level) (ops : List Operation) :
    (segments ops).flatMap (admitted least) = admitted least ops := by
  refine flatMap_splitOnP (fun op hop => ?_) ops
  rw [of_decide_eq_true hop]

/-- **A collector keeps the latest events.**  It holds the latest of the `recent` events, those that
are severe enough and came since everything was taken out, as many as `capacity` has room for, each
as its `Emission.diagnostic`, with its level, target and message and its other fields in order.
`drain` gives just what is held and leaves nothing.  So `seen`, what was ever taken out, with what
is held in the end, is a subsequence of the `severe` events, and all of them if none of the
`segments` has more than there is room for. -/
theorem latest_events_kept (capacity : Nat) (least : Level) (ops : List Operation) :
    let start := new capacity least
    let c := start.run ops
    let recent := admitted least (sinceDrain ops)
    let seen := (start.batches ops).flatten ++ c.entries
    let severe := (admitted least ops).map Emission.diagnostic
    c.entries = (recent.rtake (min capacity recent.length)).map Emission.diagnostic ∧
    c.entries.length ≤ capacity ∧
    (c.drain.1 = c.entries ∧ c.drain.2.entries = [] ∧
      start.run (ops ++ [.drain]) = c.drain.2 ∧
      start.batches (ops ++ [.drain]) = start.batches ops ++ [c.entries]) ∧
    seen.Sublist severe ∧
    ((∀ segment ∈ segments ops, (admitted least segment).length ≤ capacity) → seen = severe) := by
  intro start c recent seen severe
  have hentries : c.entries = (recent.rtake capacity).map Emission.diagnostic :=
    entries_run capacity least ops
  -- what is seen and what was emitted, both cut into the same segments
  have hseen : seen = (segments ops).flatMap (latest capacity least) := by
    have hbatches := congrArg List.flatten (batches_run capacity least ops)
    rwa [List.flatten_append, List.flatten_singleton, ← List.flatMap_def] at hbatches
  have hsevere : severe
      = (segments ops).flatMap fun segment => (admitted least segment).map Emission.diagnostic := by
    rw [← List.map_flatMap, flatMap_segments]
  refine ⟨?_, ?_, ⟨rfl, rfl, run_concat .., batches_concat ..⟩, ?_, fun hroom => ?_⟩
  · rw [hentries, List.rtake, List.rtake]
    congr 2
    omega
  · rw [hentries, List.length_map, List.rtake, List.length_drop]
    omega
  · rw [hseen, hsevere]
    refine List.Sublist.flatMap_right _ fun segment _ => ?_
    exact (List.drop_sublist _ _).map _
  · rw [hseen, hsevere]
    refine List.flatMap_congr fun segment hsegment => ?_
    rw [latest, List.rtake, Nat.sub_eq_zero_of_le (hroom segment hsegment), List.drop_zero]

end Collector

end DeckKeywords
