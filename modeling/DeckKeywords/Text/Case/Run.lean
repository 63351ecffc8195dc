/-
DeckKeywords/Text/Case/Run.lean

Case mappings as runs: equally spaced code points that all move by the same
distance.  The few characters with longer images stand in a list beside them.
-/
namespace DeckKeywords.Text

/-- The code points `first`, `first + step`, …, `last`, each moved by `shift`. -/
structure CaseRun where
  first : Nat
  last : Nat
  step : Nat
  shift : Int

/-- Whether the run `r` moves the code point `n`. -/
def CaseRun.moves (r : CaseRun) (n : Nat) : Bool :=
  r.first ≤ n && n ≤ r.last && (n - r.first) % r.step == 0

/-- A case mapping: runs, and the characters whose image is longer than one. -/
structure CaseMap where
  runs : List CaseRun
  longer : List (Nat × List Nat)

/-- The image of a character `c`; one that the mapping `m` leaves out stands for itself. -/
def CaseMap.image (m : CaseMap) (c : Char) : List Char :=
  match m.longer.lookup c.toNat with
  | some codes => codes.map Char.ofNat
  | none =>
    match m.runs.find? (·.moves c.toNat) with
    | some r => [Char.ofNat (c.toNat + r.shift).toNat]
    | none => [c]

end DeckKeywords.Text
