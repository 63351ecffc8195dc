/-
DeckKeywords/Proofs/Json/Equality.lean

Equality of trees can be decided, node by node, so what a text is read as can be
compared with a tree that is written out.  The strings of such a tree are best
given as they look, `Token.plain`.
-/
import DeckKeywords.Json.Tree

namespace DeckKeywords.Json

/-- The string `s` as it is written without escapes. -/
def Token.plain (s : String) : Token := ⟨s.toList.map .char, none⟩

namespace Tree

mutual

/-- Whether two trees are the same. -/
def same : Tree → Tree → Bool
  | null, null => true
  | bool b, bool c => b = c
  | number n, number m => n = m
  | text t, text u => t = u
  | list items stop, list items' stop' => sameItems items items' && decide (stop = stop')
  | object members stop, object members' stop' =>
    sameMembers members members' && decide (stop = stop')
  | broken b, broken c => b = c
  | _, _ => false

/-- Whether two lists of items are the same. -/
def sameItems : List Tree → List Tree → Bool
  | [], [] => true
  | t :: ts, u :: us => same t u && sameItems ts us
  | _, _ => false

/-- Whether two lists of members are the same. -/
def sameMembers : List (Token × Tree) → List (Token × Tree) → Bool
  | [], [] => true
  | (k, t) :: ms, (l, u) :: ns => decide (k = l) && same t u && sameMembers ms ns
  | _, _ => false

end

mutual

theorem same_iff : (t u : Tree) → (same t u = true ↔ t = u)
  | list items stop, u => by
    cases u with
    | list items' stop' => simp [same, sameItems_iff items items']
    | _ => simp [same]
  | object members stop, u => by
    cases u with
    | object members' stop' => simp [same, sameMembers_iff members members']
    | _ => simp [same]
  | null, u | bool _, u | number _, u | text _, u | broken _, u => by cases u <;> simp [same]

theorem sameItems_iff : (ts us : List Tree) → (sameItems ts us = true ↔ ts = us)
  | [], us => by cases us <;> simp [sameItems]
  | t :: ts, us => by
    rcases us with - | ⟨u, us⟩
    · simp [sameItems]
    · simp [sameItems, same_iff t u, sameItems_iff ts us]

theorem sameMembers_iff : (ms ns : List (Token × Tree)) → (sameMembers ms ns = true ↔ ms = ns)
  | [], ns => by cases ns <;> simp [sameMembers]
  | (k, t) :: ms, ns => by
    rcases ns with - | ⟨⟨l, u⟩, ns⟩
    · simp [sameMembers]
    · simp [sameMembers, same_iff t u, sameMembers_iff ms ns]

end

instance : DecidableEq Tree := fun t u => decidable_of_iff _ (same_iff t u)

end Tree

end DeckKeywords.Json
