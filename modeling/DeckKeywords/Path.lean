/-
DeckKeywords/Path.lean

Paths as texts.  A path is cut at its slashes; empty pieces do not count, nor
does a dot, unless it comes first in a relative path.  Paths with the same
pieces from the same root are the same path, however they are spelled.
-/
import DeckKeywords.Text.Split

namespace DeckKeywords

/-- A path as it is spelled. -/
structure Path where
  text : String
  deriving DecidableEq, Repr, Inhabited

namespace Path

/-- What stands between the slashes of `p`, with the number of the piece. -/
def pieces (p : Path) : List (List Char × Nat) := (Text.splitAll '/' p.text.toList).zipIdx

/-- Whether the path `p` starts at the root. -/
def isAbsolute (p : Path) : Bool := p.text.toList.head? == some '/'

/-- Whether a `piece` counts. -/
def counts (piece : List Char × Nat) : Bool :=
  !piece.1.isEmpty && (piece.1 != ['.'] || piece.2 == 0)

/-- The pieces of `p` that count. -/
def components (p : Path) : List (List Char × Nat) := p.pieces.filter counts

/-- Whether the spellings `p` and `q` mean the same path. -/
def same (p q : Path) : Bool :=
  p.isAbsolute == q.isAbsolute && p.components.map Prod.fst == q.components.map Prod.fst

/-- The path that joins pieces by slashes. -/
def ofPieces (parts : List (List Char)) : Path := ⟨String.ofList (List.intercalate ['/'] parts)⟩

/-- The path `p` without its last component, cut off behind the component before that.  The root and
the empty path have no parent. -/
def parent? (p : Path) : Option Path :=
  match p.components.reverse with
  | [] => none
  | [_] => some ⟨if p.isAbsolute then "/" else ""⟩
  | _ :: (_, i) :: _ => some (ofPieces ((p.pieces.take (i + 1)).map Prod.fst))

/-- The path `q` as seen from `p`: with a slash between them unless `p` is empty or brings its own.
An absolute path stays as it is. -/
def join (p q : Path) : Path :=
  if q.isAbsolute then q
  else if p.text.isEmpty || p.text.toList.getLast? == some '/' then ⟨p.text ++ q.text⟩
  else ⟨p.text ++ "/" ++ q.text⟩

end Path

end DeckKeywords
