/-
DeckKeywords/Files/FileTree.lean

Directories and files as a value.  A path is followed from the top, piece by
piece; an empty piece or a dot stays, two dots go back, and each of them, like
a name, needs a directory to stand in.  Of what lies above the top, and at
absolute paths, nothing is known but that there are directories.

Files are written and removed where their paths lead, so a path that does not
lead to where a file can be changes nothing, but for the directories that
writing makes on the way.
-/
import DeckKeywords.Files.FileSystem

namespace DeckKeywords

/-- A file with its content, or a directory with its entries. -/
inductive FileTree where
  | file (content : ByteArray)
  | directory (entries : List (String × FileTree))
  deriving Inhabited

namespace FileTree

/-- The directory without entries. -/
def empty : FileTree := directory []

/-- The entries of a directory; a file has none. -/
def entries : FileTree → List (String × FileTree)
  | file _ => []
  | directory es => es

/-- Whether the node is a file. -/
def isLeaf : FileTree → Bool
  | file _ => true
  | directory _ => false

/-- What names from the top lead to. -/
def at? : List String → FileTree → Option FileTree
  | [], t => some t
  | name :: rest, t => (t.entries.lookup name).bind (at? rest)

/-! ### Following paths -/

/-- Where a path leads: to names from the top, the last one first, or out of the tree. -/
abbrev Place := Option (List String)

/-- The node at a place. -/
def atPlace (t : FileTree) : Place → Option FileTree
  | some names => t.at? names.reverse
  | none => some empty

/-- The most bytes that a name may have. -/
def nameLimit : Nat := 255

/-- The most bytes that a path may have. -/
def pathLimit : Nat := 4095

/-- Whether a piece of a path names an entry. -/
def isName (piece : String) : Bool := piece != "" && piece != "." && piece != ".."

/-- The place one piece further. -/
def step (t : FileTree) (here : Place) (piece : String) : Except FileError Place :=
  match t.atPlace here with
  | some (directory es) =>
    if piece = ".." then .ok (here.bind fun names => names.tail?)
    else if !isName piece then .ok here
    else if nameLimit < piece.utf8ByteSize then .error .nameTooLong
    else if es.any (·.1 = piece) then .ok (here.map fun names => piece :: names)
    else .error .notFound
  | some (file _) => .error .notDirectory
  | none => .error .notFound

/-- Where the pieces of a path start. -/
def start (p : Path) : Place := if p.isAbsolute then none else some []

/-- The texts of the pieces of a path. -/
def pieceTexts (p : Path) : List String := p.pieces.map fun piece => String.ofList piece.1

/-- Why a path cannot be followed wherever it leads. -/
def fault? (p : Path) : Option FileError :=
  if p.text.toList.contains '\x00' then some .invalidPath
  else if p.text.isEmpty then some .notFound
  else if pathLimit < p.text.utf8ByteSize then some .nameTooLong
  else none

/-- Where a path leads. -/
def place (t : FileTree) (p : Path) : Except FileError Place :=
  match fault? p with
  | some why => .error why
  | none => (pieceTexts p).foldlM t.step (start p)

/-- What lies at a path. -/
def node (t : FileTree) (p : Path) : Except FileError FileTree := do
  match t.atPlace (← t.place p) with
  | some n => return n
  | none => throw .notFound

/-- The tree as a file system. -/
def toFileSystem (t : FileTree) : FileSystem where
  present p := (t.node p).isOk
  isFile p :=
    match t.node p with
    | .ok n => n.isLeaf
    | .error _ => false
  read p := do
    match ← t.node p with
    | file content => textOfBytes content
    | directory _ => .error .isDirectory

/-! ### Changing entries -/

/-- Replaces or adds an entry. -/
def setEntry (name : String) (node : FileTree) (es : List (String × FileTree)) :
    List (String × FileTree) :=
  if es.any (·.1 = name) then es.map fun e => if e.1 = name then (name, node) else e
  else es ++ [(name, node)]

/-- Puts a node at the end of names. -/
def put (node : FileTree) : List String → FileTree → FileTree
  | [], _ => node
  | name :: rest, t =>
    directory (setEntry name (put node rest ((t.entries.lookup name).getD empty)) t.entries)

/-- Takes away what lies at the end of names. -/
def takeAway : List String → FileTree → FileTree
  | [], t => t
  | [name], t => if t.isLeaf then t else directory (t.entries.filter (·.1 ≠ name))
  | name :: rest, t =>
    match t.entries.lookup name with
    | some child => directory (setEntry name (takeAway rest child) t.entries)
    | none => t

/-! ### Changing files -/

/-- Makes the directories that are missing on the way along pieces, as far as that can be done. -/
def makeWay (t : FileTree) (here : Place) : List String → FileTree
  | [] => t
  | piece :: rest =>
    match t.step here piece, here with
    | .ok there, _ => makeWay t there rest
    | .error .notFound, some names =>
      makeWay (put empty (piece :: names).reverse t) (some (piece :: names)) rest
    | .error _, _ => t

/-- The tree with a directory at a path. -/
def makeDirectory (t : FileTree) (p : Path) : FileTree :=
  if (fault? p).isSome then t else t.makeWay (start p) (pieceTexts p)

/-- Writes a file into a directory that is there. -/
def writeEntry (t : FileTree) (way : List String) (name : String) (content : ByteArray)
    (origin : Place) : FileTree :=
  match way.foldlM t.step origin with
  | .ok (some names) =>
    match (t.at? names.reverse).map fun here => (here.isLeaf, here.entries.lookup name) with
    | some (false, none) | some (false, some (file _)) =>
      put (file content) (name :: names).reverse t
    | _ => t
  | _ => t

/-- The tree with a file at a path, and with the directories above it. -/
def write (t : FileTree) (p : Path) (content : ByteArray) : FileTree :=
  let t := (p.parent?.map t.makeDirectory).getD t
  match (pieceTexts p).reverse with
  | name :: way =>
    if (fault? p).isSome || !isName name || nameLimit < name.utf8ByteSize then t
    else t.writeEntry way.reverse name content (start p)
  | [] => t

/-- The tree without the file at a path. -/
def remove (t : FileTree) (p : Path) : FileTree :=
  match t.place p with
  | .ok (some names) =>
    if (t.at? names.reverse).any isLeaf then takeAway names.reverse t else t
  | _ => t

end FileTree

end DeckKeywords
