/-
DeckKeywords/Files/FileSystem.lean

Reading files.  A file system is a value that answers for each path; what a
host offers, a directory on disk or a table in memory, is turned into one.
-/
import DeckKeywords.Path

namespace DeckKeywords

/-- Why a file cannot be read.  Content that is not text is a fault of the stream it comes in, or,
where there is no stream, of the data. -/
inductive FileError where
  | notFound
  | isDirectory
  | notDirectory
  | permissionDenied
  | notText
  | invalidData
  | invalidPath
  | nameTooLong
  | other (message : String)
  deriving DecidableEq, Repr

/-- The text of a file error. -/
def FileError.message : FileError → String
  | notFound => "No such file or directory (os error 2)"
  | isDirectory => "Is a directory (os error 21)"
  | notDirectory => "Not a directory (os error 20)"
  | permissionDenied => "Permission denied (os error 13)"
  | notText => "stream did not contain valid UTF-8"
  | invalidData => "invalid data"
  | invalidPath => "file name contained an unexpected NUL byte"
  | nameTooLong => "File name too long (os error 36)"
  | other message => message

/-- Read access to files: whether something lies at a path, whether it is a file, and its text. -/
structure FileSystem where
  present : Path → Bool
  isFile : Path → Bool
  read : Path → Except FileError String

/-- The text that `bytes` encode. -/
def textOfBytes (bytes : ByteArray) : Except FileError String :=
  match String.fromUTF8? bytes with
  | some s => .ok s
  | none => .error .notText

/-! ### Files that have been looked at -/

/-- Whether a file error says that there is something at the path. -/
def FileError.present : FileError → Bool
  | notFound | notDirectory | invalidPath | nameTooLong => false
  | _ => true

/-- What there is to see at the paths of `findings`; at other paths there is nothing. -/
def FileSystem.ofFindings (findings : List (Path × Except FileError String)) : FileSystem :=
  let find (p : Path) : Except FileError String :=
    (findings.lookup p).getD (.error .notFound)
  { present := fun p =>
      match find p with
      | .ok _ => true
      | .error why => why.present
    isFile := fun p =>
      match find p with
      | .ok _ => true
      | .error why => why.present && why != .isDirectory
    read := find }

/-! ### Files in a table -/

/-- Files by path.  Paths count as the same however they are spelled. -/
abbrev FileTable := List (Path × ByteArray)

namespace FileTable

/-- The content of the file at `p`. -/
def content? (t : FileTable) (p : Path) : Option ByteArray :=
  (t.find? fun e => e.1.same p).map Prod.snd

/-- The table `t` without the file at `p`. -/
def remove (t : FileTable) (p : Path) : FileTable := t.filter fun e => !e.1.same p

/-- The table `t` with new content for the file at `p`. -/
def write (t : FileTable) (p : Path) (bytes : ByteArray) : FileTable := (p, bytes) :: t.remove p

/-- The table `t` as a file system. -/
def toFileSystem (t : FileTable) : FileSystem where
  present p := (t.content? p).isSome
  isFile p := (t.content? p).isSome
  read p :=
    match t.content? p with
    | some bytes => (String.fromUTF8? bytes).elim (.error .invalidData) .ok
    | none => .error .notFound

end FileTable

end DeckKeywords
