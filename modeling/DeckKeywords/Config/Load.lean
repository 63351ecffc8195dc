/-
DeckKeywords/Config/Load.lean

Settings from a file.
-/
import DeckKeywords.Config.Toml

namespace DeckKeywords

/-- Why a file gives no settings. -/
inductive ConfigFailure where
  | unreadable (why : FileError)
  | faulty (why : ConfigFault)
  deriving DecidableEq, Repr

namespace Config

/-- The settings of the file at `path`.  Only a success is reported. -/
def load (files : FileSystem) (path : Path) : Noted (Except ConfigFailure Config) :=
  match files.read path with
  | .error why => ⟨.error (.unreadable why), []⟩
  | .ok text =>
    match parse text with
    | .error why => ⟨.error (.faulty why), []⟩
    | .ok c => ⟨.ok c, [.configLoaded path]⟩

/-- The settings of the file at `path`, if there is anything there. -/
def loadIfPresent (files : FileSystem) (path : Path) :
    Noted (Except ConfigFailure (Option Config)) :=
  if files.present path then
    let loaded := load files path
    ⟨loaded.value.map some, loaded.events⟩
  else ⟨.ok none, []⟩

end Config

end DeckKeywords
