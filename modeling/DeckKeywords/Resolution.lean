/-
DeckKeywords/Resolution.lean

From what was detected to a version and a language.  Each of the two is the
detected one, or else the configured one, or else the default.
-/
import DeckKeywords.Detection
import DeckKeywords.Override
import DeckKeywords.VersionTable

namespace DeckKeywords

/-- A version and a language. -/
structure Resolution where
  version : String
  language : Language
  deriving DecidableEq, Repr

namespace Resolution

/-- The pair used when nothing else applies. -/
def default : Resolution := ⟨defaultVersion, .fallback⟩

instance : Inhabited Resolution := ⟨default⟩

/-- The resolution `r` as a JSON value. -/
def toJson (r : Resolution) : Json.Value :=
  .object [("version", .text r.version), ("language", .text r.language.code)]

end Resolution

/-- Detects, and fills in what was not detected from the overrides. -/
structure Resolver where
  detector : Detector
  overrides : Overrides

namespace Resolver

/-- The configured version. -/
def configuredVersion? (r : Resolver) : Option String := r.overrides.effective? versionKey

/-- The configured language. -/
def configuredLanguage? (r : Resolver) : Option Language :=
  (r.overrides.effective? languageKey).bind Language.ofName?

/-- Fills in what a detection `d` leaves open. -/
def complete (r : Resolver) (d : Detection) : Resolution :=
  ⟨(d.version <|> r.configuredVersion?).getD defaultVersion,
    (d.language <|> r.configuredLanguage?).getD .fallback⟩

/-- The version and the language that apply to a `document` or a `path`. -/
def resolve (r : Resolver) (files : FileSystem) (document : Option Document)
    (path : Option Path) : Noted Resolution :=
  let detected := r.detector.detect files document path
  let resolution := r.complete detected.value
  ⟨resolution, detected.events ++ [.resolved resolution.version resolution.language]⟩

/-- The written form of a resolver. -/
def shown (r : Resolver) : String :=
  "Resolver \x7b detector: " ++ r.detector.shown ++ ", .. \x7d"

end Resolver

end DeckKeywords
