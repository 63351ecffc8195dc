/-
DeckKeywords/Proofs/Detection/Accepted.lean

Versions as they are detected against versions as they are accepted in settings.
Both are one to four digits.  But detection takes the digits of every script, and
the check of the settings takes ASCII digits and no others.  So not every version
that is detected can be written into the settings, `foreign_digits_refused`, and
those that can are told by their characters, `isNumber_accepted_iff`.

The characters of a version all stand in the text in which it is detected.  A text
whose digits are ASCII digits thus gives no version that the settings refuse.

Main result: `detected_version_accepted_iff`.
-/
import DeckKeywords.Proofs.Config
import DeckKeywords.Proofs.Detection.Marker
import DeckKeywords.Proofs.Detection.Sidecar

namespace DeckKeywords

open Text

/-! ### Versions that are detected -/

/-- The `text` gives the `version`: it is a line with a marker, or what a sidecar file holds. -/
inductive DetectedIn (text version : String) : Prop where
  | marker {language : Option Language} (h : Marker.ofLine? text = some ⟨version, language⟩)
  | sidecar (h : Sidecar.version? text = some version)

theorem DetectedIn.isNumber {text version : String} (h : DetectedIn text version) :
    IsNumber version := by
  cases h with
  | marker h => exact Marker.isNumber_of_ofLine? h
  | sidecar h => exact Sidecar.isNumber_of_version? h

/-- A `version` is made of characters of the `text` in which it is detected. -/
theorem DetectedIn.subset {text version : String} (h : DetectedIn text version) :
    version.toList ⊆ text.toList := by
  intro c hc
  cases h with
  | marker h =>
    obtain ⟨front, rest, htext, hheading, -⟩ := Marker.ofLine?_eq_some_iff.mp h
    obtain ⟨-, -, -, -, -⟩ := hheading
    simp [htext, hc]
  | sidecar h =>
    obtain ⟨-, ⟨before, xs, rest, htext, -, -, hassignment, -⟩, -⟩ :=
      Sidecar.version?_eq_some_iff.mp h
    obtain ⟨-, -, -, -, -, -⟩ := hassignment
    simp [htext, hc]

/-- Every `version` that `IsNumber` is detected somewhere: behind the name of the product, for
one. -/
theorem exists_detectedIn_iff {version : String} :
    (∃ text, DetectedIn text version) ↔ IsNumber version := by
  constructor
  · rintro ⟨text, h⟩
    exact h.isNumber
  · intro h
    have hheading : Marker.Heading version ([] ++ '@' :: ([] ++ ("sofistik".toList ++ ([] ++
        version.toList)))) := .mk (by simp) (by simp) (by decide) (by simp) h
    have hends : EndsWord [] := by simp [EndsWord]
    obtain ⟨language, hmarked, -⟩ := Marker.exists_ofLine?_of_heading
      (String.toList_ofList.trans (List.append_nil _).symm) hheading hends
    exact ⟨_, .marker hmarked⟩

/-! ### Versions that are accepted -/

namespace Config

/-- The settings `c` with another `version`. -/
def withVersion (c : Config) (version : String) : Config := { c with version := version }

/-- There is nothing wrong with the settings `c`, their version aside. -/
def ValidButVersion (c : Config) : Prop := ∃ version, (c.withVersion version).validate = .ok ()

theorem isNumber_accepted_iff {version : String} (h : IsNumber version) :
    AcceptedVersion version ↔ ∀ ch ∈ version.toList, ch.isDigit := by
  have htrim : Text.trim version = version := Text.trim_eq_self_iff.mpr h.isTrimmed
  simp only [AcceptedVersion, htrim, h.lowerAscii_ne, h.pos, h.short, false_or, true_and]

/-- What is accepted is the word `Auto`, and numbers of ASCII digits. -/
theorem acceptedVersion_iff_isNumber {version : String} :
    AcceptedVersion version ↔ Text.lowerAscii (Text.trim version) = "auto" ∨
      IsNumber (Text.trim version) ∧ ∀ ch ∈ (Text.trim version).toList, ch.isDigit := by
  refine or_congr_right ⟨?_, ?_⟩
  · rintro ⟨hpos, hshort, hdigits⟩
    exact ⟨⟨hpos, hshort, fun ch hch => isDigit_of_ascii (hdigits ch hch)⟩, hdigits⟩
  · rintro ⟨h, hdigits⟩
    exact ⟨h.pos, h.short, hdigits⟩

variable {c : Config}

/-- Of settings `c` that are right otherwise the `version` alone decides. -/
theorem ValidButVersion.validate_iff (h : c.ValidButVersion) (version : String) :
    (c.withVersion version).validate = .ok () ↔ AcceptedVersion version := by
  obtain ⟨other, hother⟩ := h
  obtain ⟨hdata, hsidecar, -, hlanguage, hlevel⟩ := validate_eq_ok_iff.mp hother
  rw [validate_eq_ok_iff]
  exact ⟨fun h => h.2.2.1, fun h => ⟨hdata, hsidecar, h, hlanguage, hlevel⟩⟩

theorem ValidButVersion.validate_error (h : c.ValidButVersion) {version : String}
    (hversion : ¬ AcceptedVersion version) :
    (c.withVersion version).validate = .error (.version version) := by
  obtain ⟨other, hother⟩ := h
  obtain ⟨hdata, hsidecar, -⟩ := validate_eq_ok_iff.mp hother
  exact validate_eq_version_error hdata hsidecar hversion

/-- **Which detected versions the settings accept.**  Let `c` be right but for its version.  A
`version` that is `DetectedIn` some `text`, be that the first line of a document or a sidecar file,
is accepted by `validate` exactly if all its characters are ASCII digits, `Char.isDigit`, and else
it is what the check complains about.  So a text with no digits of other scripts gives only versions
that are accepted.  Conversely, what the settings accept is, after `Text.trim`, the word `Auto` or a
version of ASCII digits that some text gives. -/
theorem detected_version_accepted_iff (c : Config) (hvalid : c.ValidButVersion) :
    (∀ text version, DetectedIn text version →
      ((c.withVersion version).validate = .ok () ↔ ∀ ch ∈ version.toList, ch.isDigit) ∧
      ((∃ ch ∈ version.toList, ¬ ch.isDigit) →
        (c.withVersion version).validate = .error (.version version)) ∧
      ((∀ ch ∈ text.toList, isDigit ch → ch.isDigit) →
        (c.withVersion version).validate = .ok ())) ∧
    ∀ version, (c.withVersion version).validate = .ok () ↔
      Text.lowerAscii (Text.trim version) = "auto" ∨
        (∃ text, DetectedIn text (Text.trim version)) ∧
          ∀ ch ∈ (Text.trim version).toList, ch.isDigit := by
  refine ⟨fun text version hdetected => ?_, fun version => ?_⟩
  · have hiff : (c.withVersion version).validate = .ok () ↔ ∀ ch ∈ version.toList, ch.isDigit := by
      rw [hvalid.validate_iff, isNumber_accepted_iff hdetected.isNumber]
    refine ⟨hiff, fun hforeign => ?_, fun hascii => hiff.mpr fun ch hch => ?_⟩
    · refine hvalid.validate_error fun haccepted => ?_
      obtain ⟨ch, hch, hnot⟩ := hforeign
      exact hnot ((isNumber_accepted_iff hdetected.isNumber).mp haccepted ch hch)
    · exact hascii ch (hdetected.subset hch) (hdetected.isNumber.digits ch hch)
  · rw [hvalid.validate_iff, acceptedVersion_iff_isNumber, exists_detectedIn_iff]

/-- The default settings `c` take the versions of a marked line and of a sidecar file, and refuse
that of a line which is marked in Devanagari digits. -/
theorem detected_versions_tried :
    let c := Config.default
    let line := "@ SOFiSTiK 2024-1 DE"
    let text := "set SOF_VERSION = \"2022\""
    let foreign := "@ SOFiSTiK २०२४"
    (c.withVersion "2024").validate = .ok () ∧ (c.withVersion "2022").validate = .ok () ∧
      (c.withVersion "२०२४").validate = .error (.version "२०२४") ∧
      DetectedIn line "2024" ∧ DetectedIn text "2022" ∧ DetectedIn foreign "२०२४" := by
  intro c line text foreign
  have hmarked : Marker.ofLine? line = some ⟨"2024", some .de⟩ := by decide +kernel
  have hmarked' : Marker.ofLine? foreign = some ⟨"२०२४", none⟩ := by decide +kernel
  have hline : DetectedIn line "2024" := .marker hmarked
  have htext : DetectedIn text "2022" := .sidecar (by decide +kernel)
  have hforeign : DetectedIn foreign "२०२४" := .marker hmarked'
  have hvalid : c.ValidButVersion := ⟨"2025", by decide +kernel⟩
  have hdigits : "2024".toList.all Char.isDigit := by decide
  have hascii : text.toList.all fun ch => !isDigit ch || ch.isDigit := by decide +kernel
  obtain ⟨haccepted, -⟩ := detected_version_accepted_iff c hvalid
  refine ⟨(haccepted line _ hline).1.mpr (List.all_eq_true.mp hdigits),
    (haccepted text _ htext).2.2 fun ch hch => ?_,
    (haccepted foreign _ hforeign).2.1 ⟨'२', by decide, by decide⟩, hline, htext, hforeign⟩
  simpa [imp_iff_not_or] using List.all_eq_true.mp hascii ch hch

/-- Settings that pass the check do not pass it with the `version` that a line and a sidecar file
give, both of which are written in fullwidth digits. -/
theorem foreign_digits_refused :
    let version := "２０２４"
    Config.default.validate = .ok () ∧
      Marker.ofLine? "@ SOFiSTiK ２０２４ DE" = some ⟨version, some .de⟩ ∧
      Sidecar.version? "SOF_VERSION = ２０２４" = some version ∧
      (Config.default.withVersion version).validate = .error (.version version) := by
  decide +kernel

end Config

end DeckKeywords
