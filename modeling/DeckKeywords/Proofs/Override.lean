/-
DeckKeywords/Proofs/Override.lean

What a configured text stands for.  White space around it never matters, and a
text that is blank or reads `Auto` stands for nothing: no version is that, and
no language has such a name.  So it does not matter for languages whether such
texts are sorted out first, `effective?_bind_ofName?`: the name alone decides.
-/
import DeckKeywords.Language
import DeckKeywords.Override
import DeckKeywords.Proofs.Text.Trim

namespace DeckKeywords

theorem isAuto_iff {s : String} : isAuto s ↔ Text.lowerAscii (Text.trim s) = "auto" := by
  have hauto : Text.lowerAscii auto = "auto" := by decide
  rw [isAuto, hauto, beq_iff_eq]

/-! ### Names of languages -/

namespace Language

variable {s : String}

@[simp] theorem ofName?_trim (s : String) : ofName? (Text.trim s) = ofName? s := by
  rw [ofName?, Text.trim_trim]
  rfl

theorem ofName?_of_blank (h : Text.trim s = "") : ofName? s = none := by
  rw [ofName?, h]
  decide

theorem ofName?_of_auto (h : Text.lowerAscii (Text.trim s) = "auto") : ofName? s = none := by
  rw [ofName?, h]
  decide

/-- The names of languages, which `ofName?` knows, are the aliases. -/
theorem isLanguageAlias_iff : isLanguageAlias s ↔ (ofName? s).isSome := by
  rw [isLanguageAlias, ofName?, List.find?_isSome]
  simp [all, aliases]

end Language

/-! ### Overrides -/

namespace Overrides

/-- What takes effect is the trimmed text, unless it is blank or reads `Auto`. -/
theorem effective?_eq (o : Overrides) (key : String) :
    o.effective? key
      = ((o key).map Text.trim).filter fun v => v ≠ "" ∧ Text.lowerAscii v ≠ "auto" := by
  unfold effective?
  rcases o key with - | raw
  · rfl
  · have hauto : isAuto (Text.trim raw) ↔ Text.lowerAscii (Text.trim raw) = "auto" := by
      rw [isAuto_iff, Text.trim_trim]
    simp only [Option.map_some, Option.filter]
    by_cases hblank : Text.trim raw = ""
    · simp [hblank]
    · by_cases h : isAuto (Text.trim raw)
      · simp [h, hauto.mp h]
      · have hne := mt hauto.mpr h
        simp [hblank, h, hne]

/-- A language is configured exactly by one of its names, `Language.ofName?`. -/
theorem effective?_bind_ofName? (o : Overrides) (key : String) :
    (o.effective? key).bind Language.ofName? = (o key).bind Language.ofName? := by
  unfold effective?
  rcases o key with - | raw
  · rfl
  · rw [Option.bind_some, ← Language.ofName?_trim]
    by_cases hdropped : (Text.trim raw).isEmpty || isAuto (Text.trim raw)
    · -- a text that is sorted out is not the name of a language either
      simp only [hdropped, if_true, Option.bind_none]
      rcases Bool.or_eq_true_iff.mp hdropped with hblank | hauto
      · refine (Language.ofName?_of_blank ?_).symm
        rw [Text.trim_trim]
        simpa using hblank
      · exact (Language.ofName?_of_auto (isAuto_iff.mp hauto)).symm
    · simp only [hdropped, Bool.false_eq_true, if_false, Option.bind_some]

end Overrides

end DeckKeywords
