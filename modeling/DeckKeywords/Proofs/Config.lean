/-
DeckKeywords/Proofs/Config.lean

Settings that are accepted against settings that take effect.  The check knows
the names of languages from one list and the resolver from another, and between
them stand overrides that drop blank texts but do not trim.  None of that shows:

  * `validate_eq_ok_iff` says field by field what is accepted,
  * `configuredVersion?_eq` and `configuredLanguage?_eq` say what a resolver
    makes of the two overrides, whether they are accepted or not.

Main result: `validated_settings_honoured`.
-/
import DeckKeywords.Proofs.Resolution
import DeckKeywords.Session

namespace DeckKeywords

namespace Config

variable {c : Config} {s : String}

/-! ### What is accepted -/

/-- What stands for a version: the word `Auto`, or one to four ASCII digits. -/
def AcceptedVersion (s : String) : Prop :=
  let v := Text.trim s
  Text.lowerAscii v = "auto" ∨
    1 ≤ v.toList.length ∧ v.toList.length ≤ 4 ∧ ∀ ch ∈ v.toList, ch.isDigit

/-- What stands for neither a version nor a language: a blank text, or the word `Auto`. -/
def StandsForNothing (s : String) : Prop :=
  Text.trim s = "" ∨ Text.lowerAscii (Text.trim s) = "auto"

instance : DecidablePred StandsForNothing := fun s =>
  inferInstanceAs (Decidable (Text.trim s = "" ∨ Text.lowerAscii (Text.trim s) = "auto"))

/-- What is accepted for a language: a text that `StandsForNothing`, or a name of one. -/
def AcceptedLanguage (s : String) : Prop :=
  StandsForNothing s ∨ (Language.ofName? s).isSome

theorem AcceptedVersion.ne_empty (h : AcceptedVersion s) : Text.trim s ≠ "" := by
  intro hblank
  unfold AcceptedVersion at h
  rw [hblank] at h
  revert h
  decide

/-- Of what is accepted for a version, only `Auto` stands for none. -/
theorem AcceptedVersion.standsForNothing_iff (h : AcceptedVersion s) :
    StandsForNothing s ↔ Text.lowerAscii (Text.trim s) = "auto" :=
  or_iff_right h.ne_empty

theorem StandsForNothing.ofName?_eq_none (h : StandsForNothing s) : Language.ofName? s = none :=
  h.elim Language.ofName?_of_blank Language.ofName?_of_auto

/-- A text `s` that stands for something is accepted exactly if `Language.ofName?` knows it. -/
theorem acceptedLanguage_iff (h : ¬ StandsForNothing s) :
    AcceptedLanguage s ↔ (Language.ofName? s).isSome :=
  or_iff_right h

theorem acceptsVersion_iff : acceptsVersion s ↔ AcceptedVersion s := by
  unfold acceptsVersion AcceptedVersion isShortNumber
  rw [Bool.or_eq_true_iff, isAuto_iff, ← Text.toList_trim]
  simp [and_assoc]

theorem acceptsLanguage_iff : acceptsLanguage s ↔ AcceptedLanguage s := by
  unfold acceptsLanguage AcceptedLanguage StandsForNothing
  rw [Bool.or_eq_true_iff, Bool.or_eq_true_iff, Text.isBlankText_iff, isAuto_iff,
    Language.isLanguageAlias_iff]

instance : DecidablePred AcceptedVersion := fun _ => decidable_of_iff _ acceptsVersion_iff

instance : DecidablePred AcceptedLanguage := fun _ => decidable_of_iff _ acceptsLanguage_iff

/-- A check is passed if `p`, what it looks for, is not there, and the `rest` is passed. -/
theorem check_eq_ok_iff {p : Prop} [Decidable p] {problem : ConfigProblem}
    {rest : Except ConfigProblem Unit} :
    (if p then .error problem else rest) = .ok () ↔ ¬ p ∧ rest = .ok () := by
  by_cases h : p <;> simp [h]

theorem validate_eq_ok_iff :
    c.validate = .ok () ↔ c.dataDir ≠ "" ∧ c.sidecar ≠ "" ∧ AcceptedVersion c.version ∧
      AcceptedLanguage c.language ∧ c.level ∈ ["trace", "debug", "info", "warn", "error"] := by
  have hlevels : levelNames = ["trace", "debug", "info", "warn", "error"] := rfl
  rw [validate, check_eq_ok_iff, check_eq_ok_iff, check_eq_ok_iff, check_eq_ok_iff,
    check_eq_ok_iff, ← acceptsVersion_iff, ← acceptsLanguage_iff, ← hlevels]
  simp

/-- A version that is not accepted is what is wrong with settings `c` that name their places. -/
theorem validate_eq_version_error (hdata : c.dataDir ≠ "") (hsidecar : c.sidecar ≠ "")
    (hversion : ¬ AcceptedVersion c.version) : c.validate = .error (.version c.version) := by
  rw [← acceptsVersion_iff] at hversion
  simp [validate, hdata, hsidecar, hversion]

/-- A language that is not accepted is what is wrong with settings `c` that are right up to
there. -/
theorem validate_eq_language_error (hdata : c.dataDir ≠ "") (hsidecar : c.sidecar ≠ "")
    (hversion : AcceptedVersion c.version) (hlanguage : ¬ AcceptedLanguage c.language) :
    c.validate = .error (.language c.language) := by
  rw [← acceptsVersion_iff] at hversion
  rw [← acceptsLanguage_iff] at hlanguage
  simp [validate, hdata, hsidecar, hversion, hlanguage]

/-! ### What takes effect -/

theorem overrides_version (c : Config) : c.overrides versionKey = present? c.version := rfl

theorem overrides_language (c : Config) : c.overrides languageKey = present? c.language := by
  unfold overrides
  rw [if_neg (by decide), if_pos rfl]

variable {r : Resolver}

theorem configuredVersion?_eq (h : r.overrides = c.overrides) :
    r.configuredVersion?
      = if StandsForNothing c.version then none else some (Text.trim c.version) := by
  rw [Resolver.configuredVersion?, h, Overrides.effective?_eq, overrides_version, present?]
  by_cases hblank : Text.isBlankText c.version
  · rw [if_pos hblank, if_pos (.inl (Text.isBlankText_iff.mp hblank))]
    rfl
  · rw [if_neg hblank, Option.map_some]
    by_cases hnothing : StandsForNothing c.version
    · rw [if_pos hnothing, Option.filter_some, if_neg]
      simpa [StandsForNothing, or_iff_not_imp_left] using hnothing
    · rw [if_neg hnothing, Option.filter_some, if_pos]
      simpa [StandsForNothing] using hnothing

theorem configuredLanguage?_eq (h : r.overrides = c.overrides) :
    r.configuredLanguage? = Language.ofName? c.language := by
  rw [Resolver.configuredLanguage?, h, Overrides.effective?_bind_ofName?, overrides_language,
    present?]
  by_cases hblank : Text.isBlankText c.language
  · rw [if_pos hblank, Option.bind_none,
      Language.ofName?_of_blank (Text.isBlankText_iff.mp hblank)]
  · rw [if_neg hblank, Option.bind_some]

/-- The version that `r.resolve` gives where `detect` gives none. -/
theorem resolve_version_of_undetected (h : r.overrides = c.overrides) {files : FileSystem}
    {document : Option Document} {path : Option Path}
    (hnone : (r.detector.detect files document path).value = ⟨none, none⟩) :
    (r.resolve files document path).value.version
      = if StandsForNothing c.version then "2025" else Text.trim c.version := by
  rw [Resolver.resolve_version, hnone, configuredVersion?_eq h]
  by_cases hnothing : StandsForNothing c.version
  · simp [hnothing, defaultVersion]
  · simp [hnothing]

/-- The language that `r.resolve` gives where `detect` gives none. -/
theorem resolve_language_of_undetected (h : r.overrides = c.overrides) {files : FileSystem}
    {document : Option Document} {path : Option Path}
    (hnone : (r.detector.detect files document path).value = ⟨none, none⟩) :
    (r.resolve files document path).value.language = (Language.ofName? c.language).getD .en := by
  rw [← configuredLanguage?_eq h, Resolver.resolve, Resolver.complete, hnone]
  rfl

/-- **Settings that are checked are honoured, and only those.**  `c.validate` succeeds exactly when
`c.dataDir` and `c.sidecar` are named, `c.version` is an `AcceptedVersion`, `c.language` an
`AcceptedLanguage` and `c.level` one of five.  If it does, and nothing is detected, a resolver `r`
with `c.overrides` returns the version, trimmed, with 2025 for `Auto`, and the language of that
name, with English where `StandsForNothing c.language`.  Of the other languages the resolver drops
none that is accepted, and the check refuses every one that the resolver would drop. -/
theorem validated_settings_honoured (c : Config) :
    (c.validate = .ok () ↔ c.dataDir ≠ "" ∧ c.sidecar ≠ "" ∧ AcceptedVersion c.version ∧
      AcceptedLanguage c.language ∧ c.level ∈ ["trace", "debug", "info", "warn", "error"]) ∧
    (c.validate = .ok () → ∀ r : Resolver, r.overrides = c.overrides →
      ∀ files document path, (r.detector.detect files document path).value = ⟨none, none⟩ →
        let resolved := (r.resolve files document path).value
        resolved.version = (if Text.lowerAscii (Text.trim c.version) = "auto" then "2025"
          else Text.trim c.version) ∧
        (StandsForNothing c.language → resolved.language = .en) ∧
        (¬ StandsForNothing c.language →
          Language.ofName? c.language = some resolved.language)) ∧
    (∀ r : Resolver, r.overrides = c.overrides → ¬ StandsForNothing c.language →
      (c.validate = .ok () → ∃ l, r.configuredLanguage? = some l ∧
        Language.ofName? c.language = some l) ∧
      (r.configuredLanguage? = none → c.validate ≠ .ok () ∧
        (c.dataDir ≠ "" → c.sidecar ≠ "" → AcceptedVersion c.version →
          c.validate = .error (.language c.language)))) := by
  refine ⟨validate_eq_ok_iff, ?_, ?_⟩
  · intro hvalid r hr files document path hnone resolved
    obtain ⟨-, -, hversion, hlanguage, -⟩ := validate_eq_ok_iff.mp hvalid
    refine ⟨?_, fun hnothing => ?_, fun hname => ?_⟩
    · refine (resolve_version_of_undetected hr hnone).trans ?_
      simp only [hversion.standsForNothing_iff]
    · refine (resolve_language_of_undetected hr hnone).trans ?_
      rw [hnothing.ofName?_eq_none]
      rfl
    · obtain ⟨l, hl⟩ := Option.isSome_iff_exists.mp ((acceptedLanguage_iff hname).mp hlanguage)
      have hresolved : resolved.language = l := by
        refine (resolve_language_of_undetected hr hnone).trans ?_
        rw [hl]
        rfl
      rw [hresolved, hl]
  · intro r hr hname
    rw [configuredLanguage?_eq hr]
    constructor
    · intro hvalid
      obtain ⟨-, -, -, hlanguage, -⟩ := validate_eq_ok_iff.mp hvalid
      obtain ⟨l, hl⟩ := Option.isSome_iff_exists.mp ((acceptedLanguage_iff hname).mp hlanguage)
      exact ⟨l, hl, hl⟩
    · intro hdropped
      -- what names no language for the resolver is no alias for the check either
      have hrefused : ¬ AcceptedLanguage c.language := by
        rw [acceptedLanguage_iff hname, hdropped]
        decide
      exact ⟨fun hvalid => hrefused (validate_eq_ok_iff.mp hvalid).2.2.2.1,
        fun hdata hsidecar hversion => validate_eq_language_error hdata hsidecar hversion hrefused⟩

/-- The texts of `c` are honoured with the white space and in the case in which they are
accepted. -/
theorem padded_settings_honoured :
    let c : Config := { Config.default with version := " 2022 ", language := " DEUTSCH\t" }
    let r : Resolver := c.service.resolver
    let resolved := (r.resolve (.ofFindings []) none none).value
    c.validate = .ok () ∧ resolved.version = "2022" ∧ resolved.language = .de ∧
      r.configuredLanguage? = some .de := by
  intro c r resolved
  have hname : ¬ StandsForNothing c.language := by decide
  have hnone : (r.detector.detect (.ofFindings []) none none).value = ⟨none, none⟩ := by
    decide +kernel
  have hde : Language.ofName? c.language = some .de := by decide
  obtain ⟨hvalid, hhonoured, hlanguages⟩ := validated_settings_honoured c
  have hok : c.validate = .ok () := hvalid.mpr (by decide)
  obtain ⟨hversion, -, hlanguage⟩ := hhonoured hok r rfl (.ofFindings []) none none hnone
  obtain ⟨l, hconfigured, hl⟩ := (hlanguages r rfl hname).1 hok
  obtain rfl : .de = l := Option.some.inj (hde.symm.trans hl)
  refine ⟨hok, hversion.trans (by decide), ?_, hconfigured⟩
  exact Option.some.inj ((hlanguage hname).symm.trans hde)

end Config

end DeckKeywords
