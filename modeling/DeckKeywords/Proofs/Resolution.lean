/-
DeckKeywords/Proofs/Resolution.lean

From a document to a request for keywords.  Version and language are filled in
one apart from the other, each by what was detected, or else by what is
configured, or else by a default.

Two things are decided in two places, and the two places agree:

  * a version is trimmed when it is configured and trimmed again when it is
    asked for; a resolved version is `Definite`, so it is asked for as it stands,
  * the configured language is read when the service is built and again with
    every resolution, there with `Auto` and blank texts sorted out first; as
    neither is the name of a language, both readings give the same.

Main result: `resolution_fills_in`.
-/
import DeckKeywords.Proofs.Detection.Isolation
import DeckKeywords.Proofs.Detection.Marker
import DeckKeywords.Proofs.Detection.Sidecar
import DeckKeywords.Proofs.Override
import DeckKeywords.Proofs.Service.Versions

namespace DeckKeywords

/-- A version that stands for itself alone: there is something to it, nothing to trim, and it is not
the word `Auto`. -/
structure Definite (version : String) : Prop where
  ne_empty : version ≠ ""
  isTrimmed : Text.IsTrimmed version.toList
  ne_auto : Text.lowerAscii version ≠ "auto"

theorem IsNumber.definite {version : String} (h : IsNumber version) : Definite version :=
  ⟨h.ne_empty, h.isTrimmed, h.lowerAscii_ne⟩

theorem Definite.requestedVersion_eq {version : String} (h : Definite version) :
    Cache.requestedVersion (some version) = version := by
  rw [Cache.requestedVersion_eq, Cache.askedVersion_eq_self_iff]
  exact ⟨h.ne_empty, Text.trim_eq_self_iff.mpr h.isTrimmed⟩

theorem Detector.isNumber_of_detect {d : Detector} {files : FileSystem}
    {document : Option Document} {path : Option Path} {version : String}
    (h : (d.detect files document path).value.version = some version) : IsNumber version := by
  rw [detect_value] at h
  rcases hmarker : marker? document path with - | m
  · rw [hmarker] at h
    obtain ⟨p, -, htext⟩ := Option.bind_eq_some_iff.mp h
    obtain ⟨text, -, hversion⟩ := Option.bind_eq_some_iff.mp htext
    exact Sidecar.isNumber_of_version? hversion
  · rw [hmarker] at h
    obtain rfl : m.version = version := Option.some.inj h
    obtain ⟨doc, -, -, hline⟩ := marker?_eq_some_iff.mp hmarker
    exact Marker.isNumber_of_ofLine? hline

namespace Resolver

variable (r : Resolver) (files : FileSystem) (document : Option Document) (path : Option Path)

theorem definite_of_configuredVersion? {r : Resolver} {version : String}
    (h : r.configuredVersion? = some version) : Definite version := by
  rw [configuredVersion?, Overrides.effective?_eq, Option.filter_eq_some_iff] at h
  obtain ⟨hraw, hkept⟩ := h
  obtain ⟨raw, -, rfl⟩ := Option.map_eq_some_iff.mp hraw
  obtain ⟨hne, hauto⟩ := of_decide_eq_true hkept
  exact ⟨hne, Text.isTrimmed_trim raw, hauto⟩

theorem resolve_version :
    (r.resolve files document path).value.version
      = ((r.detector.detect files document path).value.version <|> r.configuredVersion?).getD
        defaultVersion := rfl

theorem resolve_language :
    (r.resolve files document path).value.language
      = ((r.detector.detect files document path).value.language
        <|> (r.overrides languageKey).bind Language.ofName?).getD .fallback := by
  rw [← Overrides.effective?_bind_ofName?]
  rfl

theorem definite_resolve : Definite (r.resolve files document path).value.version := by
  rw [resolve_version]
  rcases hdetected : (r.detector.detect files document path).value.version with - | version
  · rcases hconfigured : r.configuredVersion? with - | version
    · have hdigits : defaultVersion.toList.all Text.isDigit = true := by decide
      exact IsNumber.definite ⟨by decide, by decide, List.all_eq_true.mp hdigits⟩
    · exact definite_of_configuredVersion? hconfigured
  · exact (Detector.isNumber_of_detect hdetected).definite

end Resolver

/-- The resolved language is `s.defaultLanguage` wherever none is detected. -/
theorem Service.resolve_language_of_undetected {s : Service} {files : FileSystem}
    {document : Option Document} {path : Option Path}
    (h : (s.detector.detect files document path).value.language = none) :
    (s.resolver.resolve files document path).value.language = s.defaultLanguage := by
  have hdetected : (s.resolver.detector.detect files document path).value.language = none := h
  rw [Resolver.resolve_language, hdetected]
  rfl

/-- **Resolution fills in what is open.**  The `resolved` version is the `detected` one, or else the
`configured` one, trimmed, unless that is blank or reads `Auto`, or else 2025; the language is the
`detected` one, or else the one that `s.overrides languageKey` names, or else English, whatever the
version is.  The version is `Definite`, so `requestedVersion` keeps it, and a `context` asks for the
keywords of just this version.  And where no language is detected, it is `s.defaultLanguage`, the
one that requests without a language are about. -/
theorem resolution_fills_in (s : Service) (here : Surroundings) (document : Option Document)
    (path : Option Path) :
    let detected := (s.detector.detect here.files document path).value
    let resolved := (s.resolver.resolve here.files document path).value
    let configured := (s.overrides versionKey).map Text.trim
    resolved.version = (detected.version <|>
      configured.filter fun v => v ≠ "" ∧ Text.lowerAscii v ≠ "auto").getD "2025" ∧
    resolved.language
      = (detected.language <|> (s.overrides languageKey).bind Language.ofName?).getD .en ∧
    Definite resolved.version ∧
    (∀ cache : Cache,
      let shared := cache.get here.tables (some resolved.version) (some resolved.language)
      (s.answer cache here (.context document path)).answer
        = .context ⟨resolved, shared.answer, path <|> document.bind (·.path)⟩) ∧
    Cache.requestedVersion (some resolved.version) = resolved.version ∧
    (detected.language = none →
      resolved.language = s.defaultLanguage ∧ ∀ cache tables version,
        s.load cache tables version none = s.load cache tables version (some resolved.language) ∧
        s.versions cache tables none = s.versions cache tables (some resolved.language)) := by
  intro detected resolved configured
  have hdefinite : Definite resolved.version := s.resolver.definite_resolve here.files document path
  refine ⟨?_, ?_, hdefinite, fun cache => rfl, hdefinite.requestedVersion_eq, ?_⟩
  · rw [← Overrides.effective?_eq]
    rfl
  · exact s.resolver.resolve_language here.files document path
  · intro hundetected
    have hlanguage : resolved.language = s.defaultLanguage :=
      Service.resolve_language_of_undetected hundetected
    refine ⟨hlanguage, fun cache tables version => ?_⟩
    rw [hlanguage]
    exact ⟨rfl, rfl⟩

/-- A marker with a foreign language leaves the language to the host `s`: the context is for the
marked version in the configured language, the one that requests without a language are about. -/
theorem marked_version_in_configured_language :
    let s : Service := ⟨"sofistik.def",
      .ofPairs [("sofistik.version", "2020"), ("sofistik.language", " Deutsch ")]⟩
    let here : Surroundings := ⟨.ofTexts (.const none), .ofFindings []⟩
    let doc : Document := ⟨none, "@ SOFiSTiK 2024 fr"⟩
    let detected := (s.detector.detect here.files (some doc) none).value
    let resolved := (s.resolver.resolve here.files (some doc) none).value
    detected = ⟨some "2024", none⟩ ∧ resolved.version = "2024" ∧ resolved.language = .de ∧
      resolved.language = s.defaultLanguage := by
  intro s here doc detected resolved
  obtain ⟨hversion, hlanguage, -, -, -, hsame⟩ := resolution_fills_in s here (some doc) none
  have hdetected : (s.detector.detect here.files (some doc) none).value = ⟨some "2024", none⟩ := by
    decide +kernel
  refine ⟨hdetected, ?_, ?_, (hsame (by rw [hdetected])).1⟩
  · rw [hdetected] at hversion
    exact hversion
  · rw [hdetected] at hlanguage
    refine hlanguage.trans ?_
    decide +kernel

end DeckKeywords
