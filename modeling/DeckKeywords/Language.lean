/-
DeckKeywords/Language.lean

The natural languages in which keyword tables are published, and the names
under which they are asked for.
-/
import DeckKeywords.Text.Blank
import DeckKeywords.Text.Case
import DeckKeywords.Text.Quoted

namespace DeckKeywords

/-- A language with keyword tables. -/
inductive Language where
  | en
  | de
  deriving DecidableEq, Repr, Inhabited

/-- The names of English, its code first. -/
def englishAliases : List String := ["en", "eng", "english", "englisch"]

/-- The names of German, its code first. -/
def germanAliases : List String := ["de", "ger", "deu", "german", "deutsch"]

/-- Whether `s` names a language; white space around it and the case of ASCII letters do not
matter. -/
def isLanguageAlias (s : String) : Bool :=
  let name := Text.lowerAscii (Text.trim s)
  [englishAliases, germanAliases].any (·.contains name)

namespace Language

/-- Every language, in table order. -/
def all : List Language := [.en, .de]

/-- The language used when nothing else applies. -/
def fallback : Language := .en

/-- The two-letter code. -/
def code : Language → String
  | en => "en"
  | de => "de"

@[simp] theorem code_inj {l m : Language} : l.code = m.code ↔ l = m := by
  cases l <;> cases m <;> decide

/-- The accepted names in lower case, the code first. -/
def aliases : Language → List String
  | en => englishAliases
  | de => germanAliases

/-- The language that `s` names, if any. -/
def ofName? (s : String) : Option Language :=
  let name := Text.lowerAscii (Text.trim s)
  all.find? (·.aliases.contains name)

/-- The language whose code is exactly `s`. -/
def ofCode? (s : String) : Option Language := all.find? (·.code == s)

/-- The message about a text `s` that names no language. -/
def unknownMessage (s : String) : String := "unknown language: " ++ Text.quoted s

end Language

/-! ### One thing per language -/

/-- One thing in `α` for each language. -/
structure PerLanguage (α : Type) where
  en : α
  de : α
  deriving DecidableEq, Repr

namespace PerLanguage

variable {α : Type}

/-- The same thing `a` for each language. -/
def const (a : α) : PerLanguage α := ⟨a, a⟩

/-- The thing for one language. -/
def get (p : PerLanguage α) : Language → α
  | .en => p.en
  | .de => p.de

/-- Replaces the thing for one language `l` by `a`. -/
def set (p : PerLanguage α) (l : Language) (a : α) : PerLanguage α :=
  match l with
  | .en => { p with en := a }
  | .de => { p with de := a }

/-- How many languages satisfy the `condition`. -/
def count (p : PerLanguage α) (condition : α → Bool) : Nat :=
  (Language.all.filter fun l => condition (p.get l)).length

@[simp] theorem get_const (a : α) (l : Language) : (const a).get l = a := by
  cases l <;> rfl

@[simp] theorem get_set_self (p : PerLanguage α) (l : Language) (a : α) :
    (p.set l a).get l = a := by
  cases l <;> rfl

theorem get_set_of_ne (p : PerLanguage α) {l m : Language} (a : α) (h : m ≠ l) :
    (p.set l a).get m = p.get m := by
  cases l <;> cases m <;> first | exact absurd rfl h | rfl

end PerLanguage

end DeckKeywords
