/-
DeckKeywords/CommandLine/Options.lean

Reading the words of a command line.  A word that starts with a dash holds
options; a value follows its option in the same word or in the next one.  The
lone dash is a word like any other, and so is every word behind two dashes.

Words are read from left to right.  The first one that is not right ends the
reading, and so does an option that asks for something to be shown.
-/
import DeckKeywords.Text.Split

namespace DeckKeywords.CommandLine

/-- What can be shown in place of an answer. -/
inductive Display where
  | version | help
  deriving DecidableEq, Repr

/-- What an option is for. -/
inductive OptionKind where
  | flag
  | counted
  | value (mayBeEmpty : Bool)
  | display (what : Display)
  deriving DecidableEq, Repr

/-- An option, by its long name and perhaps a letter. -/
structure OptionSpec where
  name : String
  letter : Option Char
  kind : OptionKind
  deriving DecidableEq, Repr

/-- Why reading ends early: the words are not right, or something is to be shown. -/
inductive Stop where
  | usage
  | display (what : Display)
  deriving DecidableEq, Repr

/-- The options given so far, by name; an option without a value counts as an empty one. -/
abbrev Given := List (String × String)

namespace Given

/-- Whether the option `name` is given. -/
def has (g : Given) (name : String) : Bool := g.any (·.1 = name)

/-- How often the option `name` is given. -/
def count (g : Given) (name : String) : Nat := g.countP (·.1 = name)

end Given

namespace OptionSpec

/-- Whether the option `o` takes a value. -/
def takesValue (o : OptionSpec) : Bool :=
  match o.kind with
  | .value _ => true
  | _ => false

/-- Gives the option `o`.  Only a counted one may be given again. -/
def give (o : OptionSpec) (value : String) (g : Given) : Except Stop Given :=
  match o.kind with
  | .display what => .error (.display what)
  | .counted => .ok (g ++ [(o.name, value)])
  | .flag => if g.has o.name then .error .usage else .ok (g ++ [(o.name, value)])
  | .value mayBeEmpty =>
    if g.has o.name || (value.isEmpty && !mayBeEmpty) then .error .usage
    else .ok (g ++ [(o.name, value)])

end OptionSpec

/-! ### Words with options -/

/-- Options so far, and the one whose value is still to come. -/
abbrev Progress := Given × Option OptionSpec

/-- An option by its long name, perhaps with a value behind an equals sign. -/
def readLong (specs : List OptionSpec) (g : Given) (cs : List Char) : Except Stop Progress :=
  let (name, value) :=
    match Text.splitFirst '=' cs with
    | some (name, value) => (name, some (String.ofList value))
    | none => (cs, none)
  match specs.find? (·.name.toList = name), value with
  | none, _ => .error .usage
  | some o, some v => if o.takesValue then (·, none) <$> o.give v g else .error .usage
  | some o, none => if o.takesValue then .ok (g, some o) else (·, none) <$> o.give "" g

/-- Options by their letters.  The first one that takes a value takes the rest of the word, without
an equals sign at its start. -/
def readLetters (specs : List OptionSpec) : Given → List Char → Except Stop Progress
  | g, [] => .ok (g, none)
  | g, c :: cs =>
    match specs.find? (·.letter = some c) with
    | none => .error .usage
    | some o =>
      if o.takesValue then
        match cs with
        | [] => .ok (g, some o)
        | '=' :: value => (·, none) <$> o.give (String.ofList value) g
        | value => (·, none) <$> o.give (String.ofList value) g
      else do
        let g ← o.give "" g
        readLetters specs g cs

/-- What a word is. -/
inductive Shape where
  | plain
  | separator
  | long (cs : List Char)
  | letters (cs : List Char)

/-- What a `word` is, by the dashes at its start. -/
def shapeOf (word : String) : Shape :=
  match word.toList with
  | ['-', '-'] => .separator
  | '-' :: '-' :: cs => .long cs
  | ['-'] => .plain
  | '-' :: cs => .letters cs
  | _ => .plain

/-! ### Whole command lines -/

/-- What has been read: options and other words, and the words that are left to others. -/
structure Reading where
  given : Given
  words : List String
  left : List String

/-- Which words may stand between options: none, so that reading ends in front of the first one, or
those that fit at their place, counted from zero. -/
inductive Between where
  | nothing
  | words (fits : Nat → String → Bool)

/-- Reads every word behind two dashes, when `count` words are already read. -/
def readPlain (between : Between) (g : Given) (count : Nat) (words : List String) :
    Except Stop Reading :=
  match between with
  | .nothing => if words.isEmpty then .ok ⟨g, [], []⟩ else .error .usage
  | .words fits =>
    if (words.zipIdx count).all fun (word, i) => fits i word then .ok ⟨g, words, []⟩
    else .error .usage

/-- Reads words by the options in `specs`, when so many of those `between` options are already
read. -/
def readWords (specs : List OptionSpec) (between : Between) :
    Progress → Nat → List String → Except Stop Reading
  | (g, none), _, [] => .ok ⟨g, [], []⟩
  | (_, some _), _, [] => .error .usage
  | (g, some o), count, word :: rest =>
    match shapeOf word with
    | .plain => do
      let g ← o.give word g
      readWords specs between (g, none) count rest
    | _ => .error .usage
  | (g, none), count, word :: rest =>
    match shapeOf word with
    | .separator => readPlain between g count rest
    | .long cs => do
      let progress ← readLong specs g cs
      readWords specs between progress count rest
    | .letters cs => do
      let progress ← readLetters specs g cs
      readWords specs between progress count rest
    | .plain =>
      match between with
      | .nothing => .ok ⟨g, [], word :: rest⟩
      | .words fits =>
        if fits count word then do
          let more ← readWords specs between (g, none) (count + 1) rest
          return { more with words := word :: more.words }
        else .error .usage

end DeckKeywords.CommandLine
