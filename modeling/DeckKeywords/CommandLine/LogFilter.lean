/-
DeckKeywords/CommandLine/LogFilter.lean

Which events are logged.  A filter is a list of rules with commas between them.
A rule is a level, which holds for every target, or the start of a target with
a level; without a level it lets everything through.  Behind its target a rule
may have brackets:

    target[span{field}]=level

A field between braces limits the rule to events that have a field of that
name.  A rule with the name of a span, or with a value for its field, holds
inside spans only; nothing here happens inside a span, so it never speaks.  A
value stands behind an equals sign, as a number or a regular expression.

Of the rules that speak of an event the most specific one decides: the one with
the longest target, then one with a field, then the one whose field comes last
in order.  Of rules that are equally specific the last one decides.
-/
import DeckKeywords.Event
import DeckKeywords.Text.RegularExpression

namespace DeckKeywords.CommandLine

/-- What a rule speaks of: targets that start with a text, perhaps only events with a field of some
name; or what happens inside spans. -/
inductive LogScope where
  | events (target : String) (field : Option String)
  | spans
  deriving DecidableEq, Repr

/-- A rule: what it speaks of, and the least level that passes.  Without one, nothing does. -/
structure LogRule where
  scope : LogScope
  least : Option Level
  deriving DecidableEq, Repr

/-- Rules, of which the most specific one decides. -/
abbrev LogFilter := List LogRule

namespace LogRule

/-! ### Levels -/

/-- Whether `cs` are decimal digits, at least one. -/
def areDigits (cs : List Char) : Bool := !cs.isEmpty && cs.all Char.isDigit

/-- The number that decimal digits `cs`, perhaps behind a plus sign, stand for. -/
def number? (cs : List Char) : Option Nat :=
  let digits := if cs.head? = some '+' then cs.tail else cs
  if areDigits digits then
    some (digits.foldl (fun n c => n * 10 + (c.toNat - '0'.toNat)) 0)
  else none

/-- The level of a number `n`: zero for none, and up to five for the least severe one. -/
def levelOfNumber? (n : Nat) : Option (Option Level) :=
  [none, some .error, some .warn, some .info, some .debug, some .trace][n]?

/-- The level of a name or a number; `off` is a level that lets nothing pass. -/
def level? (cs : List Char) : Option (Option Level) :=
  match (number? cs).bind levelOfNumber? with
  | some level => some level
  | none =>
    let s := String.ofList cs
    if Text.lowerAscii s = "off" then some none else (Level.ofName? s).map some

/-! ### Values of fields -/

/-- Whether `cs` is a number without a sign: infinite, no number at all, or decimal with perhaps a
point and a power of ten. -/
def isUnsignedNumber (cs : List Char) : Bool :=
  let (mantissa, power) := cs.span fun c => c ≠ 'e' && c ≠ 'E'
  let digits := mantissa.erase '.'
  let exponent := if [some '+', some '-'].contains power.tail.head? then power.tail.tail
    else power.tail
  ["inf", "infinity", "nan"].contains (Text.lowerAscii (String.ofList cs))
    || (areDigits digits && (power.isEmpty || areDigits exponent))

/-- Whether `cs` can be asked for as the value of a field.  Numbers without a plus sign are regular
expressions as well. -/
def isValue (cs : List Char) : Bool :=
  match cs with
  | '+' :: rest => isUnsignedNumber rest
  | cs => Text.isRegularExpression cs

/-! ### Parts of a rule -/

/-- A rule in parts: what stands before brackets or an equals sign, what it speaks of if there are
brackets, and what stands behind the equals sign. -/
structure Parts where
  name : List Char
  brackets : Option LogScope
  level : Option (List Char)

/-- Whether a rule may start with the character `c`, brackets apart. -/
def startsName (c : Char) : Bool := c == '-' || c == ':' || c == '_' || Text.isAlphanumeric c

/-- What follows brackets: nothing but blank space, or an equals sign and a level. -/
def afterBrackets (name : List Char) (scope : LogScope) (cs : List Char) : Option Parts :=
  match cs with
  | '=' :: level => some ⟨name, some scope, some level⟩
  | cs => if cs.all Text.isBlank then some ⟨name, some scope, none⟩ else none

/-- What a `field` between braces limits a rule to.  What follows a second equals sign does not
count. -/
def fieldScope? (name : List Char) (inSpan : Bool) (field : List Char) : Option LogScope :=
  match Text.splitAll '=' field with
  | _ :: value :: _ => if isValue value then some .spans else none
  | _ =>
    if field.isEmpty then none
    else if inSpan then some .spans
    else some (.events (String.ofList name) (some (String.ofList field)))

/-- The brackets of a rule, behind the opening one. -/
def readBrackets (name cs : List Char) : Option Parts :=
  match cs.span fun c => c ≠ ']' && c ≠ '\x7b' with
  | (_, ']' :: rest) => afterBrackets name .spans rest
  | (span, '\x7b' :: inner) => do
    let (field, rest) ← Text.splitFirst '\x7d' inner
    let scope ← fieldScope? name (!span.isEmpty) field
    match rest with
    | ']' :: rest => afterBrackets name scope rest
    | _ => none
  | _ => none

/-- The parts of a rule. -/
def parts? (cs : List Char) : Option Parts :=
  match cs with
  | [] => none
  | '[' :: rest => readBrackets [] rest
  | c :: _ =>
    if !startsName c then none
    else
      match cs.span fun c => c ≠ '=' && c ≠ '[' with
      | (name, '[' :: rest) => readBrackets name rest
      | (name, '=' :: level) => some ⟨name, none, some level⟩
      | (name, _) => some ⟨name, none, none⟩

/-! ### Rules -/

/-- The level behind an equals sign; none there lets everything pass. -/
def levelBehind? : Option (List Char) → Option (Option Level)
  | none => some (some .trace)
  | some [] => some (some .trace)
  | some cs => level? cs

/-- The rule that parts make.  A word alone is a level if it can be one, else a target. -/
def ofParts? (parts : Parts) : Option LogRule :=
  match parts.brackets, parts.level with
  | none, none =>
    match level? parts.name with
    | some least => some ⟨.events "" none, least⟩
    | none => some ⟨.events (String.ofList parts.name) none, some .trace⟩
  | brackets, level =>
    (levelBehind? level).map fun least =>
      ⟨brackets.getD (.events (String.ofList parts.name) none), least⟩

/-- The rule of a text without commas.  Blank space before a rule belongs to its name, and hides a
level behind it: such a rule has no level, and speaks of targets that nothing has. -/
def ofText? (cs : List Char) : Option LogRule :=
  let body := cs.dropWhile Text.isBlank
  if body.length = cs.length then (parts? cs).bind ofParts?
  else
    match parts? body with
    | some ⟨_, _, none⟩ => some ⟨.events (String.ofList cs) none, some .trace⟩
    | _ => none

/-! ### Which rule decides -/

/-- Whether a record `r` has a field `name`; its message counts as one. -/
def hasField (r : Record) (name : String) : Bool :=
  name = "message" || r.fields.any (·.1 = name)

/-- Whether the `rule` speaks of a record `r`. -/
def speaksOf (r : Record) (rule : LogRule) : Bool :=
  match rule.scope with
  | .events target field => target.toList.isPrefixOf r.target.toList && field.all (hasField r)
  | .spans => false

/-- Whether `second` is at least as specific as `first`. -/
def yields (first second : LogRule) : Bool :=
  match first.scope, second.scope with
  | .events t f, .events u g =>
    if t.length = u.length then
      match f, g with
      | none, _ => true
      | some _, none => false
      | some f, some g => f ≤ g
    else t.length < u.length
  | _, _ => true

end LogRule

namespace LogFilter

/-- The filter that lets the level `l` and all above it pass. -/
def atLeast (l : Level) : LogFilter := [⟨.events "" none, some l⟩]

/-- The filter of a text, if every rule in it is right.  Without any rule it lets errors pass. -/
def ofText? (s : String) : Option LogFilter := do
  let texts := (Text.splitAll ',' s.toList).filter fun cs => !cs.isEmpty
  let rules ← texts.mapM LogRule.ofText?
  return if rules.isEmpty then atLeast .error else rules

/-- The rule of `f` that decides about a record `r`. -/
def deciding? (f : LogFilter) (r : Record) : Option LogRule :=
  (f.filter (LogRule.speaksOf r)).foldl (fun best rule =>
    match best with
    | none => some rule
    | some b => if b.yields rule then some rule else some b) none

/-- Whether a record `r` passes. -/
def admits (f : LogFilter) (r : Record) : Bool :=
  match (f.deciding? r).bind (·.least) with
  | some least => least.severity ≤ r.level.severity
  | none => false

end LogFilter

/-- The line of a record `r` in a log. -/
def logLine (r : Record) : String :=
  r.level.title ++ " " ++ r.target ++ ": " ++ r.message
    ++ String.join (r.fields.map fun (name, value) => " " ++ name ++ "=" ++ value.logged)

end DeckKeywords.CommandLine
