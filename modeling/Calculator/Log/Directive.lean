import Calculator.Event
import Calculator.Text.Alphanumeric
import Calculator.Text.Cut
import Calculator.Text.WhiteSpace

/-! # Directives

A directive says how much to show of some events. It is a level, a target, or either of these forms:
a target and its level with an equals sign between, or a target, a span in square brackets and
perhaps a level after an equals sign. A span is a name, a field in braces, or both; a field is a
name, perhaps with a value after an equals sign. What is left out restricts nothing, and the level
that is left out is the least important one.

White space around a directive is passed over when its parts are looked for, and only then: the
places where they end, in bytes, are counted from the first character that is no white space, but
the parts are taken from the text with all its white space. -/

namespace Calculator.Log

/-- A field that events are asked for. -/
structure Directive.Field where
  name : List Char
  /-- The value that it should have, if any is asked for. -/
  value : Option (List Char)
  deriving DecidableEq, Repr

/-- How much to show of some events. -/
structure Directive where
  /-- What their targets begin with. -/
  target : List Char := []
  /-- The span that they happen in, if it matters. -/
  span : Option (List Char) := none
  /-- The field that they have, if it matters. -/
  field : Option Directive.Field := none
  /-- The least important level that is shown; none if nothing is. -/
  level : Option Level := some .trace
  deriving DecidableEq, Repr

namespace Directive

/-- Why a text is no directive. -/
inductive Error where
  /-- The parts are not those of a directive. -/
  | invalidDirective
  /-- What follows the equals sign is no level. -/
  | invalidLevel
  /-- A part would end inside a character. -/
  | dividedCharacter
  deriving DecidableEq, Repr

/-- The words that tell what is wrong; a divided character leaves no words. -/
def Error.message? : Error → Option String
  | invalidDirective => "invalid filter directive"
  | invalidLevel => "error parsing level filter: expected one of \"off\", \"error\", \"warn\", " ++
    "\"info\", \"debug\", \"trace\", or a number 0-5"
  | dividedCharacter => none

/-! ### Levels -/

/-- The levels by their places, from nothing to everything. -/
def levels : List (Option Level) :=
  [none, some .error, some .warn, some .info, some .debug, some .trace]

/-- The names of the levels, in the same order. -/
def levelNames : List String := ["off", "error", "warn", "info", "debug", "trace"]

/-- A level by its number, with or without a plus sign. -/
def numberedLevel? (text : List Char) : Option (Option Level) :=
  let digits := if text.head? = some '+' then text.tail else text
  if digits ≠ [] ∧ digits.all Char.isDigit then levels[Decimal.valueOf digits]? else none

/-- A level by its name in letters of either case. -/
def namedLevel? (text : List Char) : Option (Option Level) :=
  levels[levelNames.findIdx fun name => name.toList = text.map Char.toLower]?

/-- A level by its number or its name. -/
def level? (text : List Char) : Option (Option Level) := (numberedLevel? text).or (namedLevel? text)

/-! ### Reading

Each of these functions reads the characters of `rest`, of which the first stands at `place`, and
takes the parts from `text`. -/

/-- The part of the text between two places. -/
def part (text : List Char) (start stop : Nat) : Except Error (List Char) :=
  match Text.cut? text start stop with
  | some part => .ok part
  | none => .error .dividedCharacter

/-- The level that the text ends with. -/
def levelFrom (text : List Char) (place : Nat) : Except Error (Option Level) := do
  match ← part text place (utf8Length text) with
  | [] => .ok (some .trace)
  | name =>
    match level? name with
    | some level => .ok level
    | none => .error .invalidLevel

/-- The end of a directive: nothing, or an equals sign and the level. -/
def readEnd (d : Directive) (text : List Char) (place : Nat) :
    List Char → Except Error Directive
  | [] => .ok d
  | '=' :: _ => (levelFrom text (place + 1)).map fun level => { d with level := level }
  | _ => .error .invalidDirective

/-- A field with or without its value; a second equals sign ends the value. -/
def Field.parse (text : List Char) : Field :=
  { name := text.takeWhile (· ≠ '=')
    value := (text.dropWhile (· ≠ '=')).tail?.map fun rest => rest.takeWhile (· ≠ '=') }

/-- A field, the brace and the bracket after it, and the end. -/
def readField (d : Directive) (text : List Char) (place : Nat) (rest : List Char) :
    Except Error Directive :=
  let shown := rest.takeWhile (· ≠ '\x7d')
  match rest.drop shown.length with
  | [] => .error .invalidDirective
  | _ :: after => do
    let stop := place + utf8Length shown
    let field ← part text place stop
    match field, after with
    | _ :: _, ']' :: after => readEnd { d with field := some (.parse field) } text (stop + 2) after
    | _, _ => .error .invalidDirective

/-- The name of a span, the bracket after it or the field, and the end. A name that is empty before
a field restricts nothing. -/
def readSpan (d : Directive) (text : List Char) (place : Nat) (rest : List Char) :
    Except Error Directive :=
  let shown := rest.takeWhile fun c => c ≠ ']' && c ≠ '\x7b'
  match rest.drop shown.length with
  | [] => .error .invalidDirective
  | c :: after => do
    let stop := place + utf8Length shown
    let name ← part text place stop
    if c = ']' then readEnd { d with span := some name } text (stop + 1) after
    else readField { d with span := if name = [] then none else some name } text (stop + 1) after

/-- The character may begin a directive that does not begin with a span. -/
def begins (c : Char) : Bool := Text.isAlphanumeric c || c = '-' || c = ':' || c = '_'

/-- A text without an equals sign and a span: a level, or else a target. -/
def bare (text : List Char) : Directive :=
  match level? text with
  | some level => { level := level }
  | none => { target := text }

/-- A directive. -/
def parse (text : List Char) : Except Error Directive :=
  match Text.trim text with
  | [] => .error .invalidDirective
  | '[' :: rest => readSpan {} text 1 rest
  | first :: others =>
    let shown := (first :: others).takeWhile fun c => c ≠ '=' && c ≠ '['
    if ¬ begins first then .error .invalidDirective
    else
      match (first :: others).drop shown.length with
      | [] => .ok (bare text)
      | c :: rest => do
        let stop := utf8Length shown
        let target ← part text 0 stop
        if c = '[' then readSpan { target := target } text (stop + 1) rest
        else readEnd { target := target } text stop (c :: rest)

/-! ### Deciding -/

/-- The event has the field, whose value is of no concern. The words of an event count as a field of
it. -/
def Field.isOf (field : Field) (event : Event) : Bool :=
  field.value.isNone &&
    ("message" :: event.fields.map Prod.fst).any fun name => name.toList = field.name

/-- The directive speaks of the event. An evaluation has no spans, so that a directive with the name
of a span or the value of a field speaks of nothing. -/
def speaksOf (d : Directive) (event : Event) : Bool :=
  d.span.isNone && d.target.isPrefixOf event.target.toList && d.field.all (·.isOf event)

/-- The name of the field, empty if there is none. -/
def fieldName (d : Directive) : String := d.field.elim "" fun field => String.ofList field.name

/-- Of two directives for one event the one with the longer target decides, then the one with the
field, or with the field whose name is greater, and of equals the later one. -/
def yieldsTo (d later : Directive) : Bool :=
  d.target.length < later.target.length ||
    (d.target.length = later.target.length && d.fieldName ≤ later.fieldName)

end Directive

end Calculator.Log
