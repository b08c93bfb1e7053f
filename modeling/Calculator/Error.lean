import Calculator.Token
import Calculator.Text.Quoted

/-! # Errors

An error has a kind, the span of the source that it is about, and details in words. It is shown in
two lines: the kind and the details, then the name of the source and the line, counted from one. The
wording of each kind of details is fixed here. -/

namespace Calculator

/-- What went wrong. -/
inductive Error.Kind where
  /-- A character that begins no token. -/
  | illegalCharacter
  /-- An integer literal that does not fit in 64 bits. -/
  | literalTooLarge
  /-- A token in the place of another. -/
  | unexpectedToken
  /-- No token where the grammar asks for one. -/
  | unexpectedEnd
  /-- A token after a complete expression. -/
  | trailingInput
  /-- A quotient by a zero. -/
  | divisionByZero
  /-- An integer result that does not fit in 64 bits. -/
  | overflow
  /-- A parenthesis inside as many others as the limit allows. -/
  | nestingTooDeep
  deriving DecidableEq, Repr

/-- The name of a kind in messages. -/
def Error.Kind.title : Kind → String
  | illegalCharacter => "Illegal Character"
  | literalTooLarge => "Literal Too Large"
  | unexpectedToken => "Unexpected Token"
  | unexpectedEnd => "Unexpected End Of Input"
  | trailingInput => "Unexpected Trailing Input"
  | divisionByZero => "Division By Zero"
  | overflow => "Overflow"
  | nestingTooDeep => "Nesting Too Deep"

/-- A failure, located in its source. -/
structure Error where
  kind : Error.Kind
  /-- The position of the first character that the error is about. -/
  start : Position
  /-- The position after the last one. -/
  stop : Position
  /-- What happened, in words. -/
  details : String
  deriving DecidableEq, Repr

namespace Error

/-- The two lines that show an error. -/
def message (e : Error) : String :=
  e.kind.title ++ ": " ++ e.details ++ "\nFile " ++ e.start.source.name ++ ", line " ++
    String.ofList (Decimal.digitsOf (e.start.line + 1))

/-! ### Wording -/

/-- What stands where a factor has to begin. -/
def factorWanted : String := "number or '('"

/-- The character `c` begins no token; there may be none. -/
def illegal (c : Option Char) (start stop : Position) : Error :=
  ⟨.illegalCharacter, start, stop, (c.map Text.quoteChar).getD ""⟩

/-- The digits make an integer that does not fit. -/
def tooLarge (digits : List Char) (start stop : Position) : Error :=
  ⟨.literalTooLarge, start, stop, String.ofList digits ++ " does not fit in a 64-bit integer"⟩

/-- The token stands in the place of what is wanted. -/
def unexpected (wanted : String) (found : Placed) : Error :=
  ⟨.unexpectedToken, found.start, found.stop,
    "Expected " ++ wanted ++ ", found " ++ found.token.text⟩

/-- The tokens end in the place of what is wanted. -/
def ended (wanted : String) (eof : Position) : Error :=
  ⟨.unexpectedEnd, eof, eof, "Expected " ++ wanted ++ ", found end of input"⟩

/-- The token follows a complete expression. -/
def trailing (found : Placed) : Error :=
  ⟨.trailingInput, found.start, found.stop,
    "Expected end of input, found " ++ found.token.text⟩

/-- The parenthesis stands inside `limit` others. -/
def tooDeep (limit : Nat) (found : Placed) : Error :=
  ⟨.nestingTooDeep, found.start, found.stop,
    "Parentheses nest deeper than " ++ String.ofList (Decimal.digitsOf limit) ++ " levels"⟩

/-- The operator at `place` has no result on the two values. -/
def ofFault (fault : Fault) (lhs : Number) (op : Operator) (rhs : Number) (place : Placed) :
    Error :=
  let operation := lhs.text ++ " " ++ op.text ++ " " ++ rhs.text
  match fault with
  | .divisionByZero => ⟨.divisionByZero, place.start, place.stop, operation⟩
  | .overflow =>
    ⟨.overflow, place.start, place.stop, operation ++ " does not fit in a number"⟩

end Error

end Calculator
