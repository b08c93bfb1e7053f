import Calculator.Number.Arithmetic
import Calculator.Position

/-! # Tokens

The words of the language of expressions: numbers, the four operators and the two parentheses. The
kind of a token is what the grammar looks at; it forgets the value of a number. -/

namespace Calculator

/-- A word of an expression. -/
inductive Token where
  /-- A literal. -/
  | number (value : Number)
  /-- An operator. -/
  | operator (op : Operator)
  | openParen
  | closeParen
  deriving DecidableEq, Repr

/-- What the grammar sees of a token. -/
inductive Token.Kind where
  | integer
  | float
  | operator (op : Operator)
  | openParen
  | closeParen
  deriving DecidableEq, Repr

namespace Token

/-- How a kind is named in a message: symbols stand in single quotes. -/
def Kind.text : Kind → String
  | integer => "integer"
  | float => "float"
  | operator op => String.ofList ['\'', op.symbol, '\'']
  | openParen => "'('"
  | closeParen => "')'"

/-- The kind of a token. -/
def kind : Token → Kind
  | number (.integer _) => .integer
  | number (.float _) => .float
  | operator op => .operator op
  | openParen => .openParen
  | closeParen => .closeParen

/-- How a token is named in a message: a literal by its value, a symbol by its kind. -/
def text : Token → String
  | number value => value.text
  | token => token.kind.text

/-- Comparison of tokens: literals are compared as values. -/
def agree : Token → Token → Bool
  | number v, number w => v == w
  | s, t => s = t

instance : BEq Token := ⟨agree⟩

end Token

/-- A token with the positions of its first character and of the one after its last. -/
structure Placed where
  token : Token
  start : Position
  stop : Position
  deriving DecidableEq, Repr

end Calculator
