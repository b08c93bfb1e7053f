import Calculator.Error
import Calculator.Log.Level

/-! # Events

What an evaluation tells while it runs: each token as it is read, each token that the grammar takes,
each operator with its two values before it is applied, and how the evaluation begins and ends. An
event belongs to a target, has a level, and carries named fields. -/

namespace Calculator

/-- A step of an evaluation. -/
inductive Event where
  /-- The evaluation of a source of this name begins. -/
  | evaluating (source : String)
  /-- A token that begins at this index has been read. -/
  | token (token : Token) (index : Int)
  /-- The whole text has been read, as this many tokens. -/
  | lexed (count : Nat)
  /-- No token begins at this index. -/
  | illegalCharacter (details : String) (index : Int)
  /-- The grammar takes the token. -/
  | eat (token : Token)
  /-- The operator is about to be applied. -/
  | fold (lhs : Number) (op : Operator) (rhs : Number)
  /-- The expression has this value. -/
  | evaluated (value : Number)
  /-- The tokens have no value, for a reason of this kind. -/
  | failed (kind : Error.Kind)
  deriving DecidableEq, Repr

/-- The value of a field of an event. -/
inductive Event.Field where
  /-- A number. -/
  | count (n : Int)
  /-- A text that is shown as it is. -/
  | shown (text : String)
  /-- A text that is shown in quotes. -/
  | quoted (text : String)
  deriving DecidableEq, Repr

namespace Event

/-- Single tokens and steps are of the least importance. -/
def level : Event → Log.Level
  | token .. | eat .. | fold .. => .trace
  | _ => .debug

/-- The part of the calculator that an event comes from. -/
def target : Event → String
  | evaluating .. | evaluated .. | failed .. => "tinycalc"
  | token .. | lexed .. | illegalCharacter .. => "tinycalc::interpreter::lexer"
  | eat .. | fold .. => "tinycalc::interpreter::parser"

/-- What happened, in words. -/
def message : Event → String
  | evaluating .. => "evaluating"
  | token .. => "token"
  | lexed .. => "lexing finished"
  | illegalCharacter .. => "illegal character"
  | eat .. => "eat"
  | fold .. => "fold"
  | evaluated .. => "evaluated"
  | failed .. => "evaluation failed"

/-- The named fields, in the order in which they are shown. -/
def fields : Event → List (String × Field)
  | evaluating source => [("source_name", .quoted source)]
  | token word index => [("token", .shown word.text), ("index", .count index)]
  | lexed count => [("count", .count count)]
  | illegalCharacter details index => [("details", .shown details), ("index", .count index)]
  | eat word => [("token", .shown word.text)]
  | fold lhs op rhs => [("lhs", .shown lhs.text), ("op", .shown op.text), ("rhs", .shown rhs.text)]
  | evaluated value => [("value", .shown value.text)]
  | failed kind => [("kind", .shown kind.title)]

end Event

end Calculator
