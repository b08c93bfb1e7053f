import Calculator.Outcome

/-! # The parser

A recursive descent over the grammar of expressions that evaluates as it goes:

    expr   := term (("+" | "-") term)*
    term   := factor (("*" | "/") factor)*
    factor := number | "(" expr ")"

No tree is built: each rule gives the value of the tokens that it takes. The first of the tokens
that are left decides what a rule does, and no other token is looked at. A parser counts the open
parentheses and refuses to open more than `maxDepth`. A rule that fails leaves the parser behind the
tokens that it took.

Both levels of operators are chains of operands, and the rules are built from the rule for a nested
factor, so that the recursion is the iteration of `factorOf`. -/

namespace Calculator

/-- How many parentheses may be open at once. -/
def maxDepth : Nat := 128

/-- The tokens that are left, and what a rule has to know besides. -/
structure Parser where
  /-- The tokens that no rule has taken yet. -/
  tokens : List Placed
  /-- The position where the end of the tokens is reported. -/
  eof : Position
  /-- The number of open parentheses. -/
  depth : Nat := 0
  deriving DecidableEq, Repr

namespace Parser

/-- What a parser can be asked for: a value, or an error, and the parser after it. -/
abbrev Rule (α : Type) := Parser → Outcome Parser α

/-- Take the first token, of whatever kind, if there is one. -/
def skip (p : Parser) : Parser := { p with tokens := p.tokens.tail }

/-- Take a token of the kind. -/
def eat (kind : Token.Kind) : Rule Unit := fun p =>
  match p.tokens with
  | [] => .fail (.ended kind.text p.eof) p
  | found :: _ =>
    if found.token.kind = kind then ⟨.ok (), p.skip, #[.eat found.token]⟩
    else .fail (.unexpected kind.text found) p

/-- Apply an operator to two values; a fault is an error at the operator's token. -/
def fold (lhs : Number) (op : Operator) (rhs : Number) (place : Placed) : Rule Number := fun p =>
  let result :=
    match lhs.apply op rhs with
    | .ok value => .ok value
    | .error fault => .error (.ofFault fault lhs op rhs place)
  ⟨result, p, #[.fold lhs op rhs]⟩

/-! ### Chains of operands -/

/-- The operator of the precedence that the next token is, if it is one. -/
def operator? (level : Precedence) (p : Parser) : Option (Operator × Placed) :=
  match p.tokens with
  | found :: _ =>
    match found.token with
    | .operator op => if op.precedence = level then some (op, found) else none
    | _ => none
  | [] => none

/-- Take an operator and its right operand, and apply it. -/
def applyNext (operand : Rule Number) (op : Operator) (place : Placed) (lhs : Number) :
    Rule Number := fun p =>
  (p.eat place.token.kind).bind fun _ p =>
    (operand p).bind fun rhs p => p.fold lhs op rhs place

/-- Go on with an outcome while an operator of the precedence follows, at most once for each token
of `ahead`. -/
def chainFrom (level : Precedence) (operand : Rule Number) :
    (ahead : List Placed) → Outcome Parser Number → Outcome Parser Number
  | [], sofar => sofar
  | _ :: ahead, sofar =>
    match sofar.result, sofar.state.operator? level with
    | .ok _, some (op, place) =>
      chainFrom level operand ahead (sofar.bind (applyNext operand op place))
    | _, _ => sofar

/-- Operands with operators of one precedence between them, applied from left to right. Each
operator is a token that the first operand left. -/
def chain (level : Precedence) (operand : Rule Number) : Rule Number := fun p =>
  let head := operand p
  chainFrom level operand head.state.tokens head

/-! ### The rules over a rule for factors -/

/-- A term: factors with tight operators between them. -/
def termOf (factor : Rule Number) : Rule Number := chain .product factor

/-- An expression: terms with loose operators between them. -/
def exprOf (factor : Rule Number) : Rule Number := chain .sum (termOf factor)

/-- Follow a rule with one more parenthesis open. -/
def nested {α : Type} (rule : Rule α) : Rule α := fun p =>
  match rule { p with depth := p.depth + 1 } with
  | ⟨result, after, events⟩ => ⟨result, { after with depth := after.depth - 1 }, events⟩

/-- An expression in parentheses, with `factor` for the factors inside. -/
def groupOf (factor : Rule Number) : Rule Number := fun p =>
  (p.eat .openParen).bind fun _ p =>
    (nested (exprOf factor) p).bind fun value p =>
      (p.eat .closeParen).map fun _ => value

/-- A factor, with `inner` for the factors inside its parentheses. -/
def factorOf (inner : Rule Number) : Rule Number := fun p =>
  match p.tokens with
  | [] => .fail (.ended Error.factorWanted p.eof) p
  | found :: _ =>
    match found.token with
    | .number value => (p.eat found.token.kind).map fun _ => value
    | .openParen =>
      if maxDepth ≤ p.depth then .fail (.tooDeep maxDepth found) p else groupOf inner p
    | _ => .fail (.unexpected Error.factorWanted found) p

/-! ### The rules -/

/-- A factor with no more than `levels` factors inside one another, itself among them. -/
def factorWithin : (levels : Nat) → Rule Number
  | 0 => fun p => .fail (.ended Error.factorWanted p.eof) p
  | levels + 1 => factorOf (factorWithin levels)

/-- A number or an expression in parentheses. Each factor inside another has one more parenthesis
open, so there are no more levels than parentheses that may still be opened, and one. -/
def factor : Rule Number := fun p => factorWithin (maxDepth - p.depth + 1) p

/-- Factors with `*` and `/` between them. -/
def term : Rule Number := termOf factor

/-- Terms with `+` and `-` between them. -/
def expr : Rule Number := exprOf factor

/-- Give the value if no token is left. -/
def finish (value : Number) : Rule Number := fun p =>
  match p.tokens with
  | [] => .give value p
  | found :: _ => .fail (.trailing found) p

/-- All tokens as one expression. -/
def parse : Rule Number := fun p => (expr p).bind finish

/-! ### Requests -/

/-- What one may ask of a parser. -/
inductive Request where
  | parse
  | expr
  | term
  | factor
  | eat (kind : Token.Kind)
  deriving DecidableEq, Repr

/-- The answer to a request; taking a token gives no value. -/
def answer (p : Parser) : Request → Outcome Parser (Option Number)
  | .parse => p.parse.map some
  | .expr => p.expr.map some
  | .term => p.term.map some
  | .factor => p.factor.map some
  | .eat kind => (p.eat kind).map fun _ => none

/-- The answers to one request after another, each put to the parser that the last one left. -/
def answers (p : Parser) : List Request → List (Outcome Parser (Option Number))
  | [] => []
  | request :: rest =>
    let outcome := p.answer request
    outcome :: outcome.state.answers rest

end Parser

end Calculator
