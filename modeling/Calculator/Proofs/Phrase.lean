import Calculator.Parser

/-! # Phrases

The derivations of the grammar

    expr   := term (("+" | "-") term)*
    term   := factor (("*" | "/") factor)*
    factor := number | "(" expr ")"

as trees, apart from any parser. Expressions and terms are chains: an operand, or a chain followed
by an operator of its level and one more operand, which is the repetition of the grammar read from
the left. A phrase has its tokens, the number of parentheses inside one another, and its value,
which takes the operands of every chain from left to right. A `Sentence` is the tokens of an
expression; a word is `Viable` if it begins one. -/

namespace Calculator

/-- What a phrase is: a factor, or a chain of operands at a level. -/
inductive Phrase.Kind where
  | factor
  | chain (level : Precedence)
  deriving DecidableEq, Repr

namespace Phrase.Kind

/-- A chain of factors. -/
abbrev term : Kind := .chain .product

/-- A chain of terms. -/
abbrev expr : Kind := .chain .sum

end Phrase.Kind

/-- What the operators of a level stand between. -/
def Precedence.operand : Precedence → Phrase.Kind
  | .sum => .term
  | .product => .factor

/-- A derivation of the grammar. -/
inductive Phrase : Phrase.Kind → Type where
  /-- A literal. -/
  | number (value : Number) : Phrase .factor
  /-- An expression in parentheses. -/
  | group (inner : Phrase .expr) : Phrase .factor
  /-- A chain of one operand. -/
  | single {level : Precedence} (operand : Phrase level.operand) : Phrase (.chain level)
  /-- A chain, an operator of its level and one more operand. -/
  | apply {level : Precedence} (lhs : Phrase (.chain level)) (op : Operator)
      (fits : op.precedence = level) (rhs : Phrase level.operand) : Phrase (.chain level)

namespace Phrase

variable {kind : Kind}

/-- The tokens of a phrase from left to right. -/
def tokens : {kind : Kind} → Phrase kind → List Token
  | _, number value => [.number value]
  | _, group inner => .openParen :: inner.tokens ++ [.closeParen]
  | _, single operand => operand.tokens
  | _, apply lhs op _ rhs => lhs.tokens ++ .operator op :: rhs.tokens

/-- How many parentheses of a phrase stand inside one another. -/
def depth : {kind : Kind} → Phrase kind → Nat
  | _, number _ => 0
  | _, group inner => inner.depth + 1
  | _, single operand => operand.depth
  | _, apply lhs _ _ rhs => max lhs.depth rhs.depth

/-- The value of a phrase: a chain applies its operators from left to right. -/
def value : {kind : Kind} → Phrase kind → Except Fault Number
  | _, number value => .ok value
  | _, group inner => inner.value
  | _, single operand => operand.value
  | _, apply lhs op _ rhs =>
    lhs.value.bind fun left => rhs.value.bind fun right => left.apply op right

@[simp] theorem tokens_number (v : Number) : (number v).tokens = [.number v] := rfl

@[simp] theorem tokens_group (inner : Phrase .expr) :
    (group inner).tokens = .openParen :: (inner.tokens ++ [.closeParen]) := rfl

@[simp] theorem tokens_single {level : Precedence} (operand : Phrase level.operand) :
    (single operand).tokens = operand.tokens := rfl

@[simp] theorem tokens_apply {level : Precedence} (lhs : Phrase (.chain level)) (op : Operator)
    (fits : op.precedence = level) (rhs : Phrase level.operand) :
    (apply lhs op fits rhs).tokens = lhs.tokens ++ .operator op :: rhs.tokens := rfl

@[simp] theorem depth_number (v : Number) : (number v).depth = 0 := rfl

@[simp] theorem depth_group (inner : Phrase .expr) : (group inner).depth = inner.depth + 1 := rfl

@[simp] theorem depth_single {level : Precedence} (operand : Phrase level.operand) :
    (single operand).depth = operand.depth := rfl

@[simp] theorem depth_apply {level : Precedence} (lhs : Phrase (.chain level)) (op : Operator)
    (fits : op.precedence = level) (rhs : Phrase level.operand) :
    (apply lhs op fits rhs).depth = max lhs.depth rhs.depth := rfl

theorem value_apply_of_ok {level : Precedence} {lhs : Phrase (.chain level)} {op : Operator}
    {fits : op.precedence = level} {rhs : Phrase level.operand} {left right : Number}
    (hl : lhs.value = .ok left) (hr : rhs.value = .ok right) :
    (apply lhs op fits rhs).value = left.apply op right := by
  simp only [value, hl, hr, Except.bind]

/-- A phrase of every kind: a literal, with nothing around it. -/
def ofNumber (v : Number) : (kind : Kind) → Phrase kind
  | .factor => number v
  | .chain .product => @single .product (number v)
  | .chain .sum => @single .sum (@single .product (number v))

@[simp] theorem depth_ofNumber (v : Number) (kind : Kind) : (ofNumber v kind).depth = 0 := by
  rcases kind with _ | _ | _ <;> rfl

end Phrase

/-! ### Sentences and their beginnings -/

/-- The tokens make an expression with at most `limit` parentheses inside one another. -/
def Sentence (limit : Nat) (word : List Token) : Prop :=
  ∃ phrase : Phrase .expr, phrase.tokens = word ∧ phrase.depth ≤ limit

/-- The tokens begin a sentence. -/
def Viable (limit : Nat) (word : List Token) : Prop := ∃ rest, Sentence limit (word ++ rest)

theorem Sentence.viable {limit : Nat} {word : List Token} (h : Sentence limit word) :
    Viable limit word := ⟨[], by rw [List.append_nil]; exact h⟩

theorem Viable.of_append {limit : Nat} {word rest : List Token} (h : Viable limit (word ++ rest)) :
    Viable limit word := by
  obtain ⟨more, h⟩ := h
  exact ⟨rest ++ more, by rw [← List.append_assoc]; exact h⟩

end Calculator
