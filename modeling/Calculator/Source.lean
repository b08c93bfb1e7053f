/-! # Sources

A text to evaluate, under the name that errors call it by. -/

namespace Calculator

/-- A named text. -/
structure Source where
  /-- The label that rendered errors carry. -/
  name : String
  /-- The text to evaluate. -/
  text : String
  deriving DecidableEq, Repr

/-- The number of bytes that a list of characters takes up in UTF-8. -/
def utf8Length : List Char → Nat
  | [] => 0
  | c :: rest => c.utf8Size + utf8Length rest

@[simp] theorem utf8Length_nil : utf8Length [] = 0 := rfl

@[simp] theorem utf8Length_cons (c : Char) (rest : List Char) :
    utf8Length (c :: rest) = c.utf8Size + utf8Length rest := rfl

theorem utf8Length_append (left right : List Char) :
    utf8Length (left ++ right) = utf8Length left + utf8Length right := by
  induction left with
  | nil => simp
  | cons c left ih => simp [ih, Nat.add_assoc]

end Calculator
