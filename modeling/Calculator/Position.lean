import Calculator.Source

/-! # Positions in a source

A position counts the characters passed so far and keeps the line and the column that they lead to,
all counted from zero. A fresh position stands before the first character, at `-1`; the first
advance brings it onto that character. Passing a line feed opens the next line at column zero, so
the column of every character is its distance from the last line feed before it. -/

namespace Calculator

/-- A place in a source. -/
structure Position where
  /-- The number of characters before this place; `-1` before the first advance. -/
  index : Int
  /-- The number of line feeds before this place. -/
  line : Nat
  /-- The number of characters between the last line feed and this place. -/
  column : Int
  /-- The source that the position addresses. -/
  source : Source
  deriving DecidableEq, Repr

namespace Position

/-- The position before the first character. -/
def start (source : Source) : Position := ⟨-1, 0, -1, source⟩

/-- The position after one more step, over the character `passed` if there is one. -/
def advance (p : Position) (passed : Option Char) : Position :=
  if passed = some '\n' then { p with index := p.index + 1, line := p.line + 1, column := 0 }
  else { p with index := p.index + 1, column := p.column + 1 }

/-- The position on the first character. -/
def first (source : Source) : Position := (start source).advance none

/-- The position after passing each of the characters. -/
def pass (p : Position) (passed : List Char) : Position :=
  passed.foldl (fun p c => p.advance (some c)) p

@[simp] theorem source_advance (p : Position) (passed : Option Char) :
    (p.advance passed).source = p.source := by unfold advance; split <;> rfl

@[simp] theorem index_advance (p : Position) (passed : Option Char) :
    (p.advance passed).index = p.index + 1 := by unfold advance; split <;> rfl

@[simp] theorem pass_nil (p : Position) : p.pass [] = p := rfl

@[simp] theorem pass_cons (p : Position) (c : Char) (rest : List Char) :
    p.pass (c :: rest) = (p.advance (some c)).pass rest := rfl

theorem pass_append (p : Position) (left right : List Char) :
    p.pass (left ++ right) = (p.pass left).pass right := List.foldl_append

@[simp] theorem source_pass (p : Position) (passed : List Char) :
    (p.pass passed).source = p.source := by
  induction passed generalizing p with
  | nil => rfl
  | cons c rest ih => simp [ih]

theorem index_pass (p : Position) (passed : List Char) :
    (p.pass passed).index = p.index + passed.length := by
  induction passed generalizing p with
  | nil => simp
  | cons c rest ih => simp [ih]; omega

theorem index_pass_first (source : Source) (passed : List Char) :
    ((first source).pass passed).index = passed.length := by
  simp [index_pass, first, start]

end Position

/-- The position `steps` advances beyond `p`, over the characters of `text` while they last. -/
def Position.walk (p : Position) : Nat → List Char → Position
  | 0, _ => p
  | steps + 1, [] => (p.advance none).walk steps []
  | steps + 1, c :: rest => (p.advance (some c)).walk steps rest

/-- The position at an index of the source; every negative index is before the first character,
and an index beyond the end goes on without characters. -/
def Source.position (source : Source) : Int → Position
  | .negSucc _ => .start source
  | .ofNat steps => (Position.first source).walk steps source.text.toList

end Calculator
