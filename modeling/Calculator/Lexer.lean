import Calculator.Lexeme
import Calculator.Outcome

/-! # The lexer

A lexer is a cursor in a source: the position of a character, the bytes before it, and the text from
it on. Reading the tokens scans the whole text anew and leads the cursor along to the places of the
pieces. The cursor never moves backwards, so a second reading puts everything that lies behind the
cursor at the cursor. The section on places says that a cursor reached from the start is fixed by
the characters that it has passed. -/

namespace Calculator

/-- A cursor in a source. -/
structure Lexer where
  /-- The position of the character under the cursor. -/
  position : Position
  /-- The number of bytes before that character. -/
  offset : Nat
  /-- The text from that character on. -/
  rest : List Char
  deriving DecidableEq, Repr

namespace Lexer

/-- The cursor on the first character of a source. -/
def start (source : Source) : Lexer := ⟨.first source, 0, source.text.toList⟩

/-- The character under the cursor; none at the end of the text. -/
def current? (l : Lexer) : Option Char := l.rest.head?

/-- The cursor one character further on. -/
def advance (l : Lexer) : Lexer :=
  match l.rest with
  | [] => l
  | c :: rest => ⟨l.position.advance (some c), l.offset + c.utf8Size, rest⟩

/-- The cursor on the first character of `rest` that has `target` bytes before it, or on the first
one if it has as many already. -/
def seekFrom (target : Nat) : Position → Nat → List Char → Lexer
  | position, offset, [] => ⟨position, offset, []⟩
  | position, offset, c :: rest =>
    if offset < target then
      seekFrom target (position.advance (some c)) (offset + c.utf8Size) rest
    else ⟨position, offset, c :: rest⟩

/-- Move forward until `target` bytes lie behind, if they do not already. -/
def seek (l : Lexer) (target : Nat) : Lexer := seekFrom target l.position l.offset l.rest

/-- Fail at the character under the cursor and step over it. -/
def illegal {α : Type} (l : Lexer) : Outcome Lexer α :=
  let error := Error.illegal l.current? l.position l.advance.position
  ⟨.error error, l.advance, #[.illegalCharacter error.details l.position.index]⟩

/-- Lead the cursor over a piece of the text, and place its token. -/
def read (l : Lexer) (piece : Piece) : Outcome Lexer Placed :=
  let before := l.seek piece.start
  let after := before.seek piece.stop
  match piece.token with
  | .ok token =>
    ⟨.ok ⟨token, before.position, after.position⟩, after, #[.token token before.position.index]⟩
  | .error (.literalTooLarge digits) =>
    .fail (.tooLarge digits before.position after.position) after
  | .error .unrecognized => before.illegal

/-- Read the pieces one after the other. -/
def readAll (l : Lexer) (pieces : List Piece) : Outcome Lexer (Array Placed) :=
  pieces.foldl (fun sofar piece =>
    sofar.bind fun tokens l => (l.read piece).map tokens.push) (.give #[] l)

/-- Read the tokens of the whole text and leave the cursor at its end; or fail at the first piece
that makes no token. -/
def tokens (l : Lexer) : Outcome Lexer (List Placed) :=
  let text := l.position.source.text.toList
  (l.readAll (Piece.scan text)).bind fun tokens l =>
    ⟨.ok tokens.toList, l.seek (utf8Length text), #[.lexed tokens.size]⟩

/-! ### Places -/

/-- The cursor after the characters `passed`, before the characters `rest`. -/
def between (source : Source) (passed rest : List Char) : Lexer :=
  ⟨(Position.first source).pass passed, utf8Length passed, rest⟩

theorem start_eq_between (source : Source) : start source = between source [] source.text.toList :=
  rfl

theorem advance_between (source : Source) (passed : List Char) (c : Char) (rest : List Char) :
    (between source passed (c :: rest)).advance = between source (passed ++ [c]) rest := by
  simp [advance, between, Position.pass_append, utf8Length_append]

theorem advance_between_nil (source : Source) (passed : List Char) :
    (between source passed []).advance = between source passed [] := rfl

theorem seek_of_le {l : Lexer} {target : Nat} (h : target ≤ l.offset) : l.seek target = l := by
  rcases l with ⟨position, offset, _ | ⟨c, rest⟩⟩
  · rfl
  · simp only at h
    simp [seek, seekFrom, Nat.not_lt.2 h]

/-- A target right behind some of the characters ahead leads over just those. -/
theorem seek_between (source : Source) (passed ahead rest : List Char) :
    (between source passed (ahead ++ rest)).seek (utf8Length (passed ++ ahead)) =
      between source (passed ++ ahead) rest := by
  induction ahead generalizing passed with
  | nil =>
    rw [List.append_nil, List.nil_append]
    exact seek_of_le (Nat.le_refl (utf8Length passed))
  | cons c ahead ih =>
    have step : utf8Length passed < utf8Length (passed ++ c :: ahead) := by
      have := c.utf8Size_pos
      simp [utf8Length_append]; omega
    have rest_eq := ih (passed ++ [c])
    rw [List.append_assoc] at rest_eq
    rw [← List.singleton_append, ← rest_eq, ← advance_between]
    simp only [seek, between, List.cons_append, seekFrom, step, advance, if_true,
      List.nil_append]

end Lexer

end Calculator
