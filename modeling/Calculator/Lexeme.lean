import Calculator.Token

/-! # Lexemes

The scan of a text, apart from any position. At a character that is neither a space nor a tab the
scan takes the longest lexeme: digits, digits with one decimal point among them or at either end, or
one symbol. The text that follows a lexeme is scanned anew, so a second point begins another
literal. A character that begins no lexeme, a point without digits among them, ends the scan. -/

namespace Calculator

/-- A stretch of text that makes one token. -/
inductive Lexeme where
  /-- A literal without a decimal point. -/
  | integer (digits : List Char)
  /-- A literal with a decimal point between two runs of digits, not both empty. -/
  | decimal (whole fraction : List Char)
  | operator (op : Operator)
  | openParen
  | closeParen
  deriving DecidableEq, Repr

/-- Why a piece of text makes no token. -/
inductive Lexeme.Fault where
  /-- No lexeme begins here. -/
  | unrecognized
  /-- The literal does not fit in 64 bits. -/
  | literalTooLarge (digits : List Char)
  deriving DecidableEq, Repr

instance : Inhabited Lexeme.Fault := ⟨.unrecognized⟩

namespace Lexeme

/-- The characters of a lexeme. -/
def chars : Lexeme → List Char
  | integer digits => digits
  | decimal whole fraction => whole ++ '.' :: fraction
  | operator op => [op.symbol]
  | openParen => ['(']
  | closeParen => [')']

/-- The token that a lexeme makes. -/
def token : Lexeme → Except Fault Token
  | integer digits =>
    match Number.integer? (Decimal.valueOf digits) with
    | some value => .ok (.number value)
    | none => .error (.literalTooLarge digits)
  | decimal whole fraction => .ok (.number (.float (Decimal.read whole fraction)))
  | operator op => .ok (.operator op)
  | openParen => .ok .openParen
  | closeParen => .ok .closeParen

/-! ### The longest lexeme -/

/-- The longest literal at the head of a text. -/
def literal? (text : List Char) : Option Lexeme :=
  let whole := text.takeWhile Char.isDigit
  match text.dropWhile Char.isDigit with
  | '.' :: rest =>
    let fraction := rest.takeWhile Char.isDigit
    if whole = [] ∧ fraction = [] then none else some (.decimal whole fraction)
  | _ => if whole = [] then none else some (.integer whole)

/-- The lexeme of one symbol. -/
def symbol? (c : Char) : Option Lexeme :=
  if c = '(' then some .openParen
  else if c = ')' then some .closeParen
  else (Operator.ofSymbol? c).map .operator

/-- The longest lexeme at the head of a text. -/
def first? : List Char → Option Lexeme
  | [] => none
  | c :: rest => (symbol? c).or (literal? (c :: rest))

/-- Spaces and tabs separate lexemes and make none. -/
def isBlank (c : Char) : Bool := c = ' ' || c = '\t'

theorem prefix_of_literal? {text : List Char} {lexeme : Lexeme} (h : literal? text = some lexeme) :
    lexeme.chars <+: text ∧ lexeme.chars ≠ [] := by
  have split : text.takeWhile Char.isDigit ++ text.dropWhile Char.isDigit = text :=
    List.takeWhile_append_dropWhile
  unfold literal? at h
  split at h
  · next rest hrest =>
    simp only at h
    split at h
    · cases h
    · cases h
      refine ⟨⟨rest.dropWhile Char.isDigit, ?_⟩, by simp [chars]⟩
      rw [hrest] at split
      simp only [chars, List.append_assoc, List.cons_append, List.takeWhile_append_dropWhile]
      exact split
  · simp only at h
    split at h
    · cases h
    · next hw =>
      cases h
      exact ⟨⟨_, split⟩, hw⟩

/-- A lexeme stands at the head of the text that it was found in, and is not empty. -/
theorem prefix_of_first? {text : List Char} {lexeme : Lexeme} (h : first? text = some lexeme) :
    lexeme.chars <+: text ∧ lexeme.chars ≠ [] := by
  match text with
  | [] => cases h
  | c :: rest =>
    simp only [first?, Option.or_eq_some_iff] at h
    rcases h with h | ⟨-, h⟩
    · unfold symbol? at h
      split at h
      · next hc => cases h; subst hc; exact ⟨⟨rest, rfl⟩, by simp [chars]⟩
      split at h
      · next hc => cases h; subst hc; exact ⟨⟨rest, rfl⟩, by simp [chars]⟩
      obtain ⟨op, hop, rfl⟩ := Option.map_eq_some_iff.1 h
      rw [Operator.ofSymbol?_eq_some_iff] at hop
      subst hop
      exact ⟨⟨rest, rfl⟩, by simp [chars]⟩
    · exact prefix_of_literal? h

end Lexeme

/-- A place where the scan stops over blanks, and the lexeme there; the scan ends where there is
none. -/
structure Piece where
  /-- The number of bytes before the place. -/
  start : Nat
  lexeme : Option Lexeme
  deriving DecidableEq, Repr

namespace Piece

/-- The number of bytes before the end of the lexeme. -/
def stop (piece : Piece) : Nat :=
  piece.start + ((piece.lexeme.map fun lexeme => utf8Length lexeme.chars).getD 0)

/-- The token of a piece. -/
def token (piece : Piece) : Except Lexeme.Fault Token :=
  match piece.lexeme with
  | some lexeme => lexeme.token
  | none => .error default

/-- The scan of a text that `offset` bytes precede, from the character after the next `inside`
characters, which belong to the lexeme before. -/
def scanFrom : (inside offset : Nat) → List Char → List Piece
  | _, _, [] => []
  | inside + 1, offset, c :: rest => scanFrom inside (offset + c.utf8Size) rest
  | 0, offset, c :: rest =>
    if Lexeme.isBlank c then scanFrom 0 (offset + c.utf8Size) rest
    else
      match Lexeme.first? (c :: rest) with
      | none => [⟨offset, none⟩]
      | some lexeme =>
        ⟨offset, some lexeme⟩ ::
          scanFrom (lexeme.chars.length - 1) (offset + c.utf8Size) rest

/-- The pieces of a text from left to right. -/
def scan (text : List Char) : List Piece := scanFrom 0 0 text

/-! ### Equations of the scan -/

/-- The characters inside a lexeme are passed over. -/
theorem scanFrom_append (inside rest : List Char) (offset : Nat) :
    scanFrom inside.length offset (inside ++ rest) =
      scanFrom 0 (offset + utf8Length inside) rest := by
  induction inside generalizing offset with
  | nil => simp
  | cons c inside ih => simp [scanFrom, ih, Nat.add_assoc]

theorem scanFrom_blank {c : Char} (hc : Lexeme.isBlank c) (offset : Nat) (rest : List Char) :
    scanFrom 0 offset (c :: rest) = scanFrom 0 (offset + c.utf8Size) rest := by
  simp [scanFrom, hc]

theorem scanFrom_none {c : Char} {rest : List Char} (hc : Lexeme.isBlank c = false)
    (h : Lexeme.first? (c :: rest) = none) (offset : Nat) :
    scanFrom 0 offset (c :: rest) = [⟨offset, none⟩] := by
  simp [scanFrom, hc, h]

/-- A lexeme is one piece, and the scan goes on after it. -/
theorem scanFrom_lexeme {c : Char} {text rest : List Char} {lexeme : Lexeme}
    (hc : Lexeme.isBlank c = false) (h : Lexeme.first? (c :: text) = some lexeme)
    (hrest : c :: text = lexeme.chars ++ rest) (offset : Nat) :
    scanFrom 0 offset (c :: text) =
      ⟨offset, some lexeme⟩ :: scanFrom 0 (offset + utf8Length lexeme.chars) rest := by
  match hl : lexeme.chars, (Lexeme.prefix_of_first? h).2 with
  | d :: inside, _ =>
    rw [hl] at hrest
    obtain rfl : c = d := (List.cons.inj hrest).1
    have htext : text = inside ++ rest := (List.cons.inj hrest).2
    rw [htext] at h ⊢
    simp [scanFrom, hc, h, hl, scanFrom_append, Nat.add_assoc]

end Piece

end Calculator
