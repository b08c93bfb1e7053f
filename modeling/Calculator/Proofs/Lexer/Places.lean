import Calculator.Proofs.Lexeme.Places
import Calculator.Proofs.Lexer.Tokens
import Calculator.Proofs.Position.Lines

/-! # The places of tokens and errors

Whatever a fresh lexer places lies in its source: both ends of each of its tokens, and of the error
that it may give. Such a position is fixed by its index (`Position.Within.eq`). No line feed stands
before a word of the scan or in it, so both ends of its token are on the first line, with the column
equal to the index.

* `within_of_tokens`, `within_of_tokens_error`: the tokens and the error are placed in the source.
* `Position.Within.at_start`, `Position.Within.at_stop`: the positions around a word.
* `exists_split`: the words before that of a token are those of the tokens before it.
* `count_of_gives`: the parentheses of a text are those among its tokens. -/

namespace Calculator

/-- The position is one of the source, reached from its first character. -/
def Position.Within (source : Source) (p : Position) : Prop :=
  ∃ passed rest, passed ++ rest = source.text.toList ∧ p = (Position.first source).pass passed

/-- Both ends of the token are positions of the source. -/
def Placed.Within (source : Source) (placed : Placed) : Prop :=
  placed.start.Within source ∧ placed.stop.Within source

/-- Both ends of the error are positions of the source. -/
def Error.Within (source : Source) (e : Error) : Prop :=
  e.start.Within source ∧ e.stop.Within source

/-- **A position of the source is fixed by its index.** -/
theorem Position.Within.eq {source : Source} {p : Position} (h : p.Within source)
    {passed rest : List Char} (htext : source.text.toList = passed ++ rest)
    (hp : p.index = passed.length) : p = (Position.first source).pass passed := by
  obtain ⟨before, after, hsplit, rfl⟩ := h
  have hlength : before.length = passed.length := by
    rw [Position.index_pass_first] at hp
    exact Int.ofNat_inj.1 hp
  rw [htext] at hsplit
  rw [(List.append_inj hsplit hlength).1]

theorem Position.Within.first_line {source : Source} {p : Position} (h : p.Within source)
    {passed rest : List Char} (htext : source.text.toList = passed ++ rest)
    (hp : p.index = passed.length) (hline : ∀ c ∈ passed, c ≠ '\n') :
    p = ⟨passed.length, 0, passed.length, source⟩ := by
  rw [h.eq htext hp, pass_first hline]

/-! ### What the lexer places -/

namespace Lexer

variable {source : Source} {l : Lexer}

theorem Within.position (h : l.Within source) : l.position.Within source := by
  obtain ⟨passed, rest, htext, rfl⟩ := h
  exact ⟨passed, rest, htext, rfl⟩

theorem Within.read_ok (h : l.Within source) {piece : Piece} {placed : Placed}
    (hr : (l.read piece).result = .ok placed) : placed.Within source := by
  have hbefore := h.seek piece.start
  have hafter := hbefore.seek piece.stop
  unfold Lexer.read at hr
  split at hr <;> cases hr
  exact ⟨hbefore.position, hafter.position⟩

theorem Within.read_error (h : l.Within source) {piece : Piece} {e : Error}
    (hr : (l.read piece).result = .error e) : e.Within source := by
  have hbefore := h.seek piece.start
  have hafter := hbefore.seek piece.stop
  unfold Lexer.read at hr
  split at hr <;> cases hr
  · exact ⟨hbefore.position, hafter.position⟩
  · exact ⟨hbefore.position, hbefore.advance.position⟩

theorem Within.readAll_ok (h : l.Within source) {pieces : List Piece} {tokens : Array Placed}
    (hr : (l.readAll pieces).result = .ok tokens) : ∀ placed ∈ tokens, placed.Within source := by
  induction pieces generalizing l tokens with
  | nil =>
    cases hr
    simp
  | cons piece pieces ih =>
    rw [readAll_cons] at hr
    cases hfirst : (l.read piece).result with
    | error e =>
      rw [Outcome.result_bind_of_error hfirst] at hr
      cases hr
    | ok first =>
      rw [Outcome.result_bind_of_ok hfirst, Outcome.result_map] at hr
      cases hrest : ((l.read piece).state.readAll pieces).result with
      | error e =>
        rw [hrest] at hr
        cases hr
      | ok more =>
        rw [hrest] at hr
        cases hr
        intro placed hmem
        rcases Array.mem_append.1 hmem with hmem | hmem
        · obtain rfl : placed = first := by simpa using hmem
          exact h.read_ok hfirst
        · exact ih (h.read piece) hrest placed hmem

theorem Within.readAll_error (h : l.Within source) {pieces : List Piece} {e : Error}
    (hr : (l.readAll pieces).result = .error e) : e.Within source := by
  induction pieces generalizing l with
  | nil => cases hr
  | cons piece pieces ih =>
    rw [readAll_cons] at hr
    cases hfirst : (l.read piece).result with
    | error e' =>
      rw [Outcome.result_bind_of_error hfirst] at hr
      cases hr
      exact h.read_error hfirst
    | ok first =>
      rw [Outcome.result_bind_of_ok hfirst, Outcome.result_map_eq_error_iff] at hr
      exact ih (h.read piece) hr

theorem Within.tokens_ok (h : l.Within source) {tokens : List Placed}
    (hr : l.tokens.result = .ok tokens) : ∀ placed ∈ tokens, placed.Within source := by
  obtain ⟨read, hread, rfl⟩ := readAll_of_tokens hr
  intro placed hmem
  exact h.readAll_ok hread placed (Array.mem_toList_iff.1 hmem)

theorem Within.tokens_error (h : l.Within source) {e : Error}
    (hr : l.tokens.result = .error e) : e.Within source :=
  h.readAll_error (readAll_of_tokens_error hr)

theorem within_of_tokens {tokens : List Placed} (h : (start source).tokens.result = .ok tokens) :
    ∀ placed ∈ tokens, placed.Within source :=
  (within_start source).tokens_ok h

theorem within_of_tokens_error {e : Error} (h : (start source).tokens.result = .error e) :
    e.Within source :=
  (within_start source).tokens_error h

end Lexer

/-! ### The places of words -/

section Words

variable {source : Source} {words : List Stretch} {stuck : Option Nat} {w : Stretch} {p : Position}

theorem Position.Within.at_start (h : p.Within source) (hs : Scan 0 source.text.toList words stuck)
    (hw : w ∈ words) (hp : p.index = w.start) : p = ⟨w.start, 0, w.start, source⟩ := by
  obtain ⟨before, after, hwords⟩ := List.append_of_mem hw
  obtain ⟨passed, rest, htext, hstart, -, -, hscan⟩ := hs.around hwords
  rw [← hstart] at hp ⊢
  exact h.first_line htext hp hscan.ne_lineFeed

theorem Position.Within.at_stop (h : p.Within source) (hs : Scan 0 source.text.toList words stuck)
    (hw : w ∈ words) (hp : p.index = w.stop) : p = ⟨w.stop, 0, w.stop, source⟩ := by
  obtain ⟨before, after, hwords⟩ := List.append_of_mem hw
  obtain ⟨passed, rest, htext, -, hstop, hl, hscan⟩ := hs.around hwords
  rw [← List.append_assoc] at htext
  rw [← hstop] at hp ⊢
  exact h.first_line htext hp (hscan.ne_lineFeed_word hl.1)

theorem Scan.stop_le (hs : Scan 0 source.text.toList words stuck) (hw : w ∈ words) :
    w.stop ≤ source.text.length := by
  obtain ⟨before, after, hwords⟩ := List.append_of_mem hw
  obtain ⟨passed, rest, htext, -, hstop, -⟩ := hs.around hwords
  rw [← String.length_toList, htext, ← List.append_assoc, List.length_append, hstop]
  omega

end Words

/-! ### The tokens of the words before -/

/-- The tokens before one of them are those of the words before its word. -/
theorem exists_split {words : List Stretch} {before rest : List Placed} {found : Placed}
    (h : List.Forall₂ Stretch.Gives words (before ++ found :: rest)) :
    ∃ front w back, words = front ++ w :: back ∧ List.Forall₂ Stretch.Gives front before ∧
      w.Gives found := by
  have hfront := List.forall₂_take_append _ _ _ h
  have hback := List.forall₂_drop_append _ _ _ h
  have hwords := List.take_append_drop before.length words
  generalize words.take before.length = front at hfront hwords
  generalize words.drop before.length = back at hback hwords
  cases hback with
  | cons hgives _ => exact ⟨front, _, _, hwords.symm, hfront, hgives⟩

/-- A character that stands in the words of one token only, and there once, occurs as often as the
token. -/
theorem count_of_gives {words : List Stretch} {tokens : List Placed} {c : Char} {token : Token}
    (hc : ∀ {word : List Char} {other : Token}, Spells word other →
      word.count c = if other = token then 1 else 0)
    (h : List.Forall₂ Stretch.Gives words tokens) :
    (words.flatMap Stretch.chars).count c =
      (tokens.map Placed.token).countP fun other => other = token := by
  induction h with
  | nil => rfl
  | @cons w placed words tokens hgives _ ih =>
    rw [List.flatMap_cons, List.count_append, ih, hc hgives.spells, List.map_cons, List.countP_cons,
      Nat.add_comm]
    simp only [decide_eq_true_eq]

theorem count_eq_zero_of_literal {c : Char} (hdigit : ¬ c.isDigit) (hpoint : c ≠ '.')
    {word : List Char} {value : Number} (h : Spells word (.number value)) : word.count c = 0 := by
  refine List.count_eq_zero.2 fun hmem => ?_
  cases h with
  | integer hdigits _ => exact hdigit (hdigits c hmem)
  | decimal hwhole hfraction =>
    rcases List.mem_append.1 hmem with hmem | hmem
    · exact hdigit (hwhole c hmem)
    · rcases List.mem_cons.1 hmem with hmem | hmem
      · exact hpoint hmem
      · exact hdigit (hfraction c hmem)

theorem count_parens {word : List Char} {token : Token} (h : Spells word token) :
    word.count '(' = (if token = .openParen then 1 else 0) ∧
      word.count ')' = if token = .closeParen then 1 else 0 := by
  cases token with
  | number value =>
    exact ⟨count_eq_zero_of_literal (by decide) (by decide) h,
      count_eq_zero_of_literal (by decide) (by decide) h⟩
  | operator op =>
    cases h
    cases op <;> decide
  | openParen =>
    cases h
    decide
  | closeParen =>
    cases h
    decide

end Calculator
