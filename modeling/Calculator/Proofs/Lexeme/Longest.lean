import Calculator.Lexeme
import Mathlib.Data.List.TakeWhile

/-! # The longest match at the head of a text

What the lexer has to find, apart from how it looks for it. A `Pattern` is a word of

    [0-9]+    [0-9]+ \. [0-9]*    \. [0-9]+    + - * / ( )

and a word is `Longest` at the head of a text if it is a pattern, begins the text, and no pattern
that begins the text is longer. A pattern `Spells` its token; digits alone may be `TooLarge` for an
integer and then spell none.

* `longest_of_first?`, `first?_of_longest`, `first?_eq_none_iff`: `Lexeme.first?` finds the longest
  match, if there is any.
* `token_cases`: the lexeme found makes the token that its characters spell, or they are too
  large. -/

namespace Calculator

/-- A word that makes a token. -/
inductive Pattern : List Char → Prop
  /-- Digits. -/
  | integer {digits : List Char} (hne : digits ≠ []) (hdigits : ∀ c ∈ digits, c.isDigit) :
    Pattern digits
  /-- Digits around a point, not all of them missing. -/
  | decimal {whole fraction : List Char} (hwhole : ∀ c ∈ whole, c.isDigit)
    (hfraction : ∀ c ∈ fraction, c.isDigit) (hne : whole ≠ [] ∨ fraction ≠ []) :
    Pattern (whole ++ '.' :: fraction)
  /-- An operator or a parenthesis. -/
  | symbol {c : Char} (hc : c ∈ ['+', '-', '*', '/', '(', ')']) : Pattern [c]

/-- The word is the longest pattern that the text begins with. -/
def Longest (text word : List Char) : Prop :=
  Pattern word ∧ word <+: text ∧
    ∀ other, Pattern other → other <+: text → other.length ≤ word.length

/-- Digits whose value is beyond `2^63 - 1`, the largest integer. -/
def TooLarge (word : List Char) : Prop :=
  (∀ c ∈ word, c.isDigit) ∧ 9223372036854775807 < Decimal.valueOf word

/-- The token that a word stands for. -/
inductive Spells : List Char → Token → Prop
  | integer {digits : List Char} {n : Int64} (hdigits : ∀ c ∈ digits, c.isDigit)
    (hn : n.toInt = Decimal.valueOf digits) : Spells digits (.number (.integer n))
  | decimal {whole fraction : List Char} (hwhole : ∀ c ∈ whole, c.isDigit)
    (hfraction : ∀ c ∈ fraction, c.isDigit) :
    Spells (whole ++ '.' :: fraction) (.number (.float (Decimal.read whole fraction)))
  | operator (op : Operator) : Spells [op.symbol] (.operator op)
  | openParen : Spells ['('] .openParen
  | closeParen : Spells [')'] .closeParen

theorem Pattern.ne_nil {word : List Char} (h : Pattern word) : word ≠ [] := by
  cases h with
  | integer hne _ => exact hne
  | decimal _ _ _ => simp
  | symbol _ => simp

/-- **A text has at most one longest match.** -/
theorem Longest.unique {text word other : List Char} (h : Longest text word)
    (ho : Longest text other) : word = other := by
  obtain ⟨hw, hp, hmax⟩ := h
  obtain ⟨hw', hp', hmax'⟩ := ho
  have hlen : word.length = other.length :=
    Nat.le_antisymm (hmax' word hw hp) (hmax other hw' hp')
  exact (List.prefix_of_prefix_length_le hp hp' hlen.le).eq_of_length hlen

namespace Lexeme

/-! ### Symbols and digits -/

theorem symbol?_isSome_iff {c : Char} :
    (symbol? c).isSome ↔ c ∈ ['+', '-', '*', '/', '(', ')'] := by
  constructor
  · intro h
    obtain ⟨lexeme, hl⟩ := Option.isSome_iff_exists.1 h
    unfold symbol? at hl
    split at hl
    · next hc => subst hc; decide
    split at hl
    · next hc => subst hc; decide
    obtain ⟨op, hop, rfl⟩ := Option.map_eq_some_iff.1 hl
    rw [Operator.ofSymbol?_eq_some_iff] at hop
    subst hop
    cases op <;> decide
  · intro h
    simp only [List.mem_cons, List.not_mem_nil, or_false] at h
    rcases h with rfl | rfl | rfl | rfl | rfl | rfl <;> rfl

theorem symbol?_of_isDigit {c : Char} (h : c.isDigit) : symbol? c = none := by
  by_contra hne
  have hmem := symbol?_isSome_iff.1 (Option.isSome_iff_ne_none.2 hne)
  simp only [List.mem_cons, List.not_mem_nil, or_false] at hmem
  rcases hmem with rfl | rfl | rfl | rfl | rfl | rfl <;> exact absurd h (by decide)

theorem symbol?_head_decimal {whole tail rest : List Char} {c : Char}
    (hwhole : ∀ c ∈ whole, c.isDigit) (h : whole ++ '.' :: tail = c :: rest) :
    symbol? c = none := by
  cases whole with
  | nil =>
    obtain rfl : '.' = c := (List.cons.inj h).1
    rfl
  | cons d whole =>
    obtain rfl : d = c := (List.cons.inj h).1
    exact symbol?_of_isDigit (hwhole d (List.mem_cons_self ..))

/-! ### What is found is a pattern -/

/-- The parts of a lexeme are what their names say. -/
def WellFormed : Lexeme → Prop
  | integer digits => digits ≠ [] ∧ ∀ c ∈ digits, c.isDigit
  | decimal whole fraction => (∀ c ∈ whole, c.isDigit) ∧ (∀ c ∈ fraction, c.isDigit) ∧
      (whole ≠ [] ∨ fraction ≠ [])
  | operator _ => True
  | openParen => True
  | closeParen => True

theorem WellFormed.pattern : ∀ {lexeme : Lexeme}, lexeme.WellFormed → Pattern lexeme.chars
  | integer _, ⟨hne, hdigits⟩ => .integer hne hdigits
  | decimal _ _, ⟨hwhole, hfraction, hne⟩ => .decimal hwhole hfraction hne
  | operator op, _ => .symbol (by cases op <;> decide)
  | openParen, _ => .symbol (by decide)
  | closeParen, _ => .symbol (by decide)

theorem wellFormed_of_literal? {text : List Char} {lexeme : Lexeme}
    (h : literal? text = some lexeme) : lexeme.WellFormed := by
  have hrun : ∀ l : List Char, ∀ c ∈ l.takeWhile Char.isDigit, c.isDigit :=
    fun l c hc => List.mem_takeWhile_imp hc
  unfold literal? at h
  split at h
  · next rest _ =>
    simp only at h
    split at h
    · cases h
    · next hne =>
      cases h
      exact ⟨hrun text, hrun rest, not_and_or.1 hne⟩
  · simp only at h
    split at h
    · cases h
    · next hne =>
      cases h
      exact ⟨hne, hrun text⟩

theorem wellFormed_of_first? {text : List Char} {lexeme : Lexeme}
    (h : first? text = some lexeme) : lexeme.WellFormed := by
  match text with
  | [] => cases h
  | c :: rest =>
    simp only [first?, Option.or_eq_some_iff] at h
    rcases h with h | ⟨-, h⟩
    · unfold symbol? at h
      split at h
      · cases h; trivial
      split at h
      · cases h; trivial
      obtain ⟨op, -, rfl⟩ := Option.map_eq_some_iff.1 h
      trivial
    · exact wellFormed_of_literal? h

/-! ### No pattern is longer -/

/-- Digits ahead are part of a literal at least as long. -/
theorem literal?_of_digits {digits : List Char} (hne : digits ≠ [])
    (hdigits : ∀ c ∈ digits, c.isDigit) (rest : List Char) :
    ∃ lexeme, literal? (digits ++ rest) = some lexeme ∧
      digits.length ≤ lexeme.chars.length := by
  have hrun : (digits ++ rest).takeWhile Char.isDigit =
      digits ++ rest.takeWhile Char.isDigit := List.takeWhile_append_of_pos hdigits
  have hne' : digits ++ rest.takeWhile Char.isDigit ≠ [] := by simp [hne]
  unfold literal?
  simp only [hrun]
  split
  · rw [if_neg fun hand => hne' hand.1]
    exact ⟨_, rfl, by simp [chars]⟩
  · rw [if_neg hne']
    exact ⟨_, rfl, by simp [chars]⟩

/-- Digits ahead around a point are part of a literal at least as long. -/
theorem literal?_of_decimal {whole fraction : List Char} (hwhole : ∀ c ∈ whole, c.isDigit)
    (hfraction : ∀ c ∈ fraction, c.isDigit) (hne : whole ≠ [] ∨ fraction ≠ [])
    (rest : List Char) :
    ∃ lexeme, literal? (whole ++ '.' :: fraction ++ rest) = some lexeme ∧
      (whole ++ '.' :: fraction).length ≤ lexeme.chars.length := by
  have hpoint : ¬ '.'.isDigit := by decide
  have hrun : (whole ++ '.' :: (fraction ++ rest)).takeWhile Char.isDigit = whole := by
    rw [List.takeWhile_append_of_pos hwhole, List.takeWhile_cons_of_neg hpoint, List.append_nil]
  have hdrop : (whole ++ '.' :: (fraction ++ rest)).dropWhile Char.isDigit =
      '.' :: (fraction ++ rest) := by
    rw [List.dropWhile_append_of_pos hwhole, List.dropWhile_cons_of_neg hpoint]
  have hfrac : (fraction ++ rest).takeWhile Char.isDigit =
      fraction ++ rest.takeWhile Char.isDigit := List.takeWhile_append_of_pos hfraction
  rw [List.append_assoc, List.cons_append]
  unfold literal?
  simp only [hrun, hdrop, hfrac]
  rw [if_neg]
  · exact ⟨_, rfl, by simp [chars]⟩
  · rintro ⟨rfl, hnil⟩
    rcases hne with hne | hne
    · exact hne rfl
    · exact hne (List.append_eq_nil_iff.1 hnil).1

/-- **Where a pattern begins a text, a lexeme at least as long is found.** -/
theorem first?_of_pattern {text word : List Char} (h : Pattern word) (hp : word <+: text) :
    ∃ lexeme, first? text = some lexeme ∧ word.length ≤ lexeme.chars.length := by
  obtain ⟨rest, rfl⟩ := hp
  cases h with
  | integer hne hdigits =>
    obtain ⟨lexeme, hl, hlen⟩ := literal?_of_digits hne hdigits rest
    obtain ⟨c, digits, rfl⟩ := List.exists_cons_of_ne_nil hne
    have hc : symbol? c = none := symbol?_of_isDigit (hdigits c (List.mem_cons_self ..))
    refine ⟨lexeme, ?_, hlen⟩
    rw [List.cons_append] at hl ⊢
    rw [first?, hc, Option.none_or, hl]
  | @decimal whole fraction hwhole hfraction hne =>
    obtain ⟨lexeme, hl, hlen⟩ := literal?_of_decimal hwhole hfraction hne rest
    obtain ⟨c, tail, hcons⟩ := List.exists_cons_of_ne_nil
      (show whole ++ '.' :: fraction ++ rest ≠ [] by simp)
    have hc : symbol? c = none := by
      rw [List.append_assoc, List.cons_append] at hcons
      exact symbol?_head_decimal hwhole hcons
    refine ⟨lexeme, ?_, hlen⟩
    rw [hcons] at hl ⊢
    rw [first?, hc, Option.none_or, hl]
  | @symbol c hc =>
    obtain ⟨lexeme, hl⟩ := Option.isSome_iff_exists.1 (symbol?_isSome_iff.2 hc)
    have hfirst : first? (c :: rest) = some lexeme := by rw [first?, hl, Option.some_or]
    refine ⟨lexeme, hfirst, ?_⟩
    exact List.length_pos_iff.2 (prefix_of_first? hfirst).2

/-- **The lexeme found is the longest match.** -/
theorem longest_of_first? {text : List Char} {lexeme : Lexeme} (h : first? text = some lexeme) :
    Longest text lexeme.chars := by
  refine ⟨(wellFormed_of_first? h).pattern, (prefix_of_first? h).1, ?_⟩
  intro other ho hp
  obtain ⟨found, hfound, hlen⟩ := first?_of_pattern ho hp
  obtain rfl : lexeme = found := Option.some.inj (h.symm.trans hfound)
  exact hlen

/-- **The longest match is the lexeme found.** -/
theorem first?_of_longest {text word : List Char} (h : Longest text word) :
    ∃ lexeme, first? text = some lexeme ∧ lexeme.chars = word := by
  obtain ⟨lexeme, hl, -⟩ := first?_of_pattern h.1 h.2.1
  exact ⟨lexeme, hl, (longest_of_first? hl).unique h⟩

theorem first?_eq_none_iff {text : List Char} :
    first? text = none ↔ ∀ word, Pattern word → ¬ word <+: text := by
  constructor
  · intro h word hw hp
    obtain ⟨lexeme, hl, -⟩ := first?_of_pattern hw hp
    rw [h] at hl
    cases hl
  · intro h
    by_contra hne
    obtain ⟨lexeme, hl⟩ := Option.ne_none_iff_exists'.1 hne
    exact h _ (longest_of_first? hl).1 (longest_of_first? hl).2.1

/-! ### The token of a lexeme -/

theorem not_tooLarge {word : List Char} {c : Char} (hc : c ∈ word) (hd : ¬ c.isDigit) :
    ¬ TooLarge word :=
  fun h => hd (h.1 c hc)

/-- **A lexeme makes the token that its characters spell, unless they are too large.** -/
theorem token_cases : ∀ {lexeme : Lexeme}, lexeme.WellFormed →
    (¬ TooLarge lexeme.chars ∧ ∃ token, lexeme.token = .ok token ∧ Spells lexeme.chars token) ∨
      (TooLarge lexeme.chars ∧ lexeme.token = .error (.literalTooLarge lexeme.chars))
  | integer digits, ⟨_, hdigits⟩ => by
    cases hv : Number.integer? (Decimal.valueOf digits) with
    | some value =>
      obtain ⟨n, rfl, hn⟩ := Number.integer?_eq_some_iff.1 hv
      have hle := n.toInt_le
      refine Or.inl ⟨?_, _, by simp only [token, hv], .integer hdigits hn⟩
      rintro ⟨-, hlt⟩
      have hmax : Int64.maxValue.toInt = 9223372036854775807 := rfl
      simp only [chars] at hlt
      omega
    | none =>
      have hfit := Number.integer?_eq_none_iff.1 hv
      rw [Number.fits_iff] at hfit
      refine Or.inr ⟨⟨hdigits, ?_⟩, by simp only [token, hv, chars]⟩
      simp only [chars]
      omega
  | decimal whole fraction, ⟨hwhole, hfraction, _⟩ =>
    Or.inl ⟨not_tooLarge (c := '.') (by simp [chars]) (by decide), _, rfl,
      .decimal hwhole hfraction⟩
  | operator op, _ =>
    Or.inl ⟨not_tooLarge (List.mem_singleton_self _) (by cases op <;> decide), _, rfl,
      .operator op⟩
  | openParen, _ =>
    Or.inl ⟨not_tooLarge (List.mem_singleton_self _) (by decide), _, rfl, .openParen⟩
  | closeParen, _ =>
    Or.inl ⟨not_tooLarge (List.mem_singleton_self _) (by decide), _, rfl, .closeParen⟩

end Lexeme

end Calculator
