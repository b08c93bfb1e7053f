import Calculator.Proofs.Lexeme.Places
import Calculator.Proofs.Lexer.Answer
import Calculator.Proofs.Phrase.Unique

/-! # Which readings fail, and how

What the answer to a scan says apart from places depends on the words alone and on the character
where the scan is stuck. `refusal?` gives the kind and the details of the failure, if there is one
(`Answer.refusal`), and passes over words that are not too large (`refusal?_append`). Each word
spells one token only (`Spells.unique`), so words that are the same give the same tokens. -/

namespace Calculator

instance (word : List Char) : Decidable (TooLarge word) := inferInstanceAs (Decidable (_ ∧ _))

/-- Why words, with this character behind them that begins none, are not read. -/
def refusal? (words : List (List Char)) (illegal : Option Char) : Option (Error.Kind × String) :=
  match words with
  | [] => illegal.map fun c => (.illegalCharacter, Text.quoteChar c)
  | word :: rest =>
    if TooLarge word then
      some (.literalTooLarge, String.ofList word ++ " does not fit in a 64-bit integer")
    else refusal? rest illegal

theorem refusal?_append (words more : List (List Char)) (illegal : Option Char) :
    refusal? (words ++ more) illegal = (refusal? words none).or (refusal? more illegal) := by
  induction words with
  | nil => rfl
  | cons word words ih =>
    rw [List.cons_append, refusal?, refusal?]
    split
    · rfl
    · exact ih

theorem refusal?_cons_symbol {c : Char} (hc : ¬ c.isDigit) (rest : List (List Char))
    (illegal : Option Char) : refusal? ([c] :: rest) illegal = refusal? rest illegal := by
  rw [refusal?, if_neg fun h => hc (h.1 c (List.mem_singleton_self c))]

/-- A character that begins no word is always refused, if no word before it is. -/
theorem refusal?_some_ne_none (words : List (List Char)) (c : Char) :
    refusal? words (some c) ≠ none := by
  induction words with
  | nil => simp [refusal?]
  | cons word words ih =>
    rw [refusal?]
    split
    · simp
    · exact ih

theorem Scan.eq_none_of_refusal? {text : List Char} {words : List Stretch} {stuck : Option Nat}
    (hs : Scan 0 text words stuck)
    (h : refusal? (words.map Stretch.chars) (stuck.bind fun place => text[place]?) = none) :
    stuck = none := by
  cases stuck with
  | none => rfl
  | some place =>
    obtain ⟨passed, c, rest, rfl, rfl, -⟩ := hs.before_stuck
    have hc : (passed ++ c :: rest)[0 + passed.length]? = some c := by simp
    rw [Option.bind_some, hc] at h
    exact absurd h (refusal?_some_ne_none _ c)

/-- What a failed reading says, apart from places. -/
def refusalOf : Except Error (List Placed) → Option (Error.Kind × String)
  | .ok _ => none
  | .error e => some (e.kind, e.details)

/-- **What a reading says is the refusal of its words.** -/
theorem Answer.refusal {text : List Char} {words : List Stretch} {stuck : Option Nat}
    {result : Except Error (List Placed)} (h : Answer text words stuck result) :
    refusal? (words.map Stretch.chars) (stuck.bind fun place => text[place]?) =
      refusalOf result := by
  induction h with
  | done => rfl
  | stuck he =>
    obtain ⟨c, hc, hdetails⟩ := he.details
    simp only [List.map_nil, Option.bind_some, hc, refusal?, Option.map_some, refusalOf, he.kind,
      hdetails]
  | tooLarge hw he => simp only [List.map_cons, refusal?, if_pos hw, refusalOf, he.kind, he.details]
  | @token _ _ _ _ result hw _ _ ih =>
    rw [List.map_cons, refusal?, if_neg hw, ih]
    cases result <;> rfl

/-! ### Words and tokens -/

theorem Spells.of_point {word : List Char} {token : Token} (h : Spells word token)
    (hpoint : '.' ∈ word) :
    ∃ whole fraction, (∀ c ∈ whole, c.isDigit) ∧ word = whole ++ '.' :: fraction ∧
      token = .number (.float (Decimal.read whole fraction)) := by
  cases h with
  | integer hdigits _ => exact absurd (hdigits _ hpoint) (by decide)
  | decimal hwhole _ => exact ⟨_, _, hwhole, rfl, rfl⟩
  | operator op => cases op <;> exact absurd hpoint (by decide)
  | openParen => exact absurd hpoint (by decide)
  | closeParen => exact absurd hpoint (by decide)

theorem Spells.of_digits {word : List Char} {token : Token} (h : Spells word token)
    (hdigits : ∀ c ∈ word, c.isDigit) :
    ∃ n : Int64, n.toInt = Decimal.valueOf word ∧ token = .number (.integer n) := by
  cases h with
  | integer _ hn => exact ⟨_, hn, rfl⟩
  | decimal _ _ => exact absurd (hdigits '.' (by simp)) (by decide)
  | operator op => cases op <;> exact absurd (hdigits _ (List.mem_singleton_self _)) (by decide)
  | openParen => exact absurd (hdigits _ (List.mem_singleton_self _)) (by decide)
  | closeParen => exact absurd (hdigits _ (List.mem_singleton_self _)) (by decide)

theorem Spells.symbol {word : List Char} {token : Token} (h : Spells word token)
    (hnumber : ∀ v, token ≠ .number v) :
    ∃ c lexeme, word = [c] ∧ Lexeme.symbol? c = some lexeme ∧ lexeme.token = .ok token := by
  cases h with
  | integer _ _ => exact absurd rfl (hnumber _)
  | decimal _ _ => exact absurd rfl (hnumber _)
  | operator op => exact ⟨op.symbol, .operator op, rfl, by cases op <;> rfl, rfl⟩
  | openParen => exact ⟨'(', .openParen, rfl, rfl, rfl⟩
  | closeParen => exact ⟨')', .closeParen, rfl, rfl, rfl⟩

/-- **A word spells one token.** -/
theorem Spells.unique {word : List Char} {s t : Token} (hs : Spells word s) (ht : Spells word t) :
    s = t := by
  have hnumber : ∀ {s t : Token}, Spells word s → Spells word t → (∃ v, s = .number v) →
      s = t := by
    rintro _ t hs ht ⟨v, rfl⟩
    cases hs with
    | integer hdigits hn =>
      obtain ⟨n, hn', rfl⟩ := ht.of_digits hdigits
      rw [Int64.toInt_inj.1 (hn.trans hn'.symm)]
    | decimal hwhole _ =>
      obtain ⟨whole, fraction, hother, heq, rfl⟩ := ht.of_point (by simp)
      rcases append_cons_cases heq with ⟨rfl, -, rfl⟩ | ⟨more, rfl, -⟩ | ⟨more, rfl, -⟩
      · rfl
      · exact absurd (hwhole '.' (by simp)) (by decide)
      · exact absurd (hother '.' (by simp)) (by decide)
  by_cases hs' : ∃ v, s = .number v
  · exact hnumber hs ht hs'
  by_cases ht' : ∃ v, t = .number v
  · exact (hnumber ht hs ht').symm
  · obtain ⟨c, lexeme, rfl, hl, htoken⟩ := hs.symbol (not_exists.1 hs')
    obtain ⟨d, lexeme', hd, hl', htoken'⟩ := ht.symbol (not_exists.1 ht')
    obtain rfl := (List.cons.inj hd).1
    obtain rfl := Option.some.inj (hl.symm.trans hl')
    exact Except.ok.inj (htoken.symm.trans htoken')

theorem Spells.not_tooLarge {word : List Char} {token : Token} (h : Spells word token) :
    ¬ TooLarge word := by
  rintro ⟨hdigits, hlarge⟩
  obtain ⟨n, hn, -⟩ := h.of_digits hdigits
  have hle := n.toInt_le
  have hmax : Int64.maxValue.toInt = 9223372036854775807 := rfl
  omega

theorem refusal?_of_spells {words : List Stretch} {tokens : List Token}
    (h : List.Forall₂ (fun w => Spells w.chars) words tokens) :
    refusal? (words.map Stretch.chars) none = none := by
  induction h with
  | nil => rfl
  | cons hword _ ih =>
    rw [List.map_cons, refusal?, if_neg hword.not_tooLarge]
    exact ih

theorem spells_of_gives {words : List Stretch} {placed : List Placed}
    (h : List.Forall₂ Stretch.Gives words placed) :
    List.Forall₂ (fun w => Spells w.chars) words (placed.map Placed.token) :=
  List.forall₂_map_right_iff.2 (h.imp fun _ _ hword => hword.spells)

theorem spells_unique {words : List Stretch} {tokens tokens' : List Token}
    (h : List.Forall₂ (fun w => Spells w.chars) words tokens)
    (h' : List.Forall₂ (fun w => Spells w.chars) words tokens') : tokens = tokens' :=
  List.right_unique_forall₂' (fun _ _ _ hs ht => hs.unique ht) h h'

end Calculator
