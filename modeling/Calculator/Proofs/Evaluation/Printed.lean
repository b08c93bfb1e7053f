import Calculator.Proofs.Decimal.ReadBack
import Calculator.Proofs.Evaluation.Refused

/-! # Printed numbers read back

The text of a number is a literal if the number has no minus sign and is not written with a power of
ten, and then its evaluation gives the number (`evaluate_text`). The other texts are refused: a
minus sign begins no expression, and the letters of the powers of ten, of the infinities and of what
is no number begin no word. The least integer is refused before its minus sign is, since its digits
alone are too large. -/

namespace Calculator

/-! ### The texts -/

section Texts

theorem pattern_digitsOf (n : Nat) : Pattern (Decimal.digitsOf n) :=
  .integer Nat.toDigits_ne_nil fun _ hc => Decimal.isDigit_of_mem_digitsOf hc

variable {text whole fraction : List Char}

theorem Decimal.Pointed.pattern (h : Decimal.Pointed text whole fraction) : Pattern text :=
  h.eq ▸ .decimal h.whole_digits h.fraction_digits (Or.inr h.fraction_ne)

theorem Decimal.Pointed.spells (h : Decimal.Pointed text whole fraction) :
    Spells text (.number (.float (Decimal.read whole fraction))) :=
  h.eq ▸ .decimal h.whole_digits h.fraction_digits

/-- A letter that begins no word, behind at most one word. -/
structure Lettered (text front : List Char) (letter : Char) (back : List Char) : Prop where
  eq : text = front ++ letter :: back
  letter_mem : letter ∈ ['e', 'i', 'N']
  front_pattern : front = [] ∨ Pattern front
  front_small : ¬ TooLarge front

theorem toNat_le_of_isDigit {c : Char} (h : c.isDigit) : c.toNat ≤ 57 := by
  simp only [Char.isDigit, Bool.and_eq_true, decide_eq_true_eq] at h
  exact h.2

theorem not_tooLarge_digit {c : Char} (hc : c.isDigit) : ¬ TooLarge [c] := by
  rintro ⟨-, hlarge⟩
  have hnine := toNat_le_of_isDigit hc
  have hvalue : Decimal.valueOf [c] = 10 * 0 + (c.toNat - 48) := rfl
  omega

theorem not_tooLarge_nil : ¬ TooLarge [] := fun h => absurd h.2 (by decide)

theorem exists_lettered_scientific (n : Nat) (point : Int) :
    ∃ front back, Lettered (Decimal.scientific (Decimal.digitsOf n) point) front 'e' back := by
  have hdigits : ∀ c ∈ Decimal.digitsOf n, c.isDigit :=
    fun c hc => Decimal.isDigit_of_mem_digitsOf hc
  have hne : Decimal.digitsOf n ≠ [] := Nat.toDigits_ne_nil
  generalize Decimal.digitsOf n = digits at hdigits hne
  rcases digits with _ | ⟨d, _ | ⟨d', rest⟩⟩
  · exact absurd rfl hne
  · have hd := hdigits d (List.mem_singleton_self d)
    exact ⟨[d], _, rfl, by decide, Or.inr (.integer hne hdigits), not_tooLarge_digit hd⟩
  · obtain ⟨hd, hrest⟩ := List.forall_mem_cons.1 hdigits
    have hpattern : Pattern ([d] ++ '.' :: d' :: rest) :=
      .decimal (by simpa using hd) hrest (Or.inl (List.cons_ne_nil _ _))
    refine ⟨[d] ++ '.' :: d' :: rest, Decimal.integer (point - 1), ?_, by decide, Or.inr hpattern,
      Lexeme.not_tooLarge (c := '.') (by simp) (by decide)⟩
    simp [Decimal.scientific]

/-- **What is not plain is written with a letter.** -/
theorem exists_lettered_magnitude {x : Float} (h : ¬ Decimal.IsPlain x) :
    ∃ front back, Lettered (Decimal.magnitude x) front (if x.isInf then 'i' else 'e') back := by
  obtain ⟨hzero, hrange⟩ := not_or.1 h
  rw [Decimal.magnitude]
  by_cases hinf : x.isInf
  · rw [if_pos hinf, if_pos hinf]
    exact ⟨[], ['n', 'f'], rfl, by decide, Or.inl rfl, not_tooLarge_nil⟩
  · rw [if_neg hinf, if_neg hinf, if_neg hzero, Decimal.positive, if_neg hrange]
    exact exists_lettered_scientific _ _

end Texts

/-! ### Their evaluation -/

section Evaluate

variable {source : Source} {text : List Char}

theorem evaluate_of_literal {v : Number} (htext : source.text.toList = text)
    (hword : Pattern text) (hspells : Spells text (.number v)) :
    source.evaluate.result = .ok v :=
  ((Derivation.literal hword hspells).lift .expr).evaluate_of_value htext (Nat.zero_le _) rfl

theorem evaluate_of_minus {v : Number} (htext : source.text.toList = '-' :: text)
    (hword : Pattern text) (hspells : Spells text (.number v)) :
    source.evaluate.result = .error ⟨.unexpectedToken, ⟨0, 0, 0, source⟩, ⟨1, 0, 1, source⟩,
      "Expected number or '(', found '-'"⟩ :=
  evaluate_of_operator .sub htext (.pattern hword) (.cons hspells .nil)

variable {front back : List Char} {letter : Char}

theorem stuck_at_letter (h : letter ∈ ['e', 'i', 'N']) (back : List Char) (i : Nat) :
    Scan i (letter :: back) [] (some i) ∧ ¬ InLiteral letter ∧ letter ≠ '\n' := by
  simp only [List.mem_cons, List.not_mem_nil, or_false] at h
  rcases h with rfl | rfl | rfl <;>
    exact ⟨.stuck (by simp [Blank]) (Lexeme.first?_eq_none_iff.1 rfl), by simp [InLiteral],
      by decide⟩

/-- The scan of a text with a letter in it is stuck at the letter. -/
theorem Lettered.exists_scan (h : Lettered text front letter back) (i : Nat) :
    ∃ words, Scan i text words (some (i + front.length)) ∧ ∀ w ∈ words, ¬ TooLarge w.chars := by
  obtain ⟨rfl, hletter, hpattern, hsmall⟩ := h
  obtain ⟨hstuck, hliteral, -⟩ := stuck_at_letter hletter back (i + front.length)
  rcases hpattern with rfl | hpattern
  · exact ⟨[], hstuck, by simp⟩
  · refine ⟨[⟨i, front⟩], (Scan.pattern hpattern).append ?_ hstuck, by simpa using hsmall⟩
    rintro c d - hd ⟨-, hin⟩
    obtain rfl := Option.some.inj hd
    exact hliteral hin

theorem not_isAlpha_of_isDigit {c : Char} (h : c.isDigit) : ¬ c.isAlpha := by
  have hnine := toNat_le_of_isDigit h
  simp only [Char.isAlpha, Char.isUpper, Char.isLower, Bool.or_eq_true, Bool.and_eq_true,
    decide_eq_true_eq]
  rintro (⟨hletter, -⟩ | ⟨hletter, -⟩)
  · have : 65 ≤ c.toNat := hletter
    omega
  · have : 97 ≤ c.toNat := hletter
    omega

theorem Pattern.not_isAlpha {word : List Char} (h : Pattern word) : ∀ c ∈ word, ¬ c.isAlpha := by
  cases h with
  | integer _ hdigits => exact fun c hc => not_isAlpha_of_isDigit (hdigits c hc)
  | decimal hwhole hfraction _ =>
    intro c hc
    rcases List.mem_append.1 hc with hc | hc
    · exact not_isAlpha_of_isDigit (hwhole c hc)
    · rcases List.mem_cons.1 hc with rfl | hc
      · decide
      · exact not_isAlpha_of_isDigit (hfraction c hc)
  | symbol hc =>
    simp only [List.mem_cons, List.not_mem_nil, or_false] at hc
    rcases hc with rfl | rfl | rfl | rfl | rfl | rfl <;> simp

theorem evaluate_of_lettered {sign : List Char} (hsign : sign = [] ∨ sign = ['-'])
    (htext : source.text.toList = sign ++ text) (h : Lettered text front letter back) :
    ∃ passed, source.text.toList = passed ++ letter :: back ∧ (∀ c ∈ passed, ¬ c.isAlpha) ∧
      source.evaluate.result = .error ⟨.illegalCharacter,
        ⟨passed.length, 0, passed.length, source⟩,
        ⟨↑(passed.length + 1), 0, ↑(passed.length + 1), source⟩, Text.quoteChar letter⟩ := by
  obtain ⟨words, hs, hsmall⟩ := h.exists_scan sign.length
  obtain ⟨-, -, hfeed⟩ := stuck_at_letter h.letter_mem back 0
  have hpassed : source.text.toList = (sign ++ front) ++ letter :: back := by
    rw [htext, h.eq, List.append_assoc]
  have hscan : ∃ before, Scan 0 source.text.toList before (some (sign ++ front).length) ∧
      (∀ w ∈ before, ¬ TooLarge w.chars) ∧ ∀ c ∈ sign, ¬ c.isAlpha := by
    rw [htext, List.length_append]
    rcases hsign with rfl | rfl
    · exact ⟨words, hs, hsmall, by simp⟩
    · refine ⟨_, .symbol (by decide) hs, List.forall_mem_cons.2 ⟨?_, hsmall⟩, by simp⟩
      exact Lexeme.not_tooLarge (List.mem_singleton_self '-') (by decide)
  obtain ⟨before, hbefore, hsmall, halpha⟩ := hscan
  refine ⟨sign ++ front, hpassed, fun c hc => ?_,
    evaluate_of_illegal hpassed hbefore hsmall hfeed⟩
  rcases List.mem_append.1 hc with hc | hc
  · exact halpha c hc
  · rcases h.front_pattern with rfl | hpattern
    · cases hc
    · exact hpattern.not_isAlpha c hc

end Evaluate

/-! ### Integers -/

section Integer

variable {source : Source} {n : Int64}

theorem toList_text_of_nonneg (h : 0 ≤ n.toInt) :
    ∃ k : Nat, n.toInt = k ∧ (Number.integer n).text.toList = Decimal.digitsOf k := by
  obtain ⟨k, hk⟩ := Int.eq_ofNat_of_zero_le h
  refine ⟨k, hk, ?_⟩
  rw [Number.text, hk, String.toList_ofList]
  rfl

theorem toList_text_of_neg (h : n.toInt < 0) :
    ∃ k : Nat, n.toInt = -k ∧ (Number.integer n).text.toList = '-' :: Decimal.digitsOf k := by
  obtain ⟨k, hk⟩ := Int.eq_negSucc_of_lt_zero h
  refine ⟨k + 1, by omega, ?_⟩
  rw [Number.text, hk, String.toList_ofList]
  rfl

theorem spells_digitsOf {k : Nat} {m : Int64} (h : m.toInt = k) :
    Spells (Decimal.digitsOf k) (.number (.integer m)) :=
  .integer (fun _ hc => Decimal.isDigit_of_mem_digitsOf hc) (by rw [h, Decimal.valueOf_digitsOf])

theorem evaluate_text_of_nonneg (htext : source.text = (Number.integer n).text)
    (h : 0 ≤ n.toInt) : source.evaluate.result = .ok (.integer n) := by
  obtain ⟨k, hk, hdigits⟩ := toList_text_of_nonneg h
  exact evaluate_of_literal (htext ▸ hdigits) (pattern_digitsOf k) (spells_digitsOf hk)

/-- The least integer is the only one whose digits are too large. -/
theorem evaluate_text_of_neg (htext : source.text = (Number.integer n).text)
    (hlow : -9223372036854775808 < n.toInt) (h : n.toInt < 0) :
    source.evaluate.result = .error ⟨.unexpectedToken, ⟨0, 0, 0, source⟩, ⟨1, 0, 1, source⟩,
      "Expected number or '(', found '-'"⟩ := by
  obtain ⟨k, hk, hdigits⟩ := toList_text_of_neg h
  have hfits : Number.Fits k := Number.fits_iff.2 ⟨by omega, by omega⟩
  exact evaluate_of_minus (htext ▸ hdigits) (pattern_digitsOf k)
    (spells_digitsOf (Number.toInt_ofInt_of_fits hfits))

theorem evaluate_text_of_least (htext : source.text = (Number.integer n).text)
    (h : n.toInt = -9223372036854775808) :
    source.evaluate.result = .error ⟨.literalTooLarge, ⟨1, 0, 1, source⟩, ⟨20, 0, 20, source⟩,
      "9223372036854775808 does not fit in a 64-bit integer"⟩ := by
  obtain ⟨k, hk, hdigits⟩ := toList_text_of_neg (show n.toInt < 0 by omega)
  obtain rfl : k = 9223372036854775808 := by omega
  rw [← htext] at hdigits
  have hwords : Scan 0 source.text.toList
      ([⟨0, ['-']⟩] ++ [⟨1, Decimal.digitsOf 9223372036854775808⟩]) none := by
    rw [hdigits]
    exact .symbol (by decide) (.pattern (pattern_digitsOf _))
  have hminus : ∀ w ∈ [(⟨0, ['-']⟩ : Stretch)], ¬ TooLarge w.chars :=
    List.forall_mem_singleton.2 (Lexeme.not_tooLarge (List.mem_singleton_self '-') (by decide))
  have hlarge : TooLarge (Decimal.digitsOf 9223372036854775808) := by
    refine ⟨fun _ hc => Decimal.isDigit_of_mem_digitsOf hc, ?_⟩
    rw [Decimal.valueOf_digitsOf]
    decide
  exact evaluate_of_tooLarge hwords hminus hlarge

end Integer

/-! ### Doubles -/

section Float

variable {source : Source} {x : Float}

theorem toList_text_float (h : x.isNaN = false) :
    (Number.float x).text.toList = if Decimal.isSigned x then '-' :: Decimal.magnitude x.abs
      else Decimal.magnitude x := by
  rw [Number.text, String.toList_ofList, Decimal.float, h, if_neg Bool.false_ne_true]

theorem evaluate_text_of_plain (htext : source.text = (Number.float x).text)
    (hsign : Decimal.isSigned x = false) (h : Decimal.IsPlain x) :
    source.evaluate.result = .ok (.float x) := by
  have hmagnitude := toList_text_float h.finite.1
  rw [hsign, if_neg Bool.false_ne_true, ← htext] at hmagnitude
  obtain ⟨whole, fraction, hpointed, hread⟩ := Decimal.exists_pointed_magnitude h
  have hspells := hpointed.spells
  rw [hread hsign] at hspells
  exact evaluate_of_literal hmagnitude hpointed.pattern hspells

theorem evaluate_text_of_signed (htext : source.text = (Number.float x).text)
    (hsign : Decimal.isSigned x = true) (h : Decimal.IsPlain x.abs) :
    source.evaluate.result = .error ⟨.unexpectedToken, ⟨0, 0, 0, source⟩, ⟨1, 0, 1, source⟩,
      "Expected number or '(', found '-'"⟩ := by
  have hnumber : x.isNaN = false := by
    refine Float.isNaN_eq_decide_eq_nan.trans (decide_eq_false ?_)
    rintro rfl
    rw [Decimal.abs_nan] at h
    exact absurd h.finite.1 (by decide +kernel)
  have hmagnitude := toList_text_float hnumber
  rw [hsign, if_pos rfl, ← htext] at hmagnitude
  obtain ⟨whole, fraction, hpointed, -⟩ := Decimal.exists_pointed_magnitude h
  exact evaluate_of_minus hmagnitude hpointed.pattern hpointed.spells

theorem exists_lettered_text {y : Float} (hy : y = if Decimal.isSigned x then x.abs else x)
    (h : ¬ Decimal.IsPlain y) :
    ∃ sign text front back, (sign = [] ∨ sign = ['-']) ∧
      (Number.float x).text.toList = sign ++ text ∧
        Lettered text front (if x.isNaN then 'N' else if y.isInf then 'i' else 'e') back := by
  rcases hnan : x.isNaN with _ | _
  · obtain ⟨front, back, hlettered⟩ := exists_lettered_magnitude h
    rw [toList_text_float hnan]
    rcases hsign : Decimal.isSigned x with _ | _ <;> rw [hsign] at hy <;> subst hy
    · exact ⟨[], _, front, back, Or.inl rfl, rfl, hlettered⟩
    · exact ⟨['-'], _, front, back, Or.inr rfl, rfl, hlettered⟩
  · rw [if_pos rfl]
    refine ⟨[], ['N', 'a', 'N'], [], ['a', 'N'], Or.inl rfl, ?_, rfl, by decide, Or.inl rfl,
      not_tooLarge_nil⟩
    rw [Number.text, String.toList_ofList, Decimal.float, hnan, if_pos rfl]
    rfl

end Float

/-- **What becomes of a printed number.** The number itself, bit for bit, if it has no minus sign
and is plain. A minus sign is not expected where an expression begins, unless the digits behind it
are too large, as only those of the least integer are. Of what is not plain, the infinities and what
is no number among them, the first letter is illegal. -/
theorem evaluate_text (name : String) (v : Number) :
    let source : Source := ⟨name, v.text⟩
    let minus : Error := ⟨.unexpectedToken, ⟨0, 0, 0, source⟩, ⟨1, 0, 1, source⟩,
      "Expected number or '(', found '-'"⟩
    match v with
    | .integer n =>
      (0 ≤ n.toInt → source.evaluate.result = .ok v) ∧
      (-9223372036854775808 < n.toInt ∧ n.toInt < 0 → source.evaluate.result = .error minus) ∧
      (n.toInt = -9223372036854775808 → source.evaluate.result = .error
        ⟨.literalTooLarge, ⟨1, 0, 1, source⟩, ⟨20, 0, 20, source⟩,
          "9223372036854775808 does not fit in a 64-bit integer"⟩)
    | .float x =>
      let unsigned := if Decimal.isSigned x then x.abs else x
      let letter := if x.isNaN then 'N' else if unsigned.isInf then 'i' else 'e'
      (Decimal.isSigned x = false ∧ Decimal.IsPlain x → source.evaluate.result = .ok v) ∧
      (Decimal.isSigned x = true ∧ Decimal.IsPlain x.abs →
        source.evaluate.result = .error minus) ∧
      (¬ Decimal.IsPlain unsigned →
        ∃ front back, v.text.toList = front ++ letter :: back ∧ (∀ c ∈ front, ¬ c.isAlpha) ∧
          source.evaluate.result = .error ⟨.illegalCharacter,
            ⟨front.length, 0, front.length, source⟩,
            ⟨front.length + 1, 0, front.length + 1, source⟩, Text.quoteChar letter⟩) := by
  intro source minus
  rcases v with n | x
  · exact ⟨evaluate_text_of_nonneg rfl, fun h => evaluate_text_of_neg rfl h.1 h.2,
      evaluate_text_of_least rfl⟩
  · refine ⟨fun h => evaluate_text_of_plain rfl h.1 h.2,
      fun h => evaluate_text_of_signed rfl h.1 h.2, fun h => ?_⟩
    obtain ⟨sign, text, front, back, hsign, htext, hlettered⟩ := exists_lettered_text rfl h
    have htext : source.text.toList = sign ++ text := htext
    obtain ⟨passed, hpassed, hletters, hresult⟩ := evaluate_of_lettered hsign htext hlettered
    exact ⟨passed, back, hpassed, hletters, hresult⟩

/-- The negative zero is plain, and is written with its sign. -/
example : Decimal.IsPlain (-0.0 : Float).abs ∧ (Number.float (-0.0)).text = "-0.0" :=
  ⟨Or.inl (by decide +kernel), by decide +kernel⟩

end Calculator
