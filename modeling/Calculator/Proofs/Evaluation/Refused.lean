import Calculator.Proofs.Evaluation.Derivation

/-! # Texts that are refused

Three ways in which the evaluation of a text fails, each with the whole error: a character that
begins no word behind words that are read (`evaluate_of_illegal`), a word of digits that is too
large (`evaluate_of_tooLarge`), and an operator where the first factor should begin
(`evaluate_of_operator`). -/

namespace Calculator

namespace Parser

theorem rule_of_factor_error (kind : Phrase.Kind) {p : Parser} {e : Error}
    (h : (factor p).result = .error e) : (rule kind p).result = .error e := by
  have hchain : ∀ level : Precedence, (rule level.operand p).result = .error e →
      (rule (.chain level) p).result = .error e := by
    intro level hhead
    rw [rule_chain, chain_eq, chainRest_of_error (keeps_rule level.operand) hhead]
    exact hhead
  rcases kind with _ | _ | _
  · exact h
  · exact hchain .sum (hchain .product h)
  · exact hchain .product h

theorem parse_of_other {tokens : List Placed} {found : Placed} (eof : Position)
    (hnumber : ∀ v, found.token ≠ .number v) (hopen : found.token ≠ .openParen) :
    (parse { tokens := found :: tokens, eof }).result =
      .error (.unexpected Error.factorWanted found) := by
  have hfactor : factor { tokens := found :: tokens, eof } = _ :=
    factor_of_other rfl hnumber hopen
  exact parse_of_error (rule_of_factor_error .expr (congrArg Outcome.result hfactor))

end Parser

/-! ### Errors of reading -/

section Answer

variable {text : List Char} {stuck : Option Nat} {result : Except Error (List Placed)}

/-- The first word that is too large decides the answer. -/
theorem Answer.exists_tooLargeError {before after : List Stretch} {w : Stretch}
    (h : Answer text (before ++ w :: after) stuck result)
    (hsmall : ∀ v ∈ before, ¬ TooLarge v.chars) (hw : TooLarge w.chars) :
    ∃ e, result = .error e ∧ w.TooLargeError e := by
  induction before generalizing result with
  | nil =>
    cases h with
    | tooLarge _ he => exact ⟨_, rfl, he⟩
    | token hsmall' _ _ => exact absurd hw hsmall'
  | cons v before ih =>
    obtain ⟨hv, hbefore⟩ := List.forall_mem_cons.1 hsmall
    cases h with
    | tooLarge hlarge _ => exact absurd hlarge hv
    | token _ _ hrest =>
      obtain ⟨e, rfl, he⟩ := ih hrest hbefore
      exact ⟨e, rfl, he⟩

/-- If no word is too large, the place where the scan is stuck decides the answer. -/
theorem Answer.exists_illegalAt {words : List Stretch} {place : Nat}
    (h : Answer text words (some place) result) (hsmall : ∀ w ∈ words, ¬ TooLarge w.chars) :
    ∃ e, result = .error e ∧ IllegalAt text place e := by
  induction words generalizing result with
  | nil =>
    cases h with
    | stuck he => exact ⟨_, rfl, he⟩
  | cons w words ih =>
    obtain ⟨hw, hwords⟩ := List.forall_mem_cons.1 hsmall
    cases h with
    | tooLarge hlarge _ => exact absurd hlarge hw
    | token _ _ hrest =>
      obtain ⟨e, rfl, he⟩ := ih hrest hwords
      exact ⟨e, rfl, he⟩

end Answer

section Evaluate

variable {source : Source} {words : List Stretch} {text : List Char}

/-- **A character that begins no word** is illegal, if no word before it is too large. -/
theorem evaluate_of_illegal {passed rest : List Char} {c : Char}
    (htext : source.text.toList = passed ++ c :: rest)
    (hs : Scan 0 source.text.toList words (some passed.length))
    (hsmall : ∀ w ∈ words, ¬ TooLarge w.chars) (hc : c ≠ '\n') :
    source.evaluate.result = .error ⟨.illegalCharacter,
      ⟨passed.length, 0, passed.length, source⟩,
      ⟨↑(passed.length + 1), 0, ↑(passed.length + 1), source⟩, Text.quoteChar c⟩ := by
  obtain ⟨e, hread, he⟩ := (Lexer.tokens_answer hs).exists_illegalAt hsmall
  have hwithin := Lexer.within_of_tokens_error hread
  obtain ⟨passed', c', rest', htext', hplace, hscan⟩ := hs.before_stuck
  obtain ⟨rfl, hbehind⟩ : passed' = passed ∧ c' :: rest' = c :: rest :=
    List.append_inj (htext'.symm.trans htext) (by omega)
  obtain ⟨d, hd, hdetails⟩ := he.details
  obtain rfl : c = d := by
    rw [htext, List.getElem?_append_right (Nat.le_refl _), Nat.sub_self] at hd
    exact Option.some.inj hd
  have hnext : source.text.toList = (passed' ++ [c]) ++ rest := by
    rw [htext, List.append_assoc, List.singleton_append]
  have hline : ∀ d ∈ passed' ++ [c], d ≠ '\n' := by
    intro d hd
    rcases List.mem_append.1 hd with hd | hd
    · exact hscan.ne_lineFeed d hd
    · rwa [List.mem_singleton.1 hd]
  have hstop := hwithin.2.first_line hnext (by rw [he.stop, List.length_append]; rfl) hline
  rw [List.length_append, List.length_singleton] at hstop
  rw [Source.result_evaluate_of_error hread, ← hstop, ← hdetails, ← he.kind,
    ← hwithin.1.first_line htext he.start hscan.ne_lineFeed]

/-- **A word of digits that is too large** is refused, if it is the first one. -/
theorem evaluate_of_tooLarge {before after : List Stretch} {w : Stretch} {stuck : Option Nat}
    (hs : Scan 0 source.text.toList (before ++ w :: after) stuck)
    (hsmall : ∀ v ∈ before, ¬ TooLarge v.chars) (hw : TooLarge w.chars) :
    source.evaluate.result = .error ⟨.literalTooLarge, ⟨w.start, 0, w.start, source⟩,
      ⟨w.stop, 0, w.stop, source⟩,
      String.ofList w.chars ++ " does not fit in a 64-bit integer"⟩ := by
  obtain ⟨e, hread, he⟩ := (Lexer.tokens_answer hs).exists_tooLargeError hsmall hw
  have hwithin := Lexer.within_of_tokens_error hread
  have hmem : w ∈ before ++ w :: after := List.mem_append_right _ (List.mem_cons_self ..)
  rw [Source.result_evaluate_of_error hread, ← hwithin.1.at_start hs hmem he.start,
    ← hwithin.2.at_stop hs hmem he.stop, ← he.kind, ← he.details]

/-- **An operator** does not begin an expression. -/
theorem evaluate_of_operator (op : Operator) {tokens : List Token}
    (htext : source.text.toList = op.symbol :: text) (hs : Scan 1 text words none)
    (hspells : List.Forall₂ (fun w => Spells w.chars) words tokens) :
    source.evaluate.result = .error ⟨.unexpectedToken, ⟨0, 0, 0, source⟩, ⟨1, 0, 1, source⟩,
      "Expected number or '(', found " ++ (Token.operator op).text⟩ := by
  have hscan : Scan 0 source.text.toList (⟨0, [op.symbol]⟩ :: words) none := by
    rw [htext]
    exact .symbol op.symbol_mem hs
  obtain ⟨placed, hread, hgives, htokens⟩ :=
    exists_tokens_of_spells hscan (.cons (.operator op) hspells)
  obtain ⟨found, placed, rfl, htoken, -⟩ := List.map_eq_cons_iff.1 htokens
  have hhead : Stretch.Gives ⟨0, [op.symbol]⟩ found := (List.forall₂_cons.1 hgives).1
  have hwithin := Lexer.within_of_tokens hread found (List.mem_cons_self ..)
  have hw : (⟨0, [op.symbol]⟩ : Stretch) ∈ (⟨0, [op.symbol]⟩ : Stretch) :: words :=
    List.mem_cons_self ..
  rw [Source.result_evaluate_of_ok hread,
    Parser.parse_of_other _ (by simp [htoken]) (by simp [htoken]), Error.unexpected,
    hwithin.1.at_start hscan hw hhead.start, hwithin.2.at_stop hscan hw hhead.stop, htoken]
  rfl

end Evaluate

end Calculator
