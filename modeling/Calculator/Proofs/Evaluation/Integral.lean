import Calculator.Evaluation
import Calculator.Proofs.Lexer.Tokens
import Calculator.Proofs.Parser.Faults
import Calculator.Proofs.Parser.Leftover
import Calculator.Proofs.Phrase.Integral

/-! # The type of a result

Whether an evaluation gives an integer or a double is decided by the tokens of its source, and so is
whether an operator can overflow (`evaluate_isInteger`). For values this is the type of the phrase
that the tokens make. A failed evaluation has no such phrase, but the operator that it reports has
two operands, which are phrases with values (`exists_operandsAt_of_evaluate`), and their types
decide whether the operator can fail. -/

namespace Calculator

/-! ### The operands of the operator reported -/

theorem Viable.unclosed_le {limit : Nat} {word : List Token} (h : Viable limit word) :
    unclosed word ≤ limit := by
  obtain ⟨stage, hrun⟩ := h.exists_run?
  rw [unclosed_eq_depth hrun]
  exact (Stage.depth_run? hrun).2 (Nat.zero_le _)

theorem Parser.Faulting.exists_operandsAt {tokens : List Placed} {eof : Position} {k : Nat}
    {l r : Number} {op : Operator} {reason : Fault} (h : Faulting tokens eof k l op r reason) :
    ∃ lhs rhs, OperandsAt (tokens.map Placed.token) k op lhs rhs ∧ lhs.value = .ok l ∧
      rhs.value = .ok r := by
  obtain ⟨hop, hviable, ⟨before, lhs, htake, hopens, hl⟩, hright, -⟩ := h
  have hroom : unclosed ((tokens.map Placed.token).take k) ≤ maxDepth := by
    have hprefix : (tokens.map Placed.token).take k <+: (tokens.map Placed.token).take (k + 1) :=
      List.take_prefix_take_left (Nat.le_succ k)
    obtain ⟨last, hlast⟩ := hprefix
    rw [← hlast] at hviable
    exact hviable.of_append.unclosed_le
  obtain ⟨-, rhs, -, -, hr, hlongest⟩ := exists_isLongest_of_ok hroom hright
  refine ⟨lhs, rhs, ⟨hop, ⟨before, htake, hopens⟩, ?_⟩, hl, hr⟩
  rw [← List.map_drop]
  exact hlongest

section Evaluation

variable {source : Source} {tokens : List Placed} {e : Error}

theorem exists_tokens_of_arithmetic (h : source.evaluate.result = .error e)
    (he : e.kind.IsArithmetic) : ∃ tokens, (Lexer.start source).tokens.result = .ok tokens := by
  rcases hread : (Lexer.start source).tokens.result with e' | tokens
  · rw [Source.result_evaluate_of_error hread] at h
    cases h
    rcases Lexer.kind_of_tokens_error hread with hkind | hkind
    · rw [hkind] at he
      exact he.elim
    · rw [hkind] at he
      exact he.elim
  · exact ⟨tokens, rfl⟩

/-- **The operator that an evaluation reports** stands between two operands with values, and has no
result on them. -/
theorem exists_operandsAt_of_evaluate (hread : (Lexer.start source).tokens.result = .ok tokens)
    (h : source.evaluate.result = .error e) (he : e.kind.IsArithmetic) :
    ∃ (k : Nat) (place : Placed) (op : Operator) (lhs : Phrase (.chain op.precedence))
      (rhs : Phrase op.precedence.operand) (l r : Number) (reason : Fault),
      tokens[k]? = some place ∧ OperandsAt (tokens.map Placed.token) k op lhs rhs ∧
        lhs.value = .ok l ∧ rhs.value = .ok r ∧ l.apply op r = .error reason ∧
          e = .ofFault reason l op r place := by
  rw [Source.result_evaluate_of_ok hread] at h
  obtain ⟨k, place, l, op, r, reason, hfault, hplace, heq, -⟩ :=
    Parser.exists_ofFault (Parser.expr_of_parse_error h he) he
  obtain ⟨lhs, rhs, hoperands, hl, hr⟩ := hfault.exists_operandsAt
  exact ⟨k, place, op, lhs, rhs, l, r, reason, hplace, hoperands, hl, hr, hfault.fault, heq⟩

/-! ### Types -/

theorem isInteger_of_evaluate {v : Number} (h : source.evaluate.result = .ok v) :
    ∃ tokens, (Lexer.start source).tokens.result = .ok tokens ∧
      (v.IsInteger ↔ ∀ placed ∈ tokens, placed.token.Whole) := by
  rcases hread : (Lexer.start source).tokens.result with e | tokens
  · rw [Source.result_evaluate_of_error hread] at h
    cases h
  · rw [Source.result_evaluate_of_ok hread] at h
    obtain ⟨phrase, htokens, -, hv⟩ := Parser.exists_phrase_of_parse h
    refine ⟨tokens, rfl, ?_⟩
    rw [phrase.isInteger_value hv, htokens, List.forall_mem_map]

/-- An operator between operands of which one holds a double or a quotient is not reported. -/
theorem start_ne_of_not_whole (hread : (Lexer.start source).tokens.result = .ok tokens) {k : Nat}
    {op : Operator} {lhs : Phrase (.chain op.precedence)} {rhs : Phrase op.precedence.operand}
    (hoperands : OperandsAt (tokens.map Placed.token) k op lhs rhs) (hop : op ≠ .div)
    (hnot : ∃ token ∈ lhs.tokens ++ rhs.tokens, ¬ token.Whole)
    (h : source.evaluate.result = .error e) (he : e.kind.IsArithmetic) {place : Placed}
    (hplace : tokens[k]? = some place) : e.start ≠ place.start := by
  intro hstart
  obtain ⟨k', place', op', lhs', rhs', l, r, reason, hplace', hoperands', hl, hr, happly, rfl⟩ :=
    exists_operandsAt_of_evaluate hread h he
  have hsame : place'.start.index = place.start.index := by
    rw [← hstart]
    cases reason <;> rfl
  -- the operator that is reported is the one at hand, and so are its operands
  obtain rfl : k' = k := (Lexer.tiles_of_tokens hread).eq_of_start hplace' hplace hsame
  obtain rfl := hoperands.operator_eq hoperands'
  obtain ⟨rfl, rfl⟩ := hoperands.unique hoperands'
  obtain ⟨x, hx⟩ := exists_float_of_not_whole hop hl hr hnot
  rw [hx] at happly
  cases happly

end Evaluation

/-- **The type of a result is decided by the tokens.** A value is an integer if no token is a double
or a quotient, and otherwise a double. The operator that overflows has no double and no quotient in
its operands; and a sum, a difference or a product with one in its operands gives a double wherever
it is applied to their values, and is never the operator that an evaluation reports. -/
theorem evaluate_isInteger (source : Source) :
    (∀ v, source.evaluate.result = .ok v →
      ∃ tokens, (Lexer.start source).tokens.result = .ok tokens ∧
        ((∃ n, v = .integer n) ↔ ∀ placed ∈ tokens, placed.token.Whole) ∧
        ((∃ x, v = .float x) ↔ ∃ placed ∈ tokens, ¬ placed.token.Whole)) ∧
    (∀ e, source.evaluate.result = .error e → e.kind = .overflow →
      ∃ (tokens : List Placed) (k : Nat) (place : Placed) (op : Operator)
        (lhs : Phrase (.chain op.precedence)) (rhs : Phrase op.precedence.operand),
        (Lexer.start source).tokens.result = .ok tokens ∧ tokens[k]? = some place ∧
        e.start = place.start ∧ e.stop = place.stop ∧
        OperandsAt (tokens.map Placed.token) k op lhs rhs ∧
        ∀ token ∈ lhs.tokens ++ rhs.tokens, token.Whole) ∧
    ∀ tokens, (Lexer.start source).tokens.result = .ok tokens →
      ∀ (k : Nat) (op : Operator) (lhs : Phrase (.chain op.precedence))
        (rhs : Phrase op.precedence.operand),
        OperandsAt (tokens.map Placed.token) k op lhs rhs → op ≠ .div →
        (∃ token ∈ lhs.tokens ++ rhs.tokens, ¬ token.Whole) →
        (∀ l r, lhs.value = .ok l → rhs.value = .ok r →
          ∃ x, ∀ place p, (Parser.fold l op r place p).result = .ok (.float x)) ∧
        ∀ e place, source.evaluate.result = .error e → e.kind.IsArithmetic →
          tokens[k]? = some place → e.start ≠ place.start := by
  refine ⟨fun v hv => ?_, fun e he hkind => ?_, fun tokens hread k op lhs rhs h hop hnot => ?_⟩
  · obtain ⟨tokens, hread, hinteger⟩ := isInteger_of_evaluate hv
    refine ⟨tokens, hread, Number.isInteger_iff.symm.trans hinteger, ?_⟩
    rw [← Number.not_isInteger_iff, hinteger]
    push Not
    exact Iff.rfl
  · have harithmetic : e.kind.IsArithmetic := by
      rw [hkind]
      trivial
    obtain ⟨tokens, hread⟩ := exists_tokens_of_arithmetic he harithmetic
    obtain ⟨k, place, op, lhs, rhs, l, r, reason, hplace, hoperands, hl, hr, happly, rfl⟩ :=
      exists_operandsAt_of_evaluate hread he harithmetic
    cases reason with
    | divisionByZero => cases hkind
    | overflow =>
      exact ⟨tokens, k, place, op, lhs, rhs, hread, hplace, rfl, rfl, hoperands,
        whole_of_overflow hl hr happly⟩
  · refine ⟨fun l r hl hr => ?_, fun e place he harithmetic hplace =>
      start_ne_of_not_whole hread h hop hnot he harithmetic hplace⟩
    obtain ⟨x, hx⟩ := exists_float_of_not_whole hop hl hr hnot
    exact ⟨x, fun place p => by rw [Parser.fold, hx]⟩

end Calculator
