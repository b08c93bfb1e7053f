import Calculator.Proofs.Number.Apply
import Calculator.Proofs.Phrase.Extent

/-! # The type of a phrase

Whether a phrase has an integer or a double for its value can be told from its tokens: the value is
an integer exactly if no token is a double or a quotient (`isInteger_value`). That holds of every
part of a phrase, and so of the operands on the two sides of an operator. Which phrases those are is
told by the tokens around the operator (`OperandsAt`), without a derivation of the whole, so that it
makes sense for tokens that are no sentence too. -/

namespace Calculator

namespace Phrase

theorem exists_values_of_apply {level : Precedence} {lhs : Phrase (.chain level)} {op : Operator}
    {fits : op.precedence = level} {rhs : Phrase level.operand} {v : Number}
    (h : (apply lhs op fits rhs).value = .ok v) :
    ∃ l r, lhs.value = .ok l ∧ rhs.value = .ok r ∧ l.apply op r = .ok v := by
  rw [value] at h
  rcases hl : lhs.value with fault | l
  · rw [hl] at h
    cases h
  · rcases hr : rhs.value with fault | r
    · rw [hl, hr] at h
      cases h
    · rw [hl, hr] at h
      exact ⟨l, r, rfl, rfl, h⟩

/-- **A phrase has an integer for its value** exactly if its tokens are those of the arithmetic of
integers, by induction on the phrase. -/
theorem isInteger_value : ∀ {kind : Kind} (phrase : Phrase kind) {v : Number},
    phrase.value = .ok v → (v.IsInteger ↔ ∀ token ∈ phrase.tokens, token.Whole)
  | _, .number v, w, h => by
    obtain rfl : v = w := Except.ok.inj h
    rw [tokens_number, List.forall_mem_singleton]
    cases v <;> exact Iff.rfl
  | _, .group inner, v, h => by
    have hparens : Token.openParen.Whole ∧ Token.closeParen.Whole := ⟨trivial, trivial⟩
    rw [tokens_group, List.forall_mem_cons, List.forall_mem_append, List.forall_mem_singleton,
      ← isInteger_value inner h, and_iff_left hparens.2, and_iff_right hparens.1]
  | _, .single operand, v, h => isInteger_value operand h
  | _, .apply lhs op fits rhs, v, h => by
    obtain ⟨l, r, hl, hr, hv⟩ := exists_values_of_apply h
    have hop : (Token.operator op).Whole ↔ op ≠ .div := by cases op <;> decide
    rw [tokens_apply, List.forall_mem_append, List.forall_mem_cons, ← isInteger_value lhs hl,
      ← isInteger_value rhs hr, hop, Number.isInteger_apply hv]
    exact and_left_comm

end Phrase

/-! ### The operands of an operator -/

/-- **The operands of the operator** that is the token `k` of a word: the chain of its level that
ends before it, from where such chains begin, and the longest operand that can stand behind it. -/
structure OperandsAt (word : List Token) (k : Nat) (op : Operator)
    (lhs : Phrase (.chain op.precedence)) (rhs : Phrase op.precedence.operand) : Prop where
  operator : word[k]? = some (.operator op)
  left : ∃ before, word.take k = before ++ lhs.tokens ∧ Opens op.precedence before
  right : rhs.IsLongest (maxDepth - unclosed (word.take k)) (word.drop (k + 1))

namespace OperandsAt

variable {word : List Token} {k : Nat} {op : Operator} {lhs lhs' : Phrase (.chain op.precedence)}
  {rhs rhs' : Phrase op.precedence.operand}

theorem unique (h : OperandsAt word k op lhs rhs) (h' : OperandsAt word k op lhs' rhs') :
    lhs = lhs' ∧ rhs = rhs' := by
  obtain ⟨before, hbefore, hopens⟩ := h.left
  obtain ⟨before', hbefore', hopens'⟩ := h'.left
  exact ⟨(hopens.unique hopens' (hbefore.symm.trans hbefore')).2, h.right.unique h'.right⟩

theorem operator_eq {op' : Operator} {lhs' : Phrase (.chain op'.precedence)}
    {rhs' : Phrase op'.precedence.operand} (h : OperandsAt word k op lhs rhs)
    (h' : OperandsAt word k op' lhs' rhs') : op = op' :=
  Token.operator.inj (Option.some.inj (h.operator.symm.trans h'.operator))

end OperandsAt

section Operands

variable {level : Precedence} {lhs : Phrase (.chain level)} {rhs : Phrase level.operand}
  {op : Operator} {l r : Number}

/-- The operands of an operator that overflows hold no double and no quotient. -/
theorem whole_of_overflow (hl : lhs.value = .ok l) (hr : rhs.value = .ok r)
    (h : l.apply op r = .error .overflow) : ∀ token ∈ lhs.tokens ++ rhs.tokens, token.Whole := by
  obtain ⟨-, ⟨hleft, hright⟩, -⟩ := Number.apply_eq_overflow_iff.mp h
  rw [List.forall_mem_append]
  exact ⟨(lhs.isInteger_value hl).mp hleft, (rhs.isInteger_value hr).mp hright⟩

/-- Between operands of which one holds a double or a quotient, a sum, a difference or a product is
a double. -/
theorem exists_float_of_not_whole (hop : op ≠ .div) (hl : lhs.value = .ok l)
    (hr : rhs.value = .ok r) (h : ∃ token ∈ lhs.tokens ++ rhs.tokens, ¬ token.Whole) :
    ∃ x, l.apply op r = .ok (.float x) := by
  refine Number.exists_float_of_apply hop fun ⟨hleft, hright⟩ => ?_
  obtain ⟨token, hmem, hnot⟩ := h
  rcases List.mem_append.mp hmem with hmem | hmem
  · exact hnot ((lhs.isInteger_value hl).mp hleft token hmem)
  · exact hnot ((rhs.isInteger_value hr).mp hright token hmem)

end Operands

end Calculator
