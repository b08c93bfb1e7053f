import Calculator.Proofs.Phrase.Stage

/-! # One derivation for each word

An operator that stands in a phrase outside all of its parentheses belongs to one of the phrase's
own chains (`holds_of_tokens_eq`), and so binds no looser than the phrase allows. Two consequences:
two phrases with the same tokens are the same (`tokens_injective`), and a word ends in at most one
chain of a level that stands where chains of this level begin (`Opens.unique`). -/

namespace Calculator

theorem append_cons_cases {α : Type} {left left' right right' : List α} {a b : α}
    (h : left ++ a :: right = left' ++ b :: right') :
    (left = left' ∧ a = b ∧ right = right') ∨
    (∃ more, left = left' ++ b :: more ∧ right' = more ++ a :: right) ∨
    (∃ more, left' = left ++ a :: more ∧ right = more ++ b :: right') := by
  rcases List.append_eq_append_iff.mp h with ⟨more, hl, hr⟩ | ⟨more, hl, hr⟩
  · rcases more with _ | ⟨c, more⟩
    · rw [List.nil_append, List.cons.injEq] at hr
      exact Or.inl ⟨by rw [hl, List.append_nil], hr.1, hr.2⟩
    · rw [List.cons_append, List.cons.injEq] at hr
      obtain ⟨rfl, hr⟩ := hr
      exact Or.inr (Or.inr ⟨more, hl, hr⟩)
  · rcases more with _ | ⟨c, more⟩
    · rw [List.nil_append, List.cons.injEq] at hr
      exact Or.inl ⟨by rw [hl, List.append_nil], hr.1.symm, hr.2.symm⟩
    · rw [List.cons_append, List.cons.injEq] at hr
      obtain ⟨rfl, hr⟩ := hr
      exact Or.inr (Or.inl ⟨more, hl, hr⟩)

/-- Operators of this level stand between the operands of a phrase, or between the operands of
those, outside of parentheses. -/
def Phrase.Kind.Holds : Phrase.Kind → Precedence → Prop
  | .factor, _ => False
  | .chain .product, level => level = .product
  | .chain .sum, _ => True

theorem Phrase.Kind.holds_chain {level other : Precedence} :
    (Kind.chain level).Holds other ↔ other = level ∨ level.operand.Holds other := by
  cases level <;> cases other <;> simp [Holds, Precedence.operand]

theorem Precedence.not_operand_holds (level : Precedence) : ¬ level.operand.Holds level := by
  cases level <;> simp [Phrase.Kind.Holds, Precedence.operand]

namespace Phrase

/-- **An operator outside of all parentheses** is of a level that the phrase holds. -/
theorem holds_of_tokens_eq : ∀ {kind : Kind} (phrase : Phrase kind) {left right : List Token}
    {op : Operator}, phrase.tokens = left ++ .operator op :: right → opened left = closed left →
      kind.Holds op.precedence
  | _, .number v, left, right, op, h, _ => by
    rw [tokens_number] at h
    rcases left with _ | ⟨token, left⟩ <;> simp at h
  | _, .group inner, left, right, op, h, hb => by
    -- behind the first parenthesis there is always one open
    rw [tokens_group] at h
    rcases left with _ | ⟨token, left⟩
    · simp at h
    rw [List.cons_append, List.cons.injEq] at h
    obtain ⟨rfl, h⟩ := h
    have hle : closed left ≤ opened left := by
      rcases append_cons_cases h with ⟨-, hc, -⟩ | ⟨more, hin, -⟩ | ⟨more, -, hr⟩
      · cases hc
      · exact closed_le_opened hin
      · simp at hr
    simp only [opened_cons, closed_cons, reduceCtorEq, if_true, if_false] at hb
    omega
  | _, .single operand, left, right, op, h, hb =>
    Kind.holds_chain.mpr (Or.inr (holds_of_tokens_eq operand h hb))
  | _, .apply lhs o fits rhs, left, right, op, h, hb => by
    rw [tokens_apply] at h
    rcases append_cons_cases h with ⟨-, hop, -⟩ | ⟨more, hl, -⟩ | ⟨more, rfl, hr⟩
    · cases hop
      exact Kind.holds_chain.mpr (Or.inl fits)
    · exact holds_of_tokens_eq lhs hl hb
    · have hlhs := opened_tokens lhs
      simp only [opened_append, closed_append, opened_cons, closed_cons, reduceCtorEq,
        if_false] at hb
      exact Kind.holds_chain.mpr (Or.inr (holds_of_tokens_eq rhs hr (by omega)))

/-- No chain is an operand of its level with more operands before it. -/
theorem tokens_operand_ne {level : Precedence} (operand : Phrase level.operand)
    (lhs : Phrase (.chain level)) {op : Operator} (fits : op.precedence = level)
    (right : List Token) : operand.tokens ≠ lhs.tokens ++ .operator op :: right := by
  intro h
  have := holds_of_tokens_eq operand h (opened_tokens lhs)
  rw [fits] at this
  exact level.not_operand_holds this

/-- The last operand of a chain holds no operator that another chain ends with. -/
theorem tokens_operand_ne_of_chain {level : Precedence} {lhs lhs' : Phrase (.chain level)}
    {operand : Phrase level.operand} {op op' : Operator} (fits : op'.precedence = level)
    {more right : List Token} (hl : lhs'.tokens = lhs.tokens ++ .operator op :: more)
    (hr : operand.tokens = more ++ .operator op' :: right) : False := by
  have hb := opened_tokens lhs
  have hb' := opened_tokens lhs'
  rw [hl] at hb'
  simp only [opened_append, closed_append, opened_cons, closed_cons, reduceCtorEq,
    if_false] at hb'
  have := holds_of_tokens_eq operand hr (by omega)
  rw [fits] at this
  exact level.not_operand_holds this

/-- The last operands of two chains with the same tokens have the same tokens. -/
theorem tokens_apply_inj {level : Precedence} {lhs lhs' : Phrase (.chain level)}
    {op op' : Operator} (fits : op.precedence = level) (fits' : op'.precedence = level)
    {rhs rhs' : Phrase level.operand}
    (h : lhs.tokens ++ .operator op :: rhs.tokens = lhs'.tokens ++ .operator op' :: rhs'.tokens) :
    lhs.tokens = lhs'.tokens ∧ op = op' ∧ rhs.tokens = rhs'.tokens := by
  rcases append_cons_cases h with ⟨hl, hop, hr⟩ | ⟨more, hl, hr⟩ | ⟨more, hl, hr⟩
  · exact ⟨hl, Token.operator.inj hop, hr⟩
  · exact (tokens_operand_ne_of_chain fits hl hr).elim
  · exact (tokens_operand_ne_of_chain fits' hl hr).elim

/-- **A phrase is the only derivation of its tokens.** -/
theorem tokens_injective : ∀ {kind : Kind} (s t : Phrase kind), s.tokens = t.tokens → s = t
  | _, .number v, .number w, h => by
    rw [tokens_number, tokens_number, List.cons.injEq, Token.number.injEq] at h
    rw [h.1]
  | _, .number v, .group inner, h => by simp at h
  | _, .group inner, .number v, h => by simp at h
  | _, .group s, .group t, h => by
    rw [tokens_group, tokens_group, List.cons.injEq, List.append_left_inj] at h
    rw [tokens_injective s t h.2]
  | _, .single s, .single t, h => by rw [tokens_injective s t h]
  | _, .single s, .apply lhs op fits rhs, h => (tokens_operand_ne s lhs fits _ h).elim
  | _, .apply lhs op fits rhs, .single t, h => (tokens_operand_ne t lhs fits _ h.symm).elim
  | _, .apply lhs op fits rhs, .apply lhs' op' fits' rhs', h => by
    obtain ⟨hl, rfl, hr⟩ := tokens_apply_inj fits fits' h
    rw [tokens_injective lhs lhs' hl, tokens_injective rhs rhs' hr]

end Phrase

/-! ### Where chains begin -/

/-- A chain of the level may begin behind the word: at the beginning of a text, behind an opening
parenthesis, and a chain of factors also behind an operator of sums. -/
def Opens (level : Precedence) (word : List Token) : Prop :=
  word = [] ∨ (∃ before, word = before ++ [.openParen]) ∨
    (level = .product ∧ ∃ before op, op.precedence = .sum ∧ word = before ++ [.operator op])

/-- Where a chain begins inside a chain of the same level, at least as many parentheses are open. -/
theorem Opens.eq_nil {level : Precedence} {word left : List Token} (h : Opens level (word ++ left))
    {chain inner : Phrase (.chain level)} (hc : chain.tokens = left ++ inner.tokens) :
    left = [] := by
  rcases List.eq_nil_or_concat left with rfl | ⟨left, last, rfl⟩
  · rfl
  exfalso
  have hchain := chain.opened_tokens
  have hinner := inner.opened_tokens
  rw [hc] at hchain
  simp only [List.concat_eq_append, opened_append, closed_append, opened_cons, closed_cons,
    opened_nil, closed_nil] at hchain
  rw [List.concat_eq_append, List.append_assoc, List.singleton_append] at hc
  rw [List.concat_eq_append, ← List.append_assoc] at h
  rcases h with h | ⟨before, h⟩ | ⟨rfl, before, op, hop, h⟩
  · simp at h
  · obtain ⟨-, h⟩ := List.append_inj' h rfl
    rw [List.cons.injEq] at h
    obtain ⟨rfl, -⟩ := h
    have hle := Phrase.closed_le_opened hc
    simp only [reduceCtorEq, if_true, if_false] at hchain
    omega
  · obtain ⟨-, h⟩ := List.append_inj' h rfl
    rw [List.cons.injEq] at h
    obtain ⟨rfl, -⟩ := h
    simp only [reduceCtorEq, if_false] at hchain
    have := chain.holds_of_tokens_eq hc (by omega)
    rw [hop] at this
    cases this

/-- **The chain that a word ends in**, from where chains of its level begin, is unique. -/
theorem Opens.unique {level : Precedence} {left left' : List Token}
    {chain chain' : Phrase (.chain level)} (h : Opens level left) (h' : Opens level left')
    (heq : left ++ chain.tokens = left' ++ chain'.tokens) : left = left' ∧ chain = chain' := by
  rcases List.append_eq_append_iff.mp heq with ⟨more, rfl, hmore⟩ | ⟨more, rfl, hmore⟩
  · obtain rfl := h'.eq_nil hmore
    exact ⟨by rw [List.append_nil], Phrase.tokens_injective _ _ hmore⟩
  · obtain rfl := h.eq_nil hmore
    exact ⟨by rw [List.append_nil], (Phrase.tokens_injective _ _ hmore).symm⟩

end Calculator
