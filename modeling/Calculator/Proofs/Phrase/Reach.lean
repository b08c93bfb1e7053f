import Calculator.Proofs.Phrase.Unique

/-! # Where phrases begin

`Reaches limit kind d word inner e` says that a phrase of `kind` with `d` parentheses open around it
can, after the tokens `word`, begin a phrase of the kind `inner` with `e` parentheses open: as the
first operand of a chain, as the operand behind an operator, or inside parentheses.

* `Reaches.plug`: any phrase of the inner kind completes to a phrase of the outer kind, so what is
  reached is viable;
* `Reaches.run?`: the word leads to the stage before an operand;
* `Reaches.opens`: chains begin where `Opens` says;
* `exists_reaches`: conversely, every operator of a phrase stands behind a chain of its level that
  begins where the phrase reaches it. -/

namespace Calculator.Phrase

/-- A phrase of one kind reaches the beginning of a phrase of another. -/
inductive Reaches (limit : Nat) (kind : Kind) (d : Nat) : List Token → Kind → Nat → Prop where
  /-- The phrase itself. -/
  | here : Reaches limit kind d [] kind d
  /-- The first operand of a chain. -/
  | head {word : List Token} {level : Precedence} {e : Nat}
      (outer : Reaches limit kind d word (.chain level) e) :
      Reaches limit kind d word level.operand e
  /-- The operand behind an operator. -/
  | operand {word : List Token} {level : Precedence} {e : Nat}
      (outer : Reaches limit kind d word (.chain level) e) (lhs : Phrase (.chain level))
      (room : lhs.depth + e ≤ limit) {op : Operator} (fits : op.precedence = level) :
      Reaches limit kind d (word ++ (lhs.tokens ++ [.operator op])) level.operand e
  /-- The expression in parentheses. -/
  | inside {word : List Token} {e : Nat} (outer : Reaches limit kind d word .factor e)
      (room : e < limit) : Reaches limit kind d (word ++ [.openParen]) .expr (e + 1)

namespace Reaches

variable {limit : Nat} {kind inner last : Kind} {d e f : Nat} {word more : List Token}

theorem trans (first : Reaches limit kind d word inner e)
    (second : Reaches limit inner e more last f) :
    Reaches limit kind d (word ++ more) last f := by
  induction second with
  | here => rw [List.append_nil]; exact first
  | head _ ih => exact ih.head
  | operand _ lhs room fits ih => rw [← List.append_assoc]; exact ih.operand lhs room fits
  | inside _ room ih => rw [← List.append_assoc]; exact ih.inside room

theorem mono {larger : Nat} (hle : limit ≤ larger) (h : Reaches limit kind d word inner e) :
    Reaches larger kind d word inner e := by
  induction h with
  | here => exact here
  | head _ ih => exact ih.head
  | operand _ lhs room fits ih => exact ih.operand lhs (Nat.le_trans room hle) fits
  | inside _ room ih => exact ih.inside (Nat.lt_of_lt_of_le room hle)

theorem le_limit (h : Reaches limit kind d word inner e) (hd : d ≤ limit) : e ≤ limit := by
  induction h with
  | here => exact hd
  | head _ ih => exact ih
  | operand _ _ _ _ ih => exact ih
  | inside _ room _ => exact room

/-- **What is reached completes**: a phrase that begins there is part of a phrase that began
before. -/
theorem plug (h : Reaches limit kind d word inner e) (phrase : Phrase inner)
    (hp : phrase.depth + e ≤ limit) :
    ∃ (whole : Phrase kind) (rest : List Token), whole.depth + d ≤ limit ∧
      whole.tokens = word ++ phrase.tokens ++ rest := by
  induction h with
  | here => exact ⟨phrase, [], hp, by simp⟩
  | head _ ih => exact ih (single phrase) hp
  | operand _ lhs room fits ih =>
    obtain ⟨whole, rest, hd, ht⟩ := ih (apply lhs _ fits phrase) (by rw [depth_apply]; omega)
    exact ⟨whole, rest, hd, by rw [ht]; simp⟩
  | inside _ room ih =>
    obtain ⟨whole, rest, hd, ht⟩ := ih (group phrase) (by rw [depth_group]; omega)
    exact ⟨whole, .closeParen :: rest, hd, by rw [ht]; simp⟩

theorem run? (h : Reaches limit kind d word inner e) :
    (Stage.before d).run? limit word = some (.before e) := by
  induction h with
  | here => rfl
  | head _ ih => exact ih
  | operand _ lhs room _ ih =>
    rw [Stage.run?_append_of_some ih, Stage.run?_append_of_some (Stage.run?_tokens lhs room)]
    rfl
  | inside _ room ih =>
    rw [Stage.run?_append_of_some ih, Stage.run?_singleton]
    simp only [Stage.next?, if_pos room]

theorem viable_append (h : Reaches limit .expr 0 word inner e) (phrase : Phrase inner)
    (hp : phrase.depth + e ≤ limit) : Viable limit (word ++ phrase.tokens) := by
  obtain ⟨whole, rest, hd, ht⟩ := h.plug phrase hp
  exact ⟨rest, whole, ht, hd⟩

theorem viable (h : Reaches limit .expr 0 word inner e) : Viable limit word := by
  refine (h.viable_append (ofNumber (.integer 0) inner) ?_).of_append
  rw [depth_ofNumber, Nat.zero_add]
  exact h.le_limit (Nat.zero_le _)

theorem viable_operator {level : Precedence} (h : Reaches limit .expr 0 word (.chain level) e)
    (lhs : Phrase (.chain level)) (room : lhs.depth + e ≤ limit) {op : Operator}
    (fits : op.precedence = level) : Viable limit (word ++ (lhs.tokens ++ [.operator op])) :=
  (h.operand lhs room fits).viable

/-- Chains begin where `Opens` says. -/
theorem opens_of_eq (h : Reaches limit .expr 0 word inner e) :
    ∀ {level : Precedence}, inner = .chain level → Opens level word := by
  induction h with
  | here => exact fun _ => Or.inl rfl
  | @head word outer e _ ih =>
    intro level hl
    -- the first operand is a chain itself only in a sum, whose level is the looser one
    cases outer <;> cases level <;> simp only [Precedence.operand, Kind.term, reduceCtorEq,
      Kind.chain.injEq] at hl
    rcases ih rfl with h | h | ⟨h, -⟩
    · exact Or.inl h
    · exact Or.inr (Or.inl h)
    · cases h
  | @operand word outer e _ lhs _ op fits _ =>
    intro level hl
    cases outer <;> cases level <;> simp only [Precedence.operand, Kind.term, reduceCtorEq,
      Kind.chain.injEq] at hl
    exact Or.inr (Or.inr ⟨rfl, word ++ lhs.tokens, op, fits, by rw [List.append_assoc]⟩)
  | inside _ _ _ => exact fun _ => Or.inr (Or.inl ⟨_, rfl⟩)

theorem opens {level : Precedence} (h : Reaches limit .expr 0 word (.chain level) e) :
    Opens level word := h.opens_of_eq rfl

end Reaches

/-- **Every operator of a phrase** stands behind a chain of its level. -/
theorem exists_reaches {limit : Nat} : ∀ {kind : Kind} (phrase : Phrase kind) {d : Nat}
    {left right : List Token} {op : Operator}, phrase.depth + d ≤ limit →
      phrase.tokens = left ++ .operator op :: right →
        ∃ (word : List Token) (e : Nat) (lhs : Phrase (.chain op.precedence)),
          Reaches limit kind d word (.chain op.precedence) e ∧ lhs.depth + e ≤ limit ∧
            left = word ++ lhs.tokens
  | _, .number v, d, left, right, op, _, h => by
    rw [tokens_number] at h
    rcases left with _ | ⟨token, left⟩ <;> simp at h
  | _, .group inner, d, left, right, op, hd, h => by
    rw [depth_group] at hd
    rw [tokens_group] at h
    rcases left with _ | ⟨token, left⟩
    · simp at h
    rw [List.cons_append, List.cons.injEq] at h
    obtain ⟨rfl, h⟩ := h
    have hin : ∃ more, inner.tokens = left ++ .operator op :: more := by
      rcases append_cons_cases h with ⟨-, hc, -⟩ | ⟨more, hin, -⟩ | ⟨more, -, hr⟩
      · cases hc
      · exact ⟨more, hin⟩
      · simp at hr
    obtain ⟨more, hin⟩ := hin
    have hroom : inner.depth + (d + 1) ≤ limit := by omega
    obtain ⟨word, e, lhs, hreach, hlhs, rfl⟩ := exists_reaches inner hroom hin
    exact ⟨[.openParen] ++ word, e, lhs, (Reaches.here.inside (by omega)).trans hreach, hlhs, rfl⟩
  | _, .single operand, d, left, right, op, hd, h => by
    obtain ⟨word, e, lhs, hreach, hlhs, rfl⟩ := exists_reaches operand hd h
    exact ⟨[] ++ word, e, lhs, Reaches.here.head.trans hreach, hlhs, rfl⟩
  | _, .apply lhs o fits rhs, d, left, right, op, hd, h => by
    rw [depth_apply] at hd
    rw [tokens_apply] at h
    have hl : lhs.depth + d ≤ limit := by omega
    have hr : rhs.depth + d ≤ limit := by omega
    rcases append_cons_cases h with ⟨rfl, hop, -⟩ | ⟨more, hlhs, -⟩ | ⟨more, rfl, hrhs⟩
    · cases hop
      subst fits
      exact ⟨[], d, lhs, .here, hl, rfl⟩
    · exact exists_reaches lhs hl hlhs
    · obtain ⟨word, e, inner, hreach, hroom, rfl⟩ := exists_reaches rhs hr hrhs
      refine ⟨_, e, inner, (Reaches.here.operand lhs hl fits).trans hreach, hroom, ?_⟩
      simp

end Calculator.Phrase
