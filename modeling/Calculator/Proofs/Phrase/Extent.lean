import Calculator.Proofs.Phrase.Unique

/-! # How far a phrase reaches

Of the phrases of one kind that a word begins with, the longest one is what the grammar has no
operator to go on from. For what stands between the end of a phrase and the end of a longer phrase
of its kind begins with an operator that the kind holds (`operator_of_tokens_append`), so a phrase
without such an operator behind it is the longest (`isLongest_of_stops`). -/

namespace Calculator.Phrase

variable {kind : Kind}

/-- **The longest phrase** of its kind that the word begins with, of those with at most `limit`
parentheses inside one another. -/
structure IsLongest (limit : Nat) (phrase : Phrase kind) (word : List Token) : Prop where
  begins : phrase.tokens <+: word
  within : phrase.depth ≤ limit
  longest : ∀ other : Phrase kind, other.tokens <+: word → other.depth ≤ limit →
    other.tokens.length ≤ phrase.tokens.length

theorem IsLongest.unique {limit : Nat} {phrase other : Phrase kind} {word : List Token}
    (h : phrase.IsLongest limit word) (h' : other.IsLongest limit word) : phrase = other := by
  have hlength : phrase.tokens.length = other.tokens.length :=
    Nat.le_antisymm (h'.longest phrase h.begins h.within) (h.longest other h'.begins h'.within)
  refine tokens_injective phrase other ?_
  rw [List.prefix_iff_eq_take.1 h.begins, List.prefix_iff_eq_take.1 h'.begins, hlength]

/-- **Behind a phrase a longer one goes on with an operator** of its own chains. -/
theorem operator_of_tokens_append {phrase other : Phrase kind} {token : Token} {more : List Token}
    (h : other.tokens = phrase.tokens ++ token :: more) :
    ∃ op, token = .operator op ∧ kind.Holds op.precedence := by
  -- behind the shorter phrase no parenthesis is open, so none is closed there
  have hother := Stage.run?_tokens other (d := 0) (Nat.le_max_left other.depth phrase.depth)
  have hphrase := Stage.run?_tokens phrase (d := 0) (Nat.le_max_right other.depth phrase.depth)
  rw [h, Stage.run?_append_of_some hphrase, Stage.run?_cons, Option.bind_eq_some_iff] at hother
  obtain ⟨next, hnext, -⟩ := hother
  rcases Stage.next?_eq_some hnext with ⟨d, v, hd, -⟩ | ⟨d, hd, -⟩ | ⟨d, op, -, htoken, -⟩ |
    ⟨d, hd, -⟩
  · cases hd
  · cases hd
  · rw [htoken] at h
    exact ⟨op, htoken, holds_of_tokens_eq other h (opened_tokens phrase)⟩
  · cases hd

/-- A phrase is the longest of its kind if no operator of its own chains stands behind it. -/
theorem isLongest_of_stops {limit : Nat} {phrase : Phrase kind} {word left : List Token}
    (hword : word = phrase.tokens ++ left) (hdepth : phrase.depth ≤ limit)
    (hstops : ∀ op rest, left = .operator op :: rest → ¬ kind.Holds op.precedence) :
    phrase.IsLongest limit word := by
  have hbegins : phrase.tokens <+: word := ⟨left, hword.symm⟩
  refine ⟨hbegins, hdepth, fun other hother _ => ?_⟩
  rcases List.prefix_or_prefix_of_prefix hother hbegins with hle | ⟨more, hmore⟩
  · exact hle.length_le
  · cases more with
    | nil => exact Nat.le_of_eq (by rw [← hmore, List.append_nil])
    | cons token more =>
      obtain ⟨op, rfl, hholds⟩ := operator_of_tokens_append hmore.symm
      rw [← hmore, hword, List.prefix_append_right_inj] at hother
      obtain ⟨rest, hrest⟩ := hother
      exact (hstops op _ hrest.symm hholds).elim

end Calculator.Phrase
