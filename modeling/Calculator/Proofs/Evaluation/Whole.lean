import Calculator.Evaluation
import Calculator.Proofs.Parser.Breaks

/-! # Evaluation of whole numbers

The checked 64-bit evaluation of a source without doubles and quotients against the arithmetic of
all the integers (`evaluate_whole`): it gives the exact value as long as every result on the way
fits, and otherwise the overflow at the first result that does not. -/

namespace Calculator

/-- **Whole numbers are evaluated exactly, or the first result that does not fit is reported.** The
error stands at the operator of this result and shows the exact operands; results behind it, the
value of the whole expression among them, play no part. -/
theorem evaluate_whole (source : Source) (tokens : List Placed) (phrase : Phrase .expr)
    (hread : (Lexer.start source).tokens.result = .ok tokens)
    (htokens : phrase.tokens = tokens.map Placed.token) (hdepth : phrase.depth ≤ maxDepth)
    (hwhole : ∀ placed ∈ tokens, placed.token.Whole) :
    ((∀ o ∈ phrase.operations 0, o.Fits) ∧
        ∃ n : Int64, source.evaluate.result = .ok (.integer n) ∧ n.toInt = phrase.exact) ∨
      ∃ (o : Operation) (place : Placed), FirstMisfit (phrase.operations 0) o ∧
        tokens[o.index]? = some place ∧ place.token = .operator o.op ∧
        source.evaluate.result = .error
          ⟨.overflow, place.start, place.stop, o.text ++ " does not fit in a number"⟩ := by
  have hphrase : ∀ token ∈ phrase.tokens, token.Whole := by
    intro token ht
    rw [htokens, List.mem_map] at ht
    obtain ⟨placed, hmem, rfl⟩ := ht
    exact hwhole placed hmem
  rw [Source.result_evaluate_of_ok hread]
  rcases phrase.exact_or_breaks hphrase 0 with
    ⟨hfits, n, hvalue, hexact⟩ | ⟨o, ho, k, l, r, hk, hl, hr, hbreaks⟩
  · exact Or.inl ⟨hfits, n, Parser.parse_of_value hvalue _ htokens hdepth, hexact⟩
  · obtain ⟨place, hget, hplace, hresult⟩ :=
      Parser.Breaks.parse_result hbreaks (Lexer.start source).tokens.state.position htokens hdepth
    have hindex : o.index = k := by omega
    have hdetails : (Number.integer l).text ++ " " ++ o.op.text ++ " " ++ (Number.integer r).text =
        o.text := by
      unfold Operation.text
      rw [← hl, ← hr]
      rfl
    refine Or.inr ⟨o, place, ho, by rw [hindex, hget], hplace, ?_⟩
    rw [hresult, ← hdetails]
    rfl

/-- In `9223372036854775807+1-1` the sum does not fit, though the exact value would. -/
theorem evaluate_whole_large_sum :
    let source : Source := ⟨"<test>", "9223372036854775807+1-1"⟩
    let placed := fun (i j : Int) token => (⟨token, source.position i, source.position j⟩ : Placed)
    let tokens : List Placed :=
      [placed 0 19 (.number (.integer 9223372036854775807)), placed 19 20 (.operator .add),
        placed 20 21 (.number (.integer 1)), placed 21 22 (.operator .sub),
        placed 22 23 (.number (.integer 1))]
    let large : Phrase .expr := .single (.single (.number (.integer 9223372036854775807)))
    let one : Phrase .term := .single (.number (.integer 1))
    let phrase : Phrase .expr := .apply (.apply large .add rfl one) .sub rfl one
    (Lexer.start source).tokens.result = .ok tokens ∧
      phrase.tokens = tokens.map Placed.token ∧ phrase.depth ≤ maxDepth ∧
      (∀ placed ∈ tokens, placed.token.Whole) ∧ Number.Fits phrase.exact ∧
      ∃ (o : Operation) (place : Placed), FirstMisfit (phrase.operations 0) o ∧
        tokens[o.index]? = some place ∧ place.token = .operator o.op ∧
        source.evaluate.result = .error
          ⟨.overflow, place.start, place.stop, o.text ++ " does not fit in a number"⟩ := by
  intro source placed tokens large one phrase
  have hread : (Lexer.start source).tokens.result = .ok tokens := by decide
  have htokens : phrase.tokens = tokens.map Placed.token := rfl
  have hdepth : phrase.depth ≤ maxDepth := by decide
  have hwhole : ∀ placed ∈ tokens, placed.token.Whole := by decide
  refine ⟨hread, htokens, hdepth, hwhole, by decide, ?_⟩
  rcases evaluate_whole source tokens phrase hread htokens hdepth hwhole with ⟨hfits, -⟩ | h
  · have hsum : Operation.Fits ⟨1, 9223372036854775807, .add, 1⟩ :=
      hfits _ (List.mem_cons_self ..)
    exact absurd hsum (by decide)
  · exact h

end Calculator
