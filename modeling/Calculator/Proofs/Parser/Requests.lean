import Calculator.Parser.Lemmas

/-! # Many requests to one parser

A parser that has answered requests differs from a fresh one in nothing but the tokens that are
left: no parenthesis counts as open, and the end of the tokens is reported where it was, whatever
was asked and however it ended. So every answer is the one that a fresh parser gives on the tokens
left at that moment (`answers_memoryless`). One request is `answer_leaves`, and the induction over
the requests carries a parser with no open parenthesis along. -/

namespace Calculator.Parser

theorem state_eat_of_error {p : Parser} {kind : Token.Kind} {e : Error}
    (h : (p.eat kind).result = .error e) : (p.eat kind).state = p := by
  rcases hp : p.tokens with _ | ⟨found, rest⟩
  · unfold eat
    rw [hp]
    rfl
  · unfold eat at h ⊢
    simp only [hp] at h ⊢
    split at h
    · cases h
    · next hkind =>
      rw [if_neg hkind]
      rfl

/-- What an answer leaves of a fresh parser: a fresh parser on an end of the tokens, and on all of
them if a token was asked for and not found. -/
theorem answer_leaves (tokens : List Placed) (eof : Position) (request : Request) :
    ∃ after, (answer { tokens, eof } request).state = { tokens := after, eof, depth := 0 } ∧
      after <:+ tokens ∧
      ∀ kind e, request = .eat kind → (answer { tokens, eof } request).result = .error e →
        after = tokens := by
  have hkeeps := keeps_answer request { tokens, eof }
  refine ⟨(answer { tokens, eof } request).state.tokens, ?_, hkeeps.tokens, ?_⟩
  · exact Parser.mk.injEq .. ▸ ⟨rfl, hkeeps.eof, hkeeps.depth⟩
  · rintro kind e rfl h
    have hstate := state_eat_of_error (Outcome.result_map_eq_error_iff.mp h)
    change (eat kind { tokens, eof }).state.tokens = tokens
    rw [hstate]

/-- **A parser remembers nothing but the tokens that are left.** The answer to each request is the
one of a fresh parser on the tokens that the requests before left, and it leaves an end of them and
no parenthesis open; a token that is asked for and not found leaves them all. -/
theorem answers_memoryless (tokens : List Placed) (eof : Position) (requests : List Request) :
    let outcomes := answers { tokens, eof } requests
    let left := tokens :: outcomes.map fun outcome => outcome.state.tokens
    outcomes.length = requests.length ∧
      ∀ (k : Nat) (request : Request), requests[k]? = some request →
        ∃ (before after : List Placed) (outcome : Outcome Parser (Option Number)),
          left[k]? = some before ∧ left[k + 1]? = some after ∧ outcomes[k]? = some outcome ∧
          outcome = answer { tokens := before, eof, depth := 0 } request ∧
          outcome.state = { tokens := after, eof, depth := 0 } ∧ after <:+ before ∧
          ∀ kind e, request = .eat kind → outcome.result = .error e → after = before := by
  intro outcomes left
  induction requests generalizing tokens with
  | nil => exact ⟨rfl, fun k request h => by cases h⟩
  | cons first requests ih =>
    obtain ⟨after, hstate, hsuffix, heat⟩ := answer_leaves tokens eof first
    have houtcomes : outcomes =
        answer { tokens, eof } first :: answers { tokens := after, eof } requests := by
      change answer _ first :: (answer _ first).state.answers requests = _
      rw [hstate]
    have hleft : left = tokens :: after ::
        (answers { tokens := after, eof } requests).map fun outcome => outcome.state.tokens := by
      change tokens :: outcomes.map _ = _
      rw [houtcomes, List.map_cons, hstate]
    obtain ⟨hlength, hrest⟩ := ih after
    refine ⟨by rw [houtcomes, List.length_cons, List.length_cons, hlength], ?_⟩
    intro k request hk
    rw [houtcomes, hleft]
    cases k with
    | zero =>
      obtain rfl : first = request := Option.some.inj hk
      exact ⟨tokens, after, _, rfl, rfl, rfl, rfl, hstate, hsuffix, heat⟩
    | succ k => exact hrest k request hk

/-- A factor of `(1 2+3` fails inside its parenthesis and leaves `2+3`; no closing parenthesis is
found there, and the expression that is asked for last begins with no parenthesis open. -/
theorem answers_memoryless_unclosed :
    let eof := Source.position ⟨"<test>", "(1 2+3"⟩ 6
    let tokens : List Placed :=
      [⟨.openParen, eof, eof⟩, ⟨.number (.integer 1), eof, eof⟩, ⟨.number (.integer 2), eof, eof⟩,
        ⟨.operator .add, eof, eof⟩, ⟨.number (.integer 3), eof, eof⟩]
    let requests : List Request := [.factor, .eat .closeParen, .expr]
    requests[1]? = some (.eat .closeParen) ∧ requests[2]? = some .expr ∧
      ∃ outcome, (answers { tokens, eof } requests)[2]? = some outcome ∧
        outcome = answer { tokens := tokens.drop 2, eof, depth := 0 } .expr ∧
        outcome.result = .ok (some (.integer 5)) := by
  intro eof tokens requests
  obtain ⟨-, hanswers⟩ := answers_memoryless tokens eof requests
  obtain ⟨before, after, refusal, hbefore, hafter, -, hrefusal, -, -, heat⟩ :=
    hanswers 1 (.eat .closeParen) rfl
  obtain rfl : tokens.drop 2 = before := Option.some.inj hbefore
  obtain rfl : after = tokens.drop 2 := heat .closeParen _ rfl (by rw [hrefusal]; rfl)
  obtain ⟨left, -, outcome, hleft, -, houtcome, hfresh, -⟩ := hanswers 2 .expr rfl
  obtain rfl : tokens.drop 2 = left := Option.some.inj (hafter.symm.trans hleft)
  exact ⟨rfl, rfl, outcome, houtcome, hfresh, by rw [hfresh]; rfl⟩

end Calculator.Parser
