import Calculator.Proofs.Parser.Acceptance

/-! # What an error of parsing is about

Every error of parsing is one of five (`parse_complaint`): the tokens end, a token stands in the
place of something else or behind a complete expression, a parenthesis is one too many, or an
operator has no result. All but the first are about one of the tokens, and the parser is left in
front of that token unless it is the operator. -/

namespace Calculator.Parser

/-- What an error of parsing is about, and the tokens that the parser has left behind it. -/
inductive Complaint (tokens : List Placed) (eof : Position) : Error → List Placed → Prop
  /-- The tokens end in the place of what is wanted. -/
  | ended {wanted : String} (hwanted : wanted ∈ [Error.factorWanted, Token.Kind.closeParen.text]) :
      Complaint tokens eof (.ended wanted eof) []
  /-- A token stands in the place of what is wanted. -/
  | unexpected {before rest : List Placed} {found : Placed} {wanted : String}
      (hsplit : tokens = before ++ found :: rest)
      (hwanted : wanted ∈ [Error.factorWanted, Token.Kind.closeParen.text]) :
      Complaint tokens eof (.unexpected wanted found) (found :: rest)
  /-- A token stands behind a complete expression. -/
  | trailing {before rest : List Placed} {found : Placed}
      (hsplit : tokens = before ++ found :: rest) :
      Complaint tokens eof (.trailing found) (found :: rest)
  /-- A parenthesis stands inside as many others as may be open. -/
  | tooDeep {before rest : List Placed} {found : Placed} (hsplit : tokens = before ++ found :: rest)
      (hopen : found.token = .openParen)
      (hcount : opened (before.map Placed.token) = closed (before.map Placed.token) + maxDepth) :
      Complaint tokens eof (.tooDeep maxDepth found) (found :: rest)
  /-- An operator has no result on two values. -/
  | fault {before rest left : List Placed} {place : Placed} {l r : Number} {op : Operator}
      {reason : Fault} (hsplit : tokens = before ++ place :: rest)
      (hplace : place.token = .operator op) (hreason : l.apply op r = .error reason) :
      Complaint tokens eof (.ofFault reason l op r place) left

variable {tokens : List Placed} {eof : Position} {e : Error}

/-- Where a phrase begins, as many parentheses are open as the parser counts. -/
theorem opened_of_reaches {kind : Phrase.Kind} {word : List Token} {d : Nat}
    (h : Phrase.Reaches maxDepth .expr 0 word kind d) : opened word = closed word + d := by
  have hcount := (Stage.depth_run? h.run?).1
  simp only [Stage.depth] at hcount
  omega

theorem Fails.complaint {left : List Placed} (h : Fails .expr { tokens, eof } e left) :
    Complaint tokens eof e left := by
  obtain ⟨taken, more, inner, d, htokens, hreach, hblocked⟩ := h
  replace htokens : tokens = taken ++ more := htokens
  have hd : d ≤ maxDepth := hreach.le_limit (Nat.zero_le _)
  cases hblocked with
  | ended => exact .ended (List.mem_cons_self ..)
  | unexpected => exact .unexpected htokens (List.mem_cons_self ..)
  | tooDeep hopen hdeep =>
    obtain rfl : d = maxDepth := Nat.le_antisymm hd hdeep
    exact .tooDeep htokens hopen (opened_of_reaches hreach)
  | unclosed => exact .ended (List.mem_cons_of_mem _ (List.mem_cons_self ..))
  | @misclosed _ found inside _ place rest =>
    have hsplit : tokens = (taken ++ found :: inside) ++ place :: rest := by
      rw [htokens, List.append_assoc, List.cons_append]
    exact .unexpected hsplit (List.mem_cons_of_mem _ (List.mem_cons_self ..))
  | fault _ _ _ hplace _ _ hreason =>
    rw [← List.append_assoc] at htokens
    exact .fault htokens hplace hreason

/-- **What an error of parsing is about.** -/
theorem parse_complaint (h : (parse { tokens, eof }).result = .error e) :
    Complaint tokens eof e (parse { tokens, eof }).state.tokens := by
  have hexplained := rule_explained .expr (p := { tokens, eof }) (Nat.zero_le _)
  rcases hr : (expr { tokens, eof }).result with e' | v
  · rw [parse_of_error hr] at h
    cases h
    rw [parse, Outcome.state_bind_of_error hr]
    exact ((explained_error (o := expr _) hr).mp hexplained).complaint
  · obtain ⟨⟨-, taken, htokens, -⟩, -⟩ := (explained_ok (o := expr _) hr).mp hexplained
    replace htokens : tokens = taken ++ (expr { tokens, eof }).state.tokens := htokens
    rcases hleft : (expr { tokens, eof }).state.tokens with _ | ⟨found, rest⟩
    · rw [parse_of_nil hr hleft] at h
      cases h
    · have hstate : (parse { tokens, eof }).state.tokens = found :: rest := by
        rw [parse, Outcome.state_bind_of_ok hr, finish, hleft]
        exact hleft
      rw [parse_of_cons hr hleft] at h
      cases h
      rw [hstate]
      rw [hleft] at htokens
      exact .trailing htokens

/-! ### What is left behind a complaint -/

theorem Complaint.left_of_end {left : List Placed} (h : Complaint tokens eof e left)
    (he : e.kind = .unexpectedEnd) : left = [] := by
  cases h with
  | ended => rfl
  | unexpected | trailing | tooDeep => cases he
  | @fault _ _ _ _ _ _ _ reason => cases reason <;> cases he

theorem Complaint.left_of_found {left : List Placed} (h : Complaint tokens eof e left)
    (he : e.kind ∈ [.unexpectedToken, .trailingInput, .nestingTooDeep]) :
    ∃ before found rest, tokens = before ++ found :: rest ∧ e.start = found.start ∧
      e.stop = found.stop ∧ left = found :: rest := by
  cases h with
  | ended => simp [Error.ended] at he
  | unexpected hsplit => exact ⟨_, _, _, hsplit, rfl, rfl, rfl⟩
  | trailing hsplit => exact ⟨_, _, _, hsplit, rfl, rfl, rfl⟩
  | tooDeep hsplit => exact ⟨_, _, _, hsplit, rfl, rfl, rfl⟩
  | @fault _ _ _ _ _ _ _ reason => cases reason <;> simp [Error.ofFault] at he

theorem tokens_of_parse {v : Number} (h : (parse { tokens, eof }).result = .ok v) :
    (parse { tokens, eof }).state.tokens = [] := by
  obtain ⟨hok, hnil⟩ := expr_of_parse h
  rw [parse, Outcome.state_bind_of_ok hok, finish, hnil]
  exact hnil

end Calculator.Parser
