import Calculator.Proofs.Parser.Complaint
import Calculator.Proofs.Parser.Told
import Calculator.Proofs.Phrase.Extent

/-! # Where the rules leave the tokens

A rule takes an initial part of the tokens, each of them once and in order, and its outcome says how
much (`rules_leave`). A rule that gives a value has taken the longest phrase of its kind. A rule
that fails for a token stops in front of this token, one that fails for the end of the tokens leaves
none, and one that fails for an operator stops behind the right operand of the operator, which is
the longest phrase that can stand there. -/

namespace Calculator

/-- The error is about an operator among the tokens taken, which end with the right operand of this
operator: the longest that can stand behind it, with the value that the error shows. -/
def Error.BehindOperand (e : Error) (taken left : List Placed) : Prop :=
  ∃ (before operand : List Placed) (place : Placed) (reason : Fault) (l r : Number) (op : Operator)
    (rhs : Phrase op.precedence.operand),
    taken = before ++ place :: operand ∧ place.token = .operator op ∧
    e = .ofFault reason l op r place ∧ operand.map Placed.token = rhs.tokens ∧
    rhs.value = .ok r ∧
    rhs.IsLongest (maxDepth - unclosed (before.map Placed.token))
      ((operand ++ left).map Placed.token)

/-- **What an error says about the tokens taken and left**: it stands at the first token that is
left, or at their end, or at an operator whose right operand is the last that has been taken. -/
def Error.Splits (eof : Position) (e : Error) (taken left : List Placed) : Prop :=
  match e.kind with
  | .unexpectedToken => ∃ wanted found rest, left = found :: rest ∧ e = .unexpected wanted found
  | .nestingTooDeep => ∃ found rest, left = found :: rest ∧ e = .tooDeep maxDepth found
  | .trailingInput => ∃ found rest, left = found :: rest ∧ e = .trailing found
  | .unexpectedEnd => left = [] ∧ ∃ wanted, e = .ended wanted eof
  | .divisionByZero | .overflow => e.BehindOperand taken left
  | .illegalCharacter | .literalTooLarge => False

namespace Parser

/-- **The outcome has taken these tokens**, which its events tell, and leaves the rest: with a
value, they are the longest phrase of the kind, and with an error, they end where the error says. -/
structure Takes (kind : Phrase.Kind) (tokens : List Placed) (eof : Position)
    (o : Outcome Parser Number) (taken : List Placed) : Prop where
  split : tokens = taken ++ o.state.tokens
  eaten : eatenTokens o.events.toList = taken.map Placed.token
  value : ∀ v, o.result = .ok v → ∃ phrase : Phrase kind,
    phrase.tokens = taken.map Placed.token ∧ phrase.value = .ok v ∧
      phrase.IsLongest maxDepth (tokens.map Placed.token)
  error : ∀ e, o.result = .error e → e.Splits eof taken o.state.tokens

/-! ### Phrases that are read -/

/-- What is read before tokens that go on with no operator of its own is the longest phrase. -/
theorem Reads.exists_isLongest {kind : Phrase.Kind} {p : Parser} {v : Number} {left : List Placed}
    (h : Reads kind p v left) (hs : Stops kind left) :
    ∃ (taken : List Placed) (phrase : Phrase kind), p.tokens = taken ++ left ∧
      taken.map Placed.token = phrase.tokens ∧ phrase.value = .ok v ∧
        phrase.IsLongest (maxDepth - p.depth) (p.tokens.map Placed.token) := by
  obtain ⟨phrase, taken, hp, ht, hd, hv⟩ := h
  have hword : p.tokens.map Placed.token = phrase.tokens ++ left.map Placed.token := by
    rw [hp, List.map_append, ht]
  refine ⟨taken, phrase, hp, ht, hv, ?_⟩
  refine Phrase.isLongest_of_stops hword (Nat.le_sub_of_add_le hd) fun op rest hleft => ?_
  obtain ⟨place, more, hmore, hplace, -⟩ := List.map_eq_cons_iff.mp hleft
  exact hs place more op hmore hplace

theorem exists_isLongest_of_ok {kind : Phrase.Kind} {p : Parser} {v : Number}
    (hd : p.depth ≤ maxDepth) (h : (rule kind p).result = .ok v) :
    ∃ (taken : List Placed) (phrase : Phrase kind), p.tokens = taken ++ (rule kind p).state.tokens ∧
      taken.map Placed.token = phrase.tokens ∧ phrase.value = .ok v ∧
        phrase.IsLongest (maxDepth - p.depth) (p.tokens.map Placed.token) := by
  obtain ⟨hreads, hstops⟩ := (explained_ok h).mp (rule_explained kind hd)
  exact hreads.exists_isLongest hstops

/-! ### Errors -/

section Errors

variable {kind : Phrase.Kind} {tokens : List Placed} {eof : Position} {e : Error}

theorem splits_of_fault {level : Precedence} {d : Nat} {before right : List Placed} {place : Placed}
    (l : Number) {r : Number} {op : Operator} (reason : Fault) (hd : d ≤ maxDepth)
    (hcount : unclosed (before.map Placed.token) = d) (hplace : place.token = .operator op)
    (fits : op.precedence = level) (hr : (rule level.operand ⟨right, eof, d⟩).result = .ok r) :
    ∃ operand, right = operand ++ (rule level.operand ⟨right, eof, d⟩).state.tokens ∧
      (Error.ofFault reason l op r place).Splits eof (before ++ place :: operand)
        (rule level.operand ⟨right, eof, d⟩).state.tokens := by
  subst fits
  obtain ⟨operand, rhs, hright, hoperand, hv, hlongest⟩ := exists_isLongest_of_ok hd hr
  replace hright : right = operand ++ (rule _ ⟨right, eof, d⟩).state.tokens := hright
  have hbehind : (Error.ofFault reason l op r place).BehindOperand (before ++ place :: operand)
      (rule op.precedence.operand ⟨right, eof, d⟩).state.tokens := by
    refine ⟨before, operand, place, reason, l, r, op, rhs, rfl, hplace, rfl, hoperand, hv, ?_⟩
    rw [hcount, ← hright]
    exact hlongest
  refine ⟨operand, hright, ?_⟩
  cases reason with
  | divisionByZero => exact hbehind
  | overflow => exact hbehind

/-- **A failure says where the rule has stopped.** -/
theorem Fails.exists_splits {left : List Placed} (h : Fails kind { tokens, eof } e left) :
    e.kind ≠ .trailingInput ∧ ∃ taken, tokens = taken ++ left ∧ e.Splits eof taken left := by
  obtain ⟨taken, more, inner, d, htokens, hreach, hblocked⟩ := h
  replace htokens : tokens = taken ++ more := htokens
  cases hblocked with
  | ended => exact ⟨nofun, taken, htokens, rfl, _, rfl⟩
  | @unexpected _ found rest =>
    exact ⟨nofun, taken, htokens, _, found, rest, rfl, rfl⟩
  | @tooDeep _ found rest =>
    exact ⟨nofun, taken, htokens, found, rest, rfl, rfl⟩
  | @unclosed _ found inside =>
    exact ⟨nofun, taken ++ found :: inside, by rw [htokens, List.append_nil], rfl, _, rfl⟩
  | @misclosed _ found inside _ place rest =>
    refine ⟨nofun, taken ++ found :: inside, ?_, _, place, rest, rfl, rfl⟩
    rw [htokens, List.append_assoc, List.cons_append]
  | @fault level _ chain right place lhs l r op reason ht room _ hplace fits hr =>
    have hd : d ≤ maxDepth := hreach.le_limit (Nat.zero_le _)
    have hrun : (Stage.before 0).run? maxDepth ((taken ++ chain).map Placed.token) =
        some (.behind d) := by
      rw [List.map_append, ht, Stage.run?_append_of_some hreach.run?, Stage.run?_tokens lhs room]
    obtain ⟨operand, hright, hsplits⟩ :=
      splits_of_fault l reason hd (unclosed_eq_depth hrun) hplace fits hr
    refine ⟨?_, _, ?_, hsplits⟩
    · cases reason <;> exact nofun
    · rw [htokens, List.append_assoc, List.append_assoc, List.cons_append, ← hright]

end Errors

/-! ### All rules -/

theorem tells_rule (kind : Phrase.Kind) : Tells (rule kind) := by
  rcases kind with _ | _ | _
  · exact tells_factor
  · exact tells_expr
  · exact tells_chain tells_factor

theorem eaten_of_told {before : List Number} {p : Parser} {o : Outcome Parser Number}
    {taken : List Placed} (h : Told before p (· :: before) o)
    (hsplit : p.tokens = taken ++ o.state.tokens) :
    eatenTokens o.events.toList = taken.map Placed.token := by
  have heaten := h.eaten
  rw [hsplit, List.map_append] at heaten
  exact List.append_cancel_right heaten

section Leaves

variable (tokens : List Placed) (eof : Position)

theorem rule_takes (kind : Phrase.Kind) :
    ∃ taken, Takes kind tokens eof (rule kind { tokens, eof }) taken ∧
      ∀ e, (rule kind { tokens, eof }).result = .error e → e.kind ≠ .trailingInput := by
  have htold := tells_rule kind { tokens, eof } []
  rcases hr : (rule kind { tokens, eof }).result with e | v
  · have hexplained := rule_explained kind (p := { tokens, eof }) (Nat.zero_le _)
    obtain ⟨hkind, taken, hsplit, he⟩ := ((explained_error hr).mp hexplained).exists_splits
    refine ⟨taken, ⟨hsplit, eaten_of_told htold hsplit, fun v hv => ?_, fun e' he' => ?_⟩,
      fun e' he' => ?_⟩
    · rw [hr] at hv
      cases hv
    · rw [hr] at he'
      cases he'
      exact he
    · cases he'
      exact hkind
  · obtain ⟨taken, phrase, hsplit, ht, hv, hlongest⟩ := exists_isLongest_of_ok (Nat.zero_le _) hr
    refine ⟨taken, ⟨hsplit, eaten_of_told htold hsplit, fun w hw => ?_, fun e he => ?_⟩,
      fun e he => ?_⟩
    · rw [hr] at hw
      cases hw
      exact ⟨phrase, ht.symm, hv, hlongest⟩
    · rw [hr] at he
      cases he
    · cases he

theorem parse_takes : ∃ taken, Takes .expr tokens eof (parse { tokens, eof }) taken := by
  obtain ⟨taken, h, -⟩ := rule_takes tokens eof .expr
  have hkeeps : (parse { tokens, eof }).state = (expr { tokens, eof }).state := by
    rcases hr : (expr { tokens, eof }).result with e | v
    · exact Outcome.state_bind_of_error hr _
    · refine (Outcome.state_bind_of_ok hr _).trans ?_
      unfold finish
      split <;> rfl
  have hsplit : tokens = taken ++ (parse { tokens, eof }).state.tokens := by
    rw [hkeeps]
    exact h.split
  refine ⟨taken, hsplit, eaten_of_told (tells_parse { tokens, eof } []) hsplit, fun v hv => ?_,
    fun e he => ?_⟩
  · exact h.value v (expr_of_parse hv).1
  · rw [hkeeps]
    rcases hr : (expr { tokens, eof }).result with e' | v
    · rw [parse_of_error hr] at he
      cases he
      exact h.error _ hr
    · rcases hleft : (expr { tokens, eof }).state.tokens with _ | ⟨found, rest⟩
      · rw [parse_of_nil hr hleft] at he
        cases he
      · rw [parse_of_cons hr hleft] at he
        cases he
        exact ⟨found, rest, rfl, rfl⟩

/-- **Where the rules leave the tokens.** Each rule takes an initial part of the tokens, one after
the other as its events tell, and nothing else. With a value this part is the longest phrase of the
kind; with an error it ends in front of the token that is reported, at the end of the tokens, or
behind the right operand of the operator that is reported. Only parsing complains about what
follows an expression, and with a value it leaves nothing. -/
theorem rules_leave :
    (∀ kind, ∃ taken, Takes kind tokens eof (rule kind { tokens, eof }) taken ∧
      ∀ e, (rule kind { tokens, eof }).result = .error e → e.kind ≠ .trailingInput) ∧
    ∃ taken, Takes .expr tokens eof (parse { tokens, eof }) taken ∧
      ∀ v, (parse { tokens, eof }).result = .ok v → (parse { tokens, eof }).state.tokens = [] := by
  refine ⟨rule_takes tokens eof, ?_⟩
  obtain ⟨taken, h⟩ := parse_takes tokens eof
  exact ⟨taken, h, fun v hv => tokens_of_parse hv⟩

end Leaves

end Parser

end Calculator
