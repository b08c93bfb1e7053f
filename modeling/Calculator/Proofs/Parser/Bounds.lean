import Calculator.Proofs.Parser.Recursion

/-! # How deep and how long the rules run

A parser that has no parenthesis open when it is asked counts the parentheses of the tokens that it
takes: whenever a rule is entered, its counter is the number of parentheses opened and not yet
closed, and no more than `maxDepth`. Of the rule for factors no more than `maxDepth + 1` calls are
active at a time, so a budget of as many is never used up, and the answer is that of the parser
without a budget. A call that gives a value takes a token and a turn of a loop two, so the tokens
bound the number of calls. All of this is in `Bounded`; `answer_bounded` says it of every request. -/

namespace Calculator.Parser

/-- **What a run on the tokens keeps to**, if no parenthesis is open before it. -/
structure Bounded {α : Type} (tokens : List Placed) (run : Watched α) : Prop where
  /-- Where a rule is entered, the counter is the number of parentheses that the tokens taken so far
  open and do not close. It is within the limit, and of the rule for factors no more calls are
  active than parentheses may be open, and one. -/
  entries : ∀ kind active q, .enter kind active q ∈ run.notes →
    q.depth ≤ maxDepth ∧ active ≤ maxDepth + 1 ∧
      ∃ taken, tokens = taken ++ q.tokens ∧
        opened (taken.map Placed.token) = closed (taken.map Placed.token) + q.depth
  /-- Nothing is taken off the counter when it is zero. -/
  releases : ∀ depth, .release depth ∈ run.notes → 0 < depth ∧ depth ≤ maxDepth
  /-- No bound is used up. -/
  uncut : .cut ∉ run.notes
  /-- A rule that gives a value takes a token. -/
  values : ∀ kind q o v, .leave kind q o ∈ run.notes → o.result = .ok v →
    o.state.tokens.length + 1 ≤ q.tokens.length
  /-- A turn of a loop takes two tokens, the operator and what its operand takes. Only if the operand
  fails it may be the operator alone, and the whole run fails there with the error of the operand. -/
  turns : ∀ q operand, .turn q operand ∈ run.notes →
    match operand.result with
    | .ok _ => operand.state.tokens.length + 2 ≤ q.tokens.length
    | .error e => operand.state.tokens.length + 1 ≤ q.tokens.length ∧
        run.outcome.result = .error e
  /-- Rules are entered at most three times for each token that is taken, and at most three times
  more. -/
  calls : ∃ taken, tokens = taken ++ run.outcome.state.tokens ∧
    run.calls ≤ 3 * (taken.length + 1)

section Requests

variable {budget : Nat} {tokens : List Placed} {eof : Position}

/-- A sound run keeps to the bounds, whatever is made of its value. -/
theorem Sound.bounded {α : Type} {w : Watched Number} (h : Sound 3 { tokens, eof } w)
    {run : Watched α} (hnotes : run.notes = w.notes) (hstate : run.outcome.state = w.outcome.state)
    (herror : ∀ e, w.outcome.result = .error e → run.outcome.result = .error e) :
    Bounded tokens run := by
  refine ⟨?_, ?_, ?_, ?_, ?_, ?_⟩
  · intro kind active q hmem
    obtain ⟨⟨taken, htokens, hcount⟩, hdepth, hactive⟩ := h.notes _ (hnotes ▸ hmem)
    replace hcount : 0 + opened (taken.map Placed.token) =
        q.depth + closed (taken.map Placed.token) := hcount
    exact ⟨hdepth, by omega, taken, htokens, by omega⟩
  · intro depth hmem
    exact h.notes _ (hnotes ▸ hmem)
  · intro hmem
    exact h.notes _ (hnotes ▸ hmem)
  · intro kind q o v hmem hv
    have hnote : (Note.leave kind q o).Holds { tokens, eof } := h.notes _ (hnotes ▸ hmem)
    exact hnote v hv
  · intro q operand hmem
    rw [hnotes] at hmem
    obtain ⟨hone, htwo⟩ := h.notes _ hmem
    split
    · next v hv => exact htwo v hv
    · next e he => exact ⟨hone, herror e (h.broken q operand e hmem he)⟩
  · obtain ⟨taken, htaken⟩ := h.follows.tokens
    replace htaken : tokens = taken ++ w.outcome.state.tokens := htaken.symm
    have hspent := h.spent
    have hcalls : run.calls = w.calls := by rw [Watched.calls, hnotes, Watched.calls]
    refine ⟨taken, by rw [hstate]; exact htaken, ?_⟩
    rw [htaken, List.length_append] at hspent
    omega

theorem Sound.bounded_map {extra : Nat} {w : Watched Number} (h : Sound extra { tokens, eof } w)
    (hextra : extra ≤ 3) : Bounded tokens (w.map some) := by
  refine (h.mono hextra).bounded rfl (Outcome.state_map _ _) fun e he => ?_
  exact Outcome.result_map_eq_error_iff.mpr he

theorem state_finish (value : Number) (p : Parser) : (finish value p).state = p := by
  unfold finish
  split <;> rfl

theorem bounded_watchParse (h : Sound 3 { tokens, eof }
    (watchExpr 0 (watchFactor budget 0) { tokens, eof })) :
    Bounded tokens ((watchParse budget { tokens, eof }).map some) := by
  have hnotes : (watchParse budget { tokens, eof }).notes =
      (watchExpr 0 (watchFactor budget 0) { tokens, eof }).notes :=
    Watched.notes_bind_of_silent fun _ _ => rfl
  have houtcome : (watchParse budget { tokens, eof }).outcome =
      (watchExpr 0 (watchFactor budget 0) { tokens, eof }).outcome.bind finish :=
    Watched.outcome_bind _ _
  refine h.bounded hnotes ?_ fun e he => ?_
  · change (watchParse budget { tokens, eof }).outcome.state = _
    rw [houtcome]
    rcases hr : (watchExpr 0 (watchFactor budget 0) { tokens, eof }).outcome.result with e | v
    · exact Outcome.state_bind_of_error hr _
    · exact (Outcome.state_bind_of_ok hr _).trans (state_finish v _)
  · have herror : (watchParse budget { tokens, eof }).outcome.result = .error e := by
      rw [houtcome]
      exact Outcome.result_bind_of_error he _
    exact Outcome.result_map_eq_error_iff.mpr herror

theorem bounded_eat (kind : Token.Kind) {α : Type} (f : Unit → α) :
    Bounded tokens ⟨(eat kind { tokens, eof }).map f, []⟩ where
  entries _ _ _ hmem := (List.not_mem_nil hmem).elim
  releases _ hmem := (List.not_mem_nil hmem).elim
  uncut := List.not_mem_nil
  values _ _ _ _ hmem := (List.not_mem_nil hmem).elim
  turns _ _ hmem := (List.not_mem_nil hmem).elim
  calls := by
    obtain ⟨taken, htaken⟩ := (keeps_eat kind { tokens, eof }).tokens
    exact ⟨taken, htaken.symm, Nat.zero_le _⟩

/-- **The recursion is bounded.** The rule for factors calls itself without any budget. On a parser
with no parenthesis open, and with a budget of at least `maxDepth + 1` calls of this rule inside one
another, the answer to every request is the same, and the run keeps to its bounds: no more than
`maxDepth + 1` of these calls are active at a time, the counter of open parentheses is right wherever
a rule is entered, and each value and each turn of a loop takes tokens, so that these bound the
calls. -/
theorem answer_bounded (h : maxDepth < budget) (request : Request) (tokens : List Placed)
    (eof : Position) :
    (∀ p, factor p = factorOf factor p) ∧
      (watchAnswer budget { tokens, eof } request).outcome =
        ({ tokens, eof } : Parser).answer request ∧
      Bounded tokens (watchAnswer budget { tokens, eof } request) := by
  refine ⟨factor_eq, outcome_watchAnswer h request, ?_⟩
  have hd : ({ tokens, eof } : Parser).depth ≤ maxDepth := Nat.zero_le _
  have hfactor : ∀ q : Parser, q.depth = 0 → Sound 1 q (watchFactor budget 0 q) := by
    intro q hq
    have hsound : Sound 1 q (watchFactor budget q.depth q) :=
      sound_watchFactor (by omega) (by omega)
    rw [hq] at hsound
    exact hsound
  have hexpr : Sound 3 { tokens, eof } (watchExpr 0 (watchFactor budget 0) { tokens, eof }) :=
    sound_watchExpr hd (Nat.zero_le _) hfactor
  cases request with
  | parse => exact bounded_watchParse hexpr
  | expr => exact hexpr.bounded_map (Nat.le_refl _)
  | term => exact (sound_watchTerm hd (Nat.zero_le _) hfactor).bounded_map (by decide)
  | factor => exact (hfactor { tokens, eof } rfl).bounded_map (by decide)
  | eat kind => exact bounded_eat kind _

/-- In the factor `(1)` the number is read with one parenthesis open and two factors active. -/
theorem answer_bounded_parentheses :
    let eof := Source.position ⟨"<test>", "(1)"⟩ 3
    let tokens : List Placed :=
      [⟨.openParen, eof, eof⟩, ⟨.number (.integer 1), eof, eof⟩, ⟨.closeParen, eof, eof⟩]
    let run := watchAnswer (maxDepth + 1) { tokens, eof } .factor
    maxDepth < maxDepth + 1 ∧ run.outcome = ({ tokens, eof } : Parser).answer .factor ∧
      run.outcome.result = .ok (some (.integer 1)) ∧ Bounded tokens run ∧
        .enter .factor 2 { tokens := tokens.tail, eof, depth := 1 } ∈ run.notes := by
  intro eof tokens run
  have hlt : maxDepth < maxDepth + 1 := Nat.lt_succ_self _
  obtain ⟨-, houtcome, hbounded⟩ := answer_bounded hlt .factor tokens eof
  have hnote : run.notes[3]? =
      some (.enter .factor 2 { tokens := tokens.tail, eof, depth := 1 }) := rfl
  exact ⟨hlt, houtcome, rfl, hbounded, List.mem_of_getElem? hnote⟩

/-- A budget of one is used up by the parenthesis. -/
example (eof : Position) :
    let tokens : List Placed :=
      [⟨.openParen, eof, eof⟩, ⟨.number (.integer 1), eof, eof⟩, ⟨.closeParen, eof, eof⟩]
    (watchAnswer 1 { tokens, eof } .factor).notes[3]? = some .cut := rfl

end Requests

end Calculator.Parser
