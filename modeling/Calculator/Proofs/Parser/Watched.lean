import Calculator.Proofs.Parser.Reading

/-! # The parser under watch

The rules once more, with notes of what they do on the way: which rule is entered with which parser,
and how many calls of the rule for factors are active then; with which outcome it ends; what each
turn of a loop takes; at what number the counter of open parentheses is when one is taken off. The
recursion has a budget of factors inside one another, and where it or the bound on the turns of a
loop is used up, this is noted too.

A watched rule is built as the rule itself is, from `watchFrom` for the loops to `watchFactor` for
the recursion, and without its notes it is the rule (`erase_watchExpr`, `erase_watchFactor`). If
the budget is larger than the number of parentheses which may still be opened, its outcome is the
answer of the parser (`outcome_watchAnswer`). -/

namespace Calculator.Parser

variable {α β : Type}

/-- What is noted while the rules run. -/
inductive Note where
  /-- The rule of a kind is entered with the parser, while so many calls of the rule for factors are
  active, itself among them. -/
  | enter (kind : Phrase.Kind) (active : Nat) (p : Parser)
  /-- The rule of a kind was entered with the parser and ends with the outcome. -/
  | leave (kind : Phrase.Kind) (p : Parser) (o : Outcome Parser Number)
  /-- In a turn of its loop a chain has gone from the parser, in front of an operator, to the outcome
  of the operand behind the operator. -/
  | turn (p : Parser) (operand : Outcome Parser Number)
  /-- One is taken off the counter of open parentheses, which stands at the number. -/
  | release (depth : Nat)
  /-- A bound is used up: that on factors inside one another, or that on the turns of a loop. -/
  | cut

/-- A rule is entered. -/
def Note.isEnter : Note → Bool
  | enter .. => true
  | _ => false

/-- An outcome, and what was noted on the way to it. -/
structure Watched (α : Type) where
  outcome : Outcome Parser α
  notes : List Note := []

namespace Watched

/-- Go on as the outcome does, and keep the notes. -/
def bind (w : Watched α) (next : α → Parser → Watched β) : Watched β :=
  match w with
  | ⟨⟨.ok value, state, events⟩, notes⟩ =>
    match next value state with
    | ⟨⟨result, state, more⟩, later⟩ => ⟨⟨result, state, events ++ more⟩, notes ++ later⟩
  | ⟨⟨.error error, state, events⟩, notes⟩ => ⟨⟨.error error, state, events⟩, notes⟩

/-- The same outcome with another value. -/
def map (f : α → β) (w : Watched α) : Watched β := ⟨w.outcome.map f, w.notes⟩

/-- One more note, on the outcome. -/
def note (w : Watched α) (remark : Outcome Parser α → Note) : Watched α :=
  match w with
  | ⟨outcome, notes⟩ => ⟨outcome, notes ++ [remark outcome]⟩

/-- How often rules are entered. -/
def calls (w : Watched α) : Nat := w.notes.countP Note.isEnter

theorem outcome_bind (w : Watched α) (next : α → Parser → Watched β) :
    (w.bind next).outcome = w.outcome.bind fun value p => (next value p).outcome := by
  rcases w with ⟨⟨_ | _, _, _⟩, _⟩ <;> rfl

theorem notes_bind_of_ok {w : Watched α} {value : α} (h : w.outcome.result = .ok value)
    (next : α → Parser → Watched β) :
    (w.bind next).notes = w.notes ++ (next value w.outcome.state).notes := by
  rcases w with ⟨⟨_ | _, _, _⟩, _⟩ <;> cases h
  rfl

theorem notes_bind_of_error {w : Watched α} {e : Error} (h : w.outcome.result = .error e)
    (next : α → Parser → Watched β) : (w.bind next).notes = w.notes := by
  rcases w with ⟨⟨_ | _, _, _⟩, _⟩ <;> cases h
  rfl

theorem notes_bind_of_silent {w : Watched α} {next : α → Parser → Watched β}
    (h : ∀ value p, (next value p).notes = []) : (w.bind next).notes = w.notes := by
  rcases hr : w.outcome.result with e | value
  · exact notes_bind_of_error hr next
  · rw [notes_bind_of_ok hr, h, List.append_nil]

end Watched

/-- A rule that keeps notes. -/
abbrev WatchedRule (α : Type) := Parser → Watched α

/-- The rule without the notes. -/
def erase (rule : WatchedRule α) : Rule α := fun p => (rule p).outcome

/-! ### Chains of operands -/

/-- Take an operator and its right operand, and apply it. -/
def watchNext (operand : WatchedRule Number) (op : Operator) (place : Placed) (lhs : Number) :
    WatchedRule Number := fun p =>
  Watched.bind ⟨p.eat place.token.kind, []⟩ fun _ q =>
    ((operand q).note (.turn p)).bind fun rhs r =>
      ⟨r.fold lhs op rhs place, []⟩

/-- Go on while an operator of the precedence follows. An operator that is still there when the
bound on the turns is used up is noted. -/
def watchFrom (level : Precedence) (operand : WatchedRule Number) :
    (ahead : List Placed) → Watched Number → Watched Number
  | [], sofar =>
    match sofar.outcome.result, sofar.outcome.state.operator? level with
    | .ok _, some _ => sofar.note fun _ => .cut
    | _, _ => sofar
  | _ :: ahead, sofar =>
    match sofar.outcome.result, sofar.outcome.state.operator? level with
    | .ok _, some (op, place) =>
      watchFrom level operand ahead (sofar.bind (watchNext operand op place))
    | _, _ => sofar

/-- Operands with operators of one precedence between them. -/
def watchChain (level : Precedence) (operand : WatchedRule Number) : WatchedRule Number := fun p =>
  let head := operand p
  watchFrom level operand head.outcome.state.tokens head

/-! ### The rules -/

/-- A call of the rule of a kind. -/
def watchCall (kind : Phrase.Kind) (active : Nat) (body : WatchedRule Number) :
    WatchedRule Number := fun p =>
  match body p with
  | ⟨outcome, notes⟩ => ⟨outcome, .enter kind active p :: (notes ++ [.leave kind p outcome])⟩

/-- Factors with tight operators between them. -/
def watchTerm (active : Nat) (factor : WatchedRule Number) : WatchedRule Number :=
  watchCall .term active (watchChain .product factor)

/-- Terms with loose operators between them. -/
def watchExpr (active : Nat) (factor : WatchedRule Number) : WatchedRule Number :=
  watchCall .expr active (watchChain .sum (watchTerm active factor))

/-- Follow a rule with one more parenthesis open. -/
def watchNested (rule : WatchedRule α) : WatchedRule α := fun p =>
  match rule { p with depth := p.depth + 1 } with
  | ⟨⟨result, after, events⟩, notes⟩ =>
    ⟨⟨result, { after with depth := after.depth - 1 }, events⟩, notes ++ [.release after.depth]⟩

/-- An expression in parentheses. -/
def watchGroup (active : Nat) (factor : WatchedRule Number) : WatchedRule Number := fun p =>
  Watched.bind ⟨p.eat .openParen, []⟩ fun _ q =>
    (watchNested (watchExpr active factor) q).bind fun value r =>
      ⟨(r.eat .closeParen).map fun _ => value, []⟩

/-- A factor, with `inner` for the factors inside its parentheses. -/
def watchFactorOf (active : Nat) (inner : WatchedRule Number) : WatchedRule Number := fun p =>
  match p.tokens with
  | [] => ⟨.fail (.ended Error.factorWanted p.eof) p, []⟩
  | found :: _ =>
    match found.token with
    | .number value => ⟨(p.eat found.token.kind).map fun _ => value, []⟩
    | .openParen =>
      if maxDepth ≤ p.depth then ⟨.fail (.tooDeep maxDepth found) p, []⟩
      else watchGroup active inner p
    | _ => ⟨.fail (.unexpected Error.factorWanted found) p, []⟩

/-- A factor with a budget for the factors inside one another, itself among them, where `active`
more of them are around it. -/
def watchFactor : (budget active : Nat) → WatchedRule Number
  | 0, _ => fun p => ⟨.fail (.ended Error.factorWanted p.eof) p, [.cut]⟩
  | budget + 1, active =>
    watchCall .factor (active + 1) (watchFactorOf (active + 1) (watchFactor budget (active + 1)))

/-- All tokens as one expression. -/
def watchParse (budget : Nat) : WatchedRule Number := fun p =>
  (watchExpr 0 (watchFactor budget 0) p).bind fun value q => ⟨q.finish value, []⟩

/-- The answer to a request, with a budget for the factors inside one another. -/
def watchAnswer (budget : Nat) (p : Parser) : Request → Watched (Option Number)
  | .parse => (watchParse budget p).map some
  | .expr => (watchExpr 0 (watchFactor budget 0) p).map some
  | .term => (watchTerm 0 (watchFactor budget 0) p).map some
  | .factor => (watchFactor budget 0 p).map some
  | .eat kind => ⟨(p.eat kind).map fun _ => none, []⟩

/-! ### Without the notes -/

theorem outcome_bind_watchNext (sofar : Watched Number) (operand : WatchedRule Number)
    (op : Operator) (place : Placed) :
    (sofar.bind (watchNext operand op place)).outcome =
      sofar.outcome.bind (applyNext (erase operand) op place) := by
  simp only [Watched.outcome_bind, watchNext]
  rfl

section Loop

variable {level : Precedence} {operand : WatchedRule Number} {sofar : Watched Number}

theorem watchFrom_of_error {e : Error} (h : sofar.outcome.result = .error e)
    (ahead : List Placed) : watchFrom level operand ahead sofar = sofar := by
  cases ahead <;> simp only [watchFrom, h]

theorem watchFrom_of_none (h : sofar.outcome.state.operator? level = none)
    (ahead : List Placed) : watchFrom level operand ahead sofar = sofar := by
  rcases hr : sofar.outcome.result with e | lhs
  · exact watchFrom_of_error hr ahead
  · cases ahead <;> simp only [watchFrom, hr, h]

theorem watchFrom_of_operator {lhs : Number} {op : Operator} {place : Placed}
    (hok : sofar.outcome.result = .ok lhs)
    (hop : sofar.outcome.state.operator? level = some (op, place)) (token : Placed)
    (ahead : List Placed) :
    watchFrom level operand (token :: ahead) sofar =
      watchFrom level operand ahead (sofar.bind (watchNext operand op place)) := by
  simp only [watchFrom, hok, hop]

end Loop

theorem outcome_watchFrom (level : Precedence) (operand : WatchedRule Number) :
    ∀ (ahead : List Placed) (sofar : Watched Number),
      (watchFrom level operand ahead sofar).outcome =
        chainFrom level (erase operand) ahead sofar.outcome
  | [], sofar => by
    unfold watchFrom
    split <;> rfl
  | token :: ahead, sofar => by
    unfold chainFrom
    split
    · next hok hop =>
      rw [watchFrom_of_operator hok hop token ahead, outcome_watchFrom level operand ahead,
        outcome_bind_watchNext]
    · next hstop =>
      unfold watchFrom
      split
      · next hok hop => exact (hstop _ _ _ hok hop).elim
      · rfl

theorem erase_watchChain (level : Precedence) (operand : WatchedRule Number) :
    erase (watchChain level operand) = chain level (erase operand) :=
  funext fun _ => outcome_watchFrom level operand _ _

theorem erase_watchCall (kind : Phrase.Kind) (active : Nat) (body : WatchedRule Number) :
    erase (watchCall kind active body) = erase body := rfl

theorem erase_watchTerm (active : Nat) (factor : WatchedRule Number) :
    erase (watchTerm active factor) = termOf (erase factor) :=
  erase_watchChain .product factor

theorem erase_watchExpr (active : Nat) (factor : WatchedRule Number) :
    erase (watchExpr active factor) = exprOf (erase factor) := by
  unfold watchExpr exprOf
  rw [erase_watchCall, erase_watchChain, erase_watchTerm]

theorem erase_watchGroup (active : Nat) (factor : WatchedRule Number) :
    erase (watchGroup active factor) = groupOf (erase factor) := by
  funext p
  change (watchGroup active factor p).outcome = groupOf (erase factor) p
  unfold watchGroup groupOf
  simp only [Watched.outcome_bind, ← erase_watchExpr active factor]
  rfl

theorem erase_watchFactorOf (active : Nat) (inner : WatchedRule Number) :
    erase (watchFactorOf active inner) = factorOf (erase inner) := by
  funext p
  change (watchFactorOf active inner p).outcome = factorOf (erase inner) p
  rcases hp : p.tokens with _ | ⟨found, rest⟩
  · simp only [watchFactorOf, factorOf, hp]
  · rcases hf : found.token with value | op | _ | _
    case openParen =>
      simp only [watchFactorOf, factorOf, hp, hf, ← erase_watchGroup active inner]
      split <;> rfl
    all_goals simp only [watchFactorOf, factorOf, hp, hf]

/-- The budget is the number of levels. -/
theorem erase_watchFactor : ∀ budget active : Nat,
    erase (watchFactor budget active) = factorWithin budget
  | 0, _ => rfl
  | budget + 1, active => by
    unfold watchFactor factorWithin
    rw [erase_watchCall, erase_watchFactorOf, erase_watchFactor budget (active + 1)]

section Budget

variable {budget : Nat} {p : Parser}

theorem sameAt_factorWithin {depth : Nat} (h : maxDepth - depth < budget) :
    SameAt depth (factorWithin budget) factor := fun q hq => factorWithin_eq (by rw [hq]; exact h)

theorem outcome_watchFactor (h : maxDepth - p.depth < budget) (active : Nat) :
    (watchFactor budget active p).outcome = factor p := by
  change erase (watchFactor budget active) p = factor p
  rw [erase_watchFactor]
  exact sameAt_factorWithin h p rfl

theorem outcome_watchTerm (h : maxDepth - p.depth < budget) (active : Nat) :
    (watchTerm active (watchFactor budget active) p).outcome = term p := by
  change erase (watchTerm active (watchFactor budget active)) p = termOf factor p
  rw [erase_watchTerm, erase_watchFactor]
  exact SameAt.chain (keeps_factorWithin budget) (sameAt_factorWithin h) .product p rfl

theorem outcome_watchExpr (h : maxDepth - p.depth < budget) (active : Nat) :
    (watchExpr active (watchFactor budget active) p).outcome = expr p := by
  change erase (watchExpr active (watchFactor budget active)) p = exprOf factor p
  rw [erase_watchExpr, erase_watchFactor]
  exact SameAt.exprOf (keeps_factorWithin budget) (sameAt_factorWithin h) p rfl

/-- **Under watch the answer is the same** if the budget is larger than the number of parentheses
which may still be opened. -/
theorem outcome_watchAnswer (h : maxDepth - p.depth < budget) (request : Request) :
    (watchAnswer budget p request).outcome = p.answer request := by
  cases request with
  | parse =>
    have hparse : (watchParse budget p).outcome = parse p := by
      rw [watchParse, Watched.outcome_bind, outcome_watchExpr h]
      rfl
    exact congrArg (Outcome.map some) hparse
  | expr => exact congrArg (Outcome.map some) (outcome_watchExpr h 0)
  | term => exact congrArg (Outcome.map some) (outcome_watchTerm h 0)
  | factor => exact congrArg (Outcome.map some) (outcome_watchFactor h 0)
  | eat kind => rfl

end Budget

end Calculator.Parser
