import Calculator.Event
import Calculator.Proofs.Phrase.Unique

/-! # The events as the program of a stack machine

The events of an evaluation, replayed in order on a stack of values: a literal that is taken pushes
its value, and an operator finds its two values on top, as the event shows them, and replaces them
by its result. Anything else leaves the stack as it is.

* `replay_append`, `operands_of_replay`: a replay that goes through has applied every operator.
* `length_replay`: the height of the stack counts the literals and the operators.
* `Account`: the replay of a step that gives a value, stops, or fails for an operator; only the
  last event of a step can be an operator without a result (`Account.operands`). -/

namespace Calculator

namespace Event

/-- The token that is read. -/
def read? : Event → Option Token
  | token word _ => some word
  | _ => none

/-- The token that the grammar takes. -/
def eaten? : Event → Option Token
  | eat word => some word
  | _ => none

/-- An operator is applied. -/
def isFold : Event → Bool
  | fold .. => true
  | _ => false

/-- **One event on a stack of values**: none if the values are not those that the event shows, or
have no result. -/
def replay (stack : List Number) : Event → Option (List Number)
  | eat (.number value) => some (value :: stack)
  | fold lhs op rhs =>
    match stack with
    | top :: below :: rest =>
      if below.text = lhs.text ∧ top.text = rhs.text then
        (below.apply op top).toOption.map (· :: rest)
      else none
    | _ => none
  | _ => some stack

end Event

/-- The tokens that are read, in order. -/
def readTokens (events : List Event) : List Token := events.filterMap Event.read?

/-- The tokens that the grammar takes, in order. -/
def eatenTokens (events : List Event) : List Token := events.filterMap Event.eaten?

/-- How many operators are applied. -/
def folds (events : List Event) : Nat := events.countP Event.isFold

/-- The events one after the other on a stack of values. -/
def replay (stack : List Number) (events : List Event) : Option (List Number) :=
  events.foldlM Event.replay stack

/-- How many literals a word has. -/
def literals (word : List Token) : Nat := word.countP fun token => token matches .number _

/-- How many operators a word has. -/
def operators (word : List Token) : Nat := word.countP fun token => token matches .operator _

/-! ### One part of the events after another -/

@[simp] theorem readTokens_append (first second : List Event) :
    readTokens (first ++ second) = readTokens first ++ readTokens second := List.filterMap_append

@[simp] theorem eatenTokens_append (first second : List Event) :
    eatenTokens (first ++ second) = eatenTokens first ++ eatenTokens second := List.filterMap_append

@[simp] theorem folds_append (first second : List Event) :
    folds (first ++ second) = folds first + folds second := List.countP_append

@[simp] theorem literals_append (left right : List Token) :
    literals (left ++ right) = literals left + literals right := List.countP_append

@[simp] theorem operators_append (left right : List Token) :
    operators (left ++ right) = operators left + operators right := List.countP_append

@[simp] theorem replay_nil (stack : List Number) : replay stack [] = some stack := rfl

theorem replay_cons (stack : List Number) (event : Event) (rest : List Event) :
    replay stack (event :: rest) = (event.replay stack).bind fun next => replay next rest :=
  List.foldlM_cons

theorem replay_append (stack : List Number) (first second : List Event) :
    replay stack (first ++ second) = (replay stack first).bind fun next => replay next second :=
  List.foldlM_append

variable {stack after : List Number} {events before rest : List Event} {l r v : Number}
  {op : Operator}

theorem replay_append_of_some {second : List Event} (h : replay stack events = some after) :
    replay stack (events ++ second) = replay after second := by
  rw [replay_append, h]
  rfl

theorem replay_fold (h : l.apply op r = .ok v) :
    (Event.fold l op r).replay (r :: l :: stack) = some (v :: stack) := by
  simp [Event.replay, h, Except.toOption]

theorem operands_of_fold (h : (Event.fold l op r).replay stack = some after) :
    ∃ top below rest value, stack = top :: below :: rest ∧ below.text = l.text ∧
      top.text = r.text ∧ below.apply op top = .ok value ∧ after = value :: rest := by
  unfold Event.replay at h
  rcases stack with _ | ⟨top, _ | ⟨below, rest⟩⟩
  · cases h
  · cases h
  · simp only at h
    split at h
    · next htext =>
      cases hvalue : below.apply op top with
      | error reason =>
        rw [hvalue] at h
        cases h
      | ok value =>
        rw [hvalue] at h
        cases h
        exact ⟨top, below, rest, value, rfl, htext.1, htext.2, hvalue, rfl⟩
    · cases h

theorem operands_of_replay (h : replay stack (before ++ .fold l op r :: rest) = some after) :
    ∃ top below more value, replay stack before = some (top :: below :: more) ∧
      below.text = l.text ∧ top.text = r.text ∧ below.apply op top = .ok value := by
  rw [replay_append] at h
  obtain ⟨middle, hbefore, h⟩ := Option.bind_eq_some_iff.1 h
  rw [replay_cons] at h
  obtain ⟨next, hfold, -⟩ := Option.bind_eq_some_iff.1 h
  obtain ⟨top, below, more, value, rfl, hl, hr, hvalue, -⟩ := operands_of_fold hfold
  exact ⟨top, below, more, value, hbefore, hl, hr, hvalue⟩

/-! ### The height of the stack -/

theorem length_of_event {event : Event} (h : event.replay stack = some after) :
    after.length + folds [event] = stack.length + literals (eatenTokens [event]) := by
  cases event with
  | fold l op r =>
    obtain ⟨top, below, rest, value, rfl, -, -, -, rfl⟩ := operands_of_fold h
    rfl
  | eat word =>
    cases word <;> cases h <;> rfl
  | evaluating | token | lexed | illegalCharacter | evaluated | failed =>
    cases h
    rfl

/-- **The height of the stack** counts the literals taken against the operators applied. -/
theorem length_replay (h : replay stack events = some after) :
    after.length + folds events = stack.length + literals (eatenTokens events) := by
  induction events generalizing stack with
  | nil =>
    cases h
    rfl
  | cons event rest ih =>
    rw [replay_cons] at h
    obtain ⟨next, hevent, hrest⟩ := Option.bind_eq_some_iff.1 h
    have hone := length_of_event hevent
    have hmore := ih hrest
    rw [← List.singleton_append, folds_append, eatenTokens_append, literals_append]
    omega

example :
    replay [] [.eat (.number (.integer 6)), .eat (.operator .mul), .eat (.number (.integer 7)),
      .fold (.integer 6) .mul (.integer 7)] = some [.integer 42] := by decide

theorem Phrase.literals_tokens : ∀ {kind : Phrase.Kind} (phrase : Phrase kind),
    literals phrase.tokens = operators phrase.tokens + 1
  | _, .number _ => rfl
  | _, .group inner => by
    have hinner := inner.literals_tokens
    have hopen : literals [.openParen] = 0 ∧ operators [.openParen] = 0 := ⟨rfl, rfl⟩
    have hclose : literals [.closeParen] = 0 ∧ operators [.closeParen] = 0 := ⟨rfl, rfl⟩
    rw [tokens_group, ← List.singleton_append]
    simp only [literals_append, operators_append]
    omega
  | _, .single operand => operand.literals_tokens
  | _, .apply lhs op _ rhs => by
    have hlhs := lhs.literals_tokens
    have hrhs := rhs.literals_tokens
    have hop : literals [.operator op] = 0 ∧ operators [.operator op] = 1 := ⟨rfl, rfl⟩
    rw [tokens_apply, ← List.singleton_append]
    simp only [literals_append, operators_append]
    omega

/-! ### The account of a step -/

/-- **What the replay of a step comes to.** A step that ends with a stack is replayed to this stack.
A step that fails is replayed to its end, unless its last event is the operator that has no
result. -/
inductive Account (stack : List Number) (events : List Event) :
    Except Error (List Number) → Prop
  | runs {after : List Number} (h : replay stack events = some after) :
    Account stack events (.ok after)
  | stops {after : List Number} {e : Error} (h : replay stack events = some after) :
    Account stack events (.error e)
  | faults {before : List Event} {l r : Number} {op : Operator} {reason : Fault} {e : Error}
    {rest : List Number} (hevents : events = before ++ [.fold l op r])
    (h : replay stack before = some (r :: l :: rest)) (hreason : l.apply op r = .error reason) :
    Account stack events (.error e)

theorem Account.append {first second : List Event} {result : Except Error (List Number)}
    (hfirst : replay stack first = some after) (h : Account after second result) :
    Account stack (first ++ second) result := by
  cases h with
  | runs h => exact .runs ((replay_append_of_some hfirst).trans h)
  | stops h => exact .stops ((replay_append_of_some hfirst).trans h)
  | @faults before l r op _ _ _ hevents h hreason =>
    have hall : first ++ second = (first ++ before) ++ [.fold l op r] := by
      rw [hevents, List.append_assoc]
    exact .faults hall ((replay_append_of_some hfirst).trans h) hreason

/-- The replay of a step finds the values of each operator; only the last event of a failed step
can be an operator without a result. -/
theorem Account.operands {result : Except Error (List Number)} (h : Account stack events result)
    (hevents : events = before ++ .fold l op r :: rest) :
    ∃ top below more, replay stack before = some (top :: below :: more) ∧ below.text = l.text ∧
      top.text = r.text ∧
        ((∃ value, below.apply op top = .ok value) ∨ rest = [] ∧ ∃ e, result = .error e) := by
  have happlied : ∀ {after : List Number} {rest : List Event},
      replay stack (before ++ .fold l op r :: rest) = some after →
        ∃ top below more, replay stack before = some (top :: below :: more) ∧
          below.text = l.text ∧ top.text = r.text ∧ ∃ value, below.apply op top = .ok value := by
    intro after rest h
    obtain ⟨top, below, more, value, hbefore, hl, hr, hvalue⟩ := operands_of_replay h
    exact ⟨top, below, more, hbefore, hl, hr, value, hvalue⟩
  cases h with
  | runs h | stops h =>
    obtain ⟨top, below, more, hbefore, hl, hr, hvalue⟩ := happlied (hevents ▸ h)
    exact ⟨top, below, more, hbefore, hl, hr, Or.inl hvalue⟩
  | @faults init l' r' op' _ e more hlast hinit _ =>
    rcases append_cons_cases (hevents.symm.trans hlast) with
      ⟨rfl, hfold, rfl⟩ | ⟨between, -, hnil⟩ | ⟨between, rfl, -⟩
    · cases hfold
      exact ⟨_, _, more, hinit, rfl, rfl, Or.inr ⟨rfl, e, rfl⟩⟩
    · simp at hnil
    · obtain ⟨top, below, more, hbefore, hl, hr, hvalue⟩ := happlied hinit
      exact ⟨top, below, more, hbefore, hl, hr, Or.inl hvalue⟩

end Calculator
