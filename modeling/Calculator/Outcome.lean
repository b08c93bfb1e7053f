import Calculator.Event

/-! # Outcomes

What a step of reading or parsing leaves behind: a value or an error, the state that the next step
begins with, and the events of the step in order. A failed step has a state too, since what it
consumed stays consumed. The laws below say that steps may be grouped as one likes. -/

namespace Calculator

/-- The result of a step, the state after it, and its events. -/
structure Outcome (σ α : Type) where
  result : Except Error α
  state : σ
  events : Array Event := #[]

namespace Outcome

variable {σ α β γ : Type}

/-- A step that gives a value and does nothing. -/
def give (value : α) (state : σ) : Outcome σ α := ⟨.ok value, state, #[]⟩

/-- A step that fails and does nothing. -/
def fail (error : Error) (state : σ) : Outcome σ α := ⟨.error error, state, #[]⟩

/-- Go on with the value of an outcome from its state; an error is final. -/
def bind (o : Outcome σ α) (next : α → σ → Outcome σ β) : Outcome σ β :=
  match o with
  | ⟨.ok value, state, events⟩ =>
    match next value state with
    | ⟨result, state, more⟩ => ⟨result, state, events ++ more⟩
  | ⟨.error error, state, events⟩ => ⟨.error error, state, events⟩

/-- The same outcome with another value. -/
def map (f : α → β) (o : Outcome σ α) : Outcome σ β :=
  match o with
  | ⟨result, state, events⟩ => ⟨result.map f, state, events⟩

@[simp] theorem give_bind (value : α) (state : σ) (next : α → σ → Outcome σ β) :
    (give value state).bind next = next value state := by simp [give, bind]

@[simp] theorem fail_bind (error : Error) (state : σ) (next : α → σ → Outcome σ β) :
    (fail error state : Outcome σ α).bind next = fail error state := rfl

@[simp] theorem bind_give (o : Outcome σ α) : o.bind give = o := by
  rcases o with ⟨_ | _, _, _⟩ <;> simp [give, bind]

theorem bind_bind (o : Outcome σ α) (next : α → σ → Outcome σ β) (last : β → σ → Outcome σ γ) :
    (o.bind next).bind last = o.bind fun value state => (next value state).bind last := by
  rcases o with ⟨_ | value, state, events⟩
  · rfl
  · simp only [bind]
    rcases next value state with ⟨_ | _, _, _⟩ <;> simp [Array.append_assoc]

theorem map_eq_bind (f : α → β) (o : Outcome σ α) :
    o.map f = o.bind fun value state => give (f value) state := by
  rcases o with ⟨_ | _, _, _⟩ <;> simp [give, bind, map, Except.map]

theorem result_map (f : α → β) (o : Outcome σ α) : (o.map f).result = o.result.map f := rfl

theorem result_map_eq_error_iff {f : α → β} {o : Outcome σ α} {error : Error} :
    (o.map f).result = .error error ↔ o.result = .error error := by
  rcases o with ⟨_ | _, _, _⟩ <;> simp [map, Except.map]

theorem state_map (f : α → β) (o : Outcome σ α) : (o.map f).state = o.state := rfl

theorem events_map (f : α → β) (o : Outcome σ α) : (o.map f).events = o.events := rfl

theorem result_bind_of_ok {o : Outcome σ α} {value : α} (h : o.result = .ok value)
    (next : α → σ → Outcome σ β) : (o.bind next).result = (next value o.state).result := by
  rcases o with ⟨_ | _, _, _⟩ <;> cases h
  rfl

theorem state_bind_of_ok {o : Outcome σ α} {value : α} (h : o.result = .ok value)
    (next : α → σ → Outcome σ β) : (o.bind next).state = (next value o.state).state := by
  rcases o with ⟨_ | _, _, _⟩ <;> cases h
  rfl

theorem result_bind_of_error {o : Outcome σ α} {error : Error} (h : o.result = .error error)
    (next : α → σ → Outcome σ β) : (o.bind next).result = .error error := by
  rcases o with ⟨_ | _, _, _⟩ <;> cases h
  rfl

theorem state_bind_of_error {o : Outcome σ α} {error : Error} (h : o.result = .error error)
    (next : α → σ → Outcome σ β) : (o.bind next).state = o.state := by
  rcases o with ⟨_ | _, _, _⟩ <;> cases h
  rfl

theorem events_bind_of_ok {o : Outcome σ α} {value : α} (h : o.result = .ok value)
    (next : α → σ → Outcome σ β) :
    (o.bind next).events = o.events ++ (next value o.state).events := by
  rcases o with ⟨_ | _, _, _⟩ <;> cases h
  rfl

theorem events_bind_of_error {o : Outcome σ α} {error : Error} (h : o.result = .error error)
    (next : α → σ → Outcome σ β) : (o.bind next).events = o.events := by
  rcases o with ⟨_ | _, _, _⟩ <;> cases h
  rfl

end Outcome

end Calculator
