import Calculator.Parser.Lemmas
import Calculator.Proofs.Replay

/-! # The events of the rules

What a rule does is what its events say: the tokens that it takes are those of its `eat` events, and
the replay of its events puts its value on top of whatever stack there is. The operands that a rule
holds back while it goes on with another are those that lie on the stack meanwhile: the left operand
of an operator, and beyond it all the operands of the chains around. So the statement is about every
stack, and a rule is `Told` on the stack that it finds. -/

namespace Calculator.Parser

/-- **The events of a step tell what it has done** to the parser `p`, on the stack `before`: the
tokens taken, and the stack that the value leads to. No token is read. -/
structure Told {α : Type} (before : List Number) (p : Parser) (after : α → List Number)
    (o : Outcome Parser α) : Prop where
  read : readTokens o.events.toList = []
  eaten : eatenTokens o.events.toList ++ o.state.tokens.map Placed.token =
    p.tokens.map Placed.token
  account : Account before o.events.toList (o.result.map after)

/-- The rule puts its value on the stack. -/
def Tells (rule : Rule Number) : Prop :=
  ∀ (p : Parser) (stack : List Number), Told stack p (· :: stack) (rule p)

section Steps
variable {α β : Type} {before : List Number} {p : Parser}

theorem told_fail (e : Error) (after : α → List Number) : Told before p after (.fail e p) :=
  ⟨rfl, rfl, .stops rfl⟩

theorem told_map {o : Outcome Parser α} {f : α → β} {after : β → List Number}
    (h : Told before p (fun value => after (f value)) o) : Told before p after (o.map f) := by
  refine ⟨h.read, h.eaten, ?_⟩
  have hresult : (o.map f).result.map after = o.result.map fun value => after (f value) := by
    rw [Outcome.result_map]
    cases o.result <;> rfl
  rw [hresult]
  exact h.account

/-- A step behind another begins with the stack that the first one leaves. -/
theorem told_bind {o : Outcome Parser α} {next : α → Rule β} {middle : α → List Number}
    {after : β → List Number} (ho : Told before p middle o)
    (hnext : ∀ value, o.result = .ok value →
      Told (middle value) o.state after (next value o.state)) :
    Told before p after (o.bind next) := by
  cases hr : o.result with
  | error e =>
    have haccount := ho.account
    rw [hr] at haccount
    refine ⟨?_, ?_, ?_⟩
    · rw [Outcome.events_bind_of_error hr]
      exact ho.read
    · rw [Outcome.events_bind_of_error hr, Outcome.state_bind_of_error hr]
      exact ho.eaten
    · rw [Outcome.events_bind_of_error hr, Outcome.result_bind_of_error hr]
      cases haccount with
      | stops h => exact .stops h
      | faults hevents h hreason => exact .faults hevents h hreason
  | ok value =>
    obtain ⟨hread, heaten, haccount⟩ := hnext value hr
    have hfirst : replay before o.events.toList = some (middle value) := by
      have := ho.account
      rw [hr] at this
      cases this with
      | runs h => exact h
    refine ⟨?_, ?_, ?_⟩
    · rw [Outcome.events_bind_of_ok hr, Array.toList_append, readTokens_append, ho.read, hread]
      rfl
    · rw [Outcome.events_bind_of_ok hr, Outcome.state_bind_of_ok hr, Array.toList_append,
        eatenTokens_append, List.append_assoc, heaten]
      exact ho.eaten
    · rw [Outcome.events_bind_of_ok hr, Outcome.result_bind_of_ok hr, Array.toList_append]
      exact haccount.append hfirst

end Steps

/-! ### Taking a token, applying an operator -/

theorem told_eat {kind : Token.Kind} (hkind : ∀ value : Number, (Token.number value).kind ≠ kind)
    (p : Parser) (stack : List Number) : Told stack p (fun _ => stack) (p.eat kind) := by
  unfold eat
  split
  · exact told_fail _ _
  · next found rest hp =>
    split
    · next hfound =>
      refine ⟨rfl, by rw [hp, skip, hp]; rfl, .runs ?_⟩
      cases ht : found.token with
      | number value =>
        rw [ht] at hfound
        exact absurd hfound (hkind value)
      | operator | openParen | closeParen => rfl
    · exact told_fail _ _

theorem told_number {p : Parser} {found : Placed} {rest : List Placed} {value : Number}
    (hp : p.tokens = found :: rest) (hfound : found.token = .number value) (stack : List Number) :
    Told stack p (· :: stack) ((p.eat found.token.kind).map fun _ => value) := by
  have heat : p.eat found.token.kind = ⟨.ok (), p.skip, #[.eat found.token]⟩ := by
    unfold eat
    rw [hp]
    simp
  rw [heat]
  refine told_map ⟨rfl, by rw [hp, skip, hp]; rfl, .runs ?_⟩
  rw [hfound]
  rfl

theorem told_fold (lhs : Number) (op : Operator) (rhs : Number) (place : Placed) (p : Parser)
    (stack : List Number) :
    Told (rhs :: lhs :: stack) p (· :: stack) (p.fold lhs op rhs place) := by
  unfold fold
  cases happly : lhs.apply op rhs with
  | ok value =>
    refine ⟨rfl, rfl, .runs ?_⟩
    rw [Array.toList, replay_cons, replay_fold happly]
    rfl
  | error reason =>
    have hevents : [Event.fold lhs op rhs] = [] ++ [.fold lhs op rhs] := rfl
    exact ⟨rfl, rfl, .faults hevents rfl happly⟩

/-! ### The rules -/

/-- The left operand lies on the stack while the right one is read. -/
theorem told_applyNext {operand : Rule Number} (h : Tells operand) {op : Operator} {place : Placed}
    (hplace : place.token = .operator op) (lhs : Number) (p : Parser) (stack : List Number) :
    Told (lhs :: stack) p (· :: stack) (applyNext operand op place lhs p) := by
  have hkind : ∀ value : Number, (Token.number value).kind ≠ place.token.kind := by
    intro value
    rw [hplace]
    cases value <;> exact nofun
  exact told_bind (told_eat hkind p _) fun _ _ =>
    told_bind (h _ _) fun rhs _ => told_fold lhs op rhs place _ stack

theorem told_chainFrom {level : Precedence} {operand : Rule Number} (h : Tells operand)
    {p : Parser} {stack : List Number} : ∀ {ahead : List Placed} {sofar : Outcome Parser Number},
      Told stack p (· :: stack) sofar →
        Told stack p (· :: stack) (chainFrom level operand ahead sofar)
  | [], _, hs => hs
  | _ :: _, sofar, hs => by
    unfold chainFrom
    split
    · next op place _ hop =>
      have hplace := (tokens_of_operator? hop).2.1
      exact told_chainFrom h (told_bind hs fun lhs _ => told_applyNext h hplace lhs _ stack)
    · exact hs

theorem tells_chain {level : Precedence} {operand : Rule Number} (h : Tells operand) :
    Tells (chain level operand) := fun p stack => told_chainFrom h (h p stack)

theorem tells_exprOf {factor : Rule Number} (h : Tells factor) : Tells (exprOf factor) :=
  tells_chain (tells_chain h)

theorem tells_nested {rule : Rule Number} (h : Tells rule) : Tells (nested rule) := by
  intro p stack
  obtain ⟨hread, heaten, haccount⟩ := h { p with depth := p.depth + 1 } stack
  exact ⟨hread, heaten, haccount⟩

theorem tells_groupOf {factor : Rule Number} (h : Tells factor) : Tells (groupOf factor) := by
  intro p stack
  have hparen : ∀ value : Number, (Token.number value).kind ≠ .openParen ∧
      (Token.number value).kind ≠ .closeParen := by
    intro value
    cases value <;> exact ⟨nofun, nofun⟩
  refine told_bind (told_eat (fun value => (hparen value).1) p stack) fun _ _ => ?_
  refine told_bind (tells_nested (tells_exprOf h) _ stack) fun value _ => ?_
  exact told_map (told_eat (fun value => (hparen value).2) _ (value :: stack))

theorem tells_factorOf {inner : Rule Number} (h : Tells inner) : Tells (factorOf inner) := by
  intro p stack
  unfold factorOf
  split
  · exact told_fail _ _
  · next found rest hp =>
    split
    · next value hfound => exact hfound ▸ told_number hp hfound stack
    · split
      · exact told_fail _ _
      · exact tells_groupOf h p stack
    · exact told_fail _ _

theorem tells_factorWithin : ∀ levels, Tells (factorWithin levels)
  | 0 => fun _ _ => told_fail _ _
  | levels + 1 => tells_factorOf (tells_factorWithin levels)

theorem tells_factor : Tells factor := fun p => tells_factorWithin _ p

/-- **The rule for an expression** puts the value of the expression on the stack. -/
theorem tells_expr : Tells expr := tells_exprOf tells_factor

theorem told_finish (value : Number) (p : Parser) (stack : List Number) :
    Told (value :: stack) p (· :: stack) (finish value p) := by
  unfold finish
  split
  · exact ⟨rfl, rfl, .runs rfl⟩
  · exact told_fail _ _

/-- **Parsing is told** by its events. -/
theorem tells_parse : Tells parse := fun p stack =>
  told_bind (tells_expr p stack) fun value _ => told_finish value _ stack

end Calculator.Parser
