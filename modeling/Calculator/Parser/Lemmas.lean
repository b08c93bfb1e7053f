import Calculator.Parser

/-! # Facts about the parser

Every rule leaves the number of open parentheses and the end of the tokens as they were, and what
it leaves of the tokens is an end of what it found. With that the bounds in the definitions of the
rules disappear: `factor_eq` and `chain_eq` are the equations of the grammar, and later proofs need
no more than these. -/

namespace Calculator.Parser

/-! ### What every rule keeps -/

/-- The parser `q` can be what a rule made of `p`. -/
structure Follows (p q : Parser) : Prop where
  depth : q.depth = p.depth
  eof : q.eof = p.eof
  tokens : q.tokens <:+ p.tokens

theorem Follows.refl (p : Parser) : Follows p p := ⟨rfl, rfl, List.suffix_refl _⟩

theorem Follows.trans {p q r : Parser} (first : Follows p q) (second : Follows q r) :
    Follows p r :=
  ⟨second.depth.trans first.depth, second.eof.trans first.eof, second.tokens.trans first.tokens⟩

/-- The rule makes of every parser one that can follow it. -/
def Keeps {α : Type} (rule : Rule α) : Prop := ∀ p, Follows p (rule p).state

theorem follows_bind {α β : Type} {p : Parser} {o : Outcome Parser α} {next : α → Rule β}
    (ho : Follows p o.state) (hnext : ∀ value, Keeps (next value)) :
    Follows p (o.bind next).state := by
  rcases o with ⟨_ | value, q, events⟩
  · exact ho
  · exact ho.trans (hnext value q)

theorem follows_map {α β : Type} {p : Parser} {o : Outcome Parser α} (f : α → β)
    (ho : Follows p o.state) : Follows p (o.map f).state := ho

theorem skip_follows (p : Parser) : Follows p p.skip := ⟨rfl, rfl, List.tail_suffix _⟩

theorem keeps_eat (kind : Token.Kind) : Keeps (eat kind) := by
  intro p
  unfold eat
  split
  · exact .refl p
  · split
    · exact skip_follows p
    · exact .refl p

theorem keeps_fold (lhs : Number) (op : Operator) (rhs : Number) (place : Placed) :
    Keeps fun p => p.fold lhs op rhs place := fun p => .refl p

theorem keeps_applyNext {operand : Rule Number} (h : Keeps operand) (op : Operator)
    (place : Placed) (lhs : Number) : Keeps (applyNext operand op place lhs) := fun p =>
  follows_bind (keeps_eat _ p) fun _ q =>
    follows_bind (h q) fun rhs => keeps_fold lhs op rhs place

theorem follows_chainFrom {level : Precedence} {operand : Rule Number} (h : Keeps operand)
    {p : Parser} : ∀ {ahead : List Placed} {sofar : Outcome Parser Number},
    Follows p sofar.state → Follows p (chainFrom level operand ahead sofar).state
  | [], _, hs => hs
  | _ :: _, _, hs => by
    unfold chainFrom
    split
    · exact follows_chainFrom h (follows_bind hs fun lhs => keeps_applyNext h _ _ lhs)
    · exact hs

theorem keeps_chain {level : Precedence} {operand : Rule Number} (h : Keeps operand) :
    Keeps (chain level operand) := fun p => follows_chainFrom h (h p)

theorem keeps_termOf {factor : Rule Number} (h : Keeps factor) : Keeps (termOf factor) :=
  keeps_chain h

theorem keeps_exprOf {factor : Rule Number} (h : Keeps factor) : Keeps (exprOf factor) :=
  keeps_chain (keeps_termOf h)

theorem keeps_nested {α : Type} {rule : Rule α} (h : Keeps rule) : Keeps (nested rule) := by
  intro p
  have hp := h { p with depth := p.depth + 1 }
  refine ⟨?_, hp.eof, hp.tokens⟩
  change (rule { p with depth := p.depth + 1 }).state.depth - 1 = p.depth
  rw [hp.depth, Nat.add_sub_cancel]

theorem keeps_groupOf {factor : Rule Number} (h : Keeps factor) : Keeps (groupOf factor) := fun p =>
  follows_bind (keeps_eat _ p) fun _ q =>
    follows_bind (keeps_nested (keeps_exprOf h) q) fun _ r => follows_map _ (keeps_eat _ r)

theorem keeps_factorOf {inner : Rule Number} (h : Keeps inner) : Keeps (factorOf inner) := by
  intro p
  unfold factorOf
  split
  · exact .refl p
  · split
    · exact follows_map _ (keeps_eat _ p)
    · split
      · exact .refl p
      · exact keeps_groupOf h p
    · exact .refl p

theorem keeps_factorWithin : ∀ levels, Keeps (factorWithin levels)
  | 0 => fun p => .refl p
  | levels + 1 => keeps_factorOf (keeps_factorWithin levels)

theorem keeps_factor : Keeps factor := fun p => keeps_factorWithin _ p

theorem keeps_term : Keeps term := keeps_termOf keeps_factor

theorem keeps_expr : Keeps expr := keeps_exprOf keeps_factor

theorem keeps_finish (value : Number) : Keeps (finish value) := by
  intro p
  unfold finish
  split <;> exact .refl p

theorem keeps_parse : Keeps parse := fun p => follows_bind (keeps_expr p) keeps_finish

theorem keeps_answer (request : Request) : Keeps fun p => p.answer request := by
  intro p
  cases request with
  | parse => exact follows_map _ (keeps_parse p)
  | expr => exact follows_map _ (keeps_expr p)
  | term => exact follows_map _ (keeps_term p)
  | factor => exact follows_map _ (keeps_factor p)
  | eat kind => exact follows_map _ (keeps_eat kind p)

/-! ### The bound on a chain -/

theorem tokens_of_operator? {level : Precedence} {p : Parser} {op : Operator} {place : Placed}
    (h : p.operator? level = some (op, place)) :
    p.tokens.head? = some place ∧ place.token = .operator op ∧ op.precedence = level := by
  unfold operator? at h
  split at h
  · next found rest hp =>
    split at h
    · next op' hf =>
      split at h
      · next hop =>
        cases h
        exact ⟨by rw [hp]; rfl, hf, hop⟩
      · cases h
    · cases h
  · cases h

theorem applyNext_eq {operand : Rule Number} {p : Parser} {op : Operator} {place : Placed}
    {rest : List Placed} (hp : p.tokens = place :: rest) (lhs : Number) :
    applyNext operand op place lhs p =
      (⟨.ok (), p.skip, #[.eat place.token]⟩ : Outcome Parser Unit).bind fun _ q =>
        (operand q).bind fun rhs q => q.fold lhs op rhs place := by
  have heat : p.eat place.token.kind = ⟨.ok (), p.skip, #[.eat place.token]⟩ := by
    unfold eat; rw [hp]; simp
  unfold applyNext
  rw [heat]

theorem length_bind_applyNext_lt {level : Precedence} {operand : Rule Number} (h : Keeps operand)
    {sofar : Outcome Parser Number} {lhs : Number} {op : Operator} {place : Placed}
    (hok : sofar.result = .ok lhs) (hop : sofar.state.operator? level = some (op, place)) :
    (sofar.bind (applyNext operand op place)).state.tokens.length <
      sofar.state.tokens.length := by
  obtain ⟨hhead, -, -⟩ := tokens_of_operator? hop
  rcases sofar with ⟨_, p, events⟩
  obtain ⟨rest, hp⟩ := List.head?_eq_some_iff.1 hhead
  have hnext : Follows p.skip (applyNext operand op place lhs p).state := by
    rw [applyNext_eq hp]
    exact follows_bind (.refl p.skip) fun _ q =>
      follows_bind (h q) fun rhs => keeps_fold lhs op rhs place
  have hstate : ((⟨.ok lhs, p, events⟩ : Outcome Parser Number).bind
      (applyNext operand op place)).state = (applyNext operand op place lhs p).state := rfl
  have hlength := hnext.tokens.length_le
  simp only at hok hp
  subst hok
  rw [hstate, hp, List.length_cons]
  simp only [skip, hp, List.tail_cons] at hlength
  exact Nat.lt_succ_of_le hlength

/-- Any bound will do that is no less than the tokens left. -/
theorem chainFrom_eq {level : Precedence} {operand : Rule Number} (h : Keeps operand) :
    ∀ {ahead more : List Placed} {sofar : Outcome Parser Number},
      sofar.state.tokens.length ≤ ahead.length → sofar.state.tokens.length ≤ more.length →
      chainFrom level operand ahead sofar = chainFrom level operand more sofar
  | [], [], _, _, _ => rfl
  | [], _ :: _, sofar, hl, _ => by
    have hnone : sofar.state.operator? level = none := by
      unfold operator?; rw [List.eq_nil_of_length_eq_zero (Nat.le_zero.1 hl)]
    unfold chainFrom; rw [hnone]; split <;> simp_all
  | _ :: _, [], sofar, _, hr => by
    have hnone : sofar.state.operator? level = none := by
      unfold operator?; rw [List.eq_nil_of_length_eq_zero (Nat.le_zero.1 hr)]
    unfold chainFrom; rw [hnone]; split <;> simp_all
  | _ :: ahead, _ :: more, sofar, hl, hr => by
    unfold chainFrom
    split
    · next lhs op place hok hop =>
      have hlt := length_bind_applyNext_lt h hok hop
      simp only [List.length_cons] at hl hr
      exact chainFrom_eq h (by omega) (by omega)
    · rfl

/-- What follows an outcome of a chain. -/
def chainRest (level : Precedence) (operand : Rule Number) (sofar : Outcome Parser Number) :
    Outcome Parser Number := chainFrom level operand sofar.state.tokens sofar

theorem chainRest_eq {level : Precedence} {operand : Rule Number} (h : Keeps operand)
    (sofar : Outcome Parser Number) :
    chainRest level operand sofar =
      match sofar.result, sofar.state.operator? level with
      | .ok _, some (op, place) =>
        chainRest level operand (sofar.bind (applyNext operand op place))
      | _, _ => sofar := by
  split
  · next lhs op place hok hop =>
    have hlt := length_bind_applyNext_lt h hok hop
    unfold chainRest
    match htokens : sofar.state.tokens, (tokens_of_operator? hop).1 with
    | _ :: rest, _ =>
      rw [htokens] at hlt
      rw [chainFrom, hok, hop]
      exact chainFrom_eq h (Nat.le_of_lt_succ hlt) (Nat.le_refl _)
  · next hstop =>
    unfold chainRest
    match htokens : sofar.state.tokens with
    | [] => rfl
    | _ :: rest =>
      unfold chainFrom
      split
      · next hok hop => exact absurd hop (hstop _ _ _ hok)
      · rfl

theorem chain_eq (level : Precedence) (operand : Rule Number) (p : Parser) :
    chain level operand p = chainRest level operand (operand p) := rfl

/-! ### The bound on the levels of factors -/

/-- The two rules do the same where this many parentheses are open. -/
def SameAt (depth : Nat) {α : Type} (r s : Rule α) : Prop := ∀ p, p.depth = depth → r p = s p

theorem SameAt.bind {α β : Type} {depth : Nat} {p : Parser} {o : Outcome Parser α}
    {next more : α → Rule β} (ho : Follows p o.state) (hp : p.depth = depth)
    (h : ∀ value, SameAt depth (next value) (more value)) : o.bind next = o.bind more := by
  rcases o with ⟨_ | value, q, events⟩
  · rfl
  · simp only [Outcome.bind]
    rw [h value q (ho.depth.trans hp)]

theorem SameAt.applyNext {depth : Nat} {r s : Rule Number} (h : SameAt depth r s) (op : Operator)
    (place : Placed) (lhs : Number) :
    SameAt depth (applyNext r op place lhs) (applyNext s op place lhs) := fun p hp =>
  SameAt.bind (keeps_eat _ p) hp fun _ q hq => by
    rw [h q hq]

theorem SameAt.chainFrom {depth : Nat} {r s : Rule Number} (hr : Keeps r) (h : SameAt depth r s)
    {level : Precedence} {p : Parser} (hp : p.depth = depth) :
    ∀ {ahead : List Placed} {sofar : Outcome Parser Number}, Follows p sofar.state →
      chainFrom level r ahead sofar = chainFrom level s ahead sofar
  | [], _, _ => rfl
  | _ :: ahead, sofar, hs => by
    unfold Parser.chainFrom
    split
    · next op place _ _ =>
      have hsame : sofar.bind (Parser.applyNext r op place) =
          sofar.bind (Parser.applyNext s op place) :=
        SameAt.bind hs hp fun lhs => SameAt.applyNext h op place lhs
      rw [← hsame]
      exact SameAt.chainFrom hr h hp (follows_bind hs fun lhs => keeps_applyNext hr op place lhs)
    · rfl

theorem SameAt.chain {depth : Nat} {r s : Rule Number} (hr : Keeps r) (h : SameAt depth r s)
    (level : Precedence) : SameAt depth (chain level r) (chain level s) := by
  intro p hp
  unfold Parser.chain
  rw [← h p hp]
  exact SameAt.chainFrom hr h hp (hr p)

theorem SameAt.exprOf {depth : Nat} {r s : Rule Number} (hr : Keeps r) (h : SameAt depth r s) :
    SameAt depth (exprOf r) (exprOf s) :=
  SameAt.chain (keeps_termOf hr) (SameAt.chain hr h .product) .sum

/-- The rule for the factors inside matters only with one more parenthesis open, and not at all
where none may be opened. -/
theorem SameAt.factorOf {depth : Nat} {r s : Rule Number} (hr : Keeps r)
    (h : depth < maxDepth → SameAt (depth + 1) r s) : SameAt depth (factorOf r) (factorOf s) := by
  intro p hp
  unfold Parser.factorOf
  split
  · rfl
  · split
    · rfl
    · split
      · rfl
      · next hdepth =>
        have hexpr := SameAt.exprOf hr (h (by omega))
        refine SameAt.bind (keeps_eat _ p) hp fun _ q hq => ?_
        unfold nested
        rw [hexpr { q with depth := q.depth + 1 } (by rw [← hq])]
    · rfl

/-- Any number of levels will do that is above that of the parentheses which may still be opened. -/
theorem SameAt.factorWithin : ∀ {levels more depth : Nat}, maxDepth - depth < levels →
    maxDepth - depth < more → SameAt depth (factorWithin levels) (factorWithin more)
  | levels + 1, more + 1, depth, hl, hm =>
    SameAt.factorOf (keeps_factorWithin levels) fun hd =>
      SameAt.factorWithin (by omega) (by omega)

theorem factorWithin_eq {levels : Nat} {p : Parser} (h : maxDepth - p.depth < levels) :
    factorWithin levels p = factor p :=
  SameAt.factorWithin h (Nat.lt_succ_self _) p rfl

/-- **The rule for factors calls itself**, whatever number of levels it is built from. -/
theorem factor_eq (p : Parser) : factor p = factorOf factor p := by
  rw [← factorWithin_eq (Nat.lt_succ_self (maxDepth - p.depth))]
  exact SameAt.factorOf (keeps_factorWithin _) (fun hd q hq =>
    factorWithin_eq (by rw [hq]; omega)) p rfl

end Calculator.Parser
