import Calculator.Parser.Lemmas
import Calculator.Proofs.Phrase.Unique

/-! # Phrases are read

Where the tokens of a phrase stand at the head of the tokens that are left, and the phrase is not
nested too deeply, the rule of its kind takes just these and gives the value of the phrase, or fails
at an operator among them if the phrase has no value (`rule_reads`). The rule goes on behind a chain
as long as operators of its level follow, so the induction over phrases speaks of what the rule has
read so far (`exists_reads`): a chain that is the left part of a longer one is an intermediate
outcome of the same rule. -/

namespace Calculator

/-- An error of an operator that has no result on its operands. -/
def Error.Kind.IsArithmetic : Error.Kind → Prop
  | .divisionByZero | .overflow => True
  | _ => False

theorem Error.isArithmetic_ofFault (fault : Fault) (lhs : Number) (op : Operator) (rhs : Number)
    (place : Placed) : (Error.ofFault fault lhs op rhs place).kind.IsArithmetic := by
  cases fault <;> trivial

/-- The kind of the operands of a chain. -/
def Phrase.Kind.inner : Phrase.Kind → Phrase.Kind
  | .factor => .factor
  | .chain level => level.operand

theorem Phrase.Kind.holds_of_inner {kind : Kind} {level : Precedence} (h : kind.inner.Holds level) :
    kind.Holds level := by
  cases kind with
  | factor => exact h
  | chain own => exact Kind.holds_chain.mpr (Or.inr h)

namespace Parser

/-- The tokens do not begin with an operator that a phrase of the kind would go on with. -/
def Stops (kind : Phrase.Kind) (tokens : List Placed) : Prop :=
  ∀ (place : Placed) (rest : List Placed) (op : Operator), tokens = place :: rest →
    place.token = .operator op → ¬ kind.Holds op.precedence

theorem Stops.inner {kind : Phrase.Kind} {tokens : List Placed} (h : Stops kind tokens) :
    Stops kind.inner tokens := fun place rest op ht hop hholds =>
  h place rest op ht hop (Phrase.Kind.holds_of_inner hholds)

theorem stops_nil (kind : Phrase.Kind) : Stops kind [] := fun _ _ _ h => by cases h

theorem stops_closeParen {place : Placed} (hplace : place.token = .closeParen) (kind : Phrase.Kind)
    (rest : List Placed) : Stops kind (place :: rest) := by
  intro _ _ _ h hop
  cases h
  rw [hplace] at hop
  cases hop

/-! ### The rules -/

/-- The rule that reads the phrases of a kind. -/
def rule : Phrase.Kind → Rule Number
  | .factor => factor
  | .chain .product => term
  | .chain .sum => expr

theorem rule_chain (level : Precedence) :
    rule (.chain level) = chain level (rule level.operand) := by
  cases level <;> rfl

theorem keeps_rule (kind : Phrase.Kind) : Keeps (rule kind) := by
  rcases kind with _ | _ | _
  · exact keeps_factor
  · exact keeps_expr
  · exact keeps_term

/-- What the rule of a kind does with the outcome of a part of the phrase. -/
def goOn : Phrase.Kind → Outcome Parser Number → Outcome Parser Number
  | .factor, sofar => sofar
  | .chain level, sofar => chainRest level (rule level.operand) sofar

theorem operator?_eq_some {level : Precedence} {p : Parser} {op : Operator} {place : Placed}
    {rest : List Placed} (hp : p.tokens = place :: rest) (hplace : place.token = .operator op)
    (hop : op.precedence = level) : p.operator? level = some (op, place) := by
  unfold operator?
  rw [hp]
  simp only [hplace, hop, if_true]

theorem operator?_eq_none {level : Precedence} {p : Parser} (h : Stops (.chain level) p.tokens) :
    p.operator? level = none := by
  rcases ho : p.operator? level with _ | ⟨op, place⟩
  · rfl
  · obtain ⟨hhead, hplace, hop⟩ := tokens_of_operator? ho
    obtain ⟨rest, hp⟩ := List.head?_eq_some_iff.1 hhead
    exact (h _ _ _ hp hplace (Phrase.Kind.holds_chain.mpr (Or.inl hop))).elim

/-! ### What a chain goes on with -/

section Chain

variable {level : Precedence} {operand : Rule Number} {sofar : Outcome Parser Number}

theorem chainRest_of_error (h : Keeps operand) {e : Error} (he : sofar.result = .error e) :
    chainRest level operand sofar = sofar := by
  rw [chainRest_eq h, he]

theorem chainRest_of_none (h : Keeps operand) (hnone : sofar.state.operator? level = none) :
    chainRest level operand sofar = sofar := by
  rw [chainRest_eq h, hnone]
  split
  · next hop => cases hop
  · rfl

theorem chainRest_of_stops (h : Keeps operand) (hs : Stops (.chain level) sofar.state.tokens) :
    chainRest level operand sofar = sofar :=
  chainRest_of_none h (operator?_eq_none hs)

variable {lhs : Number} {op : Operator} {place : Placed} {rest : List Placed}

theorem chainRest_of_operator (h : Keeps operand) (hok : sofar.result = .ok lhs)
    (ht : sofar.state.tokens = place :: rest) (hplace : place.token = .operator op)
    (hop : op.precedence = level) :
    chainRest level operand sofar =
      chainRest level operand (sofar.bind (applyNext operand op place)) := by
  rw [chainRest_eq h sofar, hok, operator?_eq_some ht hplace hop]

theorem Follows.skip_eq {p q : Parser} (h : Follows p q) {place : Placed} {right : List Placed}
    (hq : q.tokens = place :: right) : q.skip = ⟨right, p.eof, p.depth⟩ := by
  unfold skip
  rw [hq, List.tail_cons, ← h.eof, ← h.depth]

theorem bind_applyNext_of_error (op : Operator) (hok : sofar.result = .ok lhs)
    (ht : sofar.state.tokens = place :: rest) {e : Error}
    (he : (operand sofar.state.skip).result = .error e) :
    (sofar.bind (applyNext operand op place)).result = .error e ∧
      (sofar.bind (applyNext operand op place)).state = (operand sofar.state.skip).state := by
  rw [Outcome.result_bind_of_ok hok, Outcome.state_bind_of_ok hok, applyNext_eq ht,
    Outcome.result_bind_of_ok rfl, Outcome.state_bind_of_ok rfl]
  exact ⟨Outcome.result_bind_of_error he _, Outcome.state_bind_of_error he _⟩

theorem bind_applyNext_of_ok (op : Operator) (hok : sofar.result = .ok lhs)
    (ht : sofar.state.tokens = place :: rest) {rhs : Number}
    (hr : (operand sofar.state.skip).result = .ok rhs) :
    (sofar.bind (applyNext operand op place)).result =
        (lhs.apply op rhs).mapError (fun fault => .ofFault fault lhs op rhs place) ∧
      (sofar.bind (applyNext operand op place)).state = (operand sofar.state.skip).state := by
  rw [Outcome.result_bind_of_ok hok, Outcome.state_bind_of_ok hok, applyNext_eq ht,
    Outcome.result_bind_of_ok rfl, Outcome.state_bind_of_ok rfl]
  refine ⟨(Outcome.result_bind_of_ok hr _).trans ?_, Outcome.state_bind_of_ok hr _⟩
  unfold fold
  rcases lhs.apply op rhs with fault | v <;> rfl

end Chain

theorem goOn_of_error {kind : Phrase.Kind} {sofar : Outcome Parser Number} {e : Error}
    (he : sofar.result = .error e) : goOn kind sofar = sofar := by
  cases kind with
  | factor => rfl
  | chain level => exact chainRest_of_error (keeps_rule _) he

theorem goOn_of_stops {kind : Phrase.Kind} {sofar : Outcome Parser Number}
    (hs : Stops kind sofar.state.tokens) : goOn kind sofar = sofar := by
  cases kind with
  | factor => rfl
  | chain level => exact chainRest_of_stops (keeps_rule _) hs

/-! ### Factors -/

section Factor

variable {p : Parser} {found : Placed} {rest : List Placed}

theorem eat_of_kind {kind : Token.Kind} (hp : p.tokens = found :: rest)
    (hk : found.token.kind = kind) :
    p.eat kind = ⟨.ok (), { p with tokens := rest }, #[.eat found.token]⟩ := by
  unfold eat
  rw [hp]
  simp only [hk, if_true, skip, hp, List.tail_cons]

theorem factor_of_number {v : Number} (hp : p.tokens = found :: rest)
    (hf : found.token = .number v) :
    (factor p).result = .ok v ∧ (factor p).state = { p with tokens := rest } := by
  rw [factor_eq, factorOf, hp]
  simp only [hf]
  rw [eat_of_kind hp (by rw [hf])]
  exact ⟨rfl, rfl⟩

/-- The parser inside a parenthesis. -/
def inside (p : Parser) (rest : List Placed) : Parser :=
  { p with tokens := rest, depth := p.depth + 1 }

theorem nested_eq {α : Type} (rule : Rule α) (p : Parser) :
    nested rule p =
      ⟨(rule { p with depth := p.depth + 1 }).result,
        { (rule { p with depth := p.depth + 1 }).state with
          depth := (rule { p with depth := p.depth + 1 }).state.depth - 1 },
        (rule { p with depth := p.depth + 1 }).events⟩ := rfl

theorem nested_state (p : Parser) (rest : List Placed) :
    (nested expr { p with tokens := rest }).state =
      { p with tokens := (expr (p.inside rest)).state.tokens } := by
  have hkeeps := keeps_expr (p.inside rest)
  rw [nested_eq]
  change (⟨_, _, _⟩ : Parser) = _
  rw [Parser.mk.injEq]
  exact ⟨rfl, hkeeps.eof, by
    change (expr (p.inside rest)).state.depth - 1 = p.depth
    rw [hkeeps.depth]; rfl⟩

theorem factor_of_openParen (hp : p.tokens = found :: rest) (hf : found.token = .openParen)
    (hd : p.depth < maxDepth) :
    ∃ events, factor p =
      Outcome.bind ⟨.ok (), { p with tokens := rest }, events⟩ fun _ q =>
        (nested expr q).bind fun value q => (q.eat .closeParen).map fun _ => value := by
  rw [factor_eq, factorOf, hp]
  simp only [hf, if_neg (Nat.not_le.mpr hd)]
  unfold groupOf
  rw [eat_of_kind hp (by rw [hf]; rfl)]
  exact ⟨_, rfl⟩

theorem factor_of_inner_error (hp : p.tokens = found :: rest) (hf : found.token = .openParen)
    (hd : p.depth < maxDepth) {e : Error} (he : (expr (p.inside rest)).result = .error e) :
    (factor p).result = .error e ∧
      (factor p).state = { p with tokens := (expr (p.inside rest)).state.tokens } := by
  obtain ⟨events, hfactor⟩ := factor_of_openParen hp hf hd
  have hin : (nested expr { p with tokens := rest }).result = .error e := he
  rw [hfactor, Outcome.result_bind_of_ok rfl, Outcome.state_bind_of_ok rfl,
    Outcome.result_bind_of_error hin, Outcome.state_bind_of_error hin, nested_state p rest]
  exact ⟨rfl, rfl⟩

theorem factor_of_inner_ok (hp : p.tokens = found :: rest) (hf : found.token = .openParen)
    (hd : p.depth < maxDepth) {v : Number} {left : List Placed}
    (hv : (expr (p.inside rest)).result = .ok v)
    (hleft : (expr (p.inside rest)).state.tokens = left) :
    (factor p).result = (eat .closeParen { p with tokens := left }).result.map (fun _ => v) ∧
      (factor p).state = (eat .closeParen { p with tokens := left }).state := by
  obtain ⟨events, hfactor⟩ := factor_of_openParen hp hf hd
  have hin : (nested expr { p with tokens := rest }).result = .ok v := hv
  rw [hfactor, Outcome.result_bind_of_ok rfl, Outcome.state_bind_of_ok rfl,
    Outcome.result_bind_of_ok hin, Outcome.state_bind_of_ok hin, nested_state p rest, hleft]
  exact ⟨rfl, rfl⟩

end Factor

/-! ### Phrases -/

/-- The outcome that the value of a phrase makes, with the tokens `rest` behind the phrase. -/
def Yields (value : Except Fault Number) (rest : List Placed) (o : Outcome Parser Number) : Prop :=
  match value with
  | .ok v => o.result = .ok v ∧ o.state.tokens = rest
  | .error _ => (∃ e, o.result = .error e ∧ e.kind.IsArithmetic) ∧ rest <:+ o.state.tokens

theorem Yields.goOn_eq {kind : Phrase.Kind} {value : Except Fault Number} {rest : List Placed}
    {o : Outcome Parser Number} (h : Yields value rest o) (hs : Stops kind rest) :
    goOn kind o = o := by
  rcases value with fault | v
  · obtain ⟨⟨e, he, -⟩, -⟩ := h
    exact goOn_of_error he
  · exact goOn_of_stops (by rw [h.2]; exact hs)

theorem yields_group {inner : Phrase .expr} {p : Parser} {found close : Placed}
    {more rest : List Placed} (hp : p.tokens = found :: more) (hf : found.token = .openParen)
    (hclose : close.token = .closeParen) (hd : p.depth < maxDepth)
    (h : Yields inner.value (close :: rest) (expr (p.inside more))) :
    Yields (Phrase.group inner).value rest (factor p) := by
  rw [Phrase.value]
  rcases hv : inner.value with fault | v
  · rw [hv] at h
    obtain ⟨⟨e, he, hkind⟩, hsuffix⟩ := h
    obtain ⟨hresult, hstate⟩ := factor_of_inner_error hp hf hd he
    refine ⟨⟨e, hresult, hkind⟩, ?_⟩
    rw [hstate]
    exact (List.suffix_cons _ _).trans hsuffix
  · rw [hv] at h
    obtain ⟨hok, hrest⟩ := h
    obtain ⟨hresult, hstate⟩ := factor_of_inner_ok hp hf hd hok hrest
    have hkind : close.token.kind = .closeParen := by rw [hclose]; rfl
    rw [eat_of_kind rfl hkind] at hresult hstate
    exact ⟨hresult, by rw [hstate]⟩

section Apply

variable {level : Precedence} {lhs : Phrase (.chain level)} {op : Operator} {place : Placed}
  {right rest : List Placed} {o : Outcome Parser Number}

/-- A rule goes on behind a chain with the operator that follows. -/
theorem Yields.goOn_bind (h : Yields lhs.value (place :: right) o)
    (hplace : place.token = .operator op) (fits : op.precedence = level) :
    goOn (.chain level) o =
      goOn (.chain level) (o.bind (applyNext (rule level.operand) op place)) := by
  rcases hl : lhs.value with fault | l
  · rw [hl] at h
    obtain ⟨⟨e, he, -⟩, -⟩ := h
    rcases o with ⟨result, state, events⟩
    cases he
    rfl
  · rw [hl] at h
    exact chainRest_of_operator (keeps_rule _) h.1 h.2 hplace fits

theorem Yields.apply (h : Yields lhs.value (place :: right) o) (hsuffix : rest <:+ right)
    (fits : op.precedence = level) {rhs : Phrase level.operand}
    (hr : ∀ l, lhs.value = .ok l → Yields rhs.value rest (rule level.operand o.state.skip)) :
    Yields (Phrase.apply lhs op fits rhs).value rest
      (o.bind (applyNext (rule level.operand) op place)) := by
  rcases hl : lhs.value with fault | l
  · rw [hl] at h
    obtain ⟨⟨e, he, hkind⟩, hleft⟩ := h
    rw [Phrase.value, hl]
    refine ⟨⟨e, Outcome.result_bind_of_error he _, hkind⟩, ?_⟩
    rw [Outcome.state_bind_of_error he]
    exact (hsuffix.trans (List.suffix_cons _ _)).trans hleft
  · replace hr := hr l hl
    rw [hl] at h
    obtain ⟨hok, htokens⟩ := h
    rcases hv : rhs.value with fault | r
    · rw [hv] at hr
      obtain ⟨⟨e, he, hkind⟩, hleft⟩ := hr
      obtain ⟨hresult, hstate⟩ := bind_applyNext_of_error op hok htokens he
      rw [Phrase.value, hl, hv]
      exact ⟨⟨e, hresult, hkind⟩, by rw [hstate]; exact hleft⟩
    · rw [hv] at hr
      obtain ⟨hok', hrest⟩ := hr
      obtain ⟨hresult, hstate⟩ := bind_applyNext_of_ok op hok htokens hok'
      rw [Phrase.value_apply_of_ok hl hv]
      rcases ha : l.apply op r with fault | v
      · rw [ha] at hresult
        refine ⟨⟨_, hresult, Error.isArithmetic_ofFault fault l op r place⟩, ?_⟩
        simp only [hstate, hrest, List.suffix_refl]
      · rw [ha] at hresult
        exact ⟨hresult, by rw [hstate, hrest]⟩

end Apply

theorem stops_operator {level : Precedence} {op : Operator} {place : Placed}
    (hplace : place.token = .operator op) (fits : op.precedence = level) (rest : List Placed) :
    Stops level.operand (place :: rest) := by
  intro _ _ _ h hop hholds
  cases h
  rw [hplace] at hop
  cases hop
  rw [fits] at hholds
  exact level.not_operand_holds hholds

/-- **What a rule has read of its phrase** when only operators of its own level can follow. -/
theorem exists_reads : ∀ {kind : Phrase.Kind} (phrase : Phrase kind) {p : Parser}
    {taken rest : List Placed}, p.tokens = taken ++ rest →
      taken.map Placed.token = phrase.tokens → phrase.depth + p.depth ≤ maxDepth →
        Stops kind.inner rest →
          ∃ o, rule kind p = goOn kind o ∧ Follows p o.state ∧ Yields phrase.value rest o
  | _, .number v, p, taken, rest, hp, ht, _, _ => by
    obtain ⟨found, rfl, hf⟩ := List.map_eq_singleton_iff.mp ht
    obtain ⟨hresult, hstate⟩ := factor_of_number hp hf
    exact ⟨factor p, rfl, keeps_factor p, hresult, by rw [hstate]; rfl⟩
  | _, .group inner, p, taken, rest, hp, ht, hd, _ => by
    rw [Phrase.depth_group] at hd
    obtain ⟨found, more, rfl, hf, hmore⟩ := List.map_eq_cons_iff.mp ht
    obtain ⟨mid, last, rfl, hmid, hlast⟩ := List.map_eq_append_iff.mp hmore
    obtain ⟨close, rfl, hclose⟩ := List.map_eq_singleton_iff.mp hlast
    have hp' : p.tokens = found :: (mid ++ close :: rest) := by rw [hp]; simp
    have hstops : Stops .expr (close :: rest) := stops_closeParen hclose _ rest
    obtain ⟨o, ho, -, hy⟩ := exists_reads inner (p := p.inside (mid ++ close :: rest)) rfl hmid
      (by change inner.depth + (p.depth + 1) ≤ maxDepth; omega) hstops.inner
    rw [hy.goOn_eq hstops] at ho
    rw [← ho] at hy
    exact ⟨factor p, rfl, keeps_factor p, yields_group hp' hf hclose (by omega) hy⟩
  | .chain level, .single operand, p, taken, rest, hp, ht, hd, hs => by
    replace hs : Stops level.operand rest := hs
    obtain ⟨o, ho, hfollows, hy⟩ := exists_reads operand hp ht hd hs.inner
    rw [hy.goOn_eq hs] at ho
    exact ⟨o, by rw [rule_chain, chain_eq, ho]; rfl, hfollows, hy⟩
  | .chain level, .apply lhs op fits rhs, p, taken, rest, hp, ht, hd, hs => by
    replace hs : Stops level.operand rest := hs
    rw [Phrase.depth_apply] at hd
    obtain ⟨left, more, rfl, hleft, hmore⟩ := List.map_eq_append_iff.mp ht
    obtain ⟨place, right, rfl, hplace, hright⟩ := List.map_eq_cons_iff.mp hmore
    have htokens : p.tokens = left ++ place :: (right ++ rest) := by rw [hp]; simp
    obtain ⟨o, ho, hfollows, hy⟩ :=
      exists_reads lhs htokens hleft (by omega) (stops_operator hplace fits _)
    refine ⟨_, ho.trans (hy.goOn_bind hplace fits), follows_bind hfollows fun v =>
      keeps_applyNext (keeps_rule _) op place v, hy.apply (List.suffix_append _ _) fits ?_⟩
    intro l hl
    rw [hl] at hy
    rw [hfollows.skip_eq hy.2]
    have hbehind : (⟨right ++ rest, p.eof, p.depth⟩ : Parser).tokens = right ++ rest := rfl
    have hroom : rhs.depth + p.depth ≤ maxDepth := by omega
    obtain ⟨o', ho', -, hy'⟩ := exists_reads rhs hbehind hright hroom hs.inner
    rw [ho', hy'.goOn_eq hs]
    exact hy'

/-- **A phrase is read**: its rule takes its tokens and gives its value. -/
theorem rule_reads {kind : Phrase.Kind} (phrase : Phrase kind) {p : Parser}
    {taken rest : List Placed} (hp : p.tokens = taken ++ rest)
    (ht : taken.map Placed.token = phrase.tokens) (hd : phrase.depth + p.depth ≤ maxDepth)
    (hs : Stops kind rest) : Yields phrase.value rest (rule kind p) := by
  obtain ⟨o, ho, -, hy⟩ := exists_reads phrase hp ht hd hs.inner
  rw [ho, hy.goOn_eq hs]
  exact hy

end Parser

end Calculator
