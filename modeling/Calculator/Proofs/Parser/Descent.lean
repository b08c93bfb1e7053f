import Calculator.Proofs.Parser.Reading
import Calculator.Proofs.Phrase.Reach

/-! # What the rules do with any tokens

Each rule either reads a phrase and gives its value, or fails for one of a few reasons, at a place
that phrases reach (`rule_explained`). The reasons are listed by `Blocked`: no factor where one has
to begin, one parenthesis too many, something else in the place of a closing parenthesis, and an
operator without a result. The induction is on the number of tokens that are left, from factors
through terms to expressions, and for a chain on the outcome of what it has read so far. -/

namespace Calculator.Parser

/-- The tokens on which a rule fails by itself with `d` parentheses open, the error, and the tokens
that are left behind it. -/
inductive Blocked (eof : Position) :
    (kind : Phrase.Kind) → (d : Nat) → (tokens : List Placed) → Error → (left : List Placed) → Prop
  /-- No token is left where a factor has to begin. -/
  | ended {d : Nat} : Blocked eof .factor d [] (.ended Error.factorWanted eof) []
  /-- A factor begins with a number or a parenthesis. -/
  | unexpected {d : Nat} {found : Placed} {rest : List Placed}
      (hnumber : ∀ v, found.token ≠ .number v) (hopen : found.token ≠ .openParen) :
      Blocked eof .factor d (found :: rest) (.unexpected Error.factorWanted found) (found :: rest)
  /-- No more parentheses may be opened. -/
  | tooDeep {d : Nat} {found : Placed} {rest : List Placed} (hopen : found.token = .openParen)
      (hd : maxDepth ≤ d) :
      Blocked eof .factor d (found :: rest) (.tooDeep maxDepth found) (found :: rest)
  /-- The tokens end behind the expression in parentheses. -/
  | unclosed {d : Nat} {found : Placed} {taken : List Placed} {inner : Phrase .expr}
      (hopen : found.token = .openParen) (htaken : taken.map Placed.token = inner.tokens)
      (room : inner.depth + (d + 1) ≤ maxDepth) :
      Blocked eof .factor d (found :: taken) (.ended Token.Kind.closeParen.text eof) []
  /-- Something else stands behind the expression in parentheses. -/
  | misclosed {d : Nat} {found : Placed} {taken : List Placed} {inner : Phrase .expr}
      {place : Placed} {rest : List Placed} (hopen : found.token = .openParen)
      (htaken : taken.map Placed.token = inner.tokens) (room : inner.depth + (d + 1) ≤ maxDepth)
      (hstops : Stops .expr (place :: rest)) (hclose : place.token ≠ .closeParen) :
      Blocked eof .factor d (found :: (taken ++ place :: rest))
        (.unexpected Token.Kind.closeParen.text place) (place :: rest)
  /-- An operator has no result on the values of its operands. -/
  | fault {level : Precedence} {d : Nat} {taken right : List Placed} {place : Placed}
      {lhs : Phrase (.chain level)} {l r : Number} {op : Operator} {reason : Fault}
      (htaken : taken.map Placed.token = lhs.tokens) (room : lhs.depth + d ≤ maxDepth)
      (hl : lhs.value = .ok l) (hplace : place.token = .operator op)
      (fits : op.precedence = level) (hr : (rule level.operand ⟨right, eof, d⟩).result = .ok r)
      (hreason : l.apply op r = .error reason) :
      Blocked eof (.chain level) d (taken ++ place :: right) (.ofFault reason l op r place)
        (rule level.operand ⟨right, eof, d⟩).state.tokens

/-- A phrase with the value `v` stands before the tokens `left`. -/
def Reads (kind : Phrase.Kind) (p : Parser) (v : Number) (left : List Placed) : Prop :=
  ∃ (phrase : Phrase kind) (taken : List Placed), p.tokens = taken ++ left ∧
    taken.map Placed.token = phrase.tokens ∧ phrase.depth + p.depth ≤ maxDepth ∧
      phrase.value = .ok v

/-- Some rule that the phrase reaches is blocked. -/
def Fails (kind : Phrase.Kind) (p : Parser) (e : Error) (left : List Placed) : Prop :=
  ∃ (taken more : List Placed) (inner : Phrase.Kind) (d : Nat), p.tokens = taken ++ more ∧
    Phrase.Reaches maxDepth kind p.depth (taken.map Placed.token) inner d ∧
      Blocked p.eof inner d more e left

/-- The outcome is a phrase of the kind, with no operator behind it that the kind `stop` would go on
with, or a failure inside of one. -/
def Explained (kind stop : Phrase.Kind) (p : Parser) (o : Outcome Parser Number) : Prop :=
  match o.result with
  | .ok v => Reads kind p v o.state.tokens ∧ Stops stop o.state.tokens
  | .error e => Fails kind p e o.state.tokens

theorem explained_ok {kind stop : Phrase.Kind} {p : Parser} {o : Outcome Parser Number}
    {v : Number} (h : o.result = .ok v) :
    Explained kind stop p o ↔ Reads kind p v o.state.tokens ∧ Stops stop o.state.tokens := by
  unfold Explained
  rw [h]

theorem explained_error {kind stop : Phrase.Kind} {p : Parser} {o : Outcome Parser Number}
    {e : Error} (h : o.result = .error e) :
    Explained kind stop p o ↔ Fails kind p e o.state.tokens := by
  unfold Explained
  rw [h]

theorem Fails.here {kind : Phrase.Kind} {p : Parser} {e : Error} {tokens left : List Placed}
    (hp : p.tokens = tokens) (h : Blocked p.eof kind p.depth tokens e left) :
    Fails kind p e left :=
  ⟨[], tokens, kind, p.depth, hp, .here, h⟩

/-- A failure of a rule that is reached is one of the rule that reaches it. -/
theorem Fails.of_reaches {kind inner : Phrase.Kind} {p q : Parser} {e : Error}
    {taken left : List Placed} (hp : p.tokens = taken ++ q.tokens)
    (hreach : Phrase.Reaches maxDepth kind p.depth (taken.map Placed.token) inner q.depth)
    (heof : q.eof = p.eof) (h : Fails inner q e left) : Fails kind p e left := by
  obtain ⟨more, rest, last, d, hq, hmore, hblocked⟩ := h
  refine ⟨taken ++ more, rest, last, d, by rw [hp, hq, List.append_assoc], ?_, ?_⟩
  · rw [List.map_append]
    exact hreach.trans hmore
  · rw [← heof]
    exact hblocked

/-! ### Chains -/

section Chain

variable {level : Precedence} {p : Parser} {sofar : Outcome Parser Number}

theorem explained_head (h : Explained level.operand level.operand p sofar) :
    Explained (.chain level) level.operand p sofar := by
  rcases hr : sofar.result with e | v
  · rw [explained_error hr] at h ⊢
    have hp : p.tokens = [] ++ p.tokens := rfl
    exact h.of_reaches hp Phrase.Reaches.here.head rfl
  · rw [explained_ok hr] at h ⊢
    obtain ⟨⟨phrase, taken, hp, ht, hd, hv⟩, hs⟩ := h
    exact ⟨⟨.single phrase, taken, hp, ht, hd, hv⟩, hs⟩

theorem Reads.apply {l r v : Number} {op : Operator} {place : Placed} {right left : List Placed}
    (h : Reads (.chain level) p l (place :: right)) (hplace : place.token = .operator op)
    (fits : op.precedence = level) (hr : Reads level.operand ⟨right, p.eof, p.depth⟩ r left)
    (hv : l.apply op r = .ok v) : Reads (.chain level) p v left := by
  obtain ⟨lhs, taken, hp, ht, hd, hl⟩ := h
  obtain ⟨rhs, more, hright, hmore, hroom, hr⟩ := hr
  replace hright : right = more ++ left := hright
  replace hroom : rhs.depth + p.depth ≤ maxDepth := hroom
  refine ⟨.apply lhs op fits rhs, taken ++ place :: more, ?_, ?_, ?_, ?_⟩
  · rw [hp, hright, List.append_assoc, List.cons_append]
  · rw [List.map_append, List.map_cons, ht, hmore, hplace]
    rfl
  · rw [Phrase.depth_apply]
    omega
  · rw [Phrase.value_apply_of_ok hl hr, hv]

theorem explained_bind (h : Explained (.chain level) level.operand p sofar)
    (hfollows : Follows p sofar.state) {l : Number} (hok : sofar.result = .ok l) {op : Operator}
    {place : Placed} {right : List Placed} (htokens : sofar.state.tokens = place :: right)
    (hplace : place.token = .operator op) (fits : op.precedence = level)
    (hoperand : Explained level.operand level.operand sofar.state.skip
      (rule level.operand sofar.state.skip)) :
    Explained (.chain level) level.operand p
      (sofar.bind (applyNext (rule level.operand) op place)) := by
  rw [explained_ok hok, htokens] at h
  have hchain := h.1
  obtain ⟨lhs, taken, hp, ht, hd, hl⟩ := h.1
  have hskip : sofar.state.skip = ⟨right, p.eof, p.depth⟩ := hfollows.skip_eq htokens
  rcases hr : (rule level.operand sofar.state.skip).result with e | r
  · obtain ⟨hresult, hstate⟩ := bind_applyNext_of_error op hok htokens hr
    rw [explained_error hr] at hoperand
    rw [explained_error hresult, hstate]
    have htaken : p.tokens = (taken ++ [place]) ++ sofar.state.skip.tokens := by
      rw [hskip, hp, List.append_assoc]
      rfl
    have hword : (taken ++ [place]).map Placed.token = lhs.tokens ++ [.operator op] := by
      rw [List.map_append, ht, List.map_singleton, hplace]
    refine hoperand.of_reaches htaken ?_ ?_
    · rw [hskip, hword]
      exact Phrase.Reaches.here.operand lhs hd fits
    · rw [hskip]
  · obtain ⟨hresult, hstate⟩ := bind_applyNext_of_ok op hok htokens hr
    rw [explained_ok hr] at hoperand
    rcases ha : l.apply op r with reason | v
    · rw [ha] at hresult
      rw [explained_error hresult, hstate, hskip]
      rw [hskip] at hr
      exact .here hp (.fault ht hd hl hplace fits hr ha)
    · rw [ha] at hresult
      rw [explained_ok hresult, hstate]
      rw [hskip] at hoperand ⊢
      exact ⟨hchain.apply hplace fits hoperand.1 ha, hoperand.2⟩

/-- Where no operator of a chain's own level follows, nor one of its operands, the chain stops. -/
theorem stops_of_operator?_eq_none {q : Parser} (hnone : q.operator? level = none)
    (hs : Stops level.operand q.tokens) : Stops (.chain level) q.tokens := by
  intro place rest op hq hop hholds
  rcases Phrase.Kind.holds_chain.mp hholds with hlevel | hin
  · rw [operator?_eq_some hq hop hlevel] at hnone
    cases hnone
  · exact hs place rest op hq hop hin

/-- What a chain goes on with keeps the explanation, by induction on the tokens that are left. -/
theorem explained_chainRest : ∀ (n : Nat) {sofar : Outcome Parser Number},
    sofar.state.tokens.length ≤ n →
      (∀ q : Parser, q.tokens.length < n → q.depth ≤ maxDepth →
        Explained level.operand level.operand q (rule level.operand q)) →
      p.depth ≤ maxDepth → Follows p sofar.state → Explained (.chain level) level.operand p sofar →
        Explained (.chain level) (.chain level) p
          (chainRest level (rule level.operand) sofar) := by
  intro n
  induction n with
  | zero =>
    intro sofar hlength _ _ _ h
    have hnil : sofar.state.tokens = [] := List.eq_nil_of_length_eq_zero (Nat.le_zero.1 hlength)
    have hs : Stops (.chain level) sofar.state.tokens := by rw [hnil]; exact stops_nil _
    rw [chainRest_of_stops (keeps_rule _) hs]
    rcases hr : sofar.result with e | v
    · rw [explained_error hr] at h ⊢
      exact h
    · rw [explained_ok hr] at h ⊢
      exact ⟨h.1, hs⟩
  | succ n ih =>
    intro sofar hlength hoperand hd hfollows h
    rcases hr : sofar.result with e | l
    · rw [chainRest_of_error (keeps_rule _) hr, explained_error hr]
      rw [explained_error hr] at h
      exact h
    rcases ho : sofar.state.operator? level with _ | ⟨op, place⟩
    · have hs := (explained_ok hr).mp h
      have hstop := stops_of_operator?_eq_none ho hs.2
      rw [chainRest_of_stops (keeps_rule _) hstop, explained_ok hr]
      exact ⟨hs.1, hstop⟩
    · obtain ⟨hhead, hplace, fits⟩ := tokens_of_operator? ho
      obtain ⟨right, htokens⟩ := List.head?_eq_some_iff.1 hhead
      have hlt := length_bind_applyNext_lt (keeps_rule level.operand) hr ho
      have hskip : sofar.state.skip.tokens.length < n + 1 := by
        change sofar.state.tokens.tail.length < n + 1
        rw [htokens, List.length_cons] at hlength
        rw [htokens, List.tail_cons]
        omega
      rw [chainRest_of_operator (keeps_rule _) hr htokens hplace fits]
      refine ih (by omega) (fun q hq => hoperand q (by omega)) hd ?_ ?_
      · exact follows_bind hfollows fun v => keeps_applyNext (keeps_rule _) op place v
      · refine explained_bind h hfollows hr htokens hplace fits (hoperand _ hskip ?_)
        rw [show sofar.state.skip.depth = p.depth from hfollows.depth]
        exact hd

theorem explained_chain (hd : p.depth ≤ maxDepth)
    (hoperand : ∀ q : Parser, q.tokens.length ≤ p.tokens.length → q.depth ≤ maxDepth →
      Explained level.operand level.operand q (rule level.operand q)) :
    Explained (.chain level) (.chain level) p (rule (.chain level) p) := by
  have hfollows := keeps_rule level.operand p
  rw [rule_chain, chain_eq]
  exact explained_chainRest p.tokens.length hfollows.tokens.length_le
    (fun q hq => hoperand q (Nat.le_of_lt hq)) hd hfollows
    (explained_head (hoperand p (Nat.le_refl _) hd))

end Chain

/-! ### Factors -/

theorem factor_of_other {p : Parser} {found : Placed} {rest : List Placed}
    (hp : p.tokens = found :: rest) (hnumber : ∀ v, found.token ≠ .number v)
    (hopen : found.token ≠ .openParen) :
    factor p = .fail (.unexpected Error.factorWanted found) p := by
  rw [factor_eq, factorOf, hp]
  dsimp only
  split
  · next v hv => exact (hnumber v hv).elim
  · next ho => exact (hopen ho).elim
  · rfl

theorem eat_of_other {p : Parser} {kind : Token.Kind} {found : Placed} {rest : List Placed}
    (hp : p.tokens = found :: rest) (hk : found.token.kind ≠ kind) :
    p.eat kind = .fail (.unexpected kind.text found) p := by
  unfold eat
  rw [hp]
  simp only [if_neg hk]

theorem kind_eq_closeParen {token : Token} (h : token.kind = .closeParen) :
    token = .closeParen := by
  unfold Token.kind at h
  split at h <;> cases h
  rfl

theorem Reads.group {p : Parser} {found place : Placed} {rest left : List Placed} {v : Number}
    (hp : p.tokens = found :: rest) (hopen : found.token = .openParen)
    (h : Reads .expr (p.inside rest) v (place :: left)) (hclose : place.token = .closeParen) :
    Reads .factor p v left := by
  obtain ⟨inner, taken, htokens, ht, hroom, hv⟩ := h
  replace htokens : rest = taken ++ place :: left := htokens
  replace hroom : inner.depth + (p.depth + 1) ≤ maxDepth := hroom
  refine ⟨.group inner, found :: (taken ++ [place]), ?_, ?_, ?_, hv⟩
  · rw [hp, htokens]
    simp
  · rw [List.map_cons, List.map_append, List.map_singleton, hopen, ht, hclose]
    rfl
  · rw [Phrase.depth_group]
    omega

theorem explained_group {p : Parser} {found : Placed} {rest : List Placed}
    (hp : p.tokens = found :: rest) (hopen : found.token = .openParen) (hd : p.depth < maxDepth)
    (hexpr : Explained .expr .expr (p.inside rest) (expr (p.inside rest))) :
    Explained .factor .factor p (factor p) := by
  rcases hr : (expr (p.inside rest)).result with e | v
  · obtain ⟨hresult, hstate⟩ := factor_of_inner_error hp hopen hd hr
    rw [explained_error hr] at hexpr
    rw [explained_error hresult, hstate]
    have htaken : p.tokens = [found] ++ (p.inside rest).tokens := hp
    refine hexpr.of_reaches htaken ?_ rfl
    rw [List.map_singleton, hopen]
    exact Phrase.Reaches.here.inside hd
  · rw [explained_ok hr] at hexpr
    obtain ⟨hreads, hs⟩ := hexpr
    rcases hleft : (expr (p.inside rest)).state.tokens with _ | ⟨place, left⟩
    · obtain ⟨hresult, hstate⟩ := factor_of_inner_ok hp hopen hd hr hleft
      rw [hleft] at hreads
      obtain ⟨inner, taken, htokens, ht, hroom, -⟩ := hreads
      replace htokens : rest = taken ++ [] := htokens
      rw [explained_error hresult, hstate]
      rw [htokens, List.append_nil] at hp
      exact .here hp (.unclosed hopen ht hroom)
    · obtain ⟨hresult, hstate⟩ := factor_of_inner_ok hp hopen hd hr hleft
      rw [hleft] at hreads hs
      by_cases hclose : place.token = .closeParen
      · have hkind : place.token.kind = .closeParen := by rw [hclose]; rfl
        rw [eat_of_kind rfl hkind] at hresult hstate
        rw [explained_ok hresult, hstate]
        exact ⟨hreads.group hp hopen hclose, fun _ _ _ _ _ hholds => hholds⟩
      · have hkind : place.token.kind ≠ .closeParen := fun h => hclose (kind_eq_closeParen h)
        obtain ⟨inner, taken, htokens, ht, hroom, -⟩ := hreads
        replace htokens : rest = taken ++ place :: left := htokens
        rw [eat_of_other rfl hkind] at hresult hstate
        rw [explained_error hresult, hstate]
        rw [htokens] at hp
        exact .here hp (.misclosed hopen ht hroom hs hclose)

theorem explained_factor {p : Parser} (hd : p.depth ≤ maxDepth)
    (hexpr : ∀ q : Parser, q.tokens.length < p.tokens.length → q.depth ≤ maxDepth →
      Explained .expr .expr q (expr q)) : Explained .factor .factor p (factor p) := by
  rcases hp : p.tokens with _ | ⟨found, rest⟩
  · have hf : factor p = .fail (.ended Error.factorWanted p.eof) p := by
      rw [factor_eq, factorOf, hp]
    rw [hf, explained_error rfl]
    refine .here hp ?_
    rw [show (Outcome.fail _ p : Outcome Parser Number).state.tokens = [] from hp]
    exact .ended
  -- what fails at the first token leaves the parser as it was
  have hblocked : ∀ {e : Error}, factor p = .fail e p →
      Blocked p.eof .factor p.depth (found :: rest) e (found :: rest) →
        Explained .factor .factor p (factor p) := by
    intro e he hb
    rw [he, explained_error rfl]
    refine .here hp ?_
    rw [show (Outcome.fail e p : Outcome Parser Number).state.tokens = found :: rest from hp]
    exact hb
  rcases hf : found.token with v | op | _ | _
  · obtain ⟨hresult, hstate⟩ := factor_of_number hp hf
    rw [explained_ok hresult, hstate]
    refine ⟨⟨.number v, [found], hp, ?_, ?_, rfl⟩, fun _ _ _ _ _ hholds => hholds⟩
    · rw [List.map_singleton, hf]
      rfl
    · rw [Phrase.depth_number, Nat.zero_add]
      exact hd
  · have hother := factor_of_other hp (by rw [hf]; simp) (by rw [hf]; simp)
    exact hblocked hother (.unexpected (by rw [hf]; simp) (by rw [hf]; simp))
  · by_cases hlt : p.depth < maxDepth
    · refine explained_group hp hf hlt (hexpr _ ?_ hlt)
      change rest.length < p.tokens.length
      rw [hp, List.length_cons]
      omega
    · have hdeep : factor p = .fail (.tooDeep maxDepth found) p := by
        rw [factor_eq, factorOf, hp]
        simp only [hf, if_pos (Nat.not_lt.mp hlt)]
      exact hblocked hdeep (.tooDeep hf (Nat.not_lt.mp hlt))
  · have hother := factor_of_other hp (by rw [hf]; simp) (by rw [hf]; simp)
    exact hblocked hother (.unexpected (by rw [hf]; simp) (by rw [hf]; simp))

/-- **Every outcome of a rule is explained**, by induction on the number of tokens that are left. -/
theorem rule_explained (kind : Phrase.Kind) {p : Parser} (hd : p.depth ≤ maxDepth) :
    Explained kind kind p (rule kind p) := by
  induction hn : p.tokens.length using Nat.strongRecOn generalizing kind p with
  | _ n ih =>
    subst hn
    have hfactor : ∀ q : Parser, q.tokens.length ≤ p.tokens.length → q.depth ≤ maxDepth →
        Explained .factor .factor q (rule .factor q) := fun q hq hqd =>
      explained_factor hqd fun r hr hrd => ih _ (Nat.lt_of_lt_of_le hr hq) .expr hrd rfl
    have hterm : ∀ q : Parser, q.tokens.length ≤ p.tokens.length → q.depth ≤ maxDepth →
        Explained .term .term q (rule .term q) := fun q hq hqd =>
      explained_chain hqd fun r hr => hfactor r (Nat.le_trans hr hq)
    match kind with
    | .factor => exact hfactor p (Nat.le_refl _) hd
    | .chain .product => exact hterm p (Nat.le_refl _) hd
    | .chain .sum => exact explained_chain hd hterm

end Calculator.Parser
