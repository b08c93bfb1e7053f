import Calculator.Proofs.Parser.Reading

/-! # One token of lookahead

Of the tokens that it leaves, a rule has looked at the first one only: with other tokens in their
place, and the same first one among them, it does the same and leaves those others (`Peeks`). One
rule behind another peeks at one token, since the second one leaves the first token behind the first
rule where it is or takes it (`peeks_bind`). For a chain the induction is on the tokens left
(`chainRest_leaving`), for factors on the levels of parentheses. So the answer to a request is the
same on all tokens that agree as far as one token beyond those taken (`answer_lookahead`). -/

namespace Calculator

/-- The same outcome with other tokens left. -/
def Outcome.leaving {α : Type} (o : Outcome Parser α) (left : List Placed) : Outcome Parser α :=
  { o with state := { o.state with tokens := left } }

namespace Parser

variable {α β : Type}

/-- **The rule peeks at one token**: with other tokens behind those that it takes, and the same
first one among them, it does the same and leaves the other tokens. -/
def Peeks (rule : Rule α) : Prop :=
  ∀ (p : Parser) (taken left : List Placed), p.tokens = taken ++ (rule p).state.tokens →
    left.head? = (rule p).state.tokens.head? →
      rule { p with tokens := taken ++ left } = (rule p).leaving left

theorem head?_append_congr (front : List Placed) {left right : List Placed}
    (h : left.head? = right.head?) : (front ++ left).head? = (front ++ right).head? := by
  rw [List.head?_append, List.head?_append, h]

/-! ### Single tokens -/

theorem peeks_stay (result : Except Error α) (events : Array Event) :
    Peeks fun p => ⟨result, p, events⟩ := by
  intro p taken left hp _
  obtain rfl : taken = [] := List.self_eq_append_left.mp hp
  rfl

theorem peeks_skip (result : Except Error α) (events : Array Event) :
    Peeks fun p => ⟨result, p.skip, events⟩ := by
  intro p taken left hp hhead
  replace hp : p.tokens = taken ++ p.tokens.tail := hp
  have htail : (taken ++ left).tail = left := by
    rcases htokens : p.tokens with _ | ⟨found, rest⟩
    · simp only [skip, htokens, List.tail_nil, List.head?_nil, List.head?_eq_none_iff] at hp hhead
      rw [(List.nil_eq_append_iff.mp hp).1, hhead]
      rfl
    · have htaken : [found] ++ rest = taken ++ rest := by rw [htokens] at hp; exact hp
      rw [← List.append_cancel_right htaken]
      rfl
  change (⟨result, { p with tokens := (taken ++ left).tail }, events⟩ : Outcome Parser α) = _
  rw [htail]
  rfl

/-- A rule that, for each first token, does the same as one that peeks. -/
theorem peeks_of_head {rule : Rule α} (h : ∀ found, ∃ other : Rule α, Peeks other ∧
    ∀ (p : Parser) (rest : List Placed), p.tokens = found :: rest → rule p = other p) :
    Peeks rule := by
  intro p taken left hp hhead
  have hsame : (taken ++ left).head? = p.tokens.head? :=
    (head?_append_congr taken hhead).trans (congrArg List.head? hp.symm)
  rcases htokens : p.tokens with _ | ⟨found, rest⟩
  · -- no token is left, here or there
    rw [htokens] at hp hsame
    obtain ⟨-, hnil⟩ := List.nil_eq_append_iff.mp hp
    rw [hnil, List.head?_nil, List.head?_eq_none_iff] at hhead
    rw [List.head?_nil, List.head?_eq_none_iff] at hsame
    rw [hsame, ← htokens, hhead, ← hnil]
    rfl
  · obtain ⟨other, hpeeks, heq⟩ := h found
    rw [htokens] at hsame
    obtain ⟨rest', htokens'⟩ := List.head?_eq_some_iff.mp hsame
    rw [heq p rest htokens] at hp hhead ⊢
    rw [heq _ rest' htokens']
    exact hpeeks p taken left hp hhead

theorem peeks_depth (limit : Nat) {deep rule : Rule α} (hdeep : Peeks deep) (h : Peeks rule) :
    Peeks fun p => if limit ≤ p.depth then deep p else rule p := by
  intro p taken left hp hhead
  dsimp only at hp hhead ⊢
  by_cases hdepth : limit ≤ p.depth
  · rw [if_pos hdepth] at hp hhead
    rw [if_pos hdepth, if_pos hdepth]
    exact hdeep p taken left hp hhead
  · rw [if_neg hdepth] at hp hhead
    rw [if_neg hdepth, if_neg hdepth]
    exact h p taken left hp hhead

theorem peeks_eat (kind : Token.Kind) : Peeks (eat kind) := by
  refine peeks_of_head fun found => ?_
  by_cases hkind : found.token.kind = kind
  · refine ⟨_, peeks_skip (.ok ()) #[.eat found.token], fun p rest hp => ?_⟩
    simp only [eat, hp, if_pos hkind]
  · refine ⟨_, peeks_stay (.error (.unexpected kind.text found)) #[], fun p rest hp => ?_⟩
    simp only [eat, hp, if_neg hkind, Outcome.fail]

theorem peeks_finish (value : Number) : Peeks (finish value) := by
  refine peeks_of_head fun found =>
    ⟨_, peeks_stay (.error (.trailing found)) #[], fun p rest hp => ?_⟩
  simp only [finish, hp, Outcome.fail]

/-! ### One rule behind another -/

theorem bind_leaving {next : α → Rule β} (hnext : ∀ value, Peeks (next value))
    {o : Outcome Parser α} {taken left : List Placed}
    (ho : o.state.tokens = taken ++ (o.bind next).state.tokens)
    (hhead : left.head? = (o.bind next).state.tokens.head?) :
    (o.leaving (taken ++ left)).bind next = (o.bind next).leaving left := by
  rcases o with ⟨e | value, q, events⟩
  · obtain rfl : taken = [] := List.self_eq_append_left.mp ho
    rfl
  · have hthen := hnext value q taken left ho hhead
    simp only [Outcome.leaving, Outcome.bind] at hthen ⊢
    rw [hthen]

/-- Of two rules behind each other the second one takes an end of what both of them take. -/
theorem exists_taken_between {p q r : Parser} (hfirst : Follows p q) (hsecond : Follows q r)
    {taken left : List Placed} (hp : p.tokens = taken ++ r.tokens)
    (hhead : left.head? = r.tokens.head?) :
    ∃ front mid, taken = front ++ mid ∧ p.tokens = front ++ q.tokens ∧ q.tokens = mid ++ r.tokens ∧
      (mid ++ left).head? = q.tokens.head? := by
  obtain ⟨front, hfront⟩ := hfirst.tokens
  obtain ⟨mid, hmid⟩ := hsecond.tokens
  refine ⟨front, mid, ?_, hfront.symm, hmid.symm,
    (head?_append_congr mid hhead).trans (congrArg List.head? hmid)⟩
  refine List.append_cancel_right (hp.symm.trans ?_)
  rw [List.append_assoc, hmid, hfront]

theorem peeks_bind {rule : Rule α} {next : α → Rule β} (h : Peeks rule) (hkeeps : Keeps rule)
    (hnext : ∀ value, Peeks (next value)) (hkeeps' : ∀ value, Keeps (next value)) :
    Peeks fun p => (rule p).bind next := by
  intro p taken left hp hhead
  obtain ⟨front, mid, rfl, hfront, hmid, hsame⟩ :=
    exists_taken_between (hkeeps p) (follows_bind (.refl (rule p).state) hkeeps') hp hhead
  have hfirst := h p front (mid ++ left) hfront hsame
  rw [List.append_assoc]
  dsimp only
  rw [hfirst]
  exact bind_leaving hnext hmid hhead

theorem peeks_map {rule : Rule α} (f : α → β) (h : Peeks rule) : Peeks fun p => (rule p).map f := by
  intro p taken left hp hhead
  dsimp only at hp hhead ⊢
  rw [Outcome.state_map] at hp hhead
  rw [h p taken left hp hhead]
  rfl

/-! ### Chains of operands -/

section Chains

variable {operand : Rule Number}

theorem peeks_applyNext (h : Peeks operand) (hkeeps : Keeps operand) (op : Operator)
    (place : Placed) (lhs : Number) : Peeks (applyNext operand op place lhs) := by
  have hfold : ∀ rhs, Peeks fun p => p.fold lhs op rhs place := fun rhs => peeks_stay _ _
  have hkeepsFold : ∀ rhs, Keeps fun p => p.fold lhs op rhs place := fun rhs =>
    keeps_fold lhs op rhs place
  exact peeks_bind (peeks_eat _) (keeps_eat _)
    (fun _ => peeks_bind h hkeeps hfold hkeepsFold)
    fun _ p => follows_bind (hkeeps p) hkeepsFold

theorem operator?_congr (level : Precedence) {p q : Parser}
    (h : p.tokens.head? = q.tokens.head?) : p.operator? level = q.operator? level := by
  unfold operator?
  split
  · next found rest hp =>
    rw [hp] at h
    obtain ⟨rest', hq⟩ := List.head?_eq_some_iff.mp h.symm
    rw [hq]
  · next hp =>
    rw [hp, List.head?_nil, eq_comm, List.head?_eq_none_iff] at h
    rw [h]

/-- A chain goes on from an outcome with other tokens left as it does from the outcome itself. -/
theorem chainRest_leaving (h : Peeks operand) (hkeeps : Keeps operand) (level : Precedence)
    {o : Outcome Parser Number} {taken left : List Placed}
    (ho : o.state.tokens = taken ++ (chainRest level operand o).state.tokens)
    (hhead : left.head? = (chainRest level operand o).state.tokens.head?) :
    chainRest level operand (o.leaving (taken ++ left)) =
      (chainRest level operand o).leaving left := by
  induction hn : o.state.tokens.length using Nat.strongRecOn generalizing o taken with
  | _ n ih =>
    have hop : (o.leaving (taken ++ left)).state.operator? level = o.state.operator? level :=
      operator?_congr level ((head?_append_congr taken hhead).trans (congrArg List.head? ho.symm))
    rcases hresult : o.result with e | lhs
    · rw [chainRest_of_error hkeeps hresult] at ho ⊢
      obtain rfl : taken = [] := List.self_eq_append_left.mp ho
      exact chainRest_of_error hkeeps hresult
    · rcases hnext : o.state.operator? level with _ | ⟨op, place⟩
      · rw [chainRest_of_none hkeeps hnext] at ho ⊢
        obtain rfl : taken = [] := List.self_eq_append_left.mp ho
        exact chainRest_of_none hkeeps (hop.trans hnext)
      · have hgoes : chainRest level operand o =
            chainRest level operand (o.bind (applyNext operand op place)) := by
          rw [chainRest_eq hkeeps o, hresult, hnext]
        have hgoes' : chainRest level operand (o.leaving (taken ++ left)) =
            chainRest level operand
              ((o.leaving (taken ++ left)).bind (applyNext operand op place)) := by
          have hresult' : (o.leaving (taken ++ left)).result = .ok lhs := hresult
          rw [chainRest_eq hkeeps (o.leaving (taken ++ left)), hresult', hop, hnext]
        rw [hgoes] at ho hhead ⊢
        rw [hgoes']
        have hkeepsNext := fun lhs => keeps_applyNext hkeeps op place lhs
        obtain ⟨front, mid, rfl, hfront, hmid, hsame⟩ := exists_taken_between
          (follows_bind (.refl o.state) hkeepsNext) (follows_chainFrom hkeeps (.refl _)) ho hhead
        rw [List.append_assoc, bind_leaving (peeks_applyNext h hkeeps op place) hfront hsame]
        exact ih _ (hn ▸ length_bind_applyNext_lt hkeeps hresult hnext) hmid hhead rfl

theorem peeks_chain (h : Peeks operand) (hkeeps : Keeps operand) (level : Precedence) :
    Peeks (chain level operand) := by
  intro p taken left hp hhead
  rw [chain_eq] at hp hhead
  obtain ⟨front, mid, rfl, hfront, hmid, hsame⟩ :=
    exists_taken_between (hkeeps p) (follows_chainFrom hkeeps (.refl _)) hp hhead
  rw [chain_eq, chain_eq, List.append_assoc, h p front (mid ++ left) hfront hsame]
  exact chainRest_leaving h hkeeps level hmid hhead

end Chains

/-! ### Factors -/

section Factors

variable {inner : Rule Number}

theorem peeks_exprOf (h : Peeks inner) (hkeeps : Keeps inner) : Peeks (exprOf inner) :=
  peeks_chain (peeks_chain h hkeeps .product) (keeps_chain hkeeps) .sum

theorem peeks_nested {rule : Rule α} (h : Peeks rule) : Peeks (nested rule) := by
  intro p taken left hp hhead
  have hinside := h { p with depth := p.depth + 1 } taken left hp hhead
  unfold nested
  dsimp only at hinside ⊢
  rw [hinside]
  rfl

theorem peeks_groupOf (h : Peeks inner) (hkeeps : Keeps inner) : Peeks (groupOf inner) := by
  have hclose : ∀ value : Number, Peeks fun p => (p.eat .closeParen).map fun _ => value :=
    fun value => peeks_map _ (peeks_eat _)
  have hkeepsClose : ∀ value : Number, Keeps fun p => (p.eat .closeParen).map fun _ => value :=
    fun value p => follows_map _ (keeps_eat _ p)
  have hkeepsInside := keeps_nested (keeps_exprOf hkeeps)
  exact peeks_bind (peeks_eat _) (keeps_eat _)
    (fun _ => peeks_bind (peeks_nested (peeks_exprOf h hkeeps)) hkeepsInside hclose hkeepsClose)
    fun _ p => follows_bind (hkeepsInside p) hkeepsClose

theorem peeks_factorOf (h : Peeks inner) (hkeeps : Keeps inner) : Peeks (factorOf inner) := by
  refine peeks_of_head fun found => ?_
  rcases htoken : found.token with v | op | _ | _
  case number =>
    refine ⟨_, peeks_map (fun _ => v) (peeks_eat found.token.kind), fun p rest hp => ?_⟩
    simp only [factorOf, hp, htoken]
  case openParen =>
    refine ⟨_, peeks_depth maxDepth (peeks_stay (.error (.tooDeep maxDepth found)) #[])
      (peeks_groupOf h hkeeps), fun p rest hp => ?_⟩
    simp only [factorOf, hp, htoken, Outcome.fail]
  all_goals
    refine ⟨_, peeks_stay (.error (.unexpected Error.factorWanted found)) #[], fun p rest hp => ?_⟩
    simp only [factorOf, hp, htoken, Outcome.fail]

theorem peeks_factorWithin : ∀ levels, Peeks (factorWithin levels)
  | 0 => by
    intro p taken left hp hhead
    obtain rfl : taken = [] := List.self_eq_append_left.mp hp
    rfl
  | levels + 1 => peeks_factorOf (peeks_factorWithin levels) (keeps_factorWithin levels)

/-- The number of levels that a factor may have does not hang on the tokens. -/
theorem peeks_factor : Peeks factor := fun p => peeks_factorWithin _ p

end Factors

/-! ### Requests -/

theorem peeks_expr : Peeks expr := peeks_exprOf peeks_factor keeps_factor

theorem peeks_parse : Peeks parse := peeks_bind peeks_expr keeps_expr peeks_finish keeps_finish

theorem peeks_answer (request : Request) : Peeks fun p => p.answer request := by
  cases request with
  | parse => exact peeks_map some peeks_parse
  | expr => exact peeks_map some peeks_expr
  | term => exact peeks_map some (peeks_chain peeks_factor keeps_factor .product)
  | factor => exact peeks_map some peeks_factor
  | eat kind => exact peeks_map _ (peeks_eat kind)

/-- **One token of lookahead.** A request is answered on one list of tokens, and takes `taken` of
them. On every list that agrees with the first one as far as one token beyond these, where the end
of the tokens agrees with the end only, the same request has the same result, with the same events,
and takes the same tokens. -/
theorem answer_lookahead (p : Parser) (request : Request) {taken tokens : List Placed}
    (htaken : p.tokens = taken ++ (p.answer request).state.tokens)
    (hagree : tokens.take (taken.length + 1) = p.tokens.take (taken.length + 1)) :
    let other := { p with tokens }.answer request
    other.result = (p.answer request).result ∧ other.events = (p.answer request).events ∧
      tokens = taken ++ other.state.tokens := by
  intro other
  have hbegins : tokens.take taken.length = taken := by
    have h := congrArg (List.take taken.length) hagree
    rw [List.take_take, List.take_take, Nat.min_eq_left (Nat.le_succ _), htaken,
      List.take_left] at h
    exact h
  have htokens : tokens = taken ++ tokens.drop taken.length := by
    conv => lhs; rw [← List.take_append_drop taken.length tokens, hbegins]
  have hhead : (tokens.drop taken.length).head? = (p.answer request).state.tokens.head? := by
    have h := congrArg (fun list => list[taken.length]?) hagree
    have hlt : taken.length < taken.length + 1 := Nat.lt_succ_self _
    rw [List.getElem?_take_of_lt hlt, List.getElem?_take_of_lt hlt, htaken,
      List.getElem?_append_right (Nat.le_refl _), Nat.sub_self] at h
    rw [List.head?_drop, h, List.head?_eq_getElem?]
  have hother : other = (p.answer request).leaving (tokens.drop taken.length) := by
    have h := peeks_answer request p taken _ htaken hhead
    rw [← htokens] at h
    exact h
  rw [hother]
  exact ⟨rfl, rfl, htokens⟩

/-- Behind `1+2` a closing parenthesis is looked at, and not what follows it. -/
theorem answer_lookahead_closing :
    let eof := Source.position ⟨"<test>", "1+2)*4"⟩ 6
    let sum : List Placed :=
      [⟨.number (.integer 1), eof, eof⟩, ⟨.operator .add, eof, eof⟩,
        ⟨.number (.integer 2), eof, eof⟩]
    let closing : Placed := ⟨.closeParen, eof, eof⟩
    let p : Parser := { tokens := sum ++ [closing, ⟨.operator .mul, eof, eof⟩], eof }
    let q : Parser := { tokens := sum ++ [closing, closing], eof }
    p.tokens = sum ++ (p.answer .expr).state.tokens ∧ q.tokens.take 4 = p.tokens.take 4 ∧
      (q.answer .expr).result = .ok (some (.integer 3)) ∧
      q.tokens = sum ++ (q.answer .expr).state.tokens := by
  intro eof sum closing p q
  have htaken : p.tokens = sum ++ (p.answer .expr).state.tokens := rfl
  have hagree : q.tokens.take 4 = p.tokens.take 4 := rfl
  obtain ⟨hresult, -, hleft⟩ := answer_lookahead p .expr htaken hagree
  exact ⟨htaken, hagree, hresult, hleft⟩

end Parser

end Calculator
