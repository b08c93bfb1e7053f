import Calculator.Proofs.Parser.Acceptance
import Mathlib.Data.Nat.Find
import Mathlib.Tactic.Tauto

/-! # Operators without a result

An operator is at fault (`Faulting`) if the tokens up to it begin a sentence, the chain before it
has a value, the rule for its right operand gives one, and the operator has no result on the two.
Parsing fails for an operator exactly if some operator is at fault, and reports the first one
(`parse_arithmetic_error_iff`), whatever follows behind its right operand.

* `exists_ofFault`: the operator reported is at fault, and the parser has read beyond it;
* `FailsBy.of_reaches`: a rule that a phrase reaches passes its failure on, unless the parser has
  failed for an operator before it comes there. -/

namespace Calculator.Parser

/-- The operator at the index is at fault: between the values `lhs`, of the chain that ends before
it, and `rhs`, of the operand that the rule finds behind it, it has no result. -/
structure Faulting (tokens : List Placed) (eof : Position) (k : Nat) (lhs : Number)
    (op : Operator) (rhs : Number) (reason : Fault) : Prop where
  operator : (tokens.map Placed.token)[k]? = some (.operator op)
  viable : Viable maxDepth ((tokens.map Placed.token).take (k + 1))
  left : ∃ (before : List Token) (chain : Phrase (.chain op.precedence)),
    (tokens.map Placed.token).take k = before ++ chain.tokens ∧ Opens op.precedence before ∧
      chain.value = .ok lhs
  right : (rule op.precedence.operand ⟨tokens.drop (k + 1), eof,
    unclosed ((tokens.map Placed.token).take k)⟩).result = .ok rhs
  fault : lhs.apply op rhs = .error reason

/-- Some operator at the index is at fault. -/
def FaultsAt (tokens : List Placed) (eof : Position) (k : Nat) : Prop :=
  ∃ lhs op rhs reason, Faulting tokens eof k lhs op rhs reason

variable {tokens : List Placed} {eof : Position}

theorem drop_of_eq {before rest : List Placed} {found : Placed}
    (h : tokens = before ++ found :: rest) : tokens.drop (before.length + 1) = rest := by
  rw [h, ← List.singleton_append, ← List.append_assoc, List.drop_left' (by simp)]

/-! ### The operator reported is at fault -/

/-- A failure for an operator is the error of one that is at fault, with no more tokens left than
behind it. -/
theorem Fails.exists_ofFault {e : Error} {left : List Placed}
    (h : Fails .expr { tokens, eof } e left) (he : e.kind.IsArithmetic) :
    ∃ (k : Nat) (place : Placed) (lhs : Number) (op : Operator) (rhs : Number) (reason : Fault),
      Faulting tokens eof k lhs op rhs reason ∧ tokens[k]? = some place ∧
        e = .ofFault reason lhs op rhs place ∧ left.length + k < tokens.length := by
  obtain ⟨taken, more, inner, d, htokens, hreach, hblocked⟩ := h
  replace htokens : tokens = taken ++ more := htokens
  cases hblocked with
  | ended => exact he.elim
  | unexpected => exact he.elim
  | tooDeep => exact he.elim
  | unclosed => exact he.elim
  | misclosed => exact he.elim
  | @fault level _ chain right place lhs l r op reason ht room hl hplace fits hr hreason =>
    subst fits
    rw [← List.append_assoc] at htokens
    have hword : (taken ++ chain).map Placed.token = taken.map Placed.token ++ lhs.tokens := by
      rw [List.map_append, ht]
    have hrun : (Stage.before 0).run? maxDepth ((taken ++ chain).map Placed.token) =
        some (.behind d) := by
      rw [hword, Stage.run?_append_of_some hreach.run?, Stage.run?_tokens lhs room]
    refine ⟨(taken ++ chain).length, place, l, op, r, reason, ⟨?_, ?_, ?_, ?_, hreason⟩,
      getElem?_of_eq htokens, rfl, ?_⟩
    · rw [List.getElem?_map, getElem?_of_eq htokens, Option.map_some, hplace]
    · rw [take_succ_of_eq htokens, hword, hplace, List.append_assoc]
      exact hreach.viable_operator lhs room rfl
    · rw [take_of_eq htokens, hword]
      exact ⟨_, lhs, rfl, hreach.opens, hl⟩
    · rw [take_of_eq htokens, drop_of_eq htokens, unclosed_eq_depth hrun]
      exact hr
    · have hle := (keeps_rule op.precedence.operand ⟨right, eof, d⟩).tokens.length_le
      replace hle : (rule op.precedence.operand ⟨right, eof, d⟩).state.tokens.length ≤
        right.length := hle
      have hlength : tokens.length = (taken ++ chain).length + (right.length + 1) := by
        rw [htokens, List.length_append, List.length_cons]
      change (rule op.precedence.operand ⟨right, eof, d⟩).state.tokens.length + _ < _
      omega

theorem exists_ofFault {e : Error} (h : (expr { tokens, eof }).result = .error e)
    (he : e.kind.IsArithmetic) :
    ∃ (k : Nat) (place : Placed) (lhs : Number) (op : Operator) (rhs : Number) (reason : Fault),
      Faulting tokens eof k lhs op rhs reason ∧ tokens[k]? = some place ∧
        e = .ofFault reason lhs op rhs place ∧
          (expr { tokens, eof }).state.tokens.length + k < tokens.length := by
  have hexplained := rule_explained .expr (p := { tokens, eof }) (Nat.zero_le _)
  exact ((explained_error (o := expr _) h).mp hexplained).exists_ofFault he

theorem exists_faulting {e : Error} (h : (expr { tokens, eof }).result = .error e)
    (he : e.kind.IsArithmetic) :
    ∃ k, FaultsAt tokens eof k ∧
      (expr { tokens, eof }).state.tokens.length + k < tokens.length := by
  obtain ⟨k, -, lhs, op, rhs, reason, hk, -, -, hlt⟩ := exists_ofFault h he
  exact ⟨k, ⟨lhs, op, rhs, reason, hk⟩, hlt⟩

/-! ### An operator at fault is reported -/

/-- The outcome is the error, or one of an operator before the tokens `more` were touched. -/
def FailsBy (e : Error) (more : List Placed) (o : Outcome Parser Number) : Prop :=
  o.result = .error e ∨
    ((∃ e', o.result = .error e' ∧ e'.kind.IsArithmetic) ∧ more <:+ o.state.tokens)

theorem FailsBy.exists_error {e : Error} {more : List Placed} {o : Outcome Parser Number}
    (h : FailsBy e more o) : ∃ e', o.result = .error e' := by
  rcases h with h | ⟨⟨e', h, -⟩, -⟩
  · exact ⟨e, h⟩
  · exact ⟨e', h⟩

theorem FailsBy.of_eq {e : Error} {more : List Placed} {o o' : Outcome Parser Number}
    (h : FailsBy e more o) (hresult : o'.result = o.result)
    (hstate : o'.state.tokens = o.state.tokens) : FailsBy e more o' := by
  unfold FailsBy
  rw [hresult, hstate]
  exact h

theorem FailsBy.chain {level : Precedence} {p : Parser} {e : Error} {more : List Placed}
    (h : FailsBy e more (rule level.operand p)) : FailsBy e more (rule (.chain level) p) := by
  obtain ⟨e', he'⟩ := h.exists_error
  rw [rule_chain, chain_eq, chainRest_of_error (keeps_rule _) he']
  exact h

theorem FailsBy.group {p : Parser} {found : Placed} {rest : List Placed}
    (hp : p.tokens = found :: rest) (hopen : found.token = .openParen) (hd : p.depth < maxDepth)
    {e : Error} {more : List Placed} (h : FailsBy e more (expr (p.inside rest))) :
    FailsBy e more (factor p) := by
  obtain ⟨e', he'⟩ := h.exists_error
  obtain ⟨hresult, hstate⟩ := factor_of_inner_error hp hopen hd he'
  exact h.of_eq (hresult.trans he'.symm) (by rw [hstate])

theorem exists_goOn {level : Precedence} (lhs : Phrase (.chain level)) {p : Parser}
    {taken right : List Placed} {place : Placed} {op : Operator}
    (hp : p.tokens = taken ++ place :: right) (ht : taken.map Placed.token = lhs.tokens)
    (hd : lhs.depth + p.depth ≤ maxDepth) (hplace : place.token = .operator op)
    (fits : op.precedence = level) :
    ∃ o, rule (.chain level) p =
        goOn (.chain level) (o.bind (applyNext (rule level.operand) op place)) ∧
      Follows p o.state ∧ Yields lhs.value (place :: right) o := by
  obtain ⟨o, ho, hfollows, hy⟩ := exists_reads lhs hp ht hd (stops_operator hplace fits right)
  exact ⟨o, ho.trans (hy.goOn_bind hplace fits), hfollows, hy⟩

/-- A chain fails with the operand behind an operator, or with an operator before. -/
theorem FailsBy.operand {level : Precedence} {lhs : Phrase (.chain level)} {p : Parser}
    {taken right : List Placed} {place : Placed} {op : Operator}
    (hp : p.tokens = taken ++ place :: right) (ht : taken.map Placed.token = lhs.tokens)
    (hd : lhs.depth + p.depth ≤ maxDepth) (hplace : place.token = .operator op)
    (fits : op.precedence = level) {e : Error} {more : List Placed} (hmore : more <:+ right)
    (h : FailsBy e more (rule level.operand ⟨right, p.eof, p.depth⟩)) :
    FailsBy e more (rule (.chain level) p) := by
  obtain ⟨o, ho, hfollows, hy⟩ := exists_goOn lhs hp ht hd hplace fits
  rw [ho]
  rcases hl : lhs.value with fault | l
  · rw [hl] at hy
    obtain ⟨⟨e', he', hkind⟩, hsuffix⟩ := hy
    have hbind := Outcome.result_bind_of_error he' (applyNext (rule level.operand) op place)
    rw [goOn_of_error hbind]
    refine Or.inr ⟨⟨e', hbind, hkind⟩, ?_⟩
    rw [Outcome.state_bind_of_error he']
    exact (hmore.trans (List.suffix_cons _ _)).trans hsuffix
  · rw [hl] at hy
    obtain ⟨hok, htokens⟩ := hy
    rw [← hfollows.skip_eq htokens] at h
    obtain ⟨e', he'⟩ := h.exists_error
    obtain ⟨hresult, hstate⟩ := bind_applyNext_of_error op hok htokens he'
    rw [goOn_of_error hresult]
    exact h.of_eq (hresult.trans he'.symm) (by rw [hstate])

/-- **A failure is passed on** by every rule on the way to where it happens, unless the parser has
failed for an operator before. -/
theorem FailsBy.of_reaches {kind inner : Phrase.Kind} {d f : Nat} {word : List Token}
    (hreach : Phrase.Reaches maxDepth kind d word inner f) : ∀ {taken right more : List Placed}
    {e : Error}, taken.map Placed.token = word → more <:+ right →
      FailsBy e more (rule inner ⟨right, eof, f⟩) →
        FailsBy e more (rule kind ⟨taken ++ right, eof, d⟩) := by
  induction hreach with
  | here =>
    intro taken right more e ht _ h
    rw [List.map_eq_nil_iff.mp ht]
    exact h
  | head _ ih =>
    intro taken right more e ht hmore h
    exact ih ht hmore h.chain
  | @operand word level f _ lhs room op fits ih =>
    intro taken right more e ht hmore h
    obtain ⟨before, behind, rfl, hbefore, hbehind⟩ := List.map_eq_append_iff.mp ht
    obtain ⟨chain, last, rfl, hchain, hlast⟩ := List.map_eq_append_iff.mp hbehind
    obtain ⟨place, rfl, hplace⟩ := List.map_eq_singleton_iff.mp hlast
    rw [List.append_assoc, List.append_assoc, List.singleton_append]
    refine ih hbefore (hmore.trans ⟨chain ++ [place], by simp⟩) ?_
    exact FailsBy.operand (p := ⟨chain ++ place :: right, eof, f⟩) rfl hchain room hplace fits
      hmore h
  | @inside word f _ room ih =>
    intro taken right more e ht hmore h
    obtain ⟨before, last, rfl, hbefore, hlast⟩ := List.map_eq_append_iff.mp ht
    obtain ⟨found, rfl, hopen⟩ := List.map_eq_singleton_iff.mp hlast
    rw [List.append_assoc, List.singleton_append]
    refine ih hbefore (hmore.trans (List.suffix_cons _ _)) ?_
    exact FailsBy.group (p := ⟨found :: right, eof, f⟩) rfl hopen room h

/-- A chain fails for an operator that is at fault behind its first part. -/
theorem chain_of_fault {level : Precedence} {lhs : Phrase (.chain level)} {p : Parser}
    {taken right : List Placed} {place : Placed} {op : Operator} {l r : Number} {reason : Fault}
    (hp : p.tokens = taken ++ place :: right) (ht : taken.map Placed.token = lhs.tokens)
    (hd : lhs.depth + p.depth ≤ maxDepth) (hplace : place.token = .operator op)
    (fits : op.precedence = level) (hl : lhs.value = .ok l)
    (hr : (rule level.operand ⟨right, p.eof, p.depth⟩).result = .ok r)
    (hreason : l.apply op r = .error reason) :
    (rule (.chain level) p).result = .error (.ofFault reason l op r place) := by
  obtain ⟨o, ho, hfollows, hy⟩ := exists_goOn lhs hp ht hd hplace fits
  rw [hl] at hy
  obtain ⟨hok, htokens⟩ := hy
  rw [← hfollows.skip_eq htokens] at hr
  obtain ⟨hresult, -⟩ := bind_applyNext_of_ok op hok htokens hr
  rw [hreason] at hresult
  rw [ho, goOn_of_error hresult]
  exact hresult

theorem Faulting.failsBy {k : Nat} {lhs rhs : Number} {op : Operator} {reason : Fault}
    (h : Faulting tokens eof k lhs op rhs reason) {place : Placed} (hk : tokens[k]? = some place) :
    FailsBy (.ofFault reason lhs op rhs place) (tokens.drop k) (expr { tokens, eof }) := by
  obtain ⟨hop, hviable, ⟨before, chain, htake, hopens, hvalue⟩, hright, hreason⟩ := h
  obtain ⟨hlt, hget⟩ := List.getElem?_eq_some_iff.mp hk
  have hplace : place.token = .operator op := by
    rw [List.getElem?_map, hk] at hop
    exact Option.some.inj hop
  have hrest : tokens.drop k = place :: tokens.drop (k + 1) := by
    rw [List.drop_eq_getElem_cons hlt, hget]
  have hsplit : tokens = tokens.take k ++ place :: tokens.drop (k + 1) := by
    rw [← hrest, List.take_append_drop]
  have hlength : (tokens.take k).length = k := List.length_take_of_le (Nat.le_of_lt hlt)
  have hsucc := take_succ_of_eq hsplit
  rw [hlength, List.map_take, hplace] at hsucc
  -- the sentence that the tokens begin reaches the chain that ends before the operator
  obtain ⟨rest, phrase, hphrase, hdepth⟩ := hviable
  rw [hsucc, List.append_assoc, List.singleton_append] at hphrase
  obtain ⟨word, f, chain', hreach, room, hleft⟩ :=
    Phrase.exists_reaches phrase (d := 0) hdepth hphrase
  obtain ⟨rfl, rfl⟩ := hreach.opens.unique hopens (hleft.symm.trans htake)
  have hrun : (Stage.before 0).run? maxDepth ((tokens.map Placed.token).take k) =
      some (.behind f) := by
    rw [htake, Stage.run?_append_of_some hreach.run?, Stage.run?_tokens chain' room]
  rw [unclosed_eq_depth hrun] at hright
  rw [← List.map_take] at htake
  obtain ⟨outer, taken, houter, hbefore, htaken⟩ := List.map_eq_append_iff.mp htake
  rw [houter, List.append_assoc] at hsplit
  have hchain := chain_of_fault (p := ⟨taken ++ place :: tokens.drop (k + 1), eof, f⟩) rfl htaken
    room hplace rfl hvalue hright hreason
  have hfails : FailsBy (.ofFault reason lhs op rhs place) (tokens.drop k)
      (rule (.chain op.precedence) ⟨taken ++ place :: tokens.drop (k + 1), eof, f⟩) := Or.inl hchain
  have hdrop : tokens.drop k <:+ taken ++ place :: tokens.drop (k + 1) := by
    rw [hrest]
    exact List.suffix_append _ _
  have hall := FailsBy.of_reaches hreach hbefore hdrop hfails
  rw [← hsplit] at hall
  exact hall

/-! ### The first operator at fault -/

/-- The first operator at fault is the one that is reported. -/
theorem Faulting.parse_eq {k : Nat} {lhs rhs : Number} {op : Operator} {reason : Fault}
    (h : Faulting tokens eof k lhs op rhs reason) (hfirst : ∀ j < k, ¬ FaultsAt tokens eof j)
    {place : Placed} (hk : tokens[k]? = some place) :
    (parse { tokens, eof }).result = .error (.ofFault reason lhs op rhs place) := by
  rcases h.failsBy hk with hresult | ⟨⟨e, hresult, he⟩, hsuffix⟩
  · exact parse_of_error hresult
  · obtain ⟨j, hj, hlt⟩ := exists_faulting hresult he
    have hle := hsuffix.length_le
    rw [List.length_drop] at hle
    exact (hfirst j (by omega) hj).elim

theorem FaultsAt.exists_place {k : Nat} (h : FaultsAt tokens eof k) :
    ∃ place, tokens[k]? = some place := by
  obtain ⟨lhs, op, rhs, reason, h⟩ := h
  have hop := h.operator
  rw [List.getElem?_map, Option.map_eq_some_iff] at hop
  obtain ⟨place, hk, -⟩ := hop
  exact ⟨place, hk⟩

theorem eq_ofFault_iff {e : Error} {lhs rhs : Number} {op : Operator} {reason : Fault}
    {place : Placed} :
    e = .ofFault reason lhs op rhs place ↔ e.start = place.start ∧ e.stop = place.stop ∧
      match reason with
      | .divisionByZero => e.kind = .divisionByZero ∧
        e.details = lhs.text ++ " " ++ op.text ++ " " ++ rhs.text
      | .overflow => e.kind = .overflow ∧
        e.details = lhs.text ++ " " ++ op.text ++ " " ++ rhs.text ++
          " does not fit in a number" := by
  rcases e with ⟨kind, start, stop, details⟩
  cases reason
  · simp only [Error.ofFault, Error.mk.injEq]
    tauto
  · simp only [Error.ofFault, Error.mk.injEq]
    tauto

theorem expr_of_parse_error {p : Parser} {e : Error} (h : (parse p).result = .error e)
    (he : e.kind.IsArithmetic) : (expr p).result = .error e := by
  rcases hr : (expr p).result with e' | v
  · rw [parse_of_error hr] at h
    exact h
  · rcases ht : (expr p).state.tokens with _ | ⟨found, rest⟩
    · rw [parse_of_nil hr ht] at h
      cases h
    · rw [parse_of_cons hr ht] at h
      cases h
      exact he.elim

/-- **Which operator is reported.** Parsing fails for an operator exactly if one is at fault; the
error then stands at the first such operator, with the kind of its fault, and shows its two
values. -/
theorem parse_arithmetic_error_iff (tokens : List Placed) (eof : Position) :
    ((∃ e, (parse { tokens, eof }).result = .error e ∧ e.kind.IsArithmetic) ↔
      ∃ k, FaultsAt tokens eof k) ∧
    ∀ e, ((parse { tokens, eof }).result = .error e ∧ e.kind.IsArithmetic ↔
      ∃ (k : Nat) (place : Placed) (lhs : Number) (op : Operator) (rhs : Number) (reason : Fault),
        Faulting tokens eof k lhs op rhs reason ∧ (∀ j < k, ¬ FaultsAt tokens eof j) ∧
        tokens[k]? = some place ∧ e.start = place.start ∧ e.stop = place.stop ∧
        match reason with
        | .divisionByZero => e.kind = .divisionByZero ∧
          e.details = lhs.text ++ " " ++ op.text ++ " " ++ rhs.text
        | .overflow => e.kind = .overflow ∧
          e.details = lhs.text ++ " " ++ op.text ++ " " ++ rhs.text ++
            " does not fit in a number") := by
  have hsound : ∀ {e}, (parse { tokens, eof }).result = .error e → e.kind.IsArithmetic →
      ∃ k, FaultsAt tokens eof k := fun h he => by
    obtain ⟨k, hk, -⟩ := exists_faulting (expr_of_parse_error h he) he
    exact ⟨k, hk⟩
  refine ⟨⟨fun ⟨e, h, he⟩ => hsound h he, ?_⟩, fun e => ⟨?_, ?_⟩⟩
  · rintro ⟨k, hk⟩
    obtain ⟨place, hplace⟩ := hk.exists_place
    obtain ⟨lhs, op, rhs, reason, hk⟩ := hk
    rcases hk.failsBy hplace with h | ⟨⟨e, h, he⟩, -⟩
    · exact ⟨_, parse_of_error h, Error.isArithmetic_ofFault _ _ _ _ _⟩
    · exact ⟨e, parse_of_error h, he⟩
  · rintro ⟨h, he⟩
    classical
    have hex := hsound h he
    obtain ⟨place, hplace⟩ := (Nat.find_spec hex).exists_place
    obtain ⟨lhs, op, rhs, reason, hk⟩ := Nat.find_spec hex
    have hfirst : ∀ j < Nat.find hex, ¬ FaultsAt tokens eof j := fun j hj => Nat.find_min hex hj
    have heq := hk.parse_eq hfirst hplace
    rw [h] at heq
    exact ⟨Nat.find hex, place, lhs, op, rhs, reason, hk, hfirst, hplace,
      eq_ofFault_iff.mp (Except.error.inj heq)⟩
  · rintro ⟨k, place, lhs, op, rhs, reason, hk, hfirst, hplace, he⟩
    obtain rfl := eq_ofFault_iff.mpr he
    exact ⟨hk.parse_eq hfirst hplace, Error.isArithmetic_ofFault _ _ _ _ _⟩

end Calculator.Parser
