import Calculator.Proofs.Parser.Faults
import Calculator.Proofs.Phrase.Whole

/-! # A phrase whose evaluation breaks

Where the evaluation of a phrase stops at an operator, the rule that reads the phrase fails at the
token of this operator and shows the values at hand (`Breaks.rule_result`). The induction is on the
way to the operator: a rule passes on what the rule for its first operand reports, and behind an
operator it has the value of the chain before it. -/

namespace Calculator.Parser

open Phrase

/-- The rule for a phrase reports the operator at which the evaluation of the phrase stops. -/
def Reports (kind : Phrase.Kind) (p : Parser) (taken : List Placed) (k : Nat) (l : Number)
    (op : Operator) (r : Number) (reason : Fault) : Prop :=
  ∃ place, taken[k]? = some place ∧ place.token = .operator op ∧
    (rule kind p).result = .error (.ofFault reason l op r place)

section Chain

variable {level : Precedence} {p : Parser} {taken more : List Placed} {k : Nat} {l r : Number}
  {o : Operator} {reason : Fault}

theorem Reports.chain (h : Reports level.operand p taken k l o r reason) :
    Reports (.chain level) p taken k l o r reason := by
  obtain ⟨place, hk, hplace, hresult⟩ := h
  refine ⟨place, hk, hplace, ?_⟩
  rw [rule_chain, chain_eq, chainRest_of_error (keeps_rule _) hresult]
  exact hresult

theorem Reports.append {kind : Phrase.Kind} (h : Reports kind p taken k l o r reason) :
    Reports kind p (taken ++ more) k l o r reason := by
  obtain ⟨place, hk, hplace, hresult⟩ := h
  have hlt : k < taken.length := (List.getElem?_eq_some_iff.mp hk).1
  exact ⟨place, by rw [List.getElem?_append_left hlt, hk], hplace, hresult⟩

theorem Reports.operand {lhs : Phrase (.chain level)} {before right rest : List Placed}
    {place : Placed} {op : Operator} {v : Number}
    (hp : p.tokens = before ++ place :: (right ++ rest))
    (ht : before.map Placed.token = lhs.tokens) (hd : lhs.depth + p.depth ≤ maxDepth)
    (hplace : place.token = .operator op) (fits : op.precedence = level) (hv : lhs.value = .ok v)
    (h : Reports level.operand ⟨right ++ rest, p.eof, p.depth⟩ right k l o r reason) :
    Reports (.chain level) p (before ++ place :: right) (before.length + 1 + k) l o r reason := by
  obtain ⟨found, hk, hfound, hresult⟩ := h
  obtain ⟨sofar, ho, hfollows, hy⟩ := exists_goOn lhs hp ht hd hplace fits
  rw [hv] at hy
  obtain ⟨hok, htokens⟩ := hy
  rw [← hfollows.skip_eq htokens] at hresult
  obtain ⟨hbind, -⟩ := bind_applyNext_of_error op hok htokens hresult
  refine ⟨found, ?_, hfound, by rw [ho, goOn_of_error hbind, hbind]⟩
  rw [Nat.add_assoc, Nat.add_comm 1 k, List.getElem?_append_right (Nat.le_add_right _ _),
    Nat.add_sub_cancel_left, List.getElem?_cons_succ, hk]

/-- A chain reports the operator that has no result on its value and the operand behind it. -/
theorem reports_here {lhs : Phrase (.chain level)} {rhs : Phrase level.operand}
    {before right rest : List Placed} {place : Placed} {op : Operator}
    (hp : p.tokens = before ++ place :: (right ++ rest))
    (ht : before.map Placed.token = lhs.tokens) (hright : right.map Placed.token = rhs.tokens)
    (hd : lhs.depth + p.depth ≤ maxDepth) (hroom : rhs.depth + p.depth ≤ maxDepth)
    (hplace : place.token = .operator op) (fits : op.precedence = level)
    (hs : Stops level.operand rest) (hl : lhs.value = .ok l) (hr : rhs.value = .ok r)
    (hreason : l.apply op r = .error reason) :
    Reports (.chain level) p (before ++ place :: right) before.length l op r reason := by
  have hbehind : (⟨right ++ rest, p.eof, p.depth⟩ : Parser).tokens = right ++ rest := rfl
  have hreads := rule_reads rhs hbehind hright hroom hs
  rw [hr] at hreads
  exact ⟨place, getElem?_of_eq rfl, hplace,
    chain_of_fault hp ht hd hplace fits hl hreads.1 hreason⟩

end Chain

theorem Reports.group {p : Parser} {found close : Placed} {inside rest : List Placed} {k : Nat}
    {l r : Number} {o : Operator} {reason : Fault}
    (hp : p.tokens = found :: (inside ++ close :: rest)) (hopen : found.token = .openParen)
    (hd : p.depth < maxDepth)
    (h : Reports .expr (p.inside (inside ++ close :: rest)) inside k l o r reason) :
    Reports .factor p (found :: (inside ++ [close])) (k + 1) l o r reason := by
  obtain ⟨place, hk, hplace, hresult⟩ := h
  have hlt : k < inside.length := (List.getElem?_eq_some_iff.mp hk).1
  refine ⟨place, ?_, hplace, (factor_of_inner_error hp hopen hd hresult).1⟩
  rw [List.getElem?_cons_succ, List.getElem?_append_left hlt, hk]

/-- **A rule reports where the evaluation of its phrase breaks.** -/
theorem Breaks.rule_result {kind : Phrase.Kind} {phrase : Phrase kind} {k : Nat} {l r : Number}
    {op : Operator} {reason : Fault} (h : phrase.Breaks k l op r reason) :
    ∀ {p : Parser} {taken rest : List Placed}, p.tokens = taken ++ rest →
      taken.map Placed.token = phrase.tokens → phrase.depth + p.depth ≤ maxDepth →
        Stops kind.inner rest → Reports kind p taken k l op r reason := by
  induction h with
  | @here level lhs op fits rhs l r reason hl hr hreason =>
    intro p taken rest hp ht hd hs
    rw [depth_apply] at hd
    obtain ⟨before, behind, rfl, hbefore, hbehind⟩ := List.map_eq_append_iff.mp ht
    obtain ⟨place, right, rfl, hplace, hright⟩ := List.map_eq_cons_iff.mp hbehind
    rw [← hbefore, List.length_map]
    exact reports_here (by rw [hp]; simp) hbefore hright (by omega) (by omega) hplace fits hs hl hr
      hreason
  | @left level lhs op o fits rhs k l r reason _ ih =>
    intro p taken rest hp ht hd hs
    rw [depth_apply] at hd
    obtain ⟨before, behind, rfl, hbefore, hbehind⟩ := List.map_eq_append_iff.mp ht
    obtain ⟨place, right, rfl, hplace, hright⟩ := List.map_eq_cons_iff.mp hbehind
    have hp' : p.tokens = before ++ place :: (right ++ rest) := by rw [hp]; simp
    exact (ih hp' hbefore (by omega) (stops_operator hplace fits _)).append
  | @right level lhs op o fits rhs k v l r reason hv _ ih =>
    intro p taken rest hp ht hd hs
    rw [depth_apply] at hd
    obtain ⟨before, behind, rfl, hbefore, hbehind⟩ := List.map_eq_append_iff.mp ht
    obtain ⟨place, right, rfl, hplace, hright⟩ := List.map_eq_cons_iff.mp hbehind
    have hp' : p.tokens = before ++ place :: (right ++ rest) := by rw [hp]; simp
    have hroom : rhs.depth + p.depth ≤ maxDepth := by omega
    rw [← hbefore, List.length_map]
    refine Reports.operand hp' hbefore (by omega) hplace fits hv ?_
    exact ih (p := ⟨right ++ rest, p.eof, p.depth⟩) rfl hright hroom hs.inner
  | single _ ih =>
    intro p taken rest hp ht hd hs
    exact (ih hp ht hd hs.inner).chain
  | @group inner k l r o reason _ ih =>
    intro p taken rest hp ht hd _
    rw [depth_group] at hd
    obtain ⟨found, more, rfl, hopen, hmore⟩ := List.map_eq_cons_iff.mp ht
    obtain ⟨inside, last, rfl, hinside, hlast⟩ := List.map_eq_append_iff.mp hmore
    obtain ⟨close, rfl, hclose⟩ := List.map_eq_singleton_iff.mp hlast
    have hp' : p.tokens = found :: (inside ++ close :: rest) := by rw [hp]; simp
    refine Reports.group hp' hopen (by omega) (ih rfl hinside ?_ ?_)
    · change inner.depth + (p.depth + 1) ≤ maxDepth
      omega
    · exact (stops_closeParen hclose _ rest).inner

theorem Breaks.parse_result {phrase : Phrase .expr} {k : Nat} {l r : Number} {op : Operator}
    {reason : Fault} (h : phrase.Breaks k l op r reason) {tokens : List Placed} (eof : Position)
    (ht : phrase.tokens = tokens.map Placed.token) (hd : phrase.depth ≤ maxDepth) :
    ∃ place, tokens[k]? = some place ∧ place.token = .operator op ∧
      (parse { tokens, eof }).result = .error (.ofFault reason l op r place) := by
  have hall : ({ tokens, eof } : Parser).tokens = tokens ++ [] := (List.append_nil _).symm
  obtain ⟨place, hk, hplace, hresult⟩ := Breaks.rule_result h hall ht.symm hd (stops_nil _)
  exact ⟨place, hk, hplace, parse_of_error hresult⟩

theorem parse_of_value {phrase : Phrase .expr} {v : Number} (h : phrase.value = .ok v)
    {tokens : List Placed} (eof : Position) (ht : phrase.tokens = tokens.map Placed.token)
    (hd : phrase.depth ≤ maxDepth) : (parse { tokens, eof }).result = .ok v := by
  have hall : ({ tokens, eof } : Parser).tokens = tokens ++ [] := (List.append_nil _).symm
  have hreads := rule_reads phrase hall ht.symm hd (stops_nil _)
  rw [h] at hreads
  exact parse_of_nil hreads.1 hreads.2

end Calculator.Parser
