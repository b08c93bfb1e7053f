import Calculator.Proofs.Parser.Acceptance
import Calculator.Proofs.Phrase.Nesting

/-! # Two runs side by side

Two lists of tokens are `Parallel` if they are the same up to the places of their tokens, or if in
some places expressions in parentheses stand for one another that have the same value and are within
the limit there. On such lists the parser gives the same value, or it fails with the same kind and
details, at tokens whose spans are related as those of the lists are (`parse_parallel`).

The proof leads both parsers along together. A rule that takes a token meets the matching token in
the other run with as many parentheses open, and one that takes an expression in parentheses takes
the other one whole (`factor_of_closes`). The induction is that of the rules: on the number of
tokens that are left, from factors through terms to expressions. -/

namespace Calculator

/-- A relation between two spans, each a start and a stop. -/
abbrev SpanRelation : Type := Position × Position → Position × Position → Prop

/-- The two tokens differ in their spans only, and these are related. -/
structure Placed.Matches (R : SpanRelation) (s t : Placed) : Prop where
  token : s.token = t.token
  span : R (s.start, s.stop) (t.start, t.stop)

/-- The two errors differ in their spans only, and these are related. -/
structure Error.Matches (R : SpanRelation) (d e : Error) : Prop where
  kind : d.kind = e.kind
  details : d.details = e.details
  span : R (d.start, d.stop) (e.start, e.stop)

section Matches

variable {R : SpanRelation} {s t : Placed}

theorem Placed.Matches.unexpected (h : s.Matches R t) (wanted : String) :
    (Error.unexpected wanted s).Matches R (.unexpected wanted t) :=
  ⟨rfl, by simp only [Error.unexpected, h.token], h.span⟩

theorem Placed.Matches.trailing (h : s.Matches R t) :
    (Error.trailing s).Matches R (.trailing t) :=
  ⟨rfl, by simp only [Error.trailing, h.token], h.span⟩

theorem Placed.Matches.tooDeep (h : s.Matches R t) (limit : Nat) :
    (Error.tooDeep limit s).Matches R (.tooDeep limit t) := ⟨rfl, rfl, h.span⟩

theorem Placed.Matches.ofFault (h : s.Matches R t) (fault : Fault) (lhs : Number)
    (op : Operator) (rhs : Number) :
    (Error.ofFault fault lhs op rhs s).Matches R (.ofFault fault lhs op rhs t) := by
  cases fault <;> exact ⟨rfl, rfl, h.span⟩

theorem Error.matches_ended {eof eof' : Position} (h : R (eof, eof) (eof', eof'))
    (wanted : String) : (Error.ended wanted eof).Matches R (.ended wanted eof') := ⟨rfl, rfl, h⟩

end Matches

namespace Parser

/-- Behind an opening parenthesis with `d` open before it the tokens close it around an expression
with the value `v`. -/
def Closes (d : Nat) (v : Number) (tokens rest : List Placed) : Prop :=
  ∃ (inner : Phrase .expr) (taken : List Placed) (close : Placed), tokens = taken ++ close :: rest ∧
    taken.map Placed.token = inner.tokens ∧ close.token = .closeParen ∧
      inner.depth + (d + 1) ≤ maxDepth ∧ inner.value = .ok v

/-- Behind `d` open parentheses the two lists match token by token, up to expressions in parentheses
with the same value. -/
inductive Parallel (R : SpanRelation) : (d : Nat) → (left right : List Placed) → Prop
  | nil {d : Nat} : Parallel R d [] []
  | cons {d : Nat} {s t : Placed} {left right : List Placed} (hmatch : s.Matches R t)
    (hrest : Parallel R (Paren.unclosed d (Paren.ofToken? s.token).toList) left right) :
    Parallel R d (s :: left) (t :: right)
  | group {d : Nat} {s t : Placed} {v : Number} {left right rest rest' : List Placed}
    (hmatch : s.Matches R t) (hopen : s.token = .openParen) (hleft : Closes d v left rest)
    (hright : Closes d v right rest') (hrest : Parallel R d rest rest') :
    Parallel R d (s :: left) (t :: right)

variable {R : SpanRelation}

/-- The two parsers have parallel tokens left. -/
structure Abreast (R : SpanRelation) (p q : Parser) : Prop where
  depth : q.depth = p.depth
  eof : R (p.eof, p.eof) (q.eof, q.eof)
  tokens : Parallel R p.depth p.tokens q.tokens

/-- The two outcomes are the same value with parallel tokens behind it, or errors that match. -/
inductive Together (R : SpanRelation) (d : Nat) (o o' : Outcome Parser Number) : Prop
  | value {v : Number} (h : o.result = .ok v) (h' : o'.result = .ok v)
    (hrest : Parallel R d o.state.tokens o'.state.tokens)
  | failure {e e' : Error} (h : o.result = .error e) (h' : o'.result = .error e')
    (hmatch : e.Matches R e')

theorem Parallel.cases_head {d : Nat} {left right : List Placed} (h : Parallel R d left right) :
    (left = [] ∧ right = []) ∨
      ∃ s t more more', left = s :: more ∧ right = t :: more' ∧ s.Matches R t ∧
        (s.token ≠ .openParen →
          Parallel R (Paren.unclosed d (Paren.ofToken? s.token).toList) more more') := by
  cases h with
  | nil => exact Or.inl ⟨rfl, rfl⟩
  | cons hmatch hrest => exact Or.inr ⟨_, _, _, _, rfl, rfl, hmatch, fun _ => hrest⟩
  | group hmatch hopen _ _ _ =>
    exact Or.inr ⟨_, _, _, _, rfl, rfl, hmatch, fun hne => absurd hopen hne⟩

theorem Parallel.of_plain {d : Nat} {token : Token} {left right : List Placed}
    (h : Parallel R (Paren.unclosed d (Paren.ofToken? token).toList) left right)
    (htoken : Paren.ofToken? token = none) : Parallel R d left right := by
  rw [htoken] at h
  exact h

/-! ### Parallel lists -/

theorem Parallel.append {d : Nat} {front front' left right : List Placed}
    (hfront : List.Forall₂ (Placed.Matches R) front front')
    (h : Parallel R (Paren.unclosed d ((front.map Placed.token).filterMap Paren.ofToken?)) left
      right) : Parallel R d (front ++ left) (front' ++ right) := by
  induction hfront generalizing d with
  | nil => exact h
  | @cons s t front front' hmatch _ ih =>
    refine .cons hmatch (ih ?_)
    rw [List.map_cons, List.filterMap_cons] at h
    cases hs : Paren.ofToken? s.token with
    | none => rwa [hs] at h
    | some paren => rwa [hs] at h

theorem Parallel.of_matches {d : Nat} {left right : List Placed}
    (h : List.Forall₂ (Placed.Matches R) left right) : Parallel R d left right := by
  have happend := Parallel.append (d := d) h .nil
  rwa [List.append_nil, List.append_nil] at happend

/-! ### Factors -/

theorem factor_of_closes {p : Parser} {s : Placed} {v : Number} {tokens rest : List Placed}
    (hp : p.tokens = s :: tokens) (hopen : s.token = .openParen)
    (h : Closes p.depth v tokens rest) :
    (factor p).result = .ok v ∧ (factor p).state.tokens = rest := by
  obtain ⟨inner, taken, close, rfl, ht, hclose, hroom, hv⟩ := h
  have htokens : p.tokens = (s :: (taken ++ [close])) ++ rest := by rw [hp]; simp
  have hword : (s :: (taken ++ [close])).map Placed.token = (Phrase.group inner).tokens := by
    simp [hopen, ht, hclose]
  have hreads := rule_reads (.group inner) htokens hword
    (by rw [Phrase.depth_group]; omega) fun _ _ _ _ _ hholds => hholds
  rw [show (Phrase.group inner).value = .ok v from hv] at hreads
  exact hreads

theorem factor_of_deep {p : Parser} {found : Placed} {rest : List Placed}
    (hp : p.tokens = found :: rest) (hopen : found.token = .openParen) (hd : maxDepth ≤ p.depth) :
    factor p = .fail (.tooDeep maxDepth found) p := by
  rw [factor_eq, factorOf, hp]
  simp only [hopen, if_pos hd]

section Factor

variable {p q : Parser} {s t : Placed} {left right : List Placed}

theorem together_close (heof : R (p.eof, p.eof) (q.eof, q.eof)) (hp : p.tokens = s :: left)
    (hq : q.tokens = t :: right) (hs : s.token = .openParen) (ht : t.token = .openParen)
    (hd : p.depth < maxDepth) (hdepth : q.depth = p.depth)
    (h : Together R (p.depth + 1) (expr (p.inside left)) (expr (q.inside right))) :
    Together R p.depth (factor p) (factor q) := by
  have hd' : q.depth < maxDepth := hdepth ▸ hd
  cases h with
  | failure he he' hmatch =>
    exact .failure (factor_of_inner_error hp hs hd he).1 (factor_of_inner_error hq ht hd' he').1
      hmatch
  | @value v hv hv' hrest =>
    rcases hrest.cases_head with ⟨hnil, hnil'⟩ | ⟨c, c', more, more', hcons, hcons', hmatch, hmore⟩
    · have hresult := (factor_of_inner_ok hp hs hd hv hnil).1
      have hresult' := (factor_of_inner_ok hq ht hd' hv' hnil').1
      exact .failure hresult hresult' (Error.matches_ended heof _)
    · obtain ⟨hresult, hstate⟩ := factor_of_inner_ok hp hs hd hv hcons
      obtain ⟨hresult', hstate'⟩ := factor_of_inner_ok hq ht hd' hv' hcons'
      by_cases hclose : c.token = .closeParen
      · have hk : c.token.kind = .closeParen := by rw [hclose]; rfl
        have hk' : c'.token.kind = .closeParen := by rw [← hmatch.token]; exact hk
        rw [eat_of_kind rfl hk] at hresult hstate
        rw [eat_of_kind rfl hk'] at hresult' hstate'
        refine .value hresult hresult' ?_
        rw [hstate, hstate']
        have hbehind := hmore (by rw [hclose]; simp)
        rw [hclose] at hbehind
        exact hbehind
      · have hk : c.token.kind ≠ .closeParen := fun hk => hclose (kind_eq_closeParen hk)
        have hk' : c'.token.kind ≠ .closeParen := by rw [← hmatch.token]; exact hk
        rw [eat_of_other rfl hk] at hresult
        rw [eat_of_other rfl hk'] at hresult'
        exact .failure hresult hresult' (hmatch.unexpected _)

theorem together_factor (h : Abreast R p q)
    (hexpr : ∀ p' q' : Parser, p'.tokens.length < p.tokens.length → Abreast R p' q' →
      Together R p'.depth (expr p') (expr q')) : Together R p.depth (factor p) (factor q) := by
  obtain ⟨hdepth, heof, htokens⟩ := h
  generalize hp : p.tokens = left at htokens
  generalize hq : q.tokens = right at htokens
  cases htokens with
  | nil =>
    have hf : factor p = .fail (.ended Error.factorWanted p.eof) p := by
      rw [factor_eq, factorOf, hp]
    have hf' : factor q = .fail (.ended Error.factorWanted q.eof) q := by
      rw [factor_eq, factorOf, hq]
    rw [hf, hf']
    exact .failure rfl rfl (Error.matches_ended heof _)
  | group hmatch hopen hleft hright hrest =>
    obtain ⟨hresult, hstate⟩ := factor_of_closes hp hopen hleft
    obtain ⟨hresult', hstate'⟩ :=
      factor_of_closes hq (hmatch.token ▸ hopen) (hdepth.symm ▸ hright)
    refine .value hresult hresult' ?_
    rw [hstate, hstate']
    exact hrest
  | @cons _ s t left right hmatch hrest =>
    have hother : (∀ v, s.token ≠ .number v) → s.token ≠ .openParen →
        Together R p.depth (factor p) (factor q) := by
      intro hnumber hopen
      rw [factor_of_other hp hnumber hopen,
        factor_of_other hq (hmatch.token ▸ hnumber) (hmatch.token ▸ hopen)]
      exact .failure rfl rfl (hmatch.unexpected _)
    have htoken := hmatch.token.symm
    rcases hs : s.token with v | op | _ | _
    · obtain ⟨hresult, hstate⟩ := factor_of_number hp hs
      obtain ⟨hresult', hstate'⟩ := factor_of_number hq (htoken.trans hs)
      refine .value hresult hresult' ?_
      rw [hstate, hstate']
      exact hrest.of_plain (by rw [hs]; rfl)
    · exact hother (by simp [hs]) (by simp [hs])
    · by_cases hd : p.depth < maxDepth
      · refine together_close heof hp hq hs (htoken.trans hs) hd hdepth ?_
        refine hexpr (p.inside left) (q.inside right) ?_ ⟨congrArg (· + 1) hdepth, heof, ?_⟩
        · change left.length < p.tokens.length
          rw [hp, List.length_cons]
          omega
        · rw [hs] at hrest
          exact hrest
      · rw [factor_of_deep hp hs (Nat.le_of_not_lt hd),
          factor_of_deep hq (htoken.trans hs) (by rw [hdepth]; exact Nat.le_of_not_lt hd)]
        exact .failure rfl rfl (hmatch.tooDeep _)
    · exact hother (by simp [hs]) (by simp [hs])

end Factor

/-! ### Chains -/

section Chain

variable {level : Precedence} {p q : Parser} {o o' : Outcome Parser Number}

theorem together_bind {v : Number} {op : Operator} {s t : Placed} {left right : List Placed}
    (hv : o.result = .ok v) (hv' : o'.result = .ok v) (hs : o.state.tokens = s :: left)
    (ht : o'.state.tokens = t :: right) (hmatch : s.Matches R t)
    (hoperand : Together R p.depth (rule level.operand o.state.skip)
      (rule level.operand o'.state.skip)) :
    Together R p.depth (o.bind (applyNext (rule level.operand) op s))
      (o'.bind (applyNext (rule level.operand) op t)) := by
  cases hoperand with
  | failure he he' hmatch =>
    exact .failure (bind_applyNext_of_error op hv hs he).1 (bind_applyNext_of_error op hv' ht he').1
      hmatch
  | @value r hr hr' hrest =>
    obtain ⟨hresult, hstate⟩ := bind_applyNext_of_ok op hv hs hr
    obtain ⟨hresult', hstate'⟩ := bind_applyNext_of_ok op hv' ht hr'
    rcases ha : v.apply op r with fault | w
    · rw [ha] at hresult hresult'
      exact .failure hresult hresult' (hmatch.ofFault fault v op r)
    · rw [ha] at hresult hresult'
      refine .value hresult hresult' ?_
      rw [hstate, hstate']
      exact hrest

variable (level) in
theorem Parallel.cases_operator? {d : Nat} (h : Parallel R d p.tokens q.tokens) :
    (p.operator? level = none ∧ q.operator? level = none) ∨
      ∃ op s t left right, p.tokens = s :: left ∧ q.tokens = t :: right ∧ s.Matches R t ∧
        s.token = .operator op ∧ op.precedence = level ∧ Parallel R d left right := by
  rcases h.cases_head with ⟨hp, hq⟩ | ⟨s, t, left, right, hp, hq, hmatch, hrest⟩
  · exact Or.inl ⟨by rw [operator?, hp], by rw [operator?, hq]⟩
  · have ht : t.token = s.token := hmatch.token.symm
    rcases hs : s.token with v | op | _ | _
    · exact Or.inl ⟨by simp [operator?, hp, hs], by simp [operator?, hq, ht, hs]⟩
    · by_cases fits : op.precedence = level
      · have hbehind := (hrest (by simp [hs])).of_plain (by rw [hs]; rfl)
        exact Or.inr ⟨op, s, t, left, right, hp, hq, hmatch, hs, fits, hbehind⟩
      · exact Or.inl ⟨by simp [operator?, hp, hs, fits], by simp [operator?, hq, ht, hs, fits]⟩
    · exact Or.inl ⟨by simp [operator?, hp, hs], by simp [operator?, hq, ht, hs]⟩
    · exact Or.inl ⟨by simp [operator?, hp, hs], by simp [operator?, hq, ht, hs]⟩

/-- What two chains go on with, by induction on the tokens that are left. -/
theorem together_chainRest (hoperand : ∀ p' q' : Parser, p'.tokens.length < o.state.tokens.length →
      Abreast R p' q' → Together R p'.depth (rule level.operand p') (rule level.operand q'))
    (heof : R (p.eof, p.eof) (q.eof, q.eof)) (hdepth : q.depth = p.depth)
    (hp : Follows p o.state) (hq : Follows q o'.state) (h : Together R p.depth o o') :
    Together R p.depth (chainRest level (rule level.operand) o)
      (chainRest level (rule level.operand) o') := by
  induction hn : o.state.tokens.length using Nat.strongRecOn generalizing o o' with
  | _ n ih =>
    cases h with
    | failure he he' hmatch =>
      rw [chainRest_of_error (keeps_rule _) he, chainRest_of_error (keeps_rule _) he']
      exact .failure he he' hmatch
    | @value v hv hv' hrest =>
      rcases hrest.cases_operator? level with ⟨hnone, hnone'⟩ |
        ⟨op, s, t, left, right, hs, ht, hmatch, hop, fits, hbehind⟩
      · rw [chainRest_of_none (keeps_rule _) hnone, chainRest_of_none (keeps_rule _) hnone']
        exact .value hv hv' hrest
      · have hop' : t.token = .operator op := hmatch.token ▸ hop
        have hlt := length_bind_applyNext_lt (keeps_rule level.operand) hv
          (operator?_eq_some hs hop fits)
        have hbehindp := hp.skip_eq hs
        have hbehindq := hq.skip_eq ht
        rw [chainRest_of_operator (keeps_rule _) hv hs hop fits,
          chainRest_of_operator (keeps_rule _) hv' ht hop' fits]
        have hfewer := fun p' q' (hlength : p'.tokens.length < _) =>
          hoperand p' q' (hlength.trans hlt)
        refine ih _ (hn ▸ hlt) hfewer ?_ ?_ ?_ rfl
        · exact follows_bind hp fun v => keeps_applyNext (keeps_rule _) op s v
        · exact follows_bind hq fun v => keeps_applyNext (keeps_rule _) op t v
        · refine together_bind hv hv' hs ht hmatch ?_
          rw [hbehindp, hbehindq]
          refine hoperand ⟨left, p.eof, p.depth⟩ ⟨right, q.eof, q.depth⟩ ?_ ⟨hdepth, heof, hbehind⟩
          rw [hs, List.length_cons]
          exact Nat.lt_succ_self _

theorem together_chain (h : Abreast R p q)
    (hoperand : ∀ p' q' : Parser, p'.tokens.length ≤ p.tokens.length → Abreast R p' q' →
      Together R p'.depth (rule level.operand p') (rule level.operand q')) :
    Together R p.depth (rule (.chain level) p) (rule (.chain level) q) := by
  have hp := keeps_rule level.operand p
  have hq := keeps_rule level.operand q
  rw [rule_chain, chain_eq, chain_eq]
  refine together_chainRest (fun p' q' hlength => hoperand p' q' ?_) h.eof h.depth hp hq
    (hoperand p q (Nat.le_refl _) h)
  exact (Nat.le_of_lt hlength).trans hp.tokens.length_le

end Chain

/-- **Rules on parallel tokens do the same**, by induction on the number of tokens that are left. -/
theorem together_rule (kind : Phrase.Kind) {p q : Parser} (h : Abreast R p q) :
    Together R p.depth (rule kind p) (rule kind q) := by
  induction hn : p.tokens.length using Nat.strongRecOn generalizing kind p q with
  | _ n ih =>
    subst hn
    have hfactor : ∀ p' q' : Parser, p'.tokens.length ≤ p.tokens.length → Abreast R p' q' →
        Together R p'.depth (rule .factor p') (rule .factor q') := fun p' q' hle h =>
      together_factor h fun r r' hlt h => ih _ (Nat.lt_of_lt_of_le hlt hle) .expr h rfl
    have hterm : ∀ p' q' : Parser, p'.tokens.length ≤ p.tokens.length → Abreast R p' q' →
        Together R p'.depth (rule .term p') (rule .term q') := fun p' q' hle h =>
      together_chain h fun r r' hle' => hfactor r r' (Nat.le_trans hle' hle)
    match kind with
    | .factor => exact hfactor p q (Nat.le_refl _) h
    | .chain .product => exact hterm p q (Nat.le_refl _) h
    | .chain .sum => exact together_chain h hterm

/-- **Parallel tokens are parsed alike.** -/
theorem parse_parallel {tokens tokens' : List Placed} {eof eof' : Position}
    (h : Parallel R 0 tokens tokens') (heof : R (eof, eof) (eof', eof')) :
    (∃ v, (parse { tokens, eof }).result = .ok v ∧
        (parse { tokens := tokens', eof := eof' }).result = .ok v) ∨
      ∃ e e', (parse { tokens, eof }).result = .error e ∧
        (parse { tokens := tokens', eof := eof' }).result = .error e' ∧ e.Matches R e' := by
  have htogether := together_rule .expr (p := { tokens, eof })
    (q := { tokens := tokens', eof := eof' }) ⟨rfl, heof, h⟩
  cases htogether with
  | failure he he' hmatch =>
    exact Or.inr ⟨_, _, parse_of_error he, parse_of_error he', hmatch⟩
  | value hv hv' hrest =>
    rcases hrest.cases_head with ⟨hnil, hnil'⟩ | ⟨s, t, left, right, hs, ht, hmatch, -⟩
    · exact Or.inl ⟨_, parse_of_nil hv hnil, parse_of_nil hv' hnil'⟩
    · exact Or.inr ⟨_, _, parse_of_cons hv hs, parse_of_cons hv' ht, hmatch.trailing⟩

end Parser

end Calculator
