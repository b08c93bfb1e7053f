import Calculator.Proofs.Parser.Acceptance

/-! # Where tokens break the grammar

An error of the grammar stands at the first token that no sentence could have there, or at the end
of the tokens if more would have to follow (`parse_structural_error`). The tokens before the place
lead to a stage, and the token does not fit the stage in one of four ways (`Misfit`); the kind of
the error tells which. -/

namespace Calculator

/-- An error of tokens that break the grammar. -/
def Error.Kind.IsStructural : Error.Kind → Prop
  | .unexpectedToken | .unexpectedEnd | .trailingInput | .nestingTooDeep => True
  | _ => False

theorem Error.Kind.IsArithmetic.not_isStructural {kind : Kind} (h : kind.IsArithmetic) :
    ¬ kind.IsStructural := by
  cases kind <;> simp_all [IsArithmetic, IsStructural]

/-- The token at the index opens one parenthesis more than the limit allows, and could stand there
if the limit were larger. -/
def OpensTooMany (word : List Token) (k : Nat) : Prop :=
  word[k]? = some .openParen ∧ unclosed (word.take k) = maxDepth ∧
    ∃ limit, Viable limit (word.take (k + 1))

/-- How a token does not fit a stage, and the error it makes. -/
inductive Misfit : Stage → Token → Error.Kind → Prop where
  /-- No operand begins with the token. -/
  | operand {d : Nat} {token : Token} (hnumber : ∀ v, token ≠ .number v)
      (hopen : token ≠ .openParen) : Misfit (.before d) token .unexpectedToken
  /-- The limit of parentheses is reached. -/
  | deep : Misfit (.before maxDepth) .openParen .nestingTooDeep
  /-- An open parenthesis can only be closed. -/
  | close {d : Nat} {token : Token} (hop : ∀ op, token ≠ .operator op)
      (hclose : token ≠ .closeParen) : Misfit (.behind (d + 1)) token .unexpectedToken
  /-- Nothing is open, and no operator follows. -/
  | trailing {token : Token} (hop : ∀ op, token ≠ .operator op) :
      Misfit (.behind 0) token .trailingInput

theorem Misfit.next?_eq_none {stage : Stage} {token : Token} {kind : Error.Kind}
    (h : Misfit stage token kind) : stage.next? maxDepth token = none := by
  rcases hn : stage.next? maxDepth token with _ | next
  · rfl
  exfalso
  rcases Stage.next?_eq_some hn with ⟨d, v, rfl, rfl, -⟩ | ⟨d, rfl, rfl, hd, -⟩ |
    ⟨d, op, rfl, rfl, -⟩ | ⟨d, rfl, rfl, -⟩
  · cases h with
    | operand hnumber _ => exact hnumber v rfl
  · cases h with
    | operand _ hopen => exact hopen rfl
    | deep => exact Nat.lt_irrefl _ hd
  · cases h with
    | close hop _ => exact hop op rfl
    | trailing hop => exact hop op rfl
  · cases h with
    | close _ hclose => exact hclose rfl

theorem Misfit.eq_behind_iff {stage : Stage} {token : Token} {kind : Error.Kind}
    (h : Misfit stage token kind) : kind = .trailingInput ↔ stage = .behind 0 := by
  cases h <;> simp

theorem Misfit.kind_cases {stage : Stage} {token : Token} {kind : Error.Kind}
    (h : Misfit stage token kind) :
    kind = .unexpectedToken ∨ kind = .nestingTooDeep ∨ kind = .trailingInput := by
  cases h <;> simp

namespace Parser

/-- The error is about the token behind the tokens `before`, which does not fit there. -/
structure Rejected (tokens before : List Placed) (found : Placed) (e : Error) : Prop where
  split : ∃ rest, tokens = before ++ found :: rest
  start : e.start = found.start
  stop : e.stop = found.stop
  viable : Viable maxDepth (before.map Placed.token)
  misfit : ∃ stage, (Stage.before 0).run? maxDepth (before.map Placed.token) = some stage ∧
    Misfit stage found.token e.kind
  sentence : e.kind = .trailingInput → Sentence maxDepth (before.map Placed.token)
  deep : e.kind = .nestingTooDeep →
    Viable (maxDepth + 1) (before.map Placed.token ++ [found.token])

/-- The error is about the end of the tokens, behind which more would have to follow. -/
structure Incomplete (tokens : List Placed) (eof : Position) (e : Error) : Prop where
  kind : e.kind = .unexpectedEnd
  start : e.start = eof
  stop : e.stop = eof
  viable : Viable maxDepth (tokens.map Placed.token)
  stage : ∃ stage, (Stage.before 0).run? maxDepth (tokens.map Placed.token) = some stage ∧
    stage ≠ .behind 0

theorem run?_inside {word : List Token} {d : Nat} (hd : d < maxDepth)
    (hreach : Phrase.Reaches maxDepth .expr 0 word .factor d) {inner : Phrase .expr}
    (room : inner.depth + (d + 1) ≤ maxDepth) :
    (Stage.before 0).run? maxDepth (word ++ .openParen :: inner.tokens) =
      some (.behind (d + 1)) := by
  rw [← List.singleton_append, ← List.append_assoc,
    Stage.run?_append_of_some (hreach.inside hd).run?, Stage.run?_tokens inner room]

theorem viable_inside {word : List Token} {d : Nat}
    (hreach : Phrase.Reaches maxDepth .expr 0 word .factor d) {inner : Phrase .expr}
    (room : inner.depth + (d + 1) ≤ maxDepth) :
    Viable maxDepth (word ++ .openParen :: inner.tokens) := by
  have h := hreach.viable_append (.group inner) (by rw [Phrase.depth_group]; omega)
  rw [Phrase.tokens_group, ← List.cons_append, ← List.append_assoc] at h
  exact h.of_append

variable {tokens : List Placed} {eof : Position} {e : Error}

/-- A blocked rule ends with an error of an operator, at a misfit or at the end. -/
theorem Fails.cases {left : List Placed} (h : Fails .expr { tokens, eof } e left) :
    e.kind.IsArithmetic ∨ Incomplete tokens eof e ∨
      ∃ before found, Rejected tokens before found e := by
  obtain ⟨taken, more, inner, d, htokens, hreach, hblocked⟩ := h
  replace htokens : tokens = taken ++ more := htokens
  have hd : d ≤ maxDepth := hreach.le_limit (Nat.zero_le _)
  cases hblocked with
  | ended =>
    rw [List.append_nil] at htokens
    subst htokens
    exact Or.inr (Or.inl ⟨rfl, rfl, rfl, hreach.viable, _, hreach.run?, by simp⟩)
  | @unexpected _ found rest hnumber hopen =>
    exact Or.inr (Or.inr ⟨taken, found, ⟨rest, htokens⟩, rfl, rfl, hreach.viable,
      ⟨_, hreach.run?, .operand hnumber hopen⟩, nofun, nofun⟩)
  | @tooDeep _ found rest hopen hdeep =>
    obtain rfl : d = maxDepth := Nat.le_antisymm hd hdeep
    refine Or.inr (Or.inr ⟨taken, found, ⟨rest, htokens⟩, rfl, rfl, hreach.viable,
      ⟨_, hreach.run?, ?_⟩, nofun, fun _ => ?_⟩)
    · rw [hopen]
      exact .deep
    · rw [hopen]
      exact ((hreach.mono (Nat.le_succ _)).inside (Nat.lt_succ_self _)).viable
  | @unclosed _ found inside inner hopen ht room =>
    have hword : tokens.map Placed.token =
        taken.map Placed.token ++ .openParen :: inner.tokens := by
      rw [htokens, List.map_append, List.map_cons, hopen, ht]
    refine Or.inr (Or.inl ⟨rfl, rfl, rfl, ?_, .behind (d + 1), ?_, by simp⟩)
    · rw [hword]
      exact viable_inside hreach room
    · rw [hword]
      exact run?_inside (by omega) hreach room
  | @misclosed _ found inside inner place rest hopen ht room hstops hclose =>
    have hword : (taken ++ found :: inside).map Placed.token =
        taken.map Placed.token ++ .openParen :: inner.tokens := by
      rw [List.map_append, List.map_cons, hopen, ht]
    refine Or.inr (Or.inr ⟨taken ++ found :: inside, place, ⟨rest, ?_⟩, rfl, rfl, ?_,
      ⟨.behind (d + 1), ?_, .close (fun op hop => ?_) hclose⟩, nofun, nofun⟩)
    · rw [htokens, List.append_assoc]
      rfl
    · rw [hword]
      exact viable_inside hreach room
    · rw [hword]
      exact run?_inside (by omega) hreach room
    · exact hstops _ _ _ rfl hop trivial
  | fault => exact Or.inl (Error.isArithmetic_ofFault _ _ _ _ _)

theorem parse_error_cases (h : (parse { tokens, eof }).result = .error e) :
    e.kind.IsArithmetic ∨ Incomplete tokens eof e ∨
      ∃ before found, Rejected tokens before found e := by
  have hexplained := rule_explained .expr (p := { tokens, eof }) (Nat.zero_le _)
  rcases hr : (expr { tokens, eof }).result with e' | v
  · rw [parse_of_error hr] at h
    cases h
    exact ((explained_error (o := expr _) hr).mp hexplained).cases
  · obtain ⟨⟨phrase, taken, htokens, ht, hd, -⟩, hs⟩ :=
      (explained_ok (o := expr _) hr).mp hexplained
    rcases hleft : (expr { tokens, eof }).state.tokens with _ | ⟨found, rest⟩
    · rw [parse_of_nil hr hleft] at h
      cases h
    · rw [parse_of_cons hr hleft] at h
      cases h
      replace hs : Stops .expr (expr { tokens, eof }).state.tokens := hs
      replace htokens : tokens = taken ++ (expr { tokens, eof }).state.tokens := htokens
      rw [hleft] at htokens hs
      have hsentence : Sentence maxDepth (taken.map Placed.token) := ⟨phrase, ht.symm, hd⟩
      exact Or.inr (Or.inr ⟨taken, found, ⟨rest, htokens⟩, rfl, rfl, hsentence.viable,
        ⟨_, hsentence.run?, .trailing fun op hop => hs _ _ _ rfl hop trivial⟩,
        fun _ => hsentence, nofun⟩)

/-! ### The token at fault -/

section Rejected

variable {before : List Placed} {found : Placed}

/-- No sentence begins with the token that does not fit. -/
theorem Rejected.not_viable (h : Rejected tokens before found e) :
    ¬ Viable maxDepth (before.map Placed.token ++ [found.token]) := by
  intro hviable
  obtain ⟨stage, hrun, hmisfit⟩ := h.misfit
  obtain ⟨last, hlast⟩ := hviable.exists_run?
  rw [Stage.run?_append_of_some hrun, Stage.run?_singleton, hmisfit.next?_eq_none] at hlast
  cases hlast

theorem Rejected.trailing_iff (h : Rejected tokens before found e) :
    e.kind = .trailingInput ↔ Sentence maxDepth (before.map Placed.token) := by
  refine ⟨h.sentence, fun hsentence => ?_⟩
  obtain ⟨stage, hrun, hmisfit⟩ := h.misfit
  rw [hsentence.run?] at hrun
  cases hrun
  exact hmisfit.eq_behind_iff.mpr rfl

/-- Under a larger limit a parenthesis fits only before an operand. -/
theorem Rejected.tooDeep_iff (h : Rejected tokens before found e) :
    e.kind = .nestingTooDeep ↔ found.token = .openParen ∧
      unclosed (before.map Placed.token) = maxDepth ∧
        ∃ limit, Viable limit (before.map Placed.token ++ [found.token]) := by
  obtain ⟨stage, hrun, hmisfit⟩ := h.misfit
  constructor
  · intro hk
    have hviable := h.deep hk
    rw [unclosed_eq_depth hrun]
    generalize found.token = token at hmisfit hviable ⊢
    rw [hk] at hmisfit
    cases hmisfit
    exact ⟨rfl, rfl, _, hviable⟩
  · rintro ⟨hopen, -, limit, hviable⟩
    rw [hopen] at hviable hmisfit
    obtain ⟨last, hlast⟩ := hviable.exists_run?
    obtain ⟨next, hnext, hstep⟩ := Stage.exists_run?_of_append hlast
    have hsame : stage = next := by
      have h₁ := Stage.run?_mono (Nat.le_max_left maxDepth limit) hrun
      have h₂ := Stage.run?_mono (Nat.le_max_right maxDepth limit) hnext
      rw [h₁] at h₂
      exact Option.some.inj h₂
    subst hsame
    rw [Stage.run?_singleton] at hstep
    generalize e.kind = kind at hmisfit ⊢
    cases hmisfit with
    | operand _ hne => exact (hne rfl).elim
    | deep => rfl
    | close => cases hstep
    | trailing => cases hstep

theorem Rejected.kind_cases (h : Rejected tokens before found e) :
    e.kind = .unexpectedToken ∨ e.kind = .nestingTooDeep ∨ e.kind = .trailingInput := by
  obtain ⟨stage, -, hmisfit⟩ := h.misfit
  exact hmisfit.kind_cases

end Rejected

/-- **Where tokens break the grammar.** The error stands at the end of the tokens if they begin a
sentence and are none, and else at the first token with which they begin no sentence; its kind tells
whether the tokens before are a sentence, or the limit of parentheses is all that is in the way. -/
theorem parse_structural_error (tokens : List Placed) (eof : Position) (e : Error)
    (h : (parse { tokens, eof }).result = .error e) (hs : e.kind.IsStructural) :
    let word := tokens.map Placed.token
    (e.kind = .unexpectedEnd ∧ e.start = eof ∧ e.stop = eof ∧ Viable maxDepth word ∧
      ¬ Sentence maxDepth word) ∨
    (e.kind ≠ .unexpectedEnd ∧ ∃ (k : Nat) (found : Placed), tokens[k]? = some found ∧
      e.start = found.start ∧ e.stop = found.stop ∧ Viable maxDepth (word.take k) ∧
      ¬ Viable maxDepth (word.take (k + 1)) ∧
      (e.kind = .trailingInput ↔ Sentence maxDepth (word.take k)) ∧
      (e.kind = .nestingTooDeep ↔ OpensTooMany word k) ∧
      (e.kind = .unexpectedToken ↔
        ¬ Sentence maxDepth (word.take k) ∧ ¬ OpensTooMany word k)) := by
  intro word
  rcases parse_error_cases h with harith | hend | ⟨before, found, hrej⟩
  · exact (harith.not_isStructural hs).elim
  · refine Or.inl ⟨hend.kind, hend.start, hend.stop, hend.viable, fun hsentence => ?_⟩
    obtain ⟨stage, hrun, hne⟩ := hend.stage
    rw [hsentence.run?] at hrun
    exact hne (Option.some.inj hrun).symm
  · obtain ⟨rest, hsplit⟩ := hrej.split
    have hget : word[before.length]? = some found.token := by
      rw [List.getElem?_map, getElem?_of_eq hsplit]
      rfl
    have hdeep : e.kind = .nestingTooDeep ↔ OpensTooMany word before.length := by
      unfold OpensTooMany
      rw [hrej.tooDeep_iff, hget, Option.some.injEq, take_of_eq hsplit, take_succ_of_eq hsplit]
    have htrailing := hrej.trailing_iff
    rw [← take_of_eq hsplit] at htrailing
    have hkinds := hrej.kind_cases
    refine Or.inr ⟨?_, before.length, found, getElem?_of_eq hsplit, hrej.start, hrej.stop, ?_, ?_,
      htrailing, hdeep, ?_⟩
    · rcases hkinds with hk | hk | hk <;> rw [hk] <;> simp
    · rw [take_of_eq hsplit]
      exact hrej.viable
    · rw [take_succ_of_eq hsplit]
      exact hrej.not_viable
    · rw [← htrailing, ← hdeep]
      rcases hkinds with hk | hk | hk <;> rw [hk] <;> simp

/-- In `1 2` the first number is a sentence, and the second one is the trailing token. -/
theorem parse_structural_error_one_two :
    let source : Source := ⟨"<test>", "1 2"⟩
    let found : Placed := ⟨.number (.integer 2), source.position 2, source.position 3⟩
    let tokens := [⟨.number (.integer 1), source.position 0, source.position 1⟩, found]
    let word := tokens.map Placed.token
    let e := Error.trailing found
    (parse { tokens, eof := source.position 3 }).result = .error e ∧ e.kind.IsStructural ∧
      ∃ k place, tokens[k]? = some place ∧ e.start = place.start ∧ e.stop = place.stop ∧
        Sentence maxDepth (word.take k) ∧ ¬ Viable maxDepth (word.take (k + 1)) := by
  intro source found tokens word e
  have hparse : (parse { tokens, eof := source.position 3 }).result = .error e := rfl
  refine ⟨hparse, trivial, ?_⟩
  rcases parse_structural_error tokens (source.position 3) e hparse trivial with
    ⟨hkind, -⟩ | ⟨-, k, place, hget, hstart, hstop, -, hviable, htrailing, -⟩
  · cases hkind
  · exact ⟨k, place, hget, hstart, hstop, htrailing.1 rfl, hviable⟩

end Parser

end Calculator
