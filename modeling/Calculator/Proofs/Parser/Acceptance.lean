import Calculator.Proofs.Parser.Descent

/-! # What is accepted

A list of tokens is parsed to a value exactly if it is the tokens of an expression within the limit
of parentheses, and the value of that expression, the only one with these tokens, is the value
given (`parse_eq_ok_iff`). -/

namespace Calculator.Parser

/-! ### All tokens as one expression -/

section Parse

variable {p : Parser}

theorem parse_of_error {e : Error} (h : (expr p).result = .error e) :
    (parse p).result = .error e := Outcome.result_bind_of_error h _

theorem parse_of_nil {v : Number} (h : (expr p).result = .ok v)
    (hnil : (expr p).state.tokens = []) : (parse p).result = .ok v := by
  rw [parse, Outcome.result_bind_of_ok h, finish, hnil]
  rfl

theorem parse_of_cons {v : Number} {found : Placed} {rest : List Placed}
    (h : (expr p).result = .ok v) (hcons : (expr p).state.tokens = found :: rest) :
    (parse p).result = .error (.trailing found) := by
  rw [parse, Outcome.result_bind_of_ok h, finish, hcons]
  rfl

theorem expr_of_parse {v : Number} (h : (parse p).result = .ok v) :
    (expr p).result = .ok v ∧ (expr p).state.tokens = [] := by
  rcases hr : (expr p).result with e | w
  · rw [parse_of_error hr] at h
    cases h
  · rcases ht : (expr p).state.tokens with _ | ⟨found, rest⟩
    · rw [parse_of_nil hr ht] at h
      exact ⟨h, rfl⟩
    · rw [parse_of_cons hr ht] at h
      cases h

end Parse

/-! ### Places in the tokens -/

section Places

variable {tokens before rest : List Placed} {found : Placed}

theorem take_of_eq (h : tokens = before ++ found :: rest) :
    (tokens.map Placed.token).take before.length = before.map Placed.token := by
  rw [h, List.map_append, List.take_left' (List.length_map _)]

theorem take_succ_of_eq (h : tokens = before ++ found :: rest) :
    (tokens.map Placed.token).take (before.length + 1) =
      before.map Placed.token ++ [found.token] := by
  rw [h, List.map_append, List.map_cons, ← List.singleton_append, ← List.append_assoc,
    List.take_left' (by simp)]

theorem getElem?_of_eq (h : tokens = before ++ found :: rest) :
    tokens[before.length]? = some found := by
  rw [h, List.getElem?_append_right (Nat.le_refl _), Nat.sub_self]
  rfl

end Places

/-! ### Values -/

theorem exists_phrase_of_parse {tokens : List Placed} {eof : Position} {v : Number}
    (h : (parse { tokens, eof }).result = .ok v) :
    ∃ phrase : Phrase .expr, phrase.tokens = tokens.map Placed.token ∧
      phrase.depth ≤ maxDepth ∧ phrase.value = .ok v := by
  obtain ⟨hok, hnil⟩ := expr_of_parse h
  have hexplained := rule_explained .expr (p := { tokens, eof }) (Nat.zero_le _)
  obtain ⟨⟨phrase, taken, htokens, ht, hd, hv⟩, -⟩ :=
    (explained_ok (o := expr _) hok).mp hexplained
  rw [hnil, List.append_nil] at htokens
  exact ⟨phrase, by rw [← ht, ← htokens], hd, hv⟩

/-- **The tokens that have a value** are those of an expression that has this value; no other
expression has the same tokens. -/
theorem parse_eq_ok_iff (tokens : List Placed) (eof : Position) (v : Number) :
    (parse { tokens, eof }).result = .ok v ↔
      ∃ phrase : Phrase .expr, phrase.tokens = tokens.map Placed.token ∧
        (∀ other : Phrase .expr, other.tokens = tokens.map Placed.token → other = phrase) ∧
          phrase.depth ≤ maxDepth ∧ phrase.value = .ok v := by
  constructor
  · intro h
    obtain ⟨hok, hnil⟩ := expr_of_parse h
    have hexplained := rule_explained .expr (p := { tokens, eof }) (Nat.zero_le _)
    replace hexplained := (explained_ok (o := expr _) hok).mp hexplained
    rw [hnil] at hexplained
    obtain ⟨⟨phrase, taken, htokens, ht, hd, hv⟩, -⟩ := hexplained
    rw [List.append_nil] at htokens
    replace htokens : tokens = taken := htokens
    subst htokens
    refine ⟨phrase, ht.symm, fun other hother => ?_, hd, hv⟩
    exact Phrase.tokens_injective other phrase (hother.trans ht)
  · rintro ⟨phrase, ht, -, hd, hv⟩
    have hall : ({ tokens, eof } : Parser).tokens = tokens ++ [] := (List.append_nil _).symm
    have hreads := rule_reads phrase hall ht.symm hd (stops_nil _)
    rw [hv] at hreads
    exact parse_of_nil hreads.1 hreads.2

end Calculator.Parser
