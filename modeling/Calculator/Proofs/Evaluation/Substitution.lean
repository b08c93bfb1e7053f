import Calculator.Proofs.Evaluation.Derivation
import Calculator.Proofs.Parser.Parallel

/-! # Substitution of equals

Where an expression stands in parentheses, any other with the same value may stand: the whole text
has the same value, or fails with the same kind and details (`evaluate_substitute`). What surrounds
the parentheses may be any text. If it cannot be read the readings fail alike (`refusal_group`), and
if it can the tokens of the two texts are parallel (`parallel_group`), so that the parser does the
same on both. -/

namespace Calculator

/-- The spans need not be related. -/
abbrev SpanRelation.any : SpanRelation := fun _ _ => True

theorem matches_any {tokens tokens' : List Placed}
    (h : tokens.map Placed.token = tokens'.map Placed.token) :
    List.Forall₂ (Placed.Matches .any) tokens tokens' := by
  have heq : List.Forall₂ (fun s t : Placed => s.token = t.token) tokens tokens' := by
    rw [← List.forall₂_eq_eq_eq, List.forall₂_map_left_iff, List.forall₂_map_right_iff] at h
    exact h
  exact heq.imp fun _ _ ht => ⟨ht, trivial⟩

theorem exists_append_of_forall₂ {α β : Type} {R : α → β → Prop} {left right : List α}
    {whole : List β} (h : List.Forall₂ R (left ++ right) whole) :
    ∃ front back, whole = front ++ back ∧ List.Forall₂ R left front ∧
      List.Forall₂ R right back := by
  refine ⟨whole.take left.length, whole.drop left.length, (List.take_append_drop ..).symm, ?_, ?_⟩
  · have hfront := List.forall₂_take left.length h
    rwa [List.take_left] at hfront
  · have hback := List.forall₂_drop left.length h
    rwa [List.drop_left] at hback

section Group

variable {source : Source} {before behind inner : List Char} {words more : List Stretch}
  {stuck end? : Option Nat}

theorem scan_group (d : Derivation .expr inner) (hbefore : Scan 0 before words none)
    (hbehind : Scan 0 behind more end?) :
    Scan 0 (before ++ '(' :: (inner ++ ')' :: behind))
      (words ++ ⟨before.length, ['(']⟩ :: (d.words.map (Stretch.shift (before.length + 1)) ++
        ⟨before.length + 1 + inner.length, [')']⟩ ::
          more.map (Stretch.shift (before.length + 1 + inner.length + 1))))
      (end?.map (· + (before.length + 1 + inner.length + 1))) := by
  have hinner := d.scan.shift (before.length + 1)
  have hafter := hbehind.shift (before.length + 1 + inner.length + 1)
  rw [Nat.zero_add] at hinner hafter
  refine hbefore.append (.of_symbol (by decide) _ _) ?_
  rw [Nat.zero_add]
  exact .symbol (by decide) (hinner.append (.of_symbol (by decide) _ _)
    (.symbol (by decide) hafter))

theorem map_chars_shift (k : Nat) (words : List Stretch) :
    (words.map (Stretch.shift k)).map Stretch.chars = words.map Stretch.chars := by
  rw [List.map_map]
  rfl

/-- **What the reading says** does not depend on the expression in the parentheses. -/
theorem refusal_group (d : Derivation .expr inner)
    (htext : source.text.toList = before ++ '(' :: (inner ++ ')' :: behind))
    (hbefore : Scan 0 before words stuck) (hbehind : Scan 0 behind more end?) :
    refusalOf (Lexer.start source).tokens.result =
      (refusal? (words.map Stretch.chars) (stuck.bind fun place => before[place]?)).or
        (refusal? (more.map Stretch.chars) (end?.bind fun place => behind[place]?)) := by
  cases stuck with
  | some place =>
    obtain ⟨passed, c, rest, rfl, rfl, -⟩ := hbefore.before_stuck
    have hscan := hbefore.append_of_stuck
      (.of_symbol (c := '(') (by decide) _ (inner ++ ')' :: behind))
    rw [← htext] at hscan
    have hanswer := (Lexer.tokens_answer hscan).refusal
    have hc : source.text.toList[0 + passed.length]? = some c := by simp [htext]
    have hc' : (passed ++ c :: rest)[0 + passed.length]? = some c := by simp
    rw [Option.bind_some, hc] at hanswer
    rw [← hanswer, Option.bind_some, hc', Option.or_of_isSome]
    rw [Option.isSome_iff_ne_none]
    exact refusal?_some_ne_none _ _
  | none =>
    have hscan := scan_group d hbefore hbehind
    rw [← htext] at hscan
    have hanswer := (Lexer.tokens_answer hscan).refusal
    have hillegal : ((end?.map (· + (before.length + 1 + inner.length + 1))).bind
        fun place => source.text.toList[place]?) = end?.bind fun place => behind[place]? := by
      rcases end? with _ | place
      · rfl
      have hsplit : source.text.toList = (before ++ '(' :: (inner ++ [')'])) ++ behind := by
        simp [htext]
      have hlength : (before ++ '(' :: (inner ++ [')'])).length =
          before.length + 1 + inner.length + 1 := by
        simp
        omega
      rw [Option.map_some, Option.bind_some, Option.bind_some, hsplit,
        List.getElem?_append_right (by omega), hlength, Nat.add_sub_cancel]
    rw [← hanswer, hillegal, List.map_append, List.map_cons, List.map_append, List.map_cons,
      map_chars_shift, map_chars_shift, refusal?_append, refusal?_cons_symbol (by decide),
      refusal?_append, refusal?_of_spells d.spells, refusal?_cons_symbol (by decide),
      Option.none_or]
    rfl

theorem tokens_group (d : Derivation .expr inner)
    (htext : source.text.toList = before ++ '(' :: (inner ++ ')' :: behind))
    (hbefore : Scan 0 before words none) (hbehind : Scan 0 behind more end?)
    {tokens : List Placed} (hread : (Lexer.start source).tokens.result = .ok tokens) :
    ∃ front s taken t rest, tokens = front ++ s :: (taken ++ t :: rest) ∧
      List.Forall₂ (fun w => Spells w.chars) words (front.map Placed.token) ∧
      s.token = .openParen ∧ taken.map Placed.token = d.phrase.tokens ∧ t.token = .closeParen ∧
      List.Forall₂ (fun w => Spells w.chars) more (rest.map Placed.token) := by
  have hscan := scan_group d hbefore hbehind
  rw [← htext] at hscan
  have hanswer := Lexer.tokens_answer hscan
  rw [hread] at hanswer
  obtain ⟨-, -, hgives⟩ := hanswer.forall₂
  obtain ⟨front, _, rfl, hfront, hback⟩ := exists_append_of_forall₂ hgives
  obtain ⟨s, _, hs, hin, rfl⟩ := List.forall₂_cons_left_iff.1 hback
  obtain ⟨taken, _, rfl, htaken, hclose⟩ := exists_append_of_forall₂ hin
  obtain ⟨t, rest, ht, hrest, rfl⟩ := List.forall₂_cons_left_iff.1 hclose
  refine ⟨front, s, taken, t, rest, rfl, spells_of_gives hfront, ?_, ?_, ?_, ?_⟩
  · exact hs.spells.unique .openParen
  · exact spells_unique (spells_of_gives htaken) (Derivation.spells_shift_iff.2 d.spells)
  · exact ht.spells.unique .closeParen
  · exact Derivation.spells_shift_iff.1 (spells_of_gives hrest)

/-- **The tokens are parallel** if the expressions have the same value and there is room for
their parentheses. -/
theorem parallel_group {other : Source} {inner' : List Char} {d : Derivation .expr inner}
    {d' : Derivation .expr inner'} {v : Number}
    (htext : source.text.toList = before ++ '(' :: (inner ++ ')' :: behind))
    (htext' : other.text.toList = before ++ '(' :: (inner' ++ ')' :: behind))
    (hv : d.phrase.value = .ok v) (hv' : d'.phrase.value = .ok v)
    (hroom : Text.unclosed before + 1 + Text.nesting inner ≤ maxDepth)
    (hroom' : Text.unclosed before + 1 + Text.nesting inner' ≤ maxDepth)
    (hbefore : Scan 0 before words none) (hbehind : Scan 0 behind more end?)
    {tokens tokens' : List Placed} (hread : (Lexer.start source).tokens.result = .ok tokens)
    (hread' : (Lexer.start other).tokens.result = .ok tokens') :
    Parser.Parallel .any 0 tokens tokens' := by
  obtain ⟨front, s, taken, t, rest, rfl, hfront, hs, htaken, ht, hrest⟩ :=
    tokens_group d htext hbefore hbehind hread
  obtain ⟨front', s', taken', t', rest', rfl, hfront', hs', htaken', ht', hrest'⟩ :=
    tokens_group d' htext' hbefore hbehind hread'
  have hunclosed : Text.unclosed before =
      Paren.unclosed 0 ((front.map Placed.token).filterMap Paren.ofToken?) := by
    rw [Text.unclosed, parens_of_spells hbefore hfront]
  rw [hunclosed, ← d.depth_phrase] at hroom
  rw [hunclosed, ← d'.depth_phrase] at hroom'
  refine .append (matches_any (spells_unique hfront hfront')) ?_
  exact .group ⟨hs.trans hs'.symm, trivial⟩ hs ⟨d.phrase, taken, t, rfl, htaken, ht, by omega, hv⟩
    ⟨d'.phrase, taken', t', rfl, htaken', ht', by omega, hv'⟩
    (.of_matches (matches_any (spells_unique hrest hrest')))

/-- **Both texts evaluate alike.** -/
theorem evaluate_group {other : Source} {inner' : List Char} {d : Derivation .expr inner}
    {d' : Derivation .expr inner'} {v : Number}
    (htext : source.text.toList = before ++ '(' :: (inner ++ ')' :: behind))
    (htext' : other.text.toList = before ++ '(' :: (inner' ++ ')' :: behind))
    (hv : d.phrase.value = .ok v) (hv' : d'.phrase.value = .ok v)
    (hroom : Text.unclosed before + 1 + Text.nesting inner ≤ maxDepth)
    (hroom' : Text.unclosed before + 1 + Text.nesting inner' ≤ maxDepth) :
    (∃ w, source.evaluate.result = .ok w ∧ other.evaluate.result = .ok w) ∨
      ∃ e e', source.evaluate.result = .error e ∧ other.evaluate.result = .error e' ∧
        e.kind = e'.kind ∧ e.details = e'.details := by
  obtain ⟨words, stuck, hbefore⟩ := exists_scan 0 before
  obtain ⟨more, end?, hbehind⟩ := exists_scan 0 behind
  have hrefusal := refusal_group d htext hbefore hbehind
  have hrefusal' := refusal_group d' htext' hbefore hbehind
  rcases hread : (Lexer.start source).tokens.result with e | tokens <;>
    rcases hread' : (Lexer.start other).tokens.result with e' | tokens' <;>
      rw [hread] at hrefusal <;> rw [hread', ← hrefusal] at hrefusal'
  · obtain ⟨hkind, hdetails⟩ := Prod.mk.inj (Option.some.inj hrefusal')
    exact Or.inr ⟨e, e', Source.result_evaluate_of_error hread,
      Source.result_evaluate_of_error hread', hkind.symm, hdetails.symm⟩
  · cases hrefusal'
  · cases hrefusal'
  · obtain rfl := hbefore.eq_none_of_refusal? (Option.or_eq_none_iff.1 hrefusal.symm).1
    have hparallel := parallel_group htext htext' hv hv' hroom hroom' hbefore hbehind hread hread'
    rw [Source.result_evaluate_of_ok hread, Source.result_evaluate_of_ok hread']
    rcases Parser.parse_parallel hparallel trivial with hvalue | ⟨e, e', he, he', hmatch⟩
    · exact Or.inl hvalue
    · exact Or.inr ⟨e, e', he, he', hmatch.kind, hmatch.details⟩

end Group

/-- **Substitution of equals.** In parentheses, behind which and before which any text may stand,
one expression may stand for another with the same value: the value stays the same, and so do the
kind and the details of a failure. Both must leave room for their parentheses. -/
theorem evaluate_substitute (name before behind a b : String) (v : Number)
    (ha : (⟨name, a⟩ : Source).evaluate.result = .ok v)
    (hb : (⟨name, b⟩ : Source).evaluate.result = .ok v)
    (hroom : Text.unclosed before.toList + 1 + Text.nesting a.toList ≤ 128)
    (hroom' : Text.unclosed before.toList + 1 + Text.nesting b.toList ≤ 128) :
    let left := (⟨name, before ++ "(" ++ a ++ ")" ++ behind⟩ : Source).evaluate.result
    let right := (⟨name, before ++ "(" ++ b ++ ")" ++ behind⟩ : Source).evaluate.result
    (∃ w, left = .ok w ∧ right = .ok w) ∨
      ∃ e e', left = .error e ∧ right = .error e' ∧ e.kind = e'.kind ∧ e.details = e'.details := by
  obtain ⟨d, hv, -⟩ := exists_derivation ha
  obtain ⟨d', hv', -⟩ := exists_derivation hb
  have htext : ∀ inner : String, (before ++ "(" ++ inner ++ ")" ++ behind).toList =
      before.toList ++ '(' :: (inner.toList ++ ')' :: behind.toList) := by
    intro inner
    simp
  exact evaluate_group (htext a) (htext b) hv hv' hroom hroom'

/-- A fault behind the parentheses stays the same. -/
theorem evaluate_substitute_three :
    let left : Source := ⟨"<test>", "1/(0*" ++ "(" ++ "1+2" ++ ")" ++ ")"⟩
    let right : Source := ⟨"<test>", "1/(0*" ++ "(" ++ "((3))" ++ ")" ++ ")"⟩
    (⟨"<test>", "1+2"⟩ : Source).evaluate.result = .ok (.integer 3) ∧
      (⟨"<test>", "((3))"⟩ : Source).evaluate.result = .ok (.integer 3) ∧
      Text.unclosed "1/(0*".toList + 1 + Text.nesting "1+2".toList ≤ 128 ∧
      Text.unclosed "1/(0*".toList + 1 + Text.nesting "((3))".toList ≤ 128 ∧
      (∃ e, left.evaluate.result = .error e ∧ e.kind = .divisionByZero ∧ e.details = "1 / 0") ∧
      ∃ e, right.evaluate.result = .error e ∧ e.kind = .divisionByZero ∧ e.details = "1 / 0" := by
  intro left right
  have ha : (⟨"<test>", "1+2"⟩ : Source).evaluate.result = .ok (.integer 3) := by decide +kernel
  have hb : (⟨"<test>", "((3))"⟩ : Source).evaluate.result = .ok (.integer 3) := by decide +kernel
  have hroom : Text.unclosed "1/(0*".toList + 1 + Text.nesting "1+2".toList ≤ 128 := by
    decide +kernel
  have hroom' : Text.unclosed "1/(0*".toList + 1 + Text.nesting "((3))".toList ≤ 128 := by
    decide +kernel
  have hleft : left.evaluate.result =
      .error ⟨.divisionByZero, ⟨1, 0, 1, left⟩, ⟨2, 0, 2, left⟩, "1 / 0"⟩ := by decide +kernel
  refine ⟨ha, hb, hroom, hroom', ⟨_, hleft, rfl, rfl⟩, ?_⟩
  rcases evaluate_substitute "<test>" "1/(0*" ")" "1+2" "((3))" (.integer 3) ha hb hroom hroom' with
    ⟨w, hw, -⟩ | ⟨e, e', he, he', hkind, hdetails⟩
  · cases hleft.symm.trans hw
  · obtain rfl := Except.error.inj (hleft.symm.trans he)
    exact ⟨e', he', hkind.symm, hdetails.symm⟩

end Calculator
