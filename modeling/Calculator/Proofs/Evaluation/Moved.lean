import Calculator.Evaluation
import Calculator.Proofs.Lexeme.Moved
import Calculator.Proofs.Lexer.Refusal
import Calculator.Proofs.Lexer.Tokens
import Calculator.Proofs.Parser.Parallel

/-! # Evaluations of texts whose words move

If the words of one text are those of another at other places, both texts have the same value or
fail alike, and the span of the error moves with the words (`evaluate_moved`): the readings give the
same tokens at places that move (`Moved.answer`), and so the parser finds the same to complain
about. Blanks between the words of a text are such a move (`evaluate_blanks`). -/

namespace Calculator

/-- The span begins where the place of the other has moved, and is as long. -/
def SpanRelation.moved (f : Nat → Nat) : SpanRelation := fun s t =>
  ∃ place length : Nat, s.1.index = place ∧ s.2.index = ↑(place + length) ∧
    t.1.index = f place ∧ t.2.index = ↑(f place + length)

/-! ### Readings -/

section Reading

variable {f : Nat → Nat} {w : Stretch}

theorem Stretch.Gives.move {s t : Placed} (h : w.Gives s) (h' : (w.move f).Gives t) :
    s.Matches (.moved f) t :=
  ⟨h.spells.unique h'.spells, w.start, w.chars.length, h.start, h.stop, h'.start, h'.stop⟩

theorem Stretch.TooLargeError.move {d e : Error} (h : w.TooLargeError d)
    (h' : (w.move f).TooLargeError e) : d.Matches (.moved f) e :=
  ⟨h.kind.trans h'.kind.symm, h.details.trans h'.details.symm,
    w.start, w.chars.length, h.start, h.stop, h'.start, h'.stop⟩

theorem IllegalAt.move {text text' : List Char} {place : Nat} {d e : Error}
    (h : IllegalAt text place d) (h' : IllegalAt text' (f place) e)
    (htext : text'[f place]? = text[place]?) : d.Matches (.moved f) e := by
  obtain ⟨c, hc, hdetails⟩ := h.details
  obtain ⟨c', hc', hdetails'⟩ := h'.details
  obtain rfl : c' = c := by
    rw [htext, hc] at hc'
    exact (Option.some.inj hc').symm
  exact ⟨h.kind.trans h'.kind.symm, hdetails.trans hdetails'.symm, place, 1, h.start, h.stop,
    h'.start, h'.stop⟩

theorem Answer.of_tooLarge {text : List Char} {words : List Stretch} {stuck : Option Nat}
    {result : Except Error (List Placed)} (h : Answer text (w :: words) stuck result)
    (hw : TooLarge w.chars) : ∃ e, result = .error e ∧ w.TooLargeError e := by
  cases h with
  | token hn => exact absurd hw hn
  | tooLarge _ he => exact ⟨_, rfl, he⟩

/-- **Readings of words that move** give the same tokens or fail alike. -/
theorem Moved.answer {text text' : List Char} {words words' : List Stretch}
    {stuck stuck' : Option Nat} {result result' : Except Error (List Placed)}
    (hmoved : Moved f words stuck words' stuck') (htext : ∀ i, text'[f i]? = text[i]?)
    (h : Answer text words stuck result) (h' : Answer text' words' stuck' result') :
    (∃ tokens tokens', result = .ok tokens ∧ result' = .ok tokens' ∧
        List.Forall₂ (Placed.Matches (.moved f)) tokens tokens') ∨
      ∃ d e, result = .error d ∧ result' = .error e ∧ d.Matches (.moved f) e := by
  induction hmoved generalizing result result' with
  | done =>
    cases h
    cases h'
    exact Or.inl ⟨[], [], rfl, rfl, .nil⟩
  | stuck =>
    cases h with
    | stuck he =>
      cases h' with
      | stuck he' => exact Or.inr ⟨_, _, rfl, rfl, he.move he' (htext _)⟩
  | tooLarge hw =>
    obtain ⟨d, rfl, hd⟩ := h.of_tooLarge hw
    obtain ⟨e, rfl, he⟩ := h'.of_tooLarge hw
    exact Or.inr ⟨d, e, rfl, rfl, hd.move he⟩
  | word _ ih =>
    cases h with
    | tooLarge hw hd =>
      obtain ⟨e, rfl, he⟩ := h'.of_tooLarge hw
      exact Or.inr ⟨_, e, rfl, rfl, hd.move he⟩
    | token hn hp h =>
      cases h' with
      | tooLarge hw => exact absurd hw hn
      | token _ hp' h' =>
        rcases ih h h' with ⟨tokens, tokens', rfl, rfl, hall⟩ | ⟨d, e, rfl, rfl, hmatch⟩
        · exact Or.inl ⟨_, _, rfl, rfl, .cons (hp.move hp') hall⟩
        · exact Or.inr ⟨d, e, rfl, rfl, hmatch⟩

end Reading

/-! ### Evaluations -/

/-- **Texts whose words move** evaluate alike. -/
theorem evaluate_moved (source other : Source) {f : Nat → Nat} {words words' : List Stretch}
    {stuck stuck' : Option Nat} (hs : Scan 0 source.text.toList words stuck)
    (hs' : Scan 0 other.text.toList words' stuck') (hmoved : Moved f words stuck words' stuck')
    (htext : ∀ i, other.text.toList[f i]? = source.text.toList[i]?)
    (hend : f source.text.length = other.text.length) :
    (∃ v, source.evaluate.result = .ok v ∧ other.evaluate.result = .ok v) ∨
      ∃ d e, source.evaluate.result = .error d ∧ other.evaluate.result = .error e ∧
        d.Matches (.moved f) e := by
  have hanswer := hmoved.answer htext (Lexer.tokens_answer hs) (Lexer.tokens_answer hs')
  rcases hanswer with ⟨tokens, tokens', hread, hread', hall⟩ | ⟨d, e, hd, he, hmatch⟩
  · rw [Source.result_evaluate_of_ok hread, Source.result_evaluate_of_ok hread']
    refine Parser.parse_parallel (.of_matches hall) ?_
    rw [Lexer.state_tokens hread, Lexer.state_tokens hread']
    refine ⟨source.text.length, 0, ?_, ?_, ?_, ?_⟩ <;>
      simp [Lexer.index_between, hend, String.length_toList]
  · exact Or.inr ⟨d, e, Source.result_evaluate_of_error hd, Source.result_evaluate_of_error he,
      hmatch⟩

/-- **Blanks between the words do not matter.** They may be put anywhere in a text but into a word
that is reached: the value stays the same, and so do the kind and the details of a failure. Its
place moves with the text behind the blanks. -/
theorem evaluate_blanks (name u w v : String) (words : List Stretch) (stuck : Option Nat)
    (hs : Scan 0 (u ++ v).toList words stuck) (hcut : Between words u.length)
    (hw : ∀ c ∈ w.toList, Blank c) :
    let narrow := (⟨name, u ++ v⟩ : Source).evaluate.result
    let wide := (⟨name, u ++ w ++ v⟩ : Source).evaluate.result
    (∃ x, narrow = .ok x ∧ wide = .ok x) ∨
      ∃ d e, narrow = .error d ∧ wide = .error e ∧ d.kind = e.kind ∧ d.details = e.details ∧
        e.start.index =
          if (u.length : Int) ≤ d.start.index then d.start.index + w.length
          else d.start.index := by
  intro narrow wide
  have hwide : (u ++ w ++ v).toList = u.toList ++ (w.toList ++ v.toList) := by
    rw [String.toList_append, String.toList_append, List.append_assoc]
  have hs' := hs
  rw [String.toList_append] at hs'
  rw [← String.length_toList] at hcut
  obtain ⟨words', stuck', hscan, hmoved⟩ := hs'.widen hcut hw
  rw [String.length_toList, String.length_toList] at hmoved
  rw [← hwide] at hscan
  have htext : ∀ i, (u ++ w ++ v).toList[widen u.length w.length i]? = (u ++ v).toList[i]? := by
    intro i
    rw [hwide, String.toList_append, ← String.length_toList, ← String.length_toList]
    exact getElem?_widen ..
  have hend : widen u.length w.length (u ++ v).length = (u ++ w ++ v).length := by
    rw [String.length_append, widen_of_le (Nat.le_add_right ..), String.length_append,
      String.length_append]
    omega
  rcases evaluate_moved ⟨name, u ++ v⟩ ⟨name, u ++ w ++ v⟩ hs hscan hmoved htext hend with
    hvalue | ⟨d, e, hd, he, hmatch⟩
  · exact Or.inl hvalue
  · obtain ⟨place, length, hplace, -, hplace', -⟩ := hmatch.span
    refine Or.inr ⟨d, e, hd, he, hmatch.kind, hmatch.details, ?_⟩
    rw [hplace', hplace, widen]
    split <;> split <;> omega

/-- The division behind the blanks moves with its operator. -/
theorem evaluate_blanks_division :
    let narrow : Source := ⟨"<test>", "7/0"⟩
    let wide : Source := ⟨"<test>", "7 \t/0"⟩
    let d : Error := ⟨.divisionByZero, ⟨1, 0, 1, narrow⟩, ⟨2, 0, 2, narrow⟩, "7 / 0"⟩
    Scan 0 ("7" ++ "/0").toList [⟨0, ['7']⟩, ⟨1, ['/']⟩, ⟨2, ['0']⟩] none ∧
      Between [⟨0, ['7']⟩, ⟨1, ['/']⟩, ⟨2, ['0']⟩] "7".length ∧
      (∀ c ∈ " \t".toList, Blank c) ∧ narrow.evaluate.result = .error d ∧
      ∃ e, wide.evaluate.result = .error e ∧ e.kind = .divisionByZero ∧ e.details = "7 / 0" ∧
        e.start.index = 3 := by
  intro narrow wide d
  have hs : Scan 0 ("7" ++ "/0").toList [⟨0, ['7']⟩, ⟨1, ['/']⟩, ⟨2, ['0']⟩] none := by
    have hdigit : ∀ c : Char, c.isDigit → Pattern [c] := fun c hc =>
      .integer (List.cons_ne_nil c []) (by simpa using hc)
    refine (Scan.pattern (hdigit '7' (by decide))).append (.of_symbol (by decide) _ _) ?_
    exact .symbol (by decide) (.pattern (hdigit '0' (by decide)))
  have hcut : Between [⟨0, ['7']⟩, ⟨1, ['/']⟩, ⟨2, ['0']⟩] "7".length := by
    rintro before w after hsplit -
    have hall : ∀ w ∈ ([⟨0, ['7']⟩, ⟨1, ['/']⟩, ⟨2, ['0']⟩] : List Stretch),
        ¬ (w.start < "7".length ∧ "7".length < w.stop) := by decide
    exact hall w (hsplit ▸ List.mem_append_right before (List.mem_cons_self ..))
  have hw : ∀ c ∈ " \t".toList, Blank c := by simp [Blank]
  have hd : narrow.evaluate.result = .error d := by decide +kernel
  refine ⟨hs, hcut, hw, hd, ?_⟩
  have htext : "7" ++ "/0" = "7/0" := by decide
  rcases evaluate_blanks "<test>" "7" " \t" "/0" _ none hs hcut hw with
    ⟨x, hx, -⟩ | ⟨d', e, hd', he, hkind, hdetails, hstart⟩
  · rw [htext] at hx
    cases hd.symm.trans hx
  · rw [htext] at hd'
    obtain rfl : d = d' := Except.error.inj (hd.symm.trans hd')
    exact ⟨e, he, hkind.symm, hdetails.symm, hstart⟩

end Calculator
