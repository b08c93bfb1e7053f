import Calculator.Lexer
import Calculator.Proofs.Lexer.Answer

/-! # The lexer reads the scan

A fresh lexer gives the answer to the reference scan of its text. The proof follows the scan. Its
invariant is that the cursor lies behind `passed` and that only blanks, the `gap`, lie between it
and the place that the scan has reached; `seek_between` leads over the gap and then over the lexeme.

* `readAll_scanFrom`: reading the pieces gives the answer.
* `Within.readAll`: wherever the reading ends, the cursor is at a place of the text.
* `tokens_scan`: the tokens of a fresh lexer. -/

namespace Calculator

namespace Lexer

/-! ### Reading one piece -/

theorem index_between (source : Source) (passed rest : List Char) :
    (between source passed rest).position.index = passed.length :=
  Position.index_pass_first source passed

section Piece
variable (source : Source) (passed gap : List Char)

theorem seek_stop (rest : List Char) (lexeme : Lexeme) :
    (between source (passed ++ gap) (lexeme.chars ++ rest)).seek
        (Piece.stop ⟨utf8Length (passed ++ gap), some lexeme⟩) =
      between source (passed ++ gap ++ lexeme.chars) rest := by
  have hstop : Piece.stop ⟨utf8Length (passed ++ gap), some lexeme⟩ =
      utf8Length (passed ++ gap ++ lexeme.chars) := by
    rw [utf8Length_append (passed ++ gap)]
    rfl
  rw [hstop]
  exact seek_between source (passed ++ gap) lexeme.chars rest

theorem read_token (rest : List Char) {lexeme : Lexeme} {token : Token}
    (ht : lexeme.token = .ok token) (hs : Spells lexeme.chars token) :
    ∃ placed, ((between source passed (gap ++ (lexeme.chars ++ rest))).read
        ⟨utf8Length (passed ++ gap), some lexeme⟩).result = .ok placed ∧
      ((between source passed (gap ++ (lexeme.chars ++ rest))).read
        ⟨utf8Length (passed ++ gap), some lexeme⟩).state =
          between source (passed ++ gap ++ lexeme.chars) rest ∧
      Stretch.Gives ⟨(passed ++ gap).length, lexeme.chars⟩ placed := by
  have hread : Piece.token ⟨utf8Length (passed ++ gap), some lexeme⟩ = .ok token := ht
  unfold read
  simp only [hread, seek_between, seek_stop]
  refine ⟨_, rfl, trivial, hs, index_between source _ (lexeme.chars ++ rest), ?_⟩
  simp only [index_between, Stretch.stop, List.length_append]

theorem read_tooLarge (rest : List Char) {lexeme : Lexeme}
    (ht : lexeme.token = .error (.literalTooLarge lexeme.chars)) :
    ∃ e, ((between source passed (gap ++ (lexeme.chars ++ rest))).read
        ⟨utf8Length (passed ++ gap), some lexeme⟩).result = .error e ∧
      Stretch.TooLargeError ⟨(passed ++ gap).length, lexeme.chars⟩ e := by
  have hread : Piece.token ⟨utf8Length (passed ++ gap), some lexeme⟩ =
      .error (.literalTooLarge lexeme.chars) := ht
  unfold read
  simp only [hread, seek_between, seek_stop]
  refine ⟨_, rfl, rfl, index_between source _ (lexeme.chars ++ rest), ?_, rfl⟩
  simp only [Error.tooLarge, index_between, Stretch.stop, List.length_append]

theorem read_none (c : Char) (rest : List Char) :
    ∃ e, ((between source passed (gap ++ c :: rest)).read
        ⟨utf8Length (passed ++ gap), none⟩).result = .error e ∧
      IllegalAt (passed ++ gap ++ c :: rest) (passed ++ gap).length e := by
  have hread : Piece.token ⟨utf8Length (passed ++ gap), none⟩ = .error .unrecognized := rfl
  unfold read
  simp only [hread, seek_between, illegal, advance_between]
  refine ⟨_, rfl, rfl, index_between source _ (c :: rest), ?_, c, ?_, rfl⟩
  · simp only [Error.illegal, index_between, List.length_append, List.length_singleton]
    omega
  · rw [List.getElem?_append_right (Nat.le_refl _), Nat.sub_self]
    rfl

end Piece

/-! ### Reading the pieces -/

theorem readAll_nil (l : Lexer) : l.readAll [] = .give #[] l := rfl

/-- What was read before stands before what the remaining pieces give. -/
theorem foldl_read (o : Outcome Lexer (Array Placed)) (pieces : List Piece) :
    pieces.foldl (fun sofar piece =>
        sofar.bind fun tokens l => (l.read piece).map tokens.push) o =
      o.bind fun tokens l => (l.readAll pieces).map (tokens ++ ·) := by
  induction pieces generalizing o with
  | nil => simp [readAll_nil, Outcome.map_eq_bind]
  | cons piece pieces ih =>
    simp only [readAll, List.foldl_cons]
    simp only [ih]
    simp [Outcome.map_eq_bind, Outcome.bind_bind]

theorem readAll_cons (l : Lexer) (piece : Piece) (pieces : List Piece) :
    l.readAll (piece :: pieces) =
      (l.read piece).bind fun placed l => (l.readAll pieces).map (#[placed] ++ ·) := by
  rw [readAll, List.foldl_cons, foldl_read]
  simp [Outcome.map_eq_bind, Outcome.bind_bind]

/-- **Reading the pieces gives the answer that the scan calls for.** -/
theorem readAll_scanFrom (source : Source) {i : Nat} {rest : List Char} {words : List Stretch}
    {stuck : Option Nat} (h : Scan i rest words stuck) (passed gap : List Char)
    (hi : (passed ++ gap).length = i) :
    ∃ result, Answer (passed ++ gap ++ rest) words stuck result ∧
      ((between source passed (gap ++ rest)).readAll
        (Piece.scanFrom 0 (utf8Length (passed ++ gap)) rest)).result =
          result.map List.toArray := by
  induction h generalizing passed gap with
  | done i => exact ⟨.ok [], .done, rfl⟩
  | @blank i c rest words stuck hc _ ih =>
    obtain ⟨result, ha, hr⟩ := ih passed (gap ++ [c]) (by simp [← hi]; omega)
    refine ⟨result, by simpa using ha, ?_⟩
    rw [Piece.scanFrom_blank (isBlank_iff.2 hc), ← hr]
    simp [utf8Length_append, Nat.add_assoc]
  | @word i text word words stuck hl _ ih =>
    obtain ⟨lexeme, hf, rfl⟩ := Lexeme.first?_of_longest hl
    obtain ⟨c, tail, rfl⟩ := List.exists_cons_of_ne_nil hl.text_ne_nil
    have hc : Lexeme.isBlank c = false := isBlank_eq_false_iff.2 hl.not_blank
    have hsplit := hl.append_drop.symm
    generalize (c :: tail).drop lexeme.chars.length = after at ih hsplit
    rw [Piece.scanFrom_lexeme hc hf hsplit, readAll_cons, hsplit]
    rcases Lexeme.token_cases (Lexeme.wellFormed_of_first? hf) with
      ⟨hw, token, ht, hs⟩ | ⟨hw, ht⟩
    · obtain ⟨placed, hr, hstate, hgives⟩ := read_token source passed gap after ht hs
      have hlen : (passed ++ gap ++ lexeme.chars ++ []).length = i + lexeme.chars.length := by
        rw [List.append_nil, List.length_append, hi]
      obtain ⟨result, ha, hrest⟩ := ih _ _ hlen
      rw [List.append_nil, List.nil_append, utf8Length_append (passed ++ gap)] at hrest
      refine ⟨result.map (placed :: ·), .token hw (hi ▸ hgives) ?_, ?_⟩
      · simpa using ha
      · rw [Outcome.result_bind_of_ok hr, hstate, Outcome.result_map, hrest]
        cases result <;> simp [Except.map]
    · obtain ⟨e, hr, he⟩ := read_tooLarge source passed gap after ht
      refine ⟨.error e, .tooLarge hw ?_, ?_⟩
      · rw [← hi]
        exact he
      · exact Outcome.result_bind_of_error hr _
  | @stuck i c rest hc hn =>
    have hb : Lexeme.isBlank c = false := isBlank_eq_false_iff.2 hc
    obtain ⟨e, hr, he⟩ := read_none source passed gap c rest
    refine ⟨.error e, ?_, ?_⟩
    · rw [← hi]
      exact .stuck he
    · rw [Piece.scanFrom_none hb (Lexeme.first?_eq_none_iff.2 hn), readAll_cons]
      exact Outcome.result_bind_of_error hr _

/-! ### The cursor stays in the text -/

/-- The cursor is at a place of the source, reached from the start. -/
def Within (source : Source) (l : Lexer) : Prop :=
  ∃ passed rest, passed ++ rest = source.text.toList ∧ l = between source passed rest

theorem length_le_of_append {source : Source} {passed rest : List Char}
    (h : passed ++ rest = source.text.toList) : passed.length ≤ source.text.length := by
  rw [← String.length_toList, ← h, List.length_append]
  omega

theorem within_start (source : Source) : (start source).Within source :=
  ⟨[], source.text.toList, rfl, start_eq_between source⟩

theorem Within.advance {source : Source} {l : Lexer} (h : l.Within source) :
    l.advance.Within source := by
  obtain ⟨passed, rest, htext, rfl⟩ := h
  cases rest with
  | nil => exact ⟨passed, [], htext, advance_between_nil source passed⟩
  | cons c rest => exact ⟨passed ++ [c], rest, by simpa using htext, advance_between ..⟩

theorem Within.seek {source : Source} {l : Lexer} (h : l.Within source) (target : Nat) :
    (l.seek target).Within source := by
  obtain ⟨passed, rest, htext, rfl⟩ := h
  induction rest generalizing passed with
  | nil => exact ⟨passed, [], htext, rfl⟩
  | cons c rest ih =>
    by_cases hlt : utf8Length passed < target
    · have hstep : (between source passed (c :: rest)).seek target =
          (between source (passed ++ [c]) rest).seek target := by
        rw [← advance_between]
        simp only [Lexer.seek, between, seekFrom, hlt, if_true, Lexer.advance]
      rw [hstep]
      exact ih (passed ++ [c]) (by simpa using htext)
    · rw [seek_of_le (Nat.le_of_not_lt hlt)]
      exact ⟨passed, c :: rest, htext, rfl⟩

theorem Within.read {source : Source} {l : Lexer} (h : l.Within source) (piece : Piece) :
    (l.read piece).state.Within source := by
  have hbefore := h.seek piece.start
  have hafter := hbefore.seek piece.stop
  unfold Lexer.read
  split
  · exact hafter
  · exact hafter
  · exact hbefore.advance

theorem Within.readAll {source : Source} {l : Lexer} (h : l.Within source)
    (pieces : List Piece) : (l.readAll pieces).state.Within source := by
  induction pieces generalizing l with
  | nil => exact h
  | cons piece pieces ih =>
    rw [readAll_cons]
    cases hr : (l.read piece).result with
    | error e =>
      rw [Outcome.state_bind_of_error hr]
      exact h.read piece
    | ok placed =>
      rw [Outcome.state_bind_of_ok hr, Outcome.state_map]
      exact ih (h.read piece)

theorem Within.seek_end {source : Source} {l : Lexer} (h : l.Within source) :
    l.seek (utf8Length source.text.toList) = between source source.text.toList [] := by
  obtain ⟨passed, rest, htext, rfl⟩ := h
  rw [← htext]
  simpa using seek_between source passed rest []

/-! ### The tokens of a source -/

theorem readAll_of_tokens {l : Lexer} {tokens : List Placed} (h : l.tokens.result = .ok tokens) :
    ∃ read, (l.readAll (Piece.scan l.position.source.text.toList)).result = .ok read ∧
      tokens = read.toList := by
  unfold Lexer.tokens at h
  cases hread : (l.readAll (Piece.scan l.position.source.text.toList)).result with
  | error e =>
    rw [Outcome.result_bind_of_error hread] at h
    cases h
  | ok read =>
    rw [Outcome.result_bind_of_ok hread] at h
    cases h
    exact ⟨read, rfl, rfl⟩

theorem readAll_of_tokens_error {l : Lexer} {e : Error} (h : l.tokens.result = .error e) :
    (l.readAll (Piece.scan l.position.source.text.toList)).result = .error e := by
  unfold Lexer.tokens at h
  cases hread : (l.readAll (Piece.scan l.position.source.text.toList)).result with
  | error e' =>
    rw [Outcome.result_bind_of_error hread] at h
    cases h
    rfl
  | ok read =>
    rw [Outcome.result_bind_of_ok hread] at h
    cases h

theorem tokens_answer {source : Source} {words : List Stretch} {stuck : Option Nat}
    (h : Scan 0 source.text.toList words stuck) :
    Answer source.text.toList words stuck (start source).tokens.result := by
  obtain ⟨result, ha, hr⟩ := readAll_scanFrom source h [] [] rfl
  have hread : ((start source).readAll (Piece.scan source.text.toList)).result =
      result.map List.toArray := hr
  have htokens : (start source).tokens.result = result := by
    cases result with
    | error e => exact Outcome.result_bind_of_error hread _
    | ok tokens =>
      refine (Outcome.result_bind_of_ok hread _).trans ?_
      simp
  rw [htokens]
  exact ha

theorem state_tokens {source : Source} {tokens : List Placed}
    (h : (start source).tokens.result = .ok tokens) :
    (start source).tokens.state = between source source.text.toList [] := by
  have hwithin : ((start source).readAll (Piece.scan source.text.toList)).state.Within source :=
    (within_start source).readAll _
  obtain ⟨read, hread, -⟩ := readAll_of_tokens h
  exact (Outcome.state_bind_of_ok hread _).trans hwithin.seek_end

/-- The tokens that are read are those of the words of a scan that reaches the end. -/
theorem exists_scan_of_tokens {source : Source} {tokens : List Placed}
    (h : (start source).tokens.result = .ok tokens) :
    ∃ words, Scan 0 source.text.toList words none ∧ List.Forall₂ Stretch.Gives words tokens := by
  obtain ⟨words, stuck, hscan⟩ := exists_scan 0 source.text.toList
  have hanswer := tokens_answer hscan
  rw [h] at hanswer
  obtain ⟨rfl, -, hall⟩ := hanswer.forall₂
  exact ⟨words, hscan, hall⟩

theorem tiles_of_tokens {source : Source} {tokens : List Placed}
    (h : (start source).tokens.result = .ok tokens) : Tiles source.text.toList tokens := by
  obtain ⟨words, hscan, hall⟩ := exists_scan_of_tokens h
  exact hscan.tiles hall

/-- Reading fails for a word that is too large or a character that begins none. -/
theorem kind_of_tokens_error {source : Source} {e : Error}
    (h : (start source).tokens.result = .error e) :
    e.kind = .literalTooLarge ∨ e.kind = .illegalCharacter := by
  obtain ⟨words, stuck, hscan⟩ := exists_scan 0 source.text.toList
  have hanswer := tokens_answer hscan
  rw [h] at hanswer
  rcases hanswer.error_cases with ⟨_, w, _, _, _, _, he⟩ | ⟨place, _, _, he⟩
  · exact Or.inl he.kind
  · exact Or.inr he.kind

end Lexer

end Calculator
