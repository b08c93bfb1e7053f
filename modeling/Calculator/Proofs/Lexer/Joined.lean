import Calculator.Proofs.Evaluation.Moved
import Calculator.Proofs.Lexer.Places

/-! # Reading two texts one behind the other

If a text is read to its end, another one behind it is read as if it stood alone, only further on,
unless a literal goes on from the one into the other (`tokens_append`). The words of the whole are
those of the two texts (`Scan.append`), so what is read of the first text are its tokens, and the
rest is a reading of the words of the second at other places (`Answer.exists_append`,
`Moved.answer`).

A position keeps its line when text without a line feed is put before it, and its column moves only
on the first line: `Position.shift`. Since positions of a source are fixed by their indices,
whatever has the index of a shifted position is that position (`Position.Within.eq_shift`). -/

namespace Calculator

/-! ### Positions further on -/

/-- The position in `whole`, where `k` more characters stand before its first line. -/
def Position.shift (whole : Source) (k : Nat) (p : Position) : Position :=
  ⟨p.index + k, p.line, if p.line = 0 then p.column + k else p.column, whole⟩

/-- The token in `whole`, where `k` more characters stand before it. -/
def Placed.shift (whole : Source) (k : Nat) (placed : Placed) : Placed :=
  ⟨placed.token, placed.start.shift whole k, placed.stop.shift whole k⟩

/-- The error in `whole`, where `k` more characters stand before it. -/
def Error.shift (whole : Source) (k : Nat) (e : Error) : Error :=
  ⟨e.kind, e.start.shift whole k, e.stop.shift whole k, e.details⟩

namespace Position

variable {whole part : Source} {k : Nat}

theorem shift_advance (p : Position) (passed : Option Char) :
    (p.advance passed).shift whole k = (p.shift whole k).advance passed := by
  unfold advance shift
  split
  · simp
    omega
  · simp only [mk.injEq, and_true, true_and]
    split <;> omega

theorem shift_pass (p : Position) (passed : List Char) :
    (p.pass passed).shift whole k = (p.shift whole k).pass passed := by
  induction passed generalizing p with
  | nil => rfl
  | cons c passed ih => rw [pass_cons, pass_cons, ih, shift_advance]

theorem shift_first {gap : List Char} (hgap : ∀ c ∈ gap, c ≠ '\n') :
    (first part).shift whole gap.length = (first whole).pass gap := by
  rw [pass_first hgap]
  simp [shift, first, start, advance]

/-- **A shifted position is known by its index.** -/
theorem Within.eq_shift {p q : Position} {gap rest : List Char} (hp : p.Within part)
    (hq : q.Within whole) (htext : whole.text.toList = gap ++ (part.text.toList ++ rest))
    (hgap : ∀ c ∈ gap, c ≠ '\n') (hindex : q.index = p.index + gap.length) :
    q = p.shift whole gap.length := by
  obtain ⟨passed, behind, hsplit, rfl⟩ := hp
  have hwhole : whole.text.toList = (gap ++ passed) ++ (behind ++ rest) := by
    rw [htext, ← hsplit]
    simp only [List.append_assoc]
  rw [shift_pass, shift_first hgap, ← pass_append]
  refine hq.eq hwhole ?_
  rw [hindex, index_pass_first, List.length_append]
  omega

end Position

/-! ### Tokens and errors further on -/

section Shift

variable {whole part : Source} {gap rest : List Char}

theorem Placed.Matches.eq_shift {s t : Placed} (h : s.Matches (.moved (· + gap.length)) t)
    (hs : s.Within part) (ht : t.Within whole)
    (htext : whole.text.toList = gap ++ (part.text.toList ++ rest))
    (hgap : ∀ c ∈ gap, c ≠ '\n') : t = s.shift whole gap.length := by
  obtain ⟨place, length, hstart, hstop, hstart', hstop'⟩ := h.span
  simp only at hstart hstop hstart' hstop'
  have hfirst := hs.1.eq_shift ht.1 htext hgap (by omega)
  have hlast := hs.2.eq_shift ht.2 htext hgap (by omega)
  rw [Placed.shift, h.token, ← hfirst, ← hlast]

theorem Error.Matches.eq_shift {d e : Error} (h : d.Matches (.moved (· + gap.length)) e)
    (hd : d.Within part) (he : e.Within whole)
    (htext : whole.text.toList = gap ++ (part.text.toList ++ rest))
    (hgap : ∀ c ∈ gap, c ≠ '\n') : e = d.shift whole gap.length := by
  obtain ⟨place, length, hstart, hstop, hstart', hstop'⟩ := h.span
  simp only at hstart hstop hstart' hstop'
  have hfirst := hd.1.eq_shift he.1 htext hgap (by omega)
  have hlast := hd.2.eq_shift he.2 htext hgap (by omega)
  rw [Error.shift, h.kind, h.details, ← hfirst, ← hlast]

theorem eq_map_shift {tokens tokens' : List Placed}
    (h : List.Forall₂ (Placed.Matches (.moved (· + gap.length))) tokens tokens')
    (hpart : ∀ s ∈ tokens, s.Within part) (hwhole : ∀ t ∈ tokens', t.Within whole)
    (htext : whole.text.toList = gap ++ (part.text.toList ++ rest))
    (hgap : ∀ c ∈ gap, c ≠ '\n') : tokens' = tokens.map (Placed.shift whole gap.length) := by
  induction h with
  | nil => rfl
  | cons hmatch _ ih =>
    obtain ⟨hs, hpart⟩ := List.forall_mem_cons.1 hpart
    obtain ⟨ht, hwhole⟩ := List.forall_mem_cons.1 hwhole
    rw [List.map_cons, ← ih hpart hwhole, ← hmatch.eq_shift hs ht htext hgap]

end Shift

/-! ### The answer to the words of two texts -/

theorem Answer.exists_append {text : List Char} {words more : List Stretch} {stuck : Option Nat}
    {result : Except Error (List Placed)} (h : Answer text (words ++ more) stuck result)
    (hsmall : ∀ w ∈ words, ¬ TooLarge w.chars) :
    ∃ front back, List.Forall₂ Stretch.Gives words front ∧ Answer text more stuck back ∧
      result = back.map (front ++ ·) := by
  induction words generalizing result with
  | nil => exact ⟨[], result, .nil, h, by cases result <;> rfl⟩
  | cons w words ih =>
    obtain ⟨hw, hwords⟩ := List.forall_mem_cons.1 hsmall
    cases h with
    | tooLarge hlarge _ => exact absurd hlarge hw
    | @token _ _ _ placed _ _ hp hrest =>
      obtain ⟨front, back, hfront, hback, rfl⟩ := ih hrest hwords
      exact ⟨placed :: front, back, .cons hp hfront, hback, by cases back <;> rfl⟩

theorem matches_of_gives {words : List Stretch} {tokens tokens' : List Placed}
    (h : List.Forall₂ Stretch.Gives words tokens) (h' : List.Forall₂ Stretch.Gives words tokens') :
    List.Forall₂ (Placed.Matches (.moved (· + 0))) tokens tokens' := by
  induction h generalizing tokens' with
  | nil =>
    cases h'
    exact .nil
  | cons hgives _ ih =>
    cases h' with
    | cons hgives' hrest => exact .cons (hgives.move hgives') (ih hrest)

namespace Lexer

variable {front back : Source} {before : List Placed}

/-- The reading of two texts, before the places are put together: the tokens of the first, and an
answer that matches that of the second. -/
theorem exists_tokens_append (whole : Source) (htext : whole.text = front.text ++ back.text)
    (hfront : (start front).tokens.result = .ok before)
    (hapart : Apart front.text.toList back.text.toList) :
    ∃ (before' : List Placed) (rest : Except Error (List Placed)),
      (start whole).tokens.result = rest.map (before' ++ ·) ∧
      List.Forall₂ (Placed.Matches (.moved (· + 0))) before before' ∧
      ((∃ after after', (start back).tokens.result = .ok after ∧ rest = .ok after' ∧
          List.Forall₂ (Placed.Matches (.moved (· + front.text.length))) after after') ∨
        ∃ d e, (start back).tokens.result = .error d ∧ rest = .error e ∧
          d.Matches (.moved (· + front.text.length)) e) := by
  have hchars : whole.text.toList = front.text.toList ++ back.text.toList := by
    rw [htext, String.toList_append]
  have hlength : front.text.toList.length = front.text.length := String.length_toList
  obtain ⟨words, hscan, hgives⟩ := exists_scan_of_tokens hfront
  have hanswer := tokens_answer hscan
  rw [hfront] at hanswer
  obtain ⟨more, stuck, hscan'⟩ := exists_scan 0 back.text.toList
  have hwhole := hscan.append hapart (hscan'.shift front.text.toList.length)
  rw [← hchars] at hwhole
  obtain ⟨before', rest, hbefore, hrest, hresult⟩ :=
    (tokens_answer hwhole).exists_append hanswer.forall₂.2.1
  refine ⟨before', rest, hresult, matches_of_gives hgives hbefore, ?_⟩
  have hmoved := hscan'.moved_shift (k := front.text.toList.length) fun j _ => rfl
  rw [← hlength]
  refine hmoved.answer (fun i => ?_) (tokens_answer hscan') hrest
  rw [hchars, List.getElem?_append_right (Nat.le_add_left ..), Nat.add_sub_cancel]

/-- **Reading distributes over putting texts together.** If the first text is read to its end, and
it does not end in a character of a literal where the second begins with one, then both texts
together give the tokens of the first and, further on, those of the second; or, where the second
fails, its error further on. -/
theorem tokens_append (name : String) (hfront : (start front).tokens.result = .ok before)
    (hapart : Apart front.text.toList back.text.toList) :
    let whole : Source := ⟨name, front.text ++ back.text⟩
    (∀ after, (start back).tokens.result = .ok after →
      (start whole).tokens.result = .ok (before.map (Placed.shift whole 0) ++
        after.map (Placed.shift whole front.text.length))) ∧
    ∀ d, (start back).tokens.result = .error d →
      (start whole).tokens.result = .error (d.shift whole front.text.length) := by
  intro whole
  have hlength : front.text.toList.length = front.text.length := String.length_toList
  have hfirst : whole.text.toList = [] ++ (front.text.toList ++ back.text.toList) :=
    String.toList_append
  have hsecond : whole.text.toList = front.text.toList ++ (back.text.toList ++ []) := by
    rw [List.append_nil]
    exact String.toList_append
  have hline : ∀ c ∈ front.text.toList, c ≠ '\n' := by
    obtain ⟨words, hscan, -⟩ := exists_scan_of_tokens hfront
    exact hscan.ne_lineFeed
  obtain ⟨before', rest, hwhole, hbefore, hrest⟩ :=
    exists_tokens_append whole rfl hfront hapart
  rw [← hlength] at hrest ⊢
  rcases hrest with ⟨after, after', hback, rfl, hafter⟩ | ⟨d, e, hback, rfl, hmatch⟩
  · have hwithin := within_of_tokens hwhole
    obtain ⟨hwithin, hwithin'⟩ := List.forall_mem_append.1 hwithin
    have heq := @eq_map_shift whole front [] back.text.toList before before' hbefore
      (within_of_tokens hfront) hwithin hfirst (by simp)
    have heq' := eq_map_shift hafter (within_of_tokens hback) hwithin' hsecond hline
    refine ⟨fun other hother => ?_, fun d hd => ?_⟩
    · obtain rfl := Except.ok.inj (hback.symm.trans hother)
      rw [hwhole, heq, heq']
      rfl
    · cases hback.symm.trans hd
  · have heq := hmatch.eq_shift (within_of_tokens_error hback) (within_of_tokens_error hwhole)
      hsecond hline
    refine ⟨fun after hafter => ?_, fun other hother => ?_⟩
    · cases hback.symm.trans hafter
    · obtain rfl := Except.error.inj (hback.symm.trans hother)
      rw [hwhole, heq]
      rfl

/-- Digits behind a blank begin a literal of their own, and an illegal line feed ends its line where
it did. -/
theorem tokens_append_digits :
    let front : Source := ⟨"a", "12"⟩
    let back : Source := ⟨"b", " 7"⟩
    let broken : Source := ⟨"c", " \n"⟩
    let d : Error := ⟨.illegalCharacter, ⟨1, 0, 1, broken⟩, ⟨2, 1, 0, broken⟩, "'\\n'"⟩
    let whole : Source := ⟨"d", "12" ++ " 7"⟩
    let other : Source := ⟨"e", "12" ++ " \n"⟩
    (start front).tokens.result =
        .ok [⟨.number (.integer 12), ⟨0, 0, 0, front⟩, ⟨2, 0, 2, front⟩⟩] ∧
      Apart front.text.toList back.text.toList ∧ Apart front.text.toList broken.text.toList ∧
      (start back).tokens.result =
        .ok [⟨.number (.integer 7), ⟨1, 0, 1, back⟩, ⟨2, 0, 2, back⟩⟩] ∧
      (start broken).tokens.result = .error d ∧
      (start whole).tokens.result =
        .ok [⟨.number (.integer 12), ⟨0, 0, 0, whole⟩, ⟨2, 0, 2, whole⟩⟩,
          ⟨.number (.integer 7), ⟨3, 0, 3, whole⟩, ⟨4, 0, 4, whole⟩⟩] ∧
      (start other).tokens.result =
        .error ⟨.illegalCharacter, ⟨3, 0, 3, other⟩, ⟨4, 1, 0, other⟩, "'\\n'"⟩ := by
  intro front back broken d whole other
  have hfront : (start front).tokens.result =
      .ok [⟨.number (.integer 12), ⟨0, 0, 0, front⟩, ⟨2, 0, 2, front⟩⟩] := by decide +kernel
  have hback : (start back).tokens.result =
      .ok [⟨.number (.integer 7), ⟨1, 0, 1, back⟩, ⟨2, 0, 2, back⟩⟩] := by decide +kernel
  have hbroken : (start broken).tokens.result = .error d := by decide +kernel
  have hblank : ∀ rest : List Char, Apart front.text.toList (' ' :: rest) := by
    have hgap : ∀ c ∈ [' '], Blank c := by simp [Blank]
    exact Apart.of_blanks hgap (by simp) front.text.toList
  have hapart : Apart front.text.toList back.text.toList := by
    have hchars : back.text.toList = [' ', '7'] := by decide
    exact hchars ▸ hblank ['7']
  have hapart' : Apart front.text.toList broken.text.toList := by
    have hchars : broken.text.toList = [' ', '\n'] := by decide
    exact hchars ▸ hblank ['\n']
  have hwhole := (tokens_append "d" hfront hapart).1 _ hback
  have hother := (tokens_append "e" hfront hapart').2 d hbroken
  exact ⟨hfront, hapart, hapart', hback, hbroken, hwhole.trans (by decide +kernel),
    hother.trans (by decide +kernel)⟩

end Lexer

end Calculator
