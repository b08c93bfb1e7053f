import Calculator.Text.Lines

/-! # What the lines of a text are

The lines of a text as a relation, apart from how they are found: a line feed ends a line, a
carriage return right before it goes with it, and what follows the last line feed is a line as it is
if it is not empty. Every text has exactly one list of lines, the one that `lines` gives
(`splits_iff`). The proof follows the text with the part of the open line that has been seen. -/

namespace Calculator.Text

variable {α : Type} {lf cr : α}

/-- **The text splits into the lines.** -/
inductive Splits (lf cr : α) : List α → List (List α) → Prop
  /-- The empty text has no line. -/
  | nil : Splits lf cr [] []
  /-- Without a line feed the text is one line. -/
  | last {line : List α} (hne : line ≠ []) (hlf : lf ∉ line) : Splits lf cr line [line]
  /-- A line ends at the first line feed. -/
  | lineFeed {line rest : List α} {lines : List (List α)} (hlf : lf ∉ line)
      (hcr : line.getLast? ≠ some cr) (hrest : Splits lf cr rest lines) :
      Splits lf cr (line ++ lf :: rest) (line :: lines)
  /-- One carriage return before the line feed is no part of the line. -/
  | both {line rest : List α} {lines : List (List α)} (hlf : lf ∉ line)
      (hrest : Splits lf cr rest lines) :
      Splits lf cr (line ++ cr :: lf :: rest) (line :: lines)

variable [DecidableEq α]

/-! ### The lines that are found -/

theorem linesFrom_of_not_mem {seen ahead : List α} (h : lf ∉ ahead) :
    linesFrom lf cr seen ahead = linesFrom lf cr (ahead.reverse ++ seen) [] := by
  induction ahead generalizing seen with
  | nil => rfl
  | cons x ahead ih =>
    obtain ⟨hx, hahead⟩ := not_or.1 (mt List.mem_cons.2 h)
    have hstep : linesFrom lf cr seen (x :: ahead) = linesFrom lf cr (x :: seen) ahead :=
      if_neg (Ne.symm hx)
    rw [hstep, ih hahead, List.reverse_cons, List.append_assoc]
    rfl

/-- At the first line feed ahead the open line ends. -/
theorem linesFrom_append {seen ahead : List α} (h : lf ∉ ahead) (rest : List α) :
    linesFrom lf cr seen (ahead ++ lf :: rest) =
      (dropReturn cr (ahead.reverse ++ seen)).reverse :: lines lf cr rest := by
  induction ahead generalizing seen with
  | nil => rw [List.nil_append, linesFrom, if_pos rfl]; rfl
  | cons x ahead ih =>
    obtain ⟨hx, hahead⟩ := not_or.1 (mt List.mem_cons.2 h)
    rw [List.cons_append, linesFrom, if_neg (Ne.symm hx), ih hahead, List.reverse_cons,
      List.append_assoc]
    rfl

theorem dropReturn_concat (line : List α) :
    (dropReturn cr (line ++ [cr]).reverse).reverse = line := by
  simp [dropReturn]

theorem dropReturn_of_ne {line : List α} (h : line.getLast? ≠ some cr) :
    (dropReturn cr line.reverse).reverse = line := by
  rcases List.eq_nil_or_concat line with rfl | ⟨front, last, rfl⟩
  · rfl
  · have hlast : last ≠ cr := by simpa using h
    simp [dropReturn, hlast]

theorem lines_append {line : List α} (h : lf ∉ line) (rest : List α) :
    lines lf cr (line ++ lf :: rest) =
      (dropReturn cr line.reverse).reverse :: lines lf cr rest := by
  have hlines : linesFrom lf cr [] (line ++ lf :: rest) = _ := linesFrom_append h rest
  rw [List.append_nil] at hlines
  exact hlines

theorem lines_of_not_mem {line : List α} (hne : line ≠ []) (h : lf ∉ line) :
    lines lf cr line = [line] := by
  have hlines : linesFrom lf cr [] line = _ := linesFrom_of_not_mem h
  rw [linesFrom, if_neg (by simpa using hne), List.append_nil, List.reverse_reverse] at hlines
  exact hlines

theorem linesFrom_append_lines (seen front rest : List α) :
    linesFrom lf cr seen (front ++ lf :: rest) =
      linesFrom lf cr seen (front ++ [lf]) ++ lines lf cr rest := by
  induction front generalizing seen with
  | nil =>
    rw [List.nil_append, List.nil_append, linesFrom, linesFrom, if_pos rfl, if_pos rfl]
    rfl
  | cons x front ih =>
    rw [List.cons_append, List.cons_append, linesFrom, linesFrom]
    split
    · rw [ih, List.cons_append]
    · rw [ih]

/-! ### They are the lines -/

theorem Splits.eq_lines (hne : cr ≠ lf) {text : List α} {split : List (List α)}
    (h : Splits lf cr text split) : split = lines lf cr text := by
  induction h with
  | nil => rfl
  | last hline hlf => rw [lines_of_not_mem hline hlf]
  | lineFeed hlf hcr _ ih => rw [lines_append hlf, dropReturn_of_ne hcr, ih]
  | @both line rest split hlf _ ih =>
    have hmem : lf ∉ line ++ [cr] := by simp [hlf, hne.symm]
    have hlines : lines lf cr (line ++ [cr] ++ lf :: rest) = _ := lines_append hmem rest
    rw [dropReturn_concat, List.append_assoc, List.singleton_append] at hlines
    rw [hlines, ih]

theorem splits_lines (hne : cr ≠ lf) (text : List α) : Splits lf cr text (lines lf cr text) := by
  by_cases hmem : lf ∈ text
  · obtain ⟨line, rest, htext, hlf⟩ := List.eq_append_cons_of_mem hmem
    have hlength : rest.length < text.length := by simp [htext]; omega
    have hrest := splits_lines hne rest
    rw [htext, lines_append hlf]
    by_cases hcr : line.getLast? = some cr
    · obtain ⟨front, rfl⟩ := List.getLast?_eq_some_iff.1 hcr
      rw [dropReturn_concat, List.append_assoc, List.singleton_append]
      exact .both (fun h => hlf (List.mem_append_left _ h)) hrest
    · rw [dropReturn_of_ne hcr]
      exact .lineFeed hlf hcr hrest
  · by_cases hnil : text = []
    · subst hnil
      exact .nil
    · rw [lines_of_not_mem hnil hmem]
      exact .last hnil hmem
termination_by text.length

/-- **The lines of a text** are those that it splits into, and no others. -/
theorem splits_iff (hne : cr ≠ lf) {text : List α} {split : List (List α)} :
    Splits lf cr text split ↔ split = lines lf cr text :=
  ⟨Splits.eq_lines hne, fun h => h ▸ splits_lines hne text⟩

end Calculator.Text
