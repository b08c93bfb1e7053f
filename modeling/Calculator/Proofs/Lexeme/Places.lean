import Calculator.Proofs.Lexeme.Scan

/-! # What stands before a word

The characters before a word of a scan are scanned by themselves to the words before it
(`Scan.before`), and those before the place where a scan is stuck to all of its words
(`Scan.before_stuck`). So they are characters of words and blanks: no line feed is among them, and
a character that is no blank occurs as often as in the words. Beside a word of digits there is
neither a digit nor a point (`Scan.before_digits`, `Longest.behind_digits`). -/

namespace Calculator

/-! ### Beginnings of a text -/

theorem Longest.of_prefix {text shorter word : List Char} (h : Longest text word)
    (hshorter : shorter <+: text) (hword : word <+: shorter) : Longest shorter word :=
  ⟨h.1, hword, fun other ho hp => h.2.2 other ho (hp.trans hshorter)⟩

/-- **What stands before a word** is scanned to the words before it. -/
theorem Scan.before {i : Nat} {text : List Char} {words : List Stretch} {stuck : Option Nat}
    (h : Scan i text words stuck) : ∀ {before after : List Stretch} {w : Stretch},
      words = before ++ w :: after →
        ∃ passed rest, text = passed ++ rest ∧ w.start = i + passed.length ∧
          Longest rest w.chars ∧ Scan i passed before none := by
  induction h with
  | done => simp
  | stuck => simp
  | @blank i c rest words stuck hc _ ih =>
    intro before after w hwords
    obtain ⟨passed, rest, rfl, hstart, hl, hscan⟩ := ih hwords
    refine ⟨c :: passed, rest, rfl, ?_, hl, .blank hc hscan⟩
    rw [hstart, List.length_cons]
    omega
  | @word i text word words stuck hl h ih =>
    intro before after w hwords
    rcases before with _ | ⟨first, before⟩
    · rw [List.nil_append, List.cons.injEq] at hwords
      obtain ⟨rfl, -⟩ := hwords
      exact ⟨[], text, rfl, rfl, hl, .done i⟩
    · rw [List.cons_append, List.cons.injEq] at hwords
      obtain ⟨rfl, hwords⟩ := hwords
      obtain ⟨passed, rest, hdrop, hstart, hlw, hscan⟩ := ih hwords
      have htext : text = word ++ passed ++ rest := by
        rw [List.append_assoc, ← hdrop, hl.append_drop]
      have hfirst : Longest (word ++ passed) word :=
        hl.of_prefix (htext ▸ List.prefix_append _ _) (List.prefix_append _ _)
      refine ⟨word ++ passed, rest, htext, ?_, hlw, .word hfirst ?_⟩
      · rw [hstart, List.length_append, Nat.add_assoc]
      · rw [List.drop_left]
        exact hscan

theorem Scan.around {text : List Char} {words before after : List Stretch} {stuck : Option Nat}
    {w : Stretch} (h : Scan 0 text words stuck) (hwords : words = before ++ w :: after) :
    ∃ passed rest, text = passed ++ (w.chars ++ rest) ∧ passed.length = w.start ∧
      (passed ++ w.chars).length = w.stop ∧ Longest (w.chars ++ rest) w.chars ∧
        Scan 0 passed before none := by
  obtain ⟨passed, rest, htext, hstart, hl, hscan⟩ := h.before hwords
  rw [Nat.zero_add] at hstart
  refine ⟨passed, rest.drop w.chars.length, ?_, hstart.symm, ?_, ?_, hscan⟩
  · rw [hl.append_drop, htext]
  · rw [List.length_append, Stretch.stop, hstart]
  · rw [hl.append_drop]
    exact hl

theorem Scan.extract {text : List Char} {words : List Stretch} {stuck : Option Nat} {w : Stretch}
    (h : Scan 0 text words stuck) (hw : w ∈ words) : text.extract w.start w.stop = w.chars := by
  obtain ⟨before, after, hwords⟩ := List.append_of_mem hw
  obtain ⟨passed, rest, rfl, hstart, -⟩ := h.around hwords
  rw [List.extract_eq_take_drop, ← hstart, List.drop_left, Stretch.stop, ← hstart,
    Nat.add_sub_cancel_left, List.take_left]

/-- **What stands before the place where a scan is stuck** is scanned to its words. -/
theorem Scan.before_stuck {i place : Nat} {text : List Char} {words : List Stretch}
    (h : Scan i text words (some place)) :
    ∃ passed c rest, text = passed ++ c :: rest ∧ place = i + passed.length ∧
      Scan i passed words none := by
  generalize hs : some place = stuck at h
  induction h with
  | done => cases hs
  | @blank i c rest words stuck hc _ ih =>
    obtain ⟨passed, d, rest, rfl, hplace, hscan⟩ := ih hs
    refine ⟨c :: passed, d, rest, rfl, ?_, .blank hc hscan⟩
    rw [hplace, List.length_cons]
    omega
  | @word i text word words stuck hl _ ih =>
    obtain ⟨passed, d, rest, hdrop, hplace, hscan⟩ := ih hs
    have htext : text = word ++ passed ++ d :: rest := by
      rw [List.append_assoc, ← hdrop, hl.append_drop]
    have hfirst : Longest (word ++ passed) word :=
      hl.of_prefix (htext ▸ List.prefix_append _ _) (List.prefix_append _ _)
    refine ⟨word ++ passed, d, rest, htext, ?_, .word hfirst ?_⟩
    · rw [hplace, List.length_append, Nat.add_assoc]
    · rw [List.drop_left]
      exact hscan
  | @stuck i c rest =>
    cases hs
    exact ⟨[], c, rest, rfl, rfl, .done _⟩

/-! ### Characters of a scan that reaches the end -/

theorem ne_lineFeed_of_isDigit {c : Char} (h : c.isDigit) : c ≠ '\n' := by
  rintro rfl
  exact absurd h (by decide)

theorem Pattern.ne_lineFeed {word : List Char} (h : Pattern word) : ∀ c ∈ word, c ≠ '\n' := by
  cases h with
  | integer _ hdigits => exact fun c hc => ne_lineFeed_of_isDigit (hdigits c hc)
  | decimal hwhole hfraction _ =>
    intro c hc
    rcases List.mem_append.1 hc with hc | hc
    · exact ne_lineFeed_of_isDigit (hwhole c hc)
    · rcases List.mem_cons.1 hc with rfl | hc
      · decide
      · exact ne_lineFeed_of_isDigit (hfraction c hc)
  | symbol hsymbol =>
    intro c hc
    obtain rfl := List.mem_singleton.1 hc
    rintro rfl
    exact absurd hsymbol (by decide)

theorem Scan.ne_lineFeed {i : Nat} {text : List Char} {words : List Stretch}
    (h : Scan i text words none) : ∀ c ∈ text, c ≠ '\n' := by
  generalize hs : none = stuck at h
  induction h with
  | done => simp
  | blank hc _ ih =>
    refine List.forall_mem_cons.2 ⟨?_, ih hs⟩
    rcases hc with rfl | rfl <;> decide
  | word hl _ ih =>
    intro c hc
    rw [← hl.append_drop, List.mem_append] at hc
    rcases hc with hc | hc
    · exact hl.1.ne_lineFeed c hc
    · exact ih hs c hc
  | stuck => cases hs

theorem Scan.ne_lineFeed_word {i : Nat} {passed : List Char} {before : List Stretch}
    (h : Scan i passed before none) {word : List Char} (hword : Pattern word) :
    ∀ c ∈ passed ++ word, c ≠ '\n' := by
  intro c hc
  rcases List.mem_append.1 hc with hc | hc
  · exact h.ne_lineFeed c hc
  · exact hword.ne_lineFeed c hc

theorem Scan.count {i : Nat} {text : List Char} {words : List Stretch}
    (h : Scan i text words none) {c : Char} (hc : ¬ Blank c) :
    text.count c = (words.flatMap Stretch.chars).count c := by
  generalize hs : none = stuck at h
  induction h with
  | done => rfl
  | @blank i d rest words stuck hd _ ih =>
    have hne : d ≠ c := by
      rintro rfl
      exact hc hd
    rw [List.count_cons_of_ne hne, ih hs]
  | @word i text word words stuck hl _ ih =>
    rw [← hl.append_drop, List.count_append, ih hs, List.flatMap_cons, List.count_append]
  | stuck => cases hs

/-! ### Beside a word of digits -/

theorem Longest.behind_digits {word rest : List Char} {c : Char}
    (h : Longest (word ++ c :: rest) word) (hdigits : ∀ d ∈ word, d.isDigit) :
    ¬ c.isDigit ∧ c ≠ '.' := by
  have hmax : ¬ Pattern (word ++ [c]) := by
    intro hp
    have hle := h.2.2 _ hp ⟨rest, by simp⟩
    rw [List.length_append, List.length_singleton] at hle
    omega
  constructor
  · intro hc
    refine hmax (.integer (by simp) fun d hd => ?_)
    rcases List.mem_append.1 hd with hd | hd
    · exact hdigits d hd
    · obtain rfl := List.mem_singleton.1 hd
      exact hc
  · rintro rfl
    exact hmax (.decimal hdigits (by simp) (Or.inl h.1.ne_nil))

theorem Pattern.concat_digit {word : List Char} {c d : Char} (h : Pattern (word ++ [c]))
    (hc : c.isDigit ∨ c = '.') (hd : d.isDigit) : Pattern (word ++ [c] ++ [d]) := by
  generalize hw : word ++ [c] = whole at h
  cases h with
  | integer _ hdigits =>
    refine .integer (by simp) fun e he => ?_
    rcases List.mem_append.1 he with he | he
    · exact hdigits e he
    · obtain rfl := List.mem_singleton.1 he
      exact hd
  | @decimal digits fraction hwhole hfraction _ =>
    rw [List.append_assoc, List.cons_append]
    refine .decimal hwhole (fun e he => ?_) (Or.inr (by simp))
    rcases List.mem_append.1 he with he | he
    · exact hfraction e he
    · obtain rfl := List.mem_singleton.1 he
      exact hd
  | @symbol s hs =>
    have hlast : word ++ [c] = [] ++ [s] := hw
    obtain rfl : c = s := by simpa using (List.append_inj' hlast rfl).2
    simp only [List.mem_cons, List.not_mem_nil, or_false] at hs
    rcases hs with rfl | rfl | rfl | rfl | rfl | rfl <;> simp at hc

theorem Scan.before_digits {i : Nat} {text : List Char} {words : List Stretch}
    {stuck : Option Nat} (h : Scan i text words stuck) {w : Stretch} (hw : w ∈ words)
    (hdigits : ∀ d ∈ w.chars, d.isDigit) {j : Nat} {c : Char} (hj : w.start = i + j + 1)
    (hc : text[j]? = some c) : ¬ c.isDigit ∧ c ≠ '.' := by
  induction h generalizing j with
  | done => cases hw
  | stuck => cases hw
  | @blank i d rest words stuck hd _ ih =>
    rcases j with _ | j
    · obtain rfl := Option.some.inj hc
      rcases hd with rfl | rfl <;> decide
    · exact ih hw (by omega) hc
  | @word i text word words stuck hl hscan ih =>
    rcases List.mem_cons.1 hw with rfl | hw
    · simp only at hj
      omega
    obtain ⟨before, after, hwords⟩ := List.append_of_mem hw
    obtain ⟨passed, rest, hdrop, hstart, hlw, -⟩ := hscan.before hwords
    have hle := (hscan.bounds w hw).1
    rcases Nat.lt_or_ge j word.length with hlt | hge
    · -- the character is the last one of the word before, which would go on with the digit
      obtain rfl : passed = [] := List.eq_nil_of_length_eq_zero (by omega)
      have hlength : word.length = j + 1 := by simp at hstart; omega
      obtain ⟨front, last, rfl⟩ : ∃ front last, word = front ++ [last] :=
        ⟨_, _, (List.dropLast_concat_getLast hl.1.ne_nil).symm⟩
      have htext : text = front ++ [last] ++ rest := by
        rw [List.nil_append] at hdrop
        rw [← hdrop, hl.append_drop]
      have hfront : front.length = j := by simpa using hlength
      obtain rfl : last = c := by
        rw [htext, List.append_assoc, List.getElem?_append_right (by omega)] at hc
        simpa [hfront] using hc
      obtain ⟨d, digits, hd⟩ := List.exists_cons_of_ne_nil hlw.1.ne_nil
      obtain ⟨more, hmore⟩ := hlw.2.1
      have hdigit : d.isDigit := hdigits d (by rw [hd]; exact List.mem_cons_self ..)
      have hprefix : front ++ [last] ++ [d] <+: text := by
        refine ⟨digits ++ more, ?_⟩
        rw [htext, ← hmore, hd]
        simp
      have hlonger : ¬ Pattern (front ++ [last] ++ [d]) := by
        intro hp
        have hmax := hl.2.2 _ hp hprefix
        rw [List.length_append, List.length_singleton] at hmax
        omega
      exact ⟨fun hisDigit => hlonger (hl.1.concat_digit (Or.inl hisDigit) hdigit),
        fun hpoint => hlonger (hl.1.concat_digit (Or.inr hpoint) hdigit)⟩
    · have hrest : (text.drop word.length)[j - word.length]? = some c := by
        rw [List.getElem?_drop, ← hc]
        congr 1
        omega
      exact ih hw (by omega) hrest

/-- From `i` to `j` there are digits, and beside them neither a digit nor a point. -/
structure DigitRun (text : List Char) (i j : Nat) : Prop where
  nonempty : i < j
  digits : ∀ c ∈ text.extract i j, c.isDigit
  before : ∀ (k : Nat) (c : Char), k + 1 = i → text[k]? = some c → ¬ c.isDigit ∧ c ≠ '.'
  behind : ∀ c, text[j]? = some c → ¬ c.isDigit ∧ c ≠ '.'

/-- A word of digits is a whole run of them. -/
theorem Scan.digitRun {text : List Char} {words : List Stretch} {stuck : Option Nat} {w : Stretch}
    (h : Scan 0 text words stuck) (hw : w ∈ words) (hdigits : ∀ d ∈ w.chars, d.isDigit) :
    DigitRun text w.start w.stop := by
  obtain ⟨before, after, hwords⟩ := List.append_of_mem hw
  obtain ⟨passed, rest, htext, -, hstop, hl, -⟩ := h.around hwords
  refine ⟨(h.bounds w hw).2, ?_, fun k c hk hc => ?_, fun c hc => ?_⟩
  · rw [h.extract hw]
    exact hdigits
  · exact h.before_digits hw hdigits (by omega) hc
  · rw [htext, ← List.append_assoc, ← hstop, List.getElem?_append_right (Nat.le_refl _),
      Nat.sub_self] at hc
    obtain ⟨tail, rfl⟩ : ∃ tail, rest = c :: tail := by
      rcases rest with _ | ⟨d, tail⟩
      · cases hc
      · obtain rfl := Option.some.inj hc
        exact ⟨tail, rfl⟩
    exact hl.behind_digits hdigits

end Calculator
