import Calculator.Proofs.Lexeme.Longest

/-! # The reference scan

The scan of a text from left to right as a relation: blanks are skipped, the longest match at the
place reached is a `Stretch` of its own, and where no pattern begins the scan is stuck. Places are
counted in characters.

* `exists_scan`, `Scan.unique`: every text has one scan.
* `Scan.bounds`, `Scan.ordered`, `Scan.blank_outside`: the stretches are not empty, lie one behind
  the other, and leave out nothing but blanks. -/

namespace Calculator

/-- A part of a text at its place. -/
structure Stretch where
  /-- The number of characters before it. -/
  start : Nat
  chars : List Char
  deriving DecidableEq, Repr

/-- The number of characters before its end. -/
def Stretch.stop (w : Stretch) : Nat := w.start + w.chars.length

/-- A space or a tab. -/
def Blank (c : Char) : Prop := c = ' ' ∨ c = '\t'

/-- **The scan** of a text that `i` characters precede: the longest matches one after the other, and
the place where it is stuck, if it is. -/
inductive Scan : Nat → List Char → List Stretch → Option Nat → Prop
  | done (i : Nat) : Scan i [] [] none
  | blank {i : Nat} {c : Char} {rest : List Char} {words : List Stretch} {stuck : Option Nat}
    (hc : Blank c) (h : Scan (i + 1) rest words stuck) : Scan i (c :: rest) words stuck
  | word {i : Nat} {text word : List Char} {words : List Stretch} {stuck : Option Nat}
    (hl : Longest text word) (h : Scan (i + word.length) (text.drop word.length) words stuck) :
    Scan i text (⟨i, word⟩ :: words) stuck
  | stuck {i : Nat} {c : Char} {rest : List Char} (hc : ¬ Blank c)
    (hn : ∀ word, Pattern word → ¬ word <+: c :: rest) : Scan i (c :: rest) [] (some i)

theorem isBlank_iff {c : Char} : Lexeme.isBlank c ↔ Blank c := by
  simp [Lexeme.isBlank, Blank]

theorem isBlank_eq_false_iff {c : Char} : Lexeme.isBlank c = false ↔ ¬ Blank c := by
  rw [← isBlank_iff, Bool.not_eq_true]

theorem Longest.append_drop {text word : List Char} (h : Longest text word) :
    word ++ text.drop word.length = text :=
  List.prefix_iff_eq_append.1 h.2.1

theorem Longest.length_pos {text word : List Char} (h : Longest text word) : 0 < word.length :=
  List.length_pos_iff.2 h.1.ne_nil

/-! ### Every text has one scan -/

theorem Pattern.head_not_blank {c : Char} {word : List Char} (h : Pattern (c :: word)) :
    ¬ Blank c := by
  have hdigit : ∀ {d : Char}, d.isDigit → ¬ Blank d := by
    rintro d hd (rfl | rfl) <;> exact absurd hd (by decide)
  generalize hw : c :: word = whole at h
  cases h with
  | integer _ hdigits =>
    subst hw
    exact hdigit (hdigits c (List.mem_cons_self ..))
  | @decimal whole _ hwhole _ _ =>
    cases whole with
    | nil =>
      obtain rfl : c = '.' := (List.cons.inj hw).1
      rintro (h | h) <;> exact absurd h (by decide)
    | cons d whole =>
      obtain rfl : c = d := (List.cons.inj hw).1
      exact hdigit (hwhole c (List.mem_cons_self ..))
  | symbol hc =>
    obtain rfl := (List.cons.inj hw).1
    simp only [List.mem_cons, List.not_mem_nil, or_false] at hc
    rcases hc with rfl | rfl | rfl | rfl | rfl | rfl <;>
      rintro (h | h) <;> exact absurd h (by decide)

theorem Longest.text_ne_nil {text word : List Char} (h : Longest text word) : text ≠ [] := by
  rintro rfl
  exact h.1.ne_nil (List.prefix_nil.1 h.2.1)

theorem Longest.not_blank {c : Char} {rest word : List Char} (h : Longest (c :: rest) word) :
    ¬ Blank c := by
  obtain ⟨d, tail, rfl⟩ := List.exists_cons_of_ne_nil h.1.ne_nil
  obtain rfl : d = c := (List.cons_prefix_cons.1 h.2.1).1
  exact h.1.head_not_blank

/-- **A text has at most one scan.** -/
theorem Scan.unique {i : Nat} {text : List Char} {words words' : List Stretch}
    {stuck stuck' : Option Nat} (h : Scan i text words stuck) (h' : Scan i text words' stuck') :
    words' = words ∧ stuck' = stuck := by
  induction h generalizing words' stuck' with
  | done i =>
    cases h' with
    | done => exact ⟨rfl, rfl⟩
    | word hl' _ => exact absurd rfl hl'.text_ne_nil
  | blank hc _ ih =>
    cases h' with
    | blank _ h' => exact ih h'
    | word hl' _ => exact absurd hc hl'.not_blank
    | stuck hc' _ => exact absurd hc hc'
  | word hl _ ih =>
    cases h' with
    | done => exact absurd rfl hl.text_ne_nil
    | blank hc' _ => exact absurd hc' hl.not_blank
    | word hl' h' =>
      obtain rfl := hl.unique hl'
      obtain ⟨rfl, rfl⟩ := ih h'
      exact ⟨rfl, rfl⟩
    | stuck _ hn' => exact absurd hl.2.1 (hn' _ hl.1)
  | stuck hc hn =>
    cases h' with
    | blank hc' _ => exact absurd hc' hc
    | word hl' _ => exact absurd hl'.2.1 (hn _ hl'.1)
    | stuck _ _ => exact ⟨rfl, rfl⟩

/-- **Every text has a scan.** -/
theorem exists_scan (i : Nat) (text : List Char) : ∃ words stuck, Scan i text words stuck := by
  match text with
  | [] => exact ⟨[], none, .done i⟩
  | c :: rest =>
    by_cases hc : Blank c
    · obtain ⟨words, stuck, h⟩ := exists_scan (i + 1) rest
      exact ⟨words, stuck, .blank hc h⟩
    cases hf : Lexeme.first? (c :: rest) with
    | none => exact ⟨[], some i, .stuck hc (Lexeme.first?_eq_none_iff.1 hf)⟩
    | some lexeme =>
      have hl := Lexeme.longest_of_first? hf
      have hpos := hl.length_pos
      obtain ⟨words, stuck, h⟩ :=
        exists_scan (i + lexeme.chars.length) ((c :: rest).drop lexeme.chars.length)
      exact ⟨_, stuck, .word hl h⟩
termination_by text.length
decreasing_by
  · simp
  · simp only [List.length_drop, List.length_cons]
    omega

/-! ### Where the stretches lie -/

theorem Scan.bounds {i : Nat} {text : List Char} {words : List Stretch} {stuck : Option Nat}
    (h : Scan i text words stuck) : ∀ w ∈ words, i ≤ w.start ∧ w.start < w.stop := by
  induction h with
  | done => simp
  | blank _ _ ih =>
    intro w hw
    have := ih w hw
    omega
  | word hl _ ih =>
    intro w hw
    have hpos := hl.length_pos
    rcases List.mem_cons.1 hw with rfl | hw
    · simp only [Stretch.stop]
      omega
    · have := ih w hw
      omega
  | stuck => simp

theorem Scan.ordered {i : Nat} {text : List Char} {words : List Stretch} {stuck : Option Nat}
    (h : Scan i text words stuck) : words.Pairwise fun w v => w.stop ≤ v.start := by
  induction h with
  | done => exact List.Pairwise.nil
  | blank _ _ ih => exact ih
  | word _ h ih => exact List.pairwise_cons.2 ⟨fun v hv => (h.bounds v hv).1, ih⟩
  | stuck => exact List.Pairwise.nil

/-- A scan that is not stuck leaves out nothing but blanks. -/
theorem Scan.blank_outside {i : Nat} {text : List Char} {words : List Stretch}
    (h : Scan i text words none) {j : Nat} {c : Char} (hj : text[j]? = some c) :
    Blank c ∨ ∃ w ∈ words, w.start ≤ i + j ∧ i + j < w.stop := by
  generalize hs : none = stuck at h
  induction h generalizing j with
  | done => simp at hj
  | blank hc _ ih =>
    cases j with
    | zero =>
      obtain rfl := Option.some.inj hj
      exact Or.inl hc
    | succ j =>
      rcases ih (j := j) hj hs with hb | ⟨w, hw, hle, hlt⟩
      · exact Or.inl hb
      · exact Or.inr ⟨w, hw, by omega, by omega⟩
  | @word i text word words stuck _ _ ih =>
    rcases Nat.lt_or_ge j word.length with hlt | hge
    · exact Or.inr ⟨_, List.mem_cons_self .., by simp, by simp [Stretch.stop]; omega⟩
    · have hdrop : (text.drop word.length)[j - word.length]? = some c := by
        rw [List.getElem?_drop, ← hj]
        congr 1
        omega
      rcases ih hdrop hs with hb | ⟨w, hw, hle, hlt⟩
      · exact Or.inl hb
      · exact Or.inr ⟨w, List.mem_cons_of_mem _ hw, by omega, by omega⟩
  | stuck => cases hs

end Calculator
