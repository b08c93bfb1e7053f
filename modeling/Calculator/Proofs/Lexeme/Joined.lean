import Calculator.Proofs.Lexeme.Scan

/-! # Texts one behind the other

Only a literal has words of more than one character, so the scan of a text goes on unchanged where
another text is put behind it, unless a digit or a point at the end of the one meets a digit or a
point at the beginning of the other. Then the words of the second text follow those of the first
(`Scan.append`), and where the first is stuck the whole is stuck too (`Scan.append_of_stuck`). -/

namespace Calculator

/-- A character that literals are made of. -/
def InLiteral (c : Char) : Prop := c.isDigit ∨ c = '.'

/-- No literal goes on from the first text into the second. -/
def Apart (left right : List Char) : Prop :=
  ∀ c d, left.getLast? = some c → right.head? = some d → ¬ (InLiteral c ∧ InLiteral d)

theorem not_inLiteral_of_symbol {c : Char} (hc : c ∈ ['+', '-', '*', '/', '(', ')']) :
    ¬ InLiteral c := by
  simp only [List.mem_cons, List.not_mem_nil, or_false] at hc
  rcases hc with rfl | rfl | rfl | rfl | rfl | rfl <;> simp [InLiteral]

theorem Apart.of_symbol {c : Char} (hc : c ∈ ['+', '-', '*', '/', '(', ')'])
    (left right : List Char) : Apart left (c :: right) := by
  rintro d e - he ⟨-, hd⟩
  obtain rfl := Option.some.inj he
  exact not_inLiteral_of_symbol hc hd

theorem Apart.of_append (first : List Char) {left right : List Char}
    (h : Apart (first ++ left) right) : Apart left right := by
  intro c d hc hd
  refine h c d ?_ hd
  rw [List.getLast?_append, hc]
  rfl

theorem Pattern.inLiteral {word : List Char} (h : Pattern word) (hlength : 1 < word.length) :
    ∀ c ∈ word, InLiteral c := by
  cases h with
  | integer _ hdigits => exact fun c hc => Or.inl (hdigits c hc)
  | decimal hwhole hfraction _ =>
    intro c hc
    rcases List.mem_append.1 hc with hc | hc
    · exact Or.inl (hwhole c hc)
    · rcases List.mem_cons.1 hc with rfl | hc
      · exact Or.inr rfl
      · exact Or.inl (hfraction c hc)
  | symbol _ => exact absurd hlength (Nat.lt_irrefl 1)

/-- No pattern lies across the place where two texts meet. -/
theorem Apart.prefix_left {left right word : List Char} (h : Apart left right) (hne : left ≠ [])
    (hword : Pattern word) (hp : word <+: left ++ right) : word <+: left := by
  obtain ⟨rest, hp⟩ := hp
  rcases List.append_eq_append_iff.1 hp with ⟨more, rfl, -⟩ | ⟨more, rfl, hmore⟩
  · exact List.prefix_append _ _
  rcases more with _ | ⟨d, more⟩
  · simp
  · obtain ⟨front, c, rfl⟩ : ∃ front c, left = front ++ [c] :=
      ⟨_, _, (List.dropLast_concat_getLast hne).symm⟩
    have hlength : 1 < (front ++ [c] ++ d :: more).length := by
      rw [List.length_append, List.length_append, List.length_singleton, List.length_cons]
      omega
    have hin := hword.inLiteral hlength
    exact absurd ⟨hin c (by simp), hin d (by simp)⟩ (h c d (by simp) (by rw [hmore]; rfl))

theorem Longest.append {left right word : List Char} (h : Longest left word)
    (hapart : Apart left right) : Longest (left ++ right) word :=
  ⟨h.1, h.2.1.trans (List.prefix_append _ _), fun other ho hp =>
    h.2.2 other ho (hapart.prefix_left h.text_ne_nil ho hp)⟩

theorem longest_of_symbol {c : Char} (hc : c ∈ ['+', '-', '*', '/', '(', ')'])
    (rest : List Char) : Longest (c :: rest) [c] := by
  refine ⟨.symbol hc, ⟨rest, rfl⟩, fun other ho hp => ?_⟩
  by_contra hlt
  obtain ⟨d, tail, rfl⟩ := List.exists_cons_of_ne_nil ho.ne_nil
  obtain ⟨rfl, -⟩ := List.cons_prefix_cons.1 hp
  exact not_inLiteral_of_symbol hc (ho.inLiteral (Nat.not_le.1 hlt) _ (List.mem_cons_self ..))

/-! ### The scan -/

section Scan

variable {i : Nat} {left right : List Char} {words more : List Stretch} {stuck : Option Nat}

/-- **The words of the second text follow those of the first.** -/
theorem Scan.append (h : Scan i left words none) (hapart : Apart left right)
    (hright : Scan (i + left.length) right more stuck) :
    Scan i (left ++ right) (words ++ more) stuck := by
  generalize hs : none = end? at h
  induction h with
  | done => exact hright
  | @blank i c rest words _ hc _ ih =>
    refine .blank hc (ih (hapart.of_append [c]) ?_ hs)
    rw [List.length_cons] at hright
    rwa [Nat.add_assoc, Nat.add_comm 1]
  | @word i text word words _ hl _ ih =>
    have hdrop : (text ++ right).drop word.length = text.drop word.length ++ right :=
      List.drop_append_of_le_length hl.2.1.length_le
    refine .word (hl.append hapart) ?_
    rw [hdrop]
    refine ih (Apart.of_append word (by rwa [hl.append_drop])) ?_ hs
    rw [← hl.append_drop, List.length_append] at hright
    rwa [Nat.add_assoc]
  | stuck => cases hs

/-- **Where the first text is stuck the whole is stuck.** -/
theorem Scan.append_of_stuck {place : Nat} (h : Scan i left words (some place))
    (hapart : Apart left right) : Scan i (left ++ right) words (some place) := by
  generalize hs : some place = stuck at h
  induction h with
  | done => cases hs
  | @blank i c rest words _ hc _ ih => exact .blank hc (ih (hapart.of_append [c]) hs)
  | @word i text word words _ hl _ ih =>
    refine .word (hl.append hapart) ?_
    rw [List.drop_append_of_le_length hl.2.1.length_le]
    exact ih (Apart.of_append word (by rwa [hl.append_drop])) hs
  | @stuck i c rest hc hn =>
    have hne : c :: rest ≠ [] := List.cons_ne_nil c rest
    exact .stuck hc fun word hw hp => hn word hw (hapart.prefix_left hne hw hp)

theorem Scan.symbol {c : Char} (hc : c ∈ ['+', '-', '*', '/', '(', ')'])
    (h : Scan (i + 1) right words stuck) : Scan i (c :: right) (⟨i, [c]⟩ :: words) stuck :=
  .word (longest_of_symbol hc right) h

theorem Scan.pattern {word : List Char} (h : Pattern word) : Scan i word [⟨i, word⟩] none := by
  have hlongest : Longest word word := ⟨h, List.prefix_refl word, fun _ _ hp => hp.length_le⟩
  refine .word hlongest ?_
  rw [List.drop_length]
  exact .done _

/-- The stretch `k` characters further on. -/
def Stretch.shift (k : Nat) (w : Stretch) : Stretch := ⟨w.start + k, w.chars⟩

theorem Scan.shift (k : Nat) (h : Scan i left words stuck) :
    Scan (i + k) left (words.map (Stretch.shift k)) (stuck.map (· + k)) := by
  induction h with
  | done i => exact .done _
  | blank hc _ ih =>
    rw [Nat.add_right_comm] at ih
    exact .blank hc ih
  | word hl _ ih =>
    rw [Nat.add_right_comm] at ih
    exact .word hl ih
  | stuck hc hn => exact .stuck hc hn

end Scan

end Calculator
