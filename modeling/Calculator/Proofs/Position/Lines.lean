import Calculator.Position
import Mathlib.Algebra.Order.SuccPred
import Mathlib.Data.Int.ConditionallyCompleteOrder
import Mathlib.Data.Int.SuccPred
import Mathlib.Data.List.DropRight
import Mathlib.Data.Prod.Lex
import Mathlib.Order.Interval.Set.OrdConnected

/-! # Lines and columns

A position is led over a text character by character, and the lines of a text are the pieces between
its line feeds. The two agree: the line is the number of a piece, and the column the number of a
character of it, or its length before a line feed and at the end of the text (`position_addresses`).
The induction is on the characters passed, from the last one: behind a line feed a new piece begins,
behind any other character the open piece is longer by one (`lastLine_concat`).

Each step leads to a later place in the order of lines and then columns (`place_lt_advance`), the
first one from `-1` on as well. -/

namespace Calculator

/-! ### The open line -/

namespace Text

/-- The characters behind the last line feed. -/
def lastLine (passed : List Char) : List Char := passed.rtakeWhile (· ≠ '\n')

theorem lastLine_concat (passed : List Char) (c : Char) :
    lastLine (passed ++ [c]) = if c = '\n' then [] else lastLine passed ++ [c] := by
  rw [lastLine, List.rtakeWhile_concat]
  by_cases hc : c = '\n'
  · simp [hc]
  · simp [hc, lastLine]

theorem lastLine_of_forall_ne {passed : List Char} (h : ∀ c ∈ passed, c ≠ '\n') :
    lastLine passed = passed :=
  List.rtakeWhile_eq_self_iff.2 fun c hc => decide_eq_true (h c hc)

theorem length_splitOn (text : List Char) :
    (text.splitOn '\n').length = text.count '\n' + 1 := by
  induction text with
  | nil => rfl
  | cons c text ih =>
    rw [List.splitOn_cons_eq_if_modifyHead, List.count_cons]
    split <;> simp [ih]

theorem head?_splitOn (text : List Char) :
    (text.splitOn '\n').head? = some (text.takeWhile (· ≠ '\n')) := by
  induction text with
  | nil => rfl
  | cons c text ih =>
    rw [List.splitOn_cons_eq_if_modifyHead, List.takeWhile_cons]
    by_cases hc : c = '\n'
    · simp [hc]
    · simp [hc, List.head?_modifyHead, ih]

/-- **The piece that is open behind some characters** ends before the next line feed. -/
theorem getElem?_splitOn (passed rest : List Char) :
    ((passed ++ rest).splitOn '\n')[passed.count '\n']? =
      some (lastLine passed ++ rest.takeWhile (· ≠ '\n')) := by
  induction passed using List.reverseRecOn generalizing rest with
  | nil => exact List.head?_eq_getElem? ▸ head?_splitOn rest
  | append_singleton passed c ih =>
    rw [List.append_assoc, List.singleton_append, lastLine_concat, List.count_append]
    by_cases hc : c = '\n'
    · -- behind the line feed the first piece of the rest is open
      have hsplit : (passed ++ c :: rest).splitOn '\n' =
          passed.splitOn '\n' ++ rest.splitOn '\n' := by
        rw [hc, List.splitOn_append_cons_self]
      have hcount : passed.count '\n' + [c].count '\n' = (passed.splitOn '\n').length := by
        rw [hc, length_splitOn, List.count_singleton_self]
      rw [hsplit, hcount, List.getElem?_append_right le_rfl, Nat.sub_self,
        ← List.head?_eq_getElem?, head?_splitOn, if_pos hc, List.nil_append]
    · -- the character is the next one of the same piece
      have hcount : [c].count '\n' = 0 := by simp [hc]
      rw [hcount, if_neg hc, Nat.add_zero, ih, List.takeWhile_cons_of_pos (by simpa using hc),
        List.append_cons]

end Text

/-! ### What a position counts -/

namespace Position

variable {source : Source}

/-- **The position behind some characters** counts them, their line feeds, and the characters behind
the last line feed. -/
theorem pass_first_eq (passed : List Char) :
    (first source).pass passed =
      ⟨passed.length, passed.count '\n', (Text.lastLine passed).length, source⟩ := by
  induction passed using List.reverseRecOn with
  | nil => rfl
  | append_singleton passed c ih =>
    rw [pass_append, ih, Text.lastLine_concat, pass_cons, pass_nil, advance]
    by_cases hc : c = '\n' <;> simp [hc]

theorem pass_first {passed : List Char} (h : ∀ c ∈ passed, c ≠ '\n') :
    (first source).pass passed = ⟨passed.length, 0, passed.length, source⟩ := by
  have hcount : passed.count '\n' = 0 := List.count_eq_zero.2 fun hmem => h _ hmem rfl
  rw [pass_first_eq, hcount, Text.lastLine_of_forall_ne h]

/-- The line and the column of the position lead to the character `i` of the text, or to the end of
a line there. -/
inductive Addresses (text : List Char) (i : Nat) (p : Position) : Prop
  /-- The character has the number of the column in its piece. -/
  | character {piece : List Char} {column : Nat} {c : Char} (hcolumn : p.column = column)
    (hpiece : (text.splitOn '\n')[p.line]? = some piece) (hc : text[i]? = some c)
    (hne : c ≠ '\n') (hat : piece[column]? = some c)
  /-- Before a line feed and at the end of the text the column is the length of the piece. -/
  | lineEnd {piece : List Char} (hcolumn : p.column = piece.length)
    (hpiece : (text.splitOn '\n')[p.line]? = some piece)
    (hend : i = text.length ∨ text[i]? = some '\n')

theorem addresses_pass (passed rest : List Char) :
    ((first source).pass passed).Addresses (passed ++ rest) passed.length := by
  have hpiece := Text.getElem?_splitOn passed rest
  rw [pass_first_eq]
  cases rest with
  | nil =>
    rw [List.takeWhile_nil, List.append_nil (Text.lastLine passed)] at hpiece
    exact .lineEnd rfl hpiece (.inl (by simp))
  | cons c rest =>
    have hc : (passed ++ c :: rest)[passed.length]? = some c := by simp
    by_cases hfeed : c = '\n'
    · rw [List.takeWhile_cons_of_neg (by simpa using hfeed), List.append_nil] at hpiece
      exact .lineEnd rfl hpiece (.inr (hc.trans (congrArg some hfeed)))
    · rw [List.takeWhile_cons_of_pos (by simpa using hfeed)] at hpiece
      exact .character rfl hpiece hc hfeed (by simp)

/-! ### The order of places -/

/-- The place of the position among the lines and their columns. -/
def place (p : Position) : Nat ×ₗ Int := toLex (p.line, p.column)

theorem place_lt_advance (p : Position) (passed : Option Char) :
    p.place < (p.advance passed).place := by
  rw [place, place, Prod.Lex.toLex_lt_toLex, advance]
  split
  · exact .inl (Nat.lt_succ_self p.line)
  · exact .inr ⟨rfl, Int.lt_succ p.column⟩

theorem walk_add_one (p : Position) (steps : Nat) (text : List Char) :
    p.walk (steps + 1) text = (p.walk steps text).advance text[steps]? := by
  induction steps generalizing p text with
  | zero => cases text <;> rfl
  | succ steps ih =>
    cases text with
    | nil => exact ih (p.advance none) []
    | cons c text => rw [walk, ih, walk, List.getElem?_cons_succ]

theorem walk_eq_pass (p : Position) {steps : Nat} {text : List Char} (h : steps ≤ text.length) :
    p.walk steps text = p.pass (text.take steps) := by
  induction steps with
  | zero => rfl
  | succ steps ih =>
    rw [walk_add_one, ih (Nat.le_of_succ_le h), List.take_add_one, pass_append,
      List.getElem?_eq_getElem h]
    rfl

end Position

/-! ### The positions of a source -/

variable (source : Source)

theorem position_eq_pass {i : Nat} (h : i ≤ source.text.length) :
    source.position i = (Position.first source).pass (source.text.toList.take i) :=
  Position.walk_eq_pass _ (String.length_toList ▸ h)

theorem exists_position_add_one {i : Int} (h : -1 ≤ i) :
    ∃ passed, source.position (i + 1) = (source.position i).advance passed := by
  rcases Int.lt_or_le i 0 with hneg | hpos
  · obtain rfl : i = -1 := by omega
    exact ⟨none, rfl⟩
  · obtain ⟨steps, rfl⟩ := Int.eq_ofNat_of_zero_le hpos
    exact ⟨_, Position.walk_add_one _ steps _⟩

theorem index_position {i : Int} (h : -1 ≤ i) : (source.position i).index = i := by
  induction i, h using Int.leInduction with
  | base => rfl
  | succ i hi ih =>
    obtain ⟨passed, hnext⟩ := exists_position_add_one source hi
    rw [hnext, Position.index_advance, ih]

theorem strictMonoOn_place :
    StrictMonoOn (fun i => (source.position i).place) (Set.Icc (-1) source.text.length) := by
  refine strictMonoOn_of_lt_add_one Set.ordConnected_Icc fun i _ hi _ => ?_
  obtain ⟨passed, hnext⟩ := exists_position_add_one source hi.1
  simp only [hnext]
  exact Position.place_lt_advance _ passed

/-- **Line and column address the character.** The position behind `i` characters of a source has
the index `i`, and among the pieces between the line feeds its line and its column lead to that
character, or to the end of a line there. From the position before the first character on, a greater
index is a later place, and positions of a source are equal if their indices are. -/
theorem position_addresses :
    source.position (-1) = .start source ∧
      (∀ i : Nat, i ≤ source.text.length →
        source.position i = ((Position.start source).advance none).pass
          (source.text.toList.take i) ∧
        (source.position i).index = i ∧ (source.position i).Addresses source.text.toList i) ∧
      StrictMonoOn (fun i => (source.position i).place) (Set.Icc (-1) source.text.length) ∧
      ∀ i ∈ Set.Icc (-1) (source.text.length : Int), ∀ j ∈ Set.Icc (-1) (source.text.length : Int),
        source.position i = source.position j ↔
          (source.position i).index = (source.position j).index := by
  refine ⟨rfl, fun i hi => ?_, strictMonoOn_place source, fun i hi j hj => ?_⟩
  · have hpass := position_eq_pass source hi
    have haddresses : ((Position.first source).pass (source.text.toList.take i)).Addresses _ _ :=
      Position.addresses_pass (source.text.toList.take i) (source.text.toList.drop i)
    rw [List.take_append_drop, List.length_take, String.length_toList, Nat.min_eq_left hi,
      ← hpass] at haddresses
    exact ⟨hpass, index_position source (by omega), haddresses⟩
  · constructor
    · intro h
      rw [h]
    · intro h
      rw [index_position source hi.1, index_position source hj.1] at h
      rw [h]

/-- Behind two line feeds the third line begins. -/
theorem position_addresses_third_line :
    let source : Source := ⟨"<test>", "a\n\nb"⟩
    source.position 3 = ⟨3, 2, 0, source⟩ ∧
      (source.position 3).Addresses source.text.toList 3 ∧
      (source.position (-1)).place < (source.position 0).place ∧
      source.position 2 ≠ source.position 3 := by
  intro source
  obtain ⟨-, haddress, hmono, heq⟩ := position_addresses source
  obtain ⟨hpass, -, haddresses⟩ := haddress 3 (by decide)
  have hfirst : (-1 : Int) ∈ Set.Icc (-1) (source.text.length : Int) := by decide
  have hzero : (0 : Int) ∈ Set.Icc (-1) (source.text.length : Int) := by decide
  have htwo : (2 : Int) ∈ Set.Icc (-1) (source.text.length : Int) := by decide
  have hthree : (3 : Int) ∈ Set.Icc (-1) (source.text.length : Int) := by decide
  refine ⟨hpass.trans (by decide), haddresses, hmono hfirst hzero (by decide), fun h => ?_⟩
  exact absurd ((heq 2 htwo 3 hthree).1 h) (by decide)

end Calculator
