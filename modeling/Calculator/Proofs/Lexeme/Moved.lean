import Calculator.Proofs.Lexeme.Joined
import Calculator.Proofs.Lexeme.Places

/-! # Words that move

Two scans are alike, up to the places of their words, as far as they are read: reading stops behind
the first word that is too large. `Moved` says that the place `i` of the one scan is the place `f i`
of the other. Blanks put into a text move the words behind them and change nothing else, if they
are not put inside a word that is reached (`Scan.widen`). The proof follows the scan up to the place
of the blanks: each word before that place is still the longest match, since no pattern holds a
blank (`Apart.of_blanks`). -/

namespace Calculator

/-- The stretch at another place. -/
def Stretch.move (f : Nat → Nat) (w : Stretch) : Stretch := ⟨f w.start, w.chars⟩

/-- **The words of two scans are the same up to their places**, and so is the place where they are
stuck, as far as both are read. -/
inductive Moved (f : Nat → Nat) :
    List Stretch → Option Nat → List Stretch → Option Nat → Prop
  | done : Moved f [] none [] none
  | stuck {place : Nat} : Moved f [] (some place) [] (some (f place))
  /-- What stands behind a word that is too large is not read. -/
  | tooLarge {w : Stretch} {words words' : List Stretch} {stuck stuck' : Option Nat}
    (hw : TooLarge w.chars) : Moved f (w :: words) stuck (w.move f :: words') stuck'
  | word {w : Stretch} {words words' : List Stretch} {stuck stuck' : Option Nat}
    (h : Moved f words stuck words' stuck') : Moved f (w :: words) stuck (w.move f :: words') stuck'

theorem moved_map (f : Nat → Nat) (words : List Stretch) (stuck : Option Nat) :
    Moved f words stuck (words.map (Stretch.move f)) (stuck.map f) := by
  induction words with
  | nil => cases stuck <;> constructor
  | cons w words ih => exact .word ih

theorem Moved.refl (words : List Stretch) (stuck : Option Nat) :
    Moved id words stuck words stuck := by
  have h := moved_map id words stuck
  have hmove : Stretch.move id = id := rfl
  rwa [hmove, List.map_id, Option.map_id] at h

theorem Scan.moved_shift {f : Nat → Nat} {i k : Nat} {text : List Char} {words : List Stretch}
    {stuck : Option Nat} (h : Scan i text words stuck) (hf : ∀ j, i ≤ j → f j = j + k) :
    Moved f words stuck (words.map (Stretch.shift k)) (stuck.map (· + k)) := by
  have hwords : words.map (Stretch.move f) = words.map (Stretch.shift k) := by
    refine List.map_congr_left fun w hw => ?_
    rw [Stretch.move, Stretch.shift, hf w.start (h.bounds w hw).1]
  have hstuck : stuck.map f = stuck.map (· + k) := by
    cases stuck with
    | none => rfl
    | some place =>
      obtain ⟨passed, c, rest, -, rfl, -⟩ := h.before_stuck
      rw [Option.map_some, Option.map_some, hf _ (Nat.le_add_right ..)]
  rw [← hwords, ← hstuck]
  exact moved_map f words stuck

/-! ### Blanks -/

theorem not_inLiteral_of_blank {c : Char} (hc : Blank c) : ¬ InLiteral c := by
  rcases hc with rfl | rfl <;> simp [InLiteral]

theorem Apart.of_blanks {gap : List Char} (hgap : ∀ c ∈ gap, Blank c) (hne : gap ≠ [])
    (left right : List Char) : Apart left (gap ++ right) := by
  obtain ⟨c, gap, rfl⟩ := List.exists_cons_of_ne_nil hne
  rintro d e - he ⟨-, hd⟩
  obtain rfl := Option.some.inj he
  exact not_inLiteral_of_blank (hgap c (List.mem_cons_self ..)) hd

theorem Scan.blanks {i : Nat} {gap text : List Char} {words : List Stretch} {stuck : Option Nat}
    (hgap : ∀ c ∈ gap, Blank c) (h : Scan (i + gap.length) text words stuck) :
    Scan i (gap ++ text) words stuck := by
  induction gap generalizing i with
  | nil => exact h
  | cons c gap ih =>
    obtain ⟨hc, hgap⟩ := List.forall_mem_cons.1 hgap
    refine .blank hc (ih hgap ?_)
    rwa [List.length_cons, Nat.add_comm gap.length, ← Nat.add_assoc] at h

/-- The place of a character once `width` characters are put in at the place `cut`. -/
def widen (cut width i : Nat) : Nat := if i < cut then i else i + width

theorem widen_of_lt {cut i : Nat} (h : i < cut) (width : Nat) : widen cut width i = i := if_pos h

theorem widen_of_le {cut i : Nat} (h : cut ≤ i) (width : Nat) :
    widen cut width i = i + width := if_neg (Nat.not_lt.2 h)

theorem widen_zero (cut : Nat) : widen cut 0 = id := funext fun _ => ite_self _

theorem getElem?_widen (left gap right : List Char) (i : Nat) :
    (left ++ (gap ++ right))[widen left.length gap.length i]? = (left ++ right)[i]? := by
  rcases Nat.lt_or_ge i left.length with hlt | hge
  · rw [widen_of_lt hlt, List.getElem?_append_left hlt, List.getElem?_append_left hlt]
  · rw [widen_of_le hge, List.getElem?_append_right (by omega),
      List.getElem?_append_right (by omega), List.getElem?_append_right hge]
    congr 1
    omega

/-- No word that is reached lies across the place: the words before it are not too large. -/
def Between (words : List Stretch) (cut : Nat) : Prop :=
  ∀ before w after, words = before ++ w :: after → (∀ v ∈ before, ¬ TooLarge v.chars) →
    ¬ (w.start < cut ∧ cut < w.stop)

theorem Between.tail {w : Stretch} {words : List Stretch} {cut : Nat}
    (h : Between (w :: words) cut) (hw : ¬ TooLarge w.chars) : Between words cut := by
  rintro before v after rfl hbefore
  exact h (w :: before) v after rfl (List.forall_mem_cons.2 ⟨hw, hbefore⟩)

theorem Between.stop_le {w : Stretch} {words : List Stretch} {cut : Nat}
    (h : Between (w :: words) cut) (hlt : w.start < cut) : w.stop ≤ cut := by
  have hclear := h [] w words rfl (by simp)
  omega

theorem Moved.stay {w : Stretch} {words words' : List Stretch} {stuck stuck' : Option Nat}
    {cut width : Nat} (hlt : w.start < cut)
    (h : ¬ TooLarge w.chars → Moved (widen cut width) words stuck words' stuck') :
    Moved (widen cut width) (w :: words) stuck (w :: words') stuck' := by
  have hmoved : Moved (widen cut width) (w :: words) stuck
      (w.move (widen cut width) :: words') stuck' := by
    by_cases hlarge : TooLarge w.chars
    · exact .tooLarge hlarge
    · exact .word (h hlarge)
  rwa [Stretch.move, widen_of_lt hlt] at hmoved

section Gap

variable {i cut : Nat} {left right gap : List Char} {words : List Stretch} {stuck : Option Nat}

theorem Scan.widen_start (h : Scan i right words stuck) (hgap : ∀ c ∈ gap, Blank c) :
    ∃ words' stuck', Scan i (gap ++ right) words' stuck' ∧
      Moved (widen i gap.length) words stuck words' stuck' :=
  ⟨_, _, .blanks hgap (h.shift gap.length), h.moved_shift fun _ hle => widen_of_le hle _⟩

theorem Longest.widen {word : List Char} (h : Longest (left ++ right) word)
    (hlength : word.length ≤ left.length) (hgap : ∀ c ∈ gap, Blank c) (hne : gap ≠ []) :
    Longest (left ++ (gap ++ right)) word := by
  have hp : word <+: left :=
    List.prefix_of_prefix_length_le h.2.1 (List.prefix_append left right) hlength
  exact (h.of_prefix (List.prefix_append left right) hp).append (.of_blanks hgap hne left right)

end Gap

/-- The scan is followed up to the place of the blanks. -/
theorem Scan.widen_of_ne_nil {i cut : Nat} {left right gap : List Char} {words : List Stretch}
    {stuck : Option Nat} (h : Scan i (left ++ right) words stuck) (hcut : cut = i + left.length)
    (hbetween : Between words cut) (hgap : ∀ c ∈ gap, Blank c) (hne : gap ≠ []) :
    ∃ words' stuck', Scan i (left ++ (gap ++ right)) words' stuck' ∧
      Moved (Calculator.widen cut gap.length) words stuck words' stuck' := by
  match left with
  | [] =>
    obtain rfl : cut = i := hcut
    exact Scan.widen_start h hgap
  | d :: rest =>
    have hlt : i < cut := by rw [hcut, List.length_cons]; omega
    rw [List.cons_append] at h
    cases h with
    | blank hc h =>
      have hcut' : cut = i + 1 + rest.length := by rw [hcut, List.length_cons]; omega
      obtain ⟨words', stuck', hscan, hmoved⟩ := widen_of_ne_nil h hcut' hbetween hgap hne
      exact ⟨words', stuck', .blank hc hscan, hmoved⟩
    | @word _ _ word words _ hl h =>
      have hstop : i + word.length ≤ cut := hbetween.stop_le hlt
      have hlength : word.length ≤ (d :: rest).length := by omega
      have hwide := hl.widen hlength hgap hne
      by_cases hlarge : TooLarge word
      · -- What stands behind is not read, so any scan of it will do.
        obtain ⟨words', stuck', hscan⟩ := exists_scan (i + word.length)
          ((d :: rest ++ (gap ++ right)).drop word.length)
        exact ⟨_, stuck', .word hwide hscan, .stay hlt fun hn => absurd hlarge hn⟩
      · have hpos := hl.length_pos
        have hcut' : cut = i + word.length + ((d :: rest).drop word.length).length := by
          rw [List.length_drop]
          omega
        rw [← List.cons_append, List.drop_append_of_le_length hlength] at h
        obtain ⟨words', stuck', hscan, hmoved⟩ :=
          widen_of_ne_nil h hcut' (hbetween.tail hlarge) hgap hne
        rw [← List.drop_append_of_le_length hlength] at hscan
        exact ⟨_, stuck', .word hwide hscan, .stay hlt fun _ => hmoved⟩
    | stuck hc hn =>
      refine ⟨[], some i, .stuck hc fun word hw hp => hn word hw ?_, ?_⟩
      · have hapart : Apart (d :: rest) (gap ++ right) := .of_blanks hgap hne _ right
        have hbefore := hapart.prefix_left (List.cons_ne_nil d rest) hw hp
        exact hbefore.trans (List.prefix_append (d :: rest) right)
      · have hmoved : Moved (Calculator.widen cut gap.length) [] (some i) [] _ := .stuck
        rwa [widen_of_lt hlt] at hmoved
termination_by left.length

/-- **Blanks put between the words** move those behind them. -/
theorem Scan.widen {left right gap : List Char} {words : List Stretch} {stuck : Option Nat}
    (h : Scan 0 (left ++ right) words stuck) (hbetween : Between words left.length)
    (hgap : ∀ c ∈ gap, Blank c) :
    ∃ words' stuck', Scan 0 (left ++ (gap ++ right)) words' stuck' ∧
      Moved (Calculator.widen left.length gap.length) words stuck words' stuck' := by
  rcases List.eq_nil_or_concat gap with rfl | ⟨_, _, rfl⟩
  · rw [List.length_nil, widen_zero]
    exact ⟨words, stuck, h, .refl words stuck⟩
  · exact h.widen_of_ne_nil (Nat.zero_add _).symm hbetween hgap (by simp)

end Calculator
