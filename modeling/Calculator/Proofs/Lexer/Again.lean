import Calculator.Proofs.Lexer.Tokens

/-! # Reading a source once more

A lexer reads the whole text each time it is asked, but its cursor never goes back. So a later
reading finds the same pieces, and puts at the cursor what lies behind it: where the cursor has
passed `c` characters, the index `i` becomes `max c i` (`tokens_again`). A character that begins no
token is reported as the one under the cursor, wherever that is by now, so one reading after the
other reports the next character until the text ends.

The proof leads a fresh lexer and a later one over the same pieces. Wherever the first cursor has
passed `k` characters the second has passed `max c k`, since both ends of a piece are places
between characters (`Piece.fits_scan`).

* `seek_behind`, `advance_behind`: where the cursor goes.
* `Pushes`, `pushes_tokens`: what the later reading gives. -/

namespace Calculator

/-! ### Pieces lie between characters -/

theorem utf8Length_take_le (text : List Char) {i j : Nat} (h : i ≤ j) :
    utf8Length (text.take i) ≤ utf8Length (text.take j) := by
  have hsplit : text.take j = text.take i ++ (text.drop i).take (j - i) := by
    rw [← List.take_add, Nat.add_sub_cancel' h]
  rw [hsplit, utf8Length_append]
  exact Nat.le_add_right _ _

/-- Both ends of the piece are places between the characters of the text. -/
def Piece.Fits (text : List Char) (piece : Piece) : Prop :=
  (∃ i, piece.start = utf8Length (text.take i)) ∧ ∃ j, piece.stop = utf8Length (text.take j)

theorem Piece.Fits.of_append {text before chars after : List Char} {lexeme : Option Lexeme}
    (htext : text = before ++ (chars ++ after))
    (hchars : chars = (lexeme.map Lexeme.chars).getD []) :
    Piece.Fits text ⟨utf8Length before, lexeme⟩ := by
  subst htext hchars
  refine ⟨⟨before.length, by rw [List.take_left]⟩,
    (before ++ (lexeme.map Lexeme.chars).getD []).length, ?_⟩
  rw [← List.append_assoc, List.take_left, utf8Length_append, Piece.stop]
  cases lexeme <;> rfl

theorem Piece.fits_scanFrom (inside : Nat) {text passed rest : List Char}
    (htext : text = passed ++ rest) :
    ∀ piece ∈ scanFrom inside (utf8Length passed) rest, piece.Fits text := by
  induction rest generalizing inside passed with
  | nil => simp [scanFrom]
  | cons c rest ih =>
    have hbehind : text = (passed ++ [c]) ++ rest := by rw [htext, List.append_cons]
    have hmore : ∀ inside, ∀ piece ∈ scanFrom inside (utf8Length passed + c.utf8Size) rest,
        piece.Fits text := by
      intro inside
      have hfits := ih inside hbehind
      rwa [utf8Length_append, utf8Length_cons, utf8Length_nil, Nat.add_zero] at hfits
    cases inside with
    | succ inside => exact hmore inside
    | zero =>
      rw [scanFrom]
      split
      · exact hmore 0
      split
      · next hnone =>
        have hnil : text = passed ++ ([] ++ c :: rest) := htext
        exact List.forall_mem_singleton.2 (.of_append hnil rfl)
      · next lexeme hsome =>
        obtain ⟨after, hafter⟩ := (Lexeme.prefix_of_first? hsome).1
        rw [← hafter] at htext
        exact List.forall_mem_cons.2 ⟨.of_append htext rfl, hmore _⟩

theorem Piece.fits_scan (text : List Char) : ∀ piece ∈ scan text, piece.Fits text :=
  fits_scanFrom 0 (show text = [] ++ text from rfl)

/-! ### What is pushed on -/

/-- The token stands where the first one does, or at `c` where that is behind. -/
structure Placed.Pushed (c : Nat) (s t : Placed) : Prop where
  token : t.token = s.token
  start : t.start.index = max (c : Int) s.start.index
  stop : t.stop.index = max (c : Int) s.stop.index

/-- **What the error of a reading becomes** once the cursor has passed `c` characters, and the index
at which it leaves the cursor. -/
inductive Error.Pushed (text : List Char) (c : Nat) (d e : Error) (cursor : Int) : Prop
  /-- A literal that is too large stands where it did, or at `c` where that is behind. -/
  | literalTooLarge (hkind : d.kind = .literalTooLarge) (hkind' : e.kind = .literalTooLarge)
    (hdetails : e.details = d.details) (hstart : e.start.index = max (c : Int) d.start.index)
    (hstop : e.stop.index = max (c : Int) d.stop.index)
    (hcursor : cursor = max (c : Int) d.stop.index)
  /-- Where a character was illegal the one under the cursor is; at the end there is none. -/
  | illegalCharacter {s : Nat} (hkind : d.kind = .illegalCharacter) (hs : d.start.index = s)
    (hkind' : e.kind = .illegalCharacter) (hstart : e.start.index = ↑(max c s))
    (hstop : e.stop.index = ↑(min (max c s + 1) text.length))
    (hdetails : e.details = (text[max c s]?.map Text.quoteChar).getD "")
    (hcursor : cursor = ↑(min (max c s + 1) text.length))

theorem Error.Pushed.le_cursor {text : List Char} {c : Nat} {d e : Error} {cursor : Int}
    (h : d.Pushed text c e cursor) (hc : c ≤ text.length) : (c : Int) ≤ cursor := by
  cases h with
  | literalTooLarge _ _ _ _ _ hcursor => omega
  | illegalCharacter _ _ _ _ _ _ hcursor => omega

namespace Lexer

variable {source : Source} {c i k : Nat}

/-! ### Where the cursor goes -/

/-- The cursor behind the first `i` characters of a source. -/
def behind (source : Source) (i : Nat) : Lexer :=
  between source (source.text.toList.take i) (source.text.toList.drop i)

theorem start_eq_behind (source : Source) : start source = behind source 0 := rfl

theorem within_behind (source : Source) (i : Nat) : (behind source i).Within source :=
  ⟨_, _, List.take_append_drop .., rfl⟩

theorem Within.exists_behind {l : Lexer} (h : l.Within source) :
    ∃ c, c ≤ source.text.length ∧ l = behind source c := by
  obtain ⟨passed, rest, htext, rfl⟩ := h
  refine ⟨passed.length, length_le_of_append htext, ?_⟩
  rw [behind, ← htext, List.take_left, List.drop_left]

theorem source_behind : (behind source i).position.source = source := by
  simp [behind, between, Position.first, Position.start]

theorem index_behind : (behind source i).position.index = ↑(min i source.text.length) := by
  rw [behind, index_between, List.length_take, String.length_toList]

theorem current?_behind : (behind source i).current? = source.text.toList[i]? := by
  rw [current?, behind, between, List.head?_drop]

/-- The cursor moves forward to a place ahead of it, and does not move to one that it has passed. -/
theorem seek_behind :
    (behind source c).seek (utf8Length (source.text.toList.take i)) = behind source (max c i) := by
  rcases Nat.le_total i c with hle | hle
  · rw [Nat.max_eq_left hle]
    exact seek_of_le (utf8Length_take_le _ hle)
  · have htake : source.text.toList.take i =
        source.text.toList.take c ++ (source.text.toList.drop c).take (i - c) := by
      rw [← List.take_add, Nat.add_sub_cancel' hle]
    have hrest : (source.text.toList.drop c).drop (i - c) = source.text.toList.drop i := by
      rw [List.drop_drop, Nat.add_sub_cancel' hle]
    have hdrop : source.text.toList.drop c =
        (source.text.toList.drop c).take (i - c) ++ source.text.toList.drop i := by
      rw [← hrest, List.take_append_drop]
    rw [Nat.max_eq_right hle, behind, hdrop, htake, seek_between, behind, htake]

theorem advance_behind : (behind source c).advance = behind source (c + 1) := by
  cases hrest : source.text.toList.drop c with
  | nil =>
    have hle : source.text.toList.length ≤ c := List.drop_eq_nil_iff.1 hrest
    rw [behind, behind, List.drop_eq_nil_of_le hle, List.drop_eq_nil_of_le (by omega),
      List.take_of_length_le hle, List.take_of_length_le (by omega), advance_between_nil]
  | cons d rest =>
    have hd : source.text.toList[c]? = some d := by rw [← List.head?_drop, hrest, List.head?_cons]
    have hbehind : source.text.toList.drop (c + 1) = rest := by
      rw [← List.drop_drop, hrest, List.drop_succ_cons, List.drop_zero]
    rw [behind, behind, hrest, advance_between, List.take_add_one, hd, hbehind, Option.toList_some]

theorem behind_congr {j : Nat} (h : min i source.text.length = min j source.text.length) :
    behind source i = behind source j := by
  rw [← String.length_toList] at h
  have htake := List.take_eq_take_iff.2 h
  have hdrop : source.text.toList.drop i = source.text.toList.drop j := by
    refine (List.append_right_inj (source.text.toList.take i)).1 ?_
    rw [List.take_append_drop, htake, List.take_append_drop]
  rw [behind, htake, hdrop, behind]

/-! ### One piece, read by two lexers -/

/-- The first reading leaves the cursor behind some characters, and the second one behind the same
or behind `c`; or both fail. -/
inductive Pushes (source : Source) (c : Nat) {α : Type} (R : α → α → Prop)
    (o o' : Outcome Lexer α) : Prop
  | value {a a' : α} {j : Nat} (h : o.result = .ok a) (h' : o'.result = .ok a') (hR : R a a')
    (hstate : o.state = behind source j) (hstate' : o'.state = behind source (max c j))
  | failure {d e : Error} (h : o.result = .error d) (h' : o'.result = .error e)
    (hpushed : d.Pushed source.text.toList c e o'.state.position.index)

theorem pushes_read (hc : c ≤ source.text.length) (k : Nat) {piece : Piece}
    (hfits : piece.Fits source.text.toList) :
    Pushes source c (Placed.Pushed c) ((behind source k).read piece)
      ((behind source (max c k)).read piece) := by
  obtain ⟨⟨i, hstart⟩, j, hstop⟩ := hfits
  unfold read
  simp only [hstart, hstop, seek_behind]
  rcases piece.token with (_ | digits) | token
  · have hcursor : behind source (max (max c k) i) =
        behind source (max c (min (max k i) source.text.length)) := behind_congr (by omega)
    rw [hcursor]
    refine .failure rfl rfl (.illegalCharacter rfl index_behind rfl ?_ ?_ ?_ ?_) <;>
      simp only [Error.illegal, illegal, current?_behind, advance_behind, index_behind,
        String.length_toList]
    omega
  · refine .failure rfl rfl (.literalTooLarge rfl rfl rfl ?_ ?_ ?_)
    all_goals
      simp only [Outcome.fail, Error.tooLarge, index_behind]
      omega
  · refine .value rfl rfl ⟨rfl, ?_, ?_⟩ rfl ?_
    · simp only [index_behind]
      omega
    · simp only [index_behind]
      omega
    · simp only [Nat.max_assoc]

/-! ### The whole text, read by two lexers -/

section Steps

variable {α β : Type} {R : α → α → Prop} {S : β → β → Prop} {o o' : Outcome Lexer α}

theorem Pushes.map (h : Pushes source c R o o') {f f' : α → β}
    (hf : ∀ a a', R a a' → S (f a) (f' a')) : Pushes source c S (o.map f) (o'.map f') := by
  cases h with
  | failure h h' hpushed =>
    refine .failure (Outcome.result_map_eq_error_iff.2 h) (Outcome.result_map_eq_error_iff.2 h') ?_
    rwa [Outcome.state_map]
  | value h h' hR hstate hstate' =>
    exact .value (by rw [Outcome.result_map, h]; rfl) (by rw [Outcome.result_map, h']; rfl)
      (hf _ _ hR) hstate hstate'

theorem Pushes.bind (h : Pushes source c R o o') {next next' : α → Lexer → Outcome Lexer β}
    (hnext : ∀ a a' j, R a a' →
      Pushes source c S (next a (behind source j)) (next' a' (behind source (max c j)))) :
    Pushes source c S (o.bind next) (o'.bind next') := by
  cases h with
  | failure h h' hpushed =>
    refine .failure (Outcome.result_bind_of_error h _) (Outcome.result_bind_of_error h' _) ?_
    rwa [Outcome.state_bind_of_error h']
  | @value _ _ j h h' hR hstate hstate' =>
    have hstep := hnext _ _ j hR
    rw [← hstate, ← hstate'] at hstep
    cases hstep with
    | failure hd he hpushed =>
      refine .failure ((Outcome.result_bind_of_ok h _).trans hd)
        ((Outcome.result_bind_of_ok h' _).trans he) ?_
      rwa [Outcome.state_bind_of_ok h']
    | value ha ha' hS hlast hlast' =>
      exact .value ((Outcome.result_bind_of_ok h _).trans ha)
        ((Outcome.result_bind_of_ok h' _).trans ha') hS
        ((Outcome.state_bind_of_ok h _).trans hlast) ((Outcome.state_bind_of_ok h' _).trans hlast')

theorem Pushes.of_ok (h : Pushes source c R o o') {a : α} (ha : o.result = .ok a) :
    ∃ a', o'.result = .ok a' ∧ R a a' := by
  cases h with
  | failure hd => cases ha.symm.trans hd
  | value h h' hR =>
    obtain rfl := Except.ok.inj (ha.symm.trans h)
    exact ⟨_, h', hR⟩

theorem Pushes.of_error (h : Pushes source c R o o') {d : Error} (hd : o.result = .error d) :
    ∃ e, o'.result = .error e ∧
      d.Pushed source.text.toList c e o'.state.position.index := by
  cases h with
  | value ha => cases hd.symm.trans ha
  | failure h h' hpushed =>
    obtain rfl := Except.error.inj (hd.symm.trans h)
    exact ⟨_, h', hpushed⟩

end Steps

theorem pushes_readAll (hc : c ≤ source.text.length) (k : Nat) {pieces : List Piece}
    (hfits : ∀ piece ∈ pieces, piece.Fits source.text.toList) :
    Pushes source c (fun first again => List.Forall₂ (Placed.Pushed c) first.toList again.toList)
      ((behind source k).readAll pieces) ((behind source (max c k)).readAll pieces) := by
  induction pieces generalizing k with
  | nil => exact .value rfl rfl .nil rfl rfl
  | cons piece pieces ih =>
    obtain ⟨hpiece, hpieces⟩ := List.forall_mem_cons.1 hfits
    rw [readAll_cons, readAll_cons]
    refine (pushes_read hc k hpiece).bind fun placed placed' j hplaced => ?_
    refine (ih j hpieces).map fun more more' hmore => ?_
    rw [Array.toList_append, Array.toList_append]
    exact .cons hplaced hmore

theorem seek_end (j : Nat) :
    (behind source j).seek (utf8Length source.text.toList) = behind source source.text.length := by
  rw [(within_behind source j).seek_end, behind, ← String.length_toList, List.take_length,
    List.drop_length]

/-- **A later reading pushes on what the first one gave.** -/
theorem pushes_tokens (hc : c ≤ source.text.length) :
    Pushes source c (List.Forall₂ (Placed.Pushed c)) (start source).tokens
      (behind source c).tokens := by
  have hall := pushes_readAll hc 0 (Piece.fits_scan source.text.toList)
  rw [Nat.max_zero] at hall
  unfold tokens
  rw [start_eq_behind, source_behind, source_behind]
  refine hall.bind fun first again j hpushed => .value rfl rfl hpushed (seek_end j) ?_
  rw [Nat.max_eq_right hc]
  exact seek_end _

/-! ### One reading after the other -/

/-- The lexer of a source after `k` readings. -/
def afterReadings (source : Source) : (k : Nat) → Lexer
  | 0 => start source
  | k + 1 => (afterReadings source k).tokens.state

section Within

variable {l : Lexer}

theorem Within.source_position (h : l.Within source) : l.position.source = source := by
  obtain ⟨c, -, rfl⟩ := h.exists_behind
  exact source_behind

theorem Within.tokens (h : l.Within source) : l.tokens.state.Within source := by
  have hread := h.readAll (Piece.scan l.position.source.text.toList)
  unfold Lexer.tokens
  cases hresult : (l.readAll (Piece.scan l.position.source.text.toList)).result with
  | error e => rwa [Outcome.state_bind_of_error hresult]
  | ok tokens =>
    rw [Outcome.state_bind_of_ok hresult]
    exact hread.seek _

theorem Within.index_tokens (h : l.Within source) {tokens : List Placed}
    (hok : l.tokens.result = .ok tokens) :
    l.tokens.state.position.index = source.text.length := by
  have hwithin := h.readAll (Piece.scan l.position.source.text.toList)
  obtain ⟨read, hread, -⟩ := readAll_of_tokens hok
  have hstate := Outcome.state_bind_of_ok hread fun tokens l' =>
    (⟨.ok tokens.toList, l'.seek (utf8Length l.position.source.text.toList),
      #[.lexed tokens.size]⟩ : Outcome Lexer (List Placed))
  have hend : l.tokens.state = between source source.text.toList [] := by
    refine hstate.trans ?_
    rw [h.source_position] at hwithin ⊢
    exact hwithin.seek_end
  rw [hend, index_between, String.length_toList]

end Within

theorem within_afterReadings (source : Source) (k : Nat) :
    (afterReadings source k).Within source := by
  induction k with
  | zero => exact within_start source
  | succ k ih => exact ih.tokens

theorem exists_pushes (source : Source) (k : Nat) :
    ∃ c, c ≤ source.text.length ∧ (afterReadings source k).position.index = c ∧
      Pushes source c (List.Forall₂ (Placed.Pushed c)) (start source).tokens
        (afterReadings source k).tokens := by
  obtain ⟨c, hc, heq⟩ := (within_afterReadings source k).exists_behind
  rw [heq, index_behind, Nat.min_eq_left hc]
  exact ⟨c, hc, rfl, pushes_tokens hc⟩

theorem le_afterReadings (source : Source) (k : Nat) :
    (afterReadings source k).position.index ≤ (afterReadings source (k + 1)).position.index := by
  obtain ⟨c, hc, hindex, hpushes⟩ := exists_pushes source k
  rw [hindex]
  cases hpushes with
  | value _ h' =>
    have hend : (afterReadings source (k + 1)).position.index = source.text.length :=
      (within_afterReadings source k).index_tokens h'
    omega
  | failure _ _ hpushed =>
    rw [← String.length_toList] at hc
    exact hpushed.le_cursor hc

section Illegal

variable {d : Error} {s : Nat}

theorem exists_illegal (hd : (start source).tokens.result = .error d)
    (hkind : d.kind = .illegalCharacter) : ∃ s < source.text.length, d.start.index = s := by
  obtain ⟨words, stuck, hscan⟩ := exists_scan 0 source.text.toList
  have hanswer := tokens_answer hscan
  rw [hd] at hanswer
  rcases hanswer.error_cases with ⟨-, w, -, -, -, -, he⟩ | ⟨s, -, -, he⟩
  · cases hkind.symm.trans he.kind
  · obtain ⟨c, hc, -⟩ := he.details
    obtain ⟨hlt, -⟩ := List.getElem?_eq_some_iff.1 hc
    exact ⟨s, String.length_toList ▸ hlt, he.start⟩

/-- Each reading leads the cursor one character beyond the illegal one. -/
theorem max_afterReadings (hd : (start source).tokens.result = .error d)
    (hkind : d.kind = .illegalCharacter) (hs : d.start.index = s) (hlt : s < source.text.length)
    (k : Nat) :
    max (afterReadings source k).position.index (s : Int) = ↑(min (s + k) source.text.length) := by
  induction k with
  | zero =>
    have hstart : (afterReadings source 0).position.index = 0 := rfl
    rw [hstart]
    omega
  | succ k ih =>
    obtain ⟨c, hc, hindex, hpushes⟩ := exists_pushes source k
    obtain ⟨e, -, hpushed⟩ := hpushes.of_error hd
    change d.Pushed _ c e (afterReadings source (k + 1)).position.index at hpushed
    rw [hindex] at ih
    cases hpushed with
    | literalTooLarge hother => cases hkind.symm.trans hother
    | illegalCharacter _ hs' _ _ _ _ hcursor =>
      rw [hcursor, String.length_toList]
      omega

/-- Each reading reports the next character. -/
theorem exists_error_afterReadings (hd : (start source).tokens.result = .error d)
    (hkind : d.kind = .illegalCharacter) (hs : d.start.index = s) (hlt : s < source.text.length)
    (k : Nat) :
    ∃ e, (afterReadings source k).tokens.result = .error e ∧ e.kind = .illegalCharacter ∧
      e.start.index = ↑(min (s + k) source.text.length) ∧
      e.details =
        (source.text.toList[min (s + k) source.text.length]?.map Text.quoteChar).getD "" := by
  have hmax := max_afterReadings hd hkind hs hlt k
  obtain ⟨c, hc, hindex, hpushes⟩ := exists_pushes source k
  obtain ⟨e, he, hpushed⟩ := hpushes.of_error hd
  rw [hindex] at hmax
  refine ⟨e, he, ?_⟩
  cases hpushed with
  | literalTooLarge hother => cases hkind.symm.trans hother
  | @illegalCharacter s' _ hs' hkind' hstart _ hdetails _ =>
    have hplace : max c s' = min (s + k) source.text.length := by omega
    rw [hplace] at hstart hdetails
    exact ⟨hkind', hstart, hdetails⟩

end Illegal

/-- **Reading a source once more**, after `k` readings that left the cursor behind `c` characters,
gives the same tokens, or fails for the same reason, with what lies behind the cursor pushed on to
it. The cursor never moves backwards. Where the first reading found an illegal character, each
reading reports the next character, until the text ends. -/
theorem tokens_again (source : Source) (k : Nat) :
    ∃ c : Nat, c ≤ source.text.length ∧ (afterReadings source k).position.index = c ∧
      (∀ tokens, (start source).tokens.result = .ok tokens →
        ∃ again, (afterReadings source k).tokens.result = .ok again ∧
          List.Forall₂ (Placed.Pushed c) tokens again ∧
          (afterReadings source (k + 1)).position.index = source.text.length) ∧
      (∀ d, (start source).tokens.result = .error d →
        ∃ e, (afterReadings source k).tokens.result = .error e ∧
          d.Pushed source.text.toList c e (afterReadings source (k + 1)).position.index) ∧
      (afterReadings source k).position.index ≤ (afterReadings source (k + 1)).position.index ∧
      ∀ d, (start source).tokens.result = .error d → d.kind = .illegalCharacter →
        ∃ (s : Nat) (e : Error), d.start.index = s ∧
          (afterReadings source k).tokens.result = .error e ∧ e.kind = .illegalCharacter ∧
          e.start.index = ↑(min (s + k) source.text.length) ∧
          e.details =
            (source.text.toList[min (s + k) source.text.length]?.map Text.quoteChar).getD "" := by
  obtain ⟨c, hc, hindex, hpushes⟩ := exists_pushes source k
  refine ⟨c, hc, hindex, ?_, fun d hd => hpushes.of_error hd, le_afterReadings source k, ?_⟩
  · intro tokens hok
    obtain ⟨again, hagain, hpushed⟩ := hpushes.of_ok hok
    exact ⟨again, hagain, hpushed, (within_afterReadings source k).index_tokens hagain⟩
  · intro d hd hkind
    obtain ⟨s, hlt, hs⟩ := exists_illegal hd hkind
    obtain ⟨e, herror⟩ := exists_error_afterReadings hd hkind hs hlt k
    exact ⟨s, e, hs, herror⟩

/-- Behind the illegal character a later reading reports the next one, and then none. -/
theorem tokens_again_illegal :
    let source : Source := ⟨"<test>", "1$2"⟩
    let d : Error := ⟨.illegalCharacter, ⟨1, 0, 1, source⟩, ⟨2, 0, 2, source⟩, "'$'"⟩
    (start source).tokens.result = .error d ∧
      (∃ e, (afterReadings source 1).tokens.result = .error e ∧ e.start.index = 2 ∧
        e.details = "'2'") ∧
      ∃ e, (afterReadings source 3).tokens.result = .error e ∧ e.start.index = 3 ∧
        e.details = "" := by
  intro source d
  have hd : (start source).tokens.result = .error d := by decide +kernel
  obtain ⟨-, -, -, -, -, -, hsecond⟩ := tokens_again source 1
  obtain ⟨s, e, hs, he, -, hstart, hdetails⟩ := hsecond d hd rfl
  obtain ⟨-, -, -, -, -, -, hfourth⟩ := tokens_again source 3
  obtain ⟨s', e', hs', he', -, hstart', hdetails'⟩ := hfourth d hd rfl
  obtain rfl : 1 = s := Int.ofNat_inj.1 hs
  obtain rfl : 1 = s' := Int.ofNat_inj.1 hs'
  exact ⟨hd, ⟨e, he, hstart.trans (by decide +kernel), hdetails.trans (by decide +kernel)⟩,
    e', he', hstart'.trans (by decide +kernel), hdetails'.trans (by decide +kernel)⟩

end Lexer

end Calculator
