import Calculator.Proofs.Lexer.Again
import Calculator.Proofs.Lexer.Places
import Calculator.Text.Cut

/-! # What a cursor keeps

A cursor holds its place four times: as a position, as a number of bytes, as the text ahead and as
the character under it. Wherever the cursor of a source is led, step by step, to some target, or by
readings that end well or fail, these agree (`counts_of_reached`): each operation leaves it behind
some of the characters (`Reached.within`), and there everything follows from their number
(`counts_behind`). The positions that a reading stores in its tokens or in its error are of the same
kind. -/

namespace Calculator

theorem utf8Length_eq (chars : List Char) :
    utf8Length chars = (String.ofList chars).utf8ByteSize := by
  induction chars with
  | nil => rfl
  | cons c chars ih =>
    rw [utf8Length_cons, ih, String.ofList_cons, String.utf8ByteSize_append,
      String.utf8ByteSize_singleton]

/-! ### Positions -/

/-- **The position counts what stands before it** in the source. -/
structure Position.Counts (source : Source) (p : Position) : Prop where
  nonneg : 0 ≤ p.index
  le_length : p.index ≤ source.text.length
  /-- The line feeds before it. -/
  line : p.line = (source.text.toList.take p.index.toNat).count '\n'
  /-- The characters behind the last of them. -/
  column : p.column = (Text.lastLine (source.text.toList.take p.index.toNat)).length

theorem Position.Within.counts {source : Source} {p : Position} (h : p.Within source) :
    p.Counts source := by
  obtain ⟨passed, rest, htext, rfl⟩ := h
  have htake : source.text.toList.take passed.length = passed := by rw [← htext, List.take_left]
  rw [Position.pass_first_eq]
  constructor
  case nonneg => exact Int.natCast_nonneg _
  case le_length => exact Int.ofNat_le.2 (Lexer.length_le_of_append htext)
  case line => rw [Int.toNat_natCast, htake]
  case column => rw [Int.toNat_natCast, htake]

/-! ### Targets -/

/-- The places in bytes that a scan tells: both ends of each piece, and the end of the text. -/
inductive Piece.Boundary (text : List Char) : Nat → Prop
  | start {piece : Piece} (h : piece ∈ scan text) : Boundary text piece.start
  | stop {piece : Piece} (h : piece ∈ scan text) : Boundary text piece.stop
  | last : Boundary text (utf8Length text)

theorem Piece.Boundary.exists_take {text : List Char} {target : Nat} (h : Boundary text target) :
    ∃ i, target = utf8Length (text.take i) := by
  cases h with
  | start hmem => exact (fits_scan text _ hmem).1
  | stop hmem => exact (fits_scan text _ hmem).2
  | last => exact ⟨text.length, by rw [List.take_length]⟩

namespace Lexer

variable {source : Source} {l : Lexer}

/-! ### Cursors -/

/-- **The parts of the cursor agree**: all of them are given by the index of its position. -/
structure Counts (source : Source) (l : Lexer) : Prop where
  position : l.position.Counts source
  /-- The bytes of the characters before it. -/
  offset : l.offset =
    (String.ofList (source.text.toList.take l.position.index.toNat)).utf8ByteSize
  /-- The text can be cut there, and the cursor goes on with what follows. -/
  rest : Text.dropBytes? l.offset source.text.toList = some l.rest
  current : l.current? = source.text.toList[l.position.index.toNat]?
  current_none : l.current? = none ↔ l.position.index = source.text.length
  /-- A target of the scan that does not lie behind the cursor is met. -/
  seek : ∀ target, Piece.Boundary source.text.toList target → l.offset ≤ target →
    (l.seek target).offset = target

/-- The cursor is one of the source: on its first character, or led on from there by single steps,
to some target or by a reading. -/
inductive Reached (source : Source) : Lexer → Prop
  | start : Reached source (start source)
  | advance {l : Lexer} (h : Reached source l) : Reached source l.advance
  | seek {l : Lexer} (h : Reached source l) (target : Nat) : Reached source (l.seek target)
  | tokens {l : Lexer} (h : Reached source l) : Reached source l.tokens.state

theorem Reached.within (h : l.Reached source) : l.Within source := by
  induction h with
  | start => exact within_start source
  | advance _ ih => exact ih.advance
  | seek _ target ih => exact ih.seek target
  | tokens _ ih => exact ih.tokens

theorem offset_behind (source : Source) (i : Nat) :
    (behind source i).offset = utf8Length (source.text.toList.take i) := rfl

/-- From behind some characters a target of the scan is met, unless it has been passed. -/
theorem offset_seek_behind {c target : Nat} (htarget : Piece.Boundary source.text.toList target)
    (hle : (behind source c).offset ≤ target) :
    ((behind source c).seek target).offset = target := by
  obtain ⟨i, rfl⟩ := htarget.exists_take
  rw [seek_behind, offset_behind]
  rcases Nat.le_total c i with h | h
  · rw [Nat.max_eq_right h]
  · rw [Nat.max_eq_left h]
    exact Nat.le_antisymm hle (utf8Length_take_le _ h)

theorem counts_behind {c : Nat} (hc : c ≤ source.text.length) :
    (behind source c).Counts source := by
  have hindex : (behind source c).position.index = c := by
    rw [index_behind, Nat.min_eq_left hc]
  constructor
  case position => exact (within_behind source c).position.counts
  case offset => rw [hindex, offset_behind, utf8Length_eq, Int.toNat_natCast]
  case rest =>
    have hdrop := Text.dropBytes?_append (source.text.toList.take c) (source.text.toList.drop c)
    rwa [List.take_append_drop] at hdrop
  case current => rw [hindex, current?_behind, Int.toNat_natCast]
  case current_none =>
    rw [hindex, current?_behind, List.getElem?_eq_none_iff, String.length_toList]
    omega
  case seek => exact fun target htarget hle => offset_seek_behind htarget hle

/-- **What a cursor keeps.** Wherever a cursor of the source is led, its parts agree. Every position
that a reading from there stores in a token or in its error counts what stands before it. -/
theorem counts_of_reached (source : Source) (l : Lexer) (h : l.Reached source) :
    l.Counts source ∧
      (∀ tokens, l.tokens.result = .ok tokens → ∀ placed ∈ tokens,
        placed.start.Counts source ∧ placed.stop.Counts source) ∧
      ∀ e, l.tokens.result = .error e → e.start.Counts source ∧ e.stop.Counts source := by
  have hwithin := h.within
  refine ⟨?_, fun tokens hok placed hmem => ?_, fun e he => ?_⟩
  · obtain ⟨c, hc, rfl⟩ := hwithin.exists_behind
    exact counts_behind hc
  · obtain ⟨hstart, hstop⟩ := hwithin.tokens_ok hok placed hmem
    exact ⟨hstart.counts, hstop.counts⟩
  · obtain ⟨hstart, hstop⟩ := hwithin.tokens_error he
    exact ⟨hstart.counts, hstop.counts⟩

/-- Behind an illegal character of two bytes the cursor is on the line feed, which the next reading
steps over. -/
theorem counts_of_reached_line_feed :
    let source : Source := ⟨"<test>", "é\n"⟩
    let l := (start source).tokens.state
    let e : Error := ⟨.illegalCharacter, ⟨1, 0, 1, source⟩, ⟨2, 1, 0, source⟩, "'\\n'"⟩
    l.Reached source ∧ l.offset = 2 ∧ l.Counts source ∧ l.tokens.result = .error e ∧
      e.start.Counts source ∧ e.stop.Counts source := by
  intro source l e
  have hreached : l.Reached source := Reached.start.tokens
  have he : l.tokens.result = .error e := by decide +kernel
  obtain ⟨hcounts, -, herror⟩ := counts_of_reached source l hreached
  exact ⟨hreached, by decide +kernel, hcounts, he, herror e he⟩

end Lexer

end Calculator
