import Calculator.Proofs.Evaluation.Blame
import Mathlib.Data.List.TakeDrop

/-! # How an error is shown

The message of an error has two lines, and nothing in the first can be taken for the end of it: no
title has a colon, and no details hold a line break, whatever they quote (`Blames.unbroken`). So
the message is read back from the left, the kind up to the first colon, the details up to the first
line feed, and what is left is the name of the source, which may hold anything (`evaluate_message`).

* `unbroken_number`, `unbroken_token`: what details name.
* `span_append_cons`: where a text splits at the first of some character.
* `headline_inj`: the first line tells the kind and the details. -/

namespace Calculator

/-- The text has no line break. -/
def Text.Unbroken (text : List Char) : Prop := ∀ c ∈ text, c ≠ '\n' ∧ c ≠ '\r'

instance (text : List Char) : Decidable (Text.Unbroken text) :=
  List.decidableBAll _ text

namespace Text

/-! ### Texts without line breaks -/

variable {left right text : List Char}

@[simp] theorem unbroken_append : Unbroken (left ++ right) ↔ Unbroken left ∧ Unbroken right :=
  List.forall_mem_append

@[simp] theorem unbroken_cons {c : Char} :
    Unbroken (c :: text) ↔ (c ≠ '\n' ∧ c ≠ '\r') ∧ Unbroken text :=
  List.forall_mem_cons

@[simp] theorem unbroken_nil : Unbroken [] := List.forall_mem_nil _

theorem Unbroken.take (h : Unbroken text) (n : Nat) : Unbroken (text.take n) :=
  fun c hc => h c (List.mem_of_mem_take hc)

theorem Unbroken.drop (h : Unbroken text) (n : Nat) : Unbroken (text.drop n) :=
  fun c hc => h c (List.mem_of_mem_drop hc)

theorem unbroken_of_digits (h : ∀ c ∈ text, c.isDigit) : Unbroken text := by
  intro c hc
  have hdigit := h c hc
  constructor
  · rintro rfl
    exact absurd hdigit (by decide)
  · rintro rfl
    exact absurd hdigit (by decide)

theorem unbroken_zeros (n : Nat) : Unbroken (List.replicate n '0') := by
  intro c hc
  obtain rfl := List.eq_of_mem_replicate hc
  decide

/-- A quoted character is shown without a line break, even if it is one. -/
theorem unbroken_quoteChar (c : Char) : Unbroken (quoteChar c).toList := by
  rw [quoteChar, String.toList_ofList, List.cons_append, unbroken_cons, unbroken_append]
  exact ⟨by decide, fun d hd => escape_ne (by decide) (by decide) hd, by decide⟩

end Text

/-! ### Numbers and tokens -/

namespace Decimal

open Text

theorem unbroken_digitsOf (n : Nat) : Unbroken (digitsOf n) :=
  unbroken_of_digits fun _ => isDigit_of_mem_digitsOf

theorem unbroken_integer (k : Int) : Unbroken (integer k) := by
  cases k with
  | ofNat n => exact unbroken_digitsOf n
  | negSucc n => exact unbroken_cons.2 ⟨by decide, unbroken_digitsOf (n + 1)⟩

theorem unbroken_plain {digits : List Char} (h : Unbroken digits) (point : Int) :
    Unbroken (plain digits point) := by
  unfold plain
  split
  · simp only [unbroken_append]
    exact ⟨⟨by decide, unbroken_zeros _⟩, h⟩
  · simp only [unbroken_append]
    refine ⟨⟨⟨h.take _, unbroken_zeros _⟩, by decide⟩, ?_⟩
    split
    · decide
    · exact h.drop _

theorem unbroken_scientific {digits : List Char} (h : Unbroken digits) (point : Int) :
    Unbroken (scientific digits point) := by
  unfold scientific
  simp only [unbroken_append]
  refine ⟨⟨⟨h.take 1, ?_⟩, by decide⟩, unbroken_integer (point - 1)⟩
  split
  · exact unbroken_nil
  · exact unbroken_cons.2 ⟨by decide, h.drop 1⟩

theorem unbroken_magnitude (x : Float) : Unbroken (magnitude x) := by
  unfold magnitude positive
  split
  · decide
  split
  · decide
  simp only
  split
  · exact unbroken_plain (unbroken_digitsOf _) _
  · exact unbroken_scientific (unbroken_digitsOf _) _

theorem unbroken_float (x : Float) : Unbroken (float x) := by
  unfold float
  split
  · decide
  split
  · exact unbroken_cons.2 ⟨by decide, unbroken_magnitude x.abs⟩
  · exact unbroken_magnitude x

end Decimal

open Text

theorem unbroken_number (v : Number) : Unbroken v.text.toList := by
  cases v with
  | integer n =>
    rw [Number.text, String.toList_ofList]
    exact Decimal.unbroken_integer n.toInt
  | float x =>
    rw [Number.text, String.toList_ofList]
    exact Decimal.unbroken_float x

theorem unbroken_token (token : Token) : Unbroken token.text.toList := by
  cases token with
  | number v => exact unbroken_number v
  | operator op => cases op <;> decide
  | openParen => decide
  | closeParen => decide

/-! ### Details -/

/-- **No details hold a line break**, whatever they quote from the text. -/
theorem Error.Blames.unbroken {text : List Char} {i j : Nat} {kind : Error.Kind} {details : String}
    (h : Error.Blames text i j kind details) : Unbroken details.toList := by
  cases h with
  | illegalCharacter => exact unbroken_quoteChar _
  | literalTooLarge hrun =>
    simp only [String.toList_append, unbroken_append, String.toList_ofList]
    exact ⟨unbroken_of_digits hrun.digits, by decide⟩
  | divisionByZero =>
    simp only [String.toList_append, unbroken_append]
    exact ⟨⟨unbroken_number _, by decide⟩, unbroken_number _⟩
  | overflow hc =>
    have hsymbol : ∀ c ∈ ['+', '-', '*'], Unbroken [c] := by simp
    simp only [String.toList_append, unbroken_append, String.toList_ofList]
    exact ⟨⟨⟨⟨⟨unbroken_number _, by decide⟩, hsymbol _ hc⟩, by decide⟩, unbroken_number _⟩,
      by decide⟩
  | nestingTooDeep => decide
  | unexpectedEnd hwanted =>
    have hunbroken : ∀ wanted ∈ ["number or '('", "')'"], Unbroken wanted.toList := by decide
    simp only [String.toList_append, unbroken_append]
    exact ⟨⟨by decide, hunbroken _ hwanted⟩, by decide⟩
  | unexpectedToken hwanted =>
    have hunbroken : ∀ wanted ∈ ["number or '('", "')'"], Unbroken wanted.toList := by decide
    simp only [String.toList_append, unbroken_append]
    exact ⟨⟨⟨by decide, hunbroken _ hwanted⟩, by decide⟩, unbroken_token _⟩
  | trailingInput =>
    simp only [String.toList_append, unbroken_append]
    exact ⟨by decide, unbroken_token _⟩

theorem unbroken_of_evaluate {source : Source} {e : Error} (h : source.evaluate.result = .error e) :
    Unbroken e.details.toList := by
  obtain ⟨i, j, -, hblame⟩ := blames_of_evaluate h
  exact hblame.unbroken

/-! ### Reading a message back -/

theorem span_append_cons {front : List Char} {c : Char} (h : c ∉ front) (back : List Char) :
    (front ++ c :: back).span (· != c) = (front, c :: back) := by
  have hfront : ∀ d ∈ front, (d != c) = true := by
    intro d hd
    rw [bne_iff_ne]
    rintro rfl
    exact h hd
  rw [List.span_eq_takeWhile_dropWhile, List.takeWhile_append_of_pos hfront,
    List.dropWhile_append_of_pos hfront]
  simp

theorem append_cons_inj {front front' back back' : List Char} {c : Char} (h : c ∉ front)
    (h' : c ∉ front') (heq : front ++ c :: back = front' ++ c :: back') :
    front = front' ∧ back = back' := by
  have hspan := span_append_cons h back
  rw [heq, span_append_cons h' back', Prod.mk.injEq, List.cons.injEq] at hspan
  exact ⟨hspan.1.symm, hspan.2.2.symm⟩

theorem title_injective {kind kind' : Error.Kind} (h : kind.title = kind'.title) :
    kind = kind' := by
  cases kind <;> cases kind' <;> first | rfl | exact absurd h (by decide)

theorem unbroken_title (kind : Error.Kind) : Unbroken kind.title.toList := by
  cases kind <;> decide

theorem colon_not_mem_title (kind : Error.Kind) : ':' ∉ kind.title.toList := by
  cases kind <;> decide

/-- **The first line tells the kind and the details.** -/
theorem headline_inj {kind kind' : Error.Kind} {details details' : String} :
    kind.title ++ ": " ++ details = kind'.title ++ ": " ++ details' ↔
      kind = kind' ∧ details = details' := by
  constructor
  · intro h
    have hchars := congrArg String.toList h
    simp only [String.toList_append, List.append_assoc] at hchars
    obtain ⟨htitle, hback⟩ :=
      append_cons_inj (colon_not_mem_title kind) (colon_not_mem_title kind') hchars
    exact ⟨title_injective (String.toList_inj.1 htitle),
      String.toList_inj.1 (List.cons.inj hback).2⟩
  · rintro ⟨rfl, rfl⟩
    rfl

theorem lineFeed_not_mem_headline {kind : Error.Kind} {details : String}
    (h : Unbroken details.toList) : '\n' ∉ (kind.title ++ ": " ++ details).toList := by
  have hline : Unbroken (kind.title ++ ": " ++ details).toList := by
    simp only [String.toList_append, unbroken_append]
    exact ⟨⟨unbroken_title kind, by decide⟩, h⟩
  exact fun hmem => (hline _ hmem).1 rfl

section Evaluation

variable {source other : Source} {d e : Error}

theorem toList_message (h : source.evaluate.result = .error e) :
    e.message.toList = (e.kind.title ++ ": " ++ e.details).toList ++
      '\n' :: ("File " ++ source.name ++ ", line 1").toList := by
  rw [message_of_evaluate h]
  simp [String.toList_append]

theorem message_inj (hd : source.evaluate.result = .error d)
    (he : other.evaluate.result = .error e) (h : d.message = e.message) :
    d.kind = e.kind ∧ d.details = e.details ∧ source.name = other.name := by
  have hchars := congrArg String.toList h
  rw [toList_message hd, toList_message he] at hchars
  obtain ⟨hheadline, hlabel⟩ := append_cons_inj
    (lineFeed_not_mem_headline (unbroken_of_evaluate hd))
    (lineFeed_not_mem_headline (unbroken_of_evaluate he)) hchars
  obtain ⟨hkind, hdetails⟩ := headline_inj.1 (String.toList_inj.1 hheadline)
  refine ⟨hkind, hdetails, String.toList_inj.1 ?_⟩
  simpa [String.toList_append] using hlabel

end Evaluation

/-- **The message of an error loses nothing.** The details hold no line break, so the message splits
at its first line feed into the kind with the details and the name of the source. Two errors, of
any sources, have the same message exactly if they have the same kind and the same details and the
sources have the same name. -/
theorem evaluate_message (source other : Source) (d e : Error)
    (hd : source.evaluate.result = .error d) (he : other.evaluate.result = .error e) :
    ('\n' ∉ d.details.toList ∧ '\r' ∉ d.details.toList) ∧
      d.message.toList.span (· != '\n') =
        ((d.kind.title ++ ": " ++ d.details).toList,
          '\n' :: ("File " ++ source.name ++ ", line 1").toList) ∧
      (d.message = e.message ↔
        d.kind = e.kind ∧ d.details = e.details ∧ source.name = other.name) := by
  have hunbroken := unbroken_of_evaluate hd
  refine ⟨⟨fun h => (hunbroken _ h).1 rfl, fun h => (hunbroken _ h).2 rfl⟩, ?_, ?_⟩
  · rw [toList_message hd]
    exact span_append_cons (lineFeed_not_mem_headline hunbroken) _
  · refine ⟨message_inj hd he, fun ⟨hkind, hdetails, hname⟩ => ?_⟩
    rw [message_of_evaluate hd, message_of_evaluate he, hkind, hdetails, hname]

/-- A name that looks like the end of another message is not taken for it. -/
theorem evaluate_message_line_feed :
    let source : Source := ⟨"b, line 1\nFile a", "1\n"⟩
    let other : Source := ⟨"a", "1\n"⟩
    let d : Error := ⟨.illegalCharacter, ⟨1, 0, 1, source⟩, ⟨2, 1, 0, source⟩, "'\\n'"⟩
    let e : Error := ⟨.illegalCharacter, ⟨1, 0, 1, other⟩, ⟨2, 1, 0, other⟩, "'\\n'"⟩
    source.evaluate.result = .error d ∧ other.evaluate.result = .error e ∧
      d.message.toList.span (· != '\n') =
        ("Illegal Character: '\\n'".toList, "\nFile b, line 1\nFile a, line 1".toList) ∧
      d.message ≠ e.message := by
  intro source other d e
  have hd : source.evaluate.result = .error d := Source.result_evaluate_of_error (by decide)
  have he : other.evaluate.result = .error e := Source.result_evaluate_of_error (by decide)
  obtain ⟨-, hspan, hmessage⟩ := evaluate_message source other d e hd he
  exact ⟨hd, he, hspan.trans (by decide), fun h => absurd (hmessage.1 h).2.2 (by decide)⟩

end Calculator
