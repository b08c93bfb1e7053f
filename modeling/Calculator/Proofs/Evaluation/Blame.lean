import Calculator.Evaluation
import Calculator.Proofs.Lexer.Places
import Calculator.Proofs.Number.Apply
import Calculator.Proofs.Parser.Complaint

/-! # What the errors of an evaluation point at

Every error of an evaluation is about some characters of its source, those from `i` to `j`, and
these are what its kind names (`evaluate_error`). The errors of reading are about a word of the scan
or the place where it is stuck. Those of parsing are about a token, hence about the word of this
token, or about the end of the tokens, where the cursor of the lexer came to rest.

Everything before such a word is scanned without a line feed, so an error is always on the first
line. Only an illegal line feed leads beyond it: its end is the beginning of the second. -/

namespace Calculator

/-- The error is about the characters from `i` to `j` of the source. -/
structure Error.PointsAt (source : Source) (i j : Nat) (e : Error) : Prop where
  le : i ≤ j
  le_length : j ≤ source.text.length
  start : e.start = ⟨i, 0, i, source⟩
  stop : e.stop = if e.kind = .illegalCharacter ∧ source.text.toList[i]? = some '\n' then
    ⟨j, 1, 0, source⟩ else ⟨j, 0, j, source⟩

/-- The characters from `i` to `j` are a word of the scan, with this token. -/
def Lexed (text : List Char) (i j : Nat) (token : Token) : Prop :=
  ∃ words stuck w, Scan 0 text words stuck ∧ w ∈ words ∧ w.start = i ∧ w.stop = j ∧
    text.extract i j = w.chars ∧ Spells w.chars token

/-- **What an error of each kind is about**, and the details that say so. -/
inductive Error.Blames (text : List Char) (i j : Nat) : Error.Kind → String → Prop
  /-- A single character. -/
  | illegalCharacter {c : Char} (hlength : j = i + 1) (hc : text[i]? = some c) :
    Blames text i j .illegalCharacter (Text.quoteChar c)
  /-- A whole run of digits. -/
  | literalTooLarge (hrun : DigitRun text i j)
      (hlarge : 9223372036854775807 < Decimal.valueOf (text.extract i j)) :
    Blames text i j .literalTooLarge
      (String.ofList (text.extract i j) ++ " does not fit in a 64-bit integer")
  | divisionByZero {l r : Number} (hchars : text.extract i j = ['/']) :
    Blames text i j .divisionByZero (l.text ++ " / " ++ r.text)
  /-- One of the other operators. -/
  | overflow {c : Char} {l r : Number} (hc : c ∈ ['+', '-', '*'])
      (hchars : text.extract i j = [c]) :
    Blames text i j .overflow
      (l.text ++ " " ++ String.ofList [c] ++ " " ++ r.text ++ " does not fit in a number")
  /-- A parenthesis with as many open before it as may be. -/
  | nestingTooDeep (hchars : text.extract i j = ['('])
      (hopen : (text.take i).count '(' = (text.take i).count ')' + 128) :
    Blames text i j .nestingTooDeep "Parentheses nest deeper than 128 levels"
  /-- The end of the text. -/
  | unexpectedEnd {wanted : String} (hwanted : wanted ∈ ["number or '('", "')'"])
      (hstart : i = text.length) (hstop : j = text.length) :
    Blames text i j .unexpectedEnd ("Expected " ++ wanted ++ ", found end of input")
  /-- A word in the place of what is wanted. -/
  | unexpectedToken {wanted : String} {found : Token}
      (hwanted : wanted ∈ ["number or '('", "')'"]) (hfound : Lexed text i j found) :
    Blames text i j .unexpectedToken ("Expected " ++ wanted ++ ", found " ++ found.text)
  /-- A word behind the expression. -/
  | trailingInput {found : Token} (hfound : Lexed text i j found) :
    Blames text i j .trailingInput ("Expected end of input, found " ++ found.text)

/-! ### Errors of reading -/

section Reading

variable {source : Source} {words : List Stretch} {stuck : Option Nat} {e : Error}

theorem Stretch.TooLargeError.blames {w : Stretch} (he : w.TooLargeError e)
    (hwithin : e.Within source) (hs : Scan 0 source.text.toList words stuck) (hw : w ∈ words)
    (hlarge : TooLarge w.chars) :
    e.PointsAt source w.start w.stop ∧
      Error.Blames source.text.toList w.start w.stop e.kind e.details := by
  have hchars := hs.extract hw
  refine ⟨⟨(hs.bounds w hw).2.le, hs.stop_le hw, hwithin.1.at_start hs hw he.start, ?_⟩, ?_⟩
  · rw [if_neg (by simp [he.kind])]
    exact hwithin.2.at_stop hs hw he.stop
  · rw [he.kind, he.details, ← hchars]
    refine .literalTooLarge (hs.digitRun hw hlarge.1) ?_
    rw [hchars]
    exact hlarge.2

/-- Behind an illegal line feed the second line begins. -/
theorem IllegalAt.blames {place : Nat} (he : IllegalAt source.text.toList place e)
    (hwithin : e.Within source) (hs : Scan 0 source.text.toList words (some place)) :
    e.PointsAt source place (place + 1) ∧
      Error.Blames source.text.toList place (place + 1) e.kind e.details := by
  obtain ⟨passed, c, rest, htext, hplace, hscan⟩ := hs.before_stuck
  obtain rfl : place = passed.length := by omega
  have hc : source.text.toList[passed.length]? = some c := by
    rw [htext, List.getElem?_append_right (Nat.le_refl _), Nat.sub_self]
    rfl
  have hbehind : source.text.toList = (passed ++ [c]) ++ rest := by
    rw [htext, List.append_assoc, List.singleton_append]
  have hstop : e.stop = (Position.first source).pass (passed ++ [c]) := by
    refine hwithin.2.eq hbehind ?_
    rw [he.stop, List.length_append]
    rfl
  have hlength : passed.length + 1 ≤ source.text.length := by
    rw [← String.length_toList, htext, List.length_append, List.length_cons]
    omega
  refine ⟨⟨Nat.le_succ _, hlength, hwithin.1.first_line htext he.start hscan.ne_lineFeed, ?_⟩, ?_⟩
  · rw [hstop, Position.pass_append, Position.pass_first hscan.ne_lineFeed, hc]
    simp only [he.kind, true_and, Option.some.injEq, Position.pass_cons, Position.pass_nil,
      Position.advance]
    split <;> simp
  · obtain ⟨d, hd, hdetails⟩ := he.details
    rw [he.kind, hdetails]
    exact .illegalCharacter rfl hd

theorem blames_of_tokens (h : (Lexer.start source).tokens.result = .error e) :
    ∃ i j, e.PointsAt source i j ∧ Error.Blames source.text.toList i j e.kind e.details := by
  have hwithin := Lexer.within_of_tokens_error h
  obtain ⟨words, stuck, hs⟩ := exists_scan 0 source.text.toList
  have hanswer := Lexer.tokens_answer hs
  rw [h] at hanswer
  rcases hanswer.error_cases with ⟨before, w, after, rfl, -, hlarge, he⟩ | ⟨place, rfl, -, he⟩
  · have hw : w ∈ before ++ w :: after := List.mem_append_right _ (List.mem_cons_self ..)
    exact ⟨_, _, he.blames hwithin hs hw hlarge⟩
  · exact ⟨_, _, he.blames hwithin hs⟩

end Reading

/-! ### Errors of parsing -/

theorem Spells.operator_chars {word : List Char} {op : Operator}
    (h : Spells word (.operator op)) : word = [op.symbol] := by
  cases h
  rfl

theorem Spells.openParen_chars {word : List Char} (h : Spells word .openParen) : word = ['('] := by
  cases h
  rfl

section Parsing

variable {source : Source} {tokens : List Placed} {words : List Stretch} {e : Error}

theorem pointsAt_of_gives {w : Stretch} {found : Placed}
    (hs : Scan 0 source.text.toList words none) (hw : w ∈ words) (hgives : w.Gives found)
    (hwithin : found.Within source) (hkind : e.kind ≠ .illegalCharacter)
    (hstart : e.start = found.start) (hstop : e.stop = found.stop) :
    e.PointsAt source w.start w.stop := by
  refine ⟨(hs.bounds w hw).2.le, hs.stop_le hw, ?_, ?_⟩
  · rw [hstart]
    exact hwithin.1.at_start hs hw hgives.start
  · rw [if_neg (fun h => hkind h.1), hstop]
    exact hwithin.2.at_stop hs hw hgives.stop

theorem lexed_of_gives {w : Stretch} {found : Placed} (hs : Scan 0 source.text.toList words none)
    (hw : w ∈ words) (hgives : w.Gives found) :
    Lexed source.text.toList w.start w.stop found.token :=
  ⟨words, none, w, hs, hw, rfl, rfl, hs.extract hw, hgives.spells⟩

/-- Before a word the text opens and closes as many parentheses as the tokens before do. -/
theorem count_before {front back : List Stretch} {before : List Placed} {w : Stretch}
    (hs : Scan 0 source.text.toList (front ++ w :: back) none)
    (hgives : List.Forall₂ Stretch.Gives front before) :
    (source.text.toList.take w.start).count '(' = opened (before.map Placed.token) ∧
      (source.text.toList.take w.start).count ')' = closed (before.map Placed.token) := by
  obtain ⟨passed, rest, htext, hstart, -, -, hscan⟩ := hs.around rfl
  rw [htext, ← hstart, List.take_left]
  have hopen : ¬ Blank '(' := by simp [Blank]
  have hclose : ¬ Blank ')' := by simp [Blank]
  rw [hscan.count hopen, hscan.count hclose]
  exact ⟨count_of_gives (fun h => (count_parens h).1) hgives,
    count_of_gives (fun h => (count_parens h).2) hgives⟩

theorem blames_of_fault {text : List Char} {i j : Nat} {l r : Number} {op : Operator}
    {reason : Fault} (h : l.apply op r = .error reason) (place : Placed)
    (hchars : text.extract i j = [op.symbol]) :
    Error.Blames text i j (Error.ofFault reason l op r place).kind
      (Error.ofFault reason l op r place).details := by
  have hop := Number.apply_error h
  cases reason with
  | divisionByZero =>
    obtain rfl := hop.1 rfl
    have hslash : " " ++ Operator.div.text ++ " " = " / " := by decide
    have hdetails : (Error.ofFault .divisionByZero l .div r place).details =
        l.text ++ " / " ++ r.text :=
      calc l.text ++ " " ++ Operator.div.text ++ " " ++ r.text
          = l.text ++ (" " ++ Operator.div.text ++ " ") ++ r.text := by
            simp only [String.append_assoc]
        _ = l.text ++ " / " ++ r.text := by rw [hslash]
    rw [hdetails]
    exact .divisionByZero hchars
  | overflow =>
    have hmem : op.symbol ∈ ['+', '-', '*'] := by
      cases op with
      | div => cases hop.2 rfl
      | add | sub | mul => decide
    exact .overflow hmem hchars

theorem Parser.Complaint.blames {left : List Placed}
    (h : Parser.Complaint tokens ((Position.first source).pass source.text.toList) e left)
    (hs : Scan 0 source.text.toList words none)
    (hgives : List.Forall₂ Stretch.Gives words tokens)
    (hwithin : ∀ placed ∈ tokens, placed.Within source) :
    ∃ i j, e.PointsAt source i j ∧ Error.Blames source.text.toList i j e.kind e.details := by
  have hmem : ∀ {before rest : List Placed} {found : Placed},
      tokens = before ++ found :: rest → found ∈ tokens := by
    rintro before rest found rfl
    exact List.mem_append_right _ (List.mem_cons_self ..)
  cases h with
  | ended hwanted =>
    have hend : (Position.first source).pass source.text.toList =
        ⟨source.text.length, 0, source.text.length, source⟩ := by
      rw [← String.length_toList]
      exact Position.pass_first hs.ne_lineFeed
    refine ⟨source.text.length, source.text.length, ⟨Nat.le_refl _, Nat.le_refl _, hend, ?_⟩, ?_⟩
    · rw [if_neg (by simp [Error.ended])]
      exact hend
    · exact .unexpectedEnd hwanted String.length_toList.symm String.length_toList.symm
  | @unexpected before rest found wanted hsplit hwanted =>
    obtain ⟨w, hw, hword⟩ := exists_stretch hgives found (hmem hsplit)
    refine ⟨w.start, w.stop, pointsAt_of_gives hs hw hword (hwithin found (hmem hsplit))
      (by simp [Error.unexpected]) rfl rfl, ?_⟩
    exact .unexpectedToken hwanted (lexed_of_gives hs hw hword)
  | @trailing before rest found hsplit =>
    obtain ⟨w, hw, hword⟩ := exists_stretch hgives found (hmem hsplit)
    refine ⟨w.start, w.stop, pointsAt_of_gives hs hw hword (hwithin found (hmem hsplit))
      (by simp [Error.trailing]) rfl rfl, ?_⟩
    exact .trailingInput (lexed_of_gives hs hw hword)
  | @tooDeep before rest found hsplit hopen hcount =>
    have hfound := hwithin found (hmem hsplit)
    rw [hsplit] at hgives
    obtain ⟨front, w, back, rfl, hfront, hword⟩ := exists_split hgives
    have hw : w ∈ front ++ w :: back := List.mem_append_right _ (List.mem_cons_self ..)
    have hpoints := pointsAt_of_gives (e := .tooDeep maxDepth found) hs hw hword hfound
      (by simp [Error.tooDeep]) rfl rfl
    refine ⟨w.start, w.stop, hpoints, .nestingTooDeep ?_ ?_⟩
    · rw [hs.extract hw]
      exact (hopen ▸ hword.spells).openParen_chars
    · obtain ⟨hopened, hclosed⟩ := count_before hs hfront
      rw [hopened, hclosed]
      exact hcount
  | @fault before rest _ place l r op reason hsplit hplace hreason =>
    obtain ⟨w, hw, hword⟩ := exists_stretch hgives place (hmem hsplit)
    have hpoints : (Error.ofFault reason l op r place).PointsAt source w.start w.stop := by
      refine pointsAt_of_gives hs hw hword (hwithin place (hmem hsplit)) ?_ ?_ ?_ <;>
        cases reason <;> simp [Error.ofFault]
    refine ⟨w.start, w.stop, hpoints, blames_of_fault hreason place ?_⟩
    rw [hs.extract hw]
    exact (hplace ▸ hword.spells).operator_chars

theorem blames_of_parse (h : (Lexer.start source).tokens.result = .ok tokens)
    (he : (Parser.parse
      { tokens, eof := (Lexer.start source).tokens.state.position }).result = .error e) :
    ∃ i j, e.PointsAt source i j ∧ Error.Blames source.text.toList i j e.kind e.details := by
  obtain ⟨words, hs, hgives⟩ := Lexer.exists_scan_of_tokens h
  rw [Lexer.state_tokens h] at he
  exact (Parser.parse_complaint he).blames hs hgives (Lexer.within_of_tokens h)

end Parsing

/-- What an error of an evaluation points at: it is one of reading or one of parsing. -/
theorem blames_of_evaluate {source : Source} {e : Error} (h : source.evaluate.result = .error e) :
    ∃ i j, e.PointsAt source i j ∧ Error.Blames source.text.toList i j e.kind e.details := by
  cases hread : (Lexer.start source).tokens.result with
  | error e' =>
    rw [Source.result_evaluate_of_error hread] at h
    cases h
    exact blames_of_tokens hread
  | ok tokens =>
    rw [Source.result_evaluate_of_ok hread] at h
    exact blames_of_parse hread h

/-- An error of an evaluation is shown on the first line of its source. -/
theorem message_of_evaluate {source : Source} {e : Error} (h : source.evaluate.result = .error e) :
    e.message = e.kind.title ++ ": " ++ e.details ++ "\nFile " ++ source.name ++ ", line 1" := by
  obtain ⟨i, j, hpoints, -⟩ := blames_of_evaluate h
  have hline : String.ofList (Decimal.digitsOf 1) = "1" := by decide
  rw [Error.message, hpoints.start, hline]
  exact String.append_assoc

/-- **Every error of an evaluation points at the text that caused it.** -/
theorem evaluate_error (source : Source) (e : Error) (h : source.evaluate.result = .error e) :
    ∃ i j : Nat, e.PointsAt source i j ∧
      Error.Blames source.text.toList i j e.kind e.details ∧
        e.message =
          e.kind.title ++ ": " ++ e.details ++ "\nFile " ++ source.name ++ ", line 1" := by
  obtain ⟨i, j, hpoints, hblame⟩ := blames_of_evaluate h
  exact ⟨i, j, hpoints, hblame, message_of_evaluate h⟩

/-- An illegal line feed behind a blank: the error begins on the first line and ends on the
second. -/
theorem evaluate_error_line_feed :
    let source : Source := ⟨"<test>", "7 \n"⟩
    let e : Error := ⟨.illegalCharacter, ⟨2, 0, 2, source⟩, ⟨3, 1, 0, source⟩, "'\\n'"⟩
    source.evaluate.result = .error e ∧
      ∃ i j : Nat, e.PointsAt source i j ∧
        Error.Blames source.text.toList i j e.kind e.details ∧
          e.message =
            e.kind.title ++ ": " ++ e.details ++ "\nFile " ++ source.name ++ ", line 1" := by
  intro source e
  have h : source.evaluate.result = .error e := Source.result_evaluate_of_error (by decide)
  exact ⟨h, evaluate_error source e h⟩

end Calculator
