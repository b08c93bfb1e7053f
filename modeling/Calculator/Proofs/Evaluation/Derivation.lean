import Calculator.Evaluation
import Calculator.Proofs.Lexeme.Joined
import Calculator.Proofs.Lexer.Places
import Calculator.Proofs.Lexer.Refusal
import Calculator.Proofs.Parser.Breaks
import Calculator.Proofs.Phrase.Nesting

/-! # Derivations of texts

A text is derived from the grammar if its words spell the tokens of a phrase. Derivations of two
texts make one of the texts with an operator between them, and a derivation of a text makes one of
the text in parentheses, whatever blanks there are. A text that evaluates has a derivation with its
value (`exists_derivation`); the evaluation of a text that is derived follows from its phrase
(`Derivation.evaluate_of_value`, `Derivation.evaluate_of_breaks`). -/

namespace Calculator

/-- A derivation of a text: the words of its scan, and the phrase whose tokens they spell. -/
structure Derivation (kind : Phrase.Kind) (text : List Char) where
  words : List Stretch
  phrase : Phrase kind
  scan : Scan 0 text words none
  spells : List.Forall₂ (fun w => Spells w.chars) words phrase.tokens

theorem exists_tokens_of_spells {source : Source} {words : List Stretch} {tokens : List Token}
    (hs : Scan 0 source.text.toList words none)
    (hspells : List.Forall₂ (fun w => Spells w.chars) words tokens) :
    ∃ placed, (Lexer.start source).tokens.result = .ok placed ∧
      List.Forall₂ Stretch.Gives words placed ∧ placed.map Placed.token = tokens := by
  have hanswer := Lexer.tokens_answer hs
  have hrefusal := hanswer.refusal.symm.trans (refusal?_of_spells hspells)
  rcases hresult : (Lexer.start source).tokens.result with e | placed
  · rw [hresult] at hrefusal
    cases hrefusal
  · rw [hresult] at hanswer
    obtain ⟨-, -, hgives⟩ := hanswer.forall₂
    exact ⟨placed, rfl, hgives, spells_unique (spells_of_gives hgives) hspells⟩

theorem Operator.symbol_mem (op : Operator) : op.symbol ∈ ['+', '-', '*', '/', '(', ')'] := by
  cases op <;> decide

namespace Derivation

section Build

variable {level : Precedence} {text left right : List Char}

theorem spells_shift_iff {k : Nat} {words : List Stretch} {tokens : List Token} :
    List.Forall₂ (fun w => Spells w.chars) (words.map (Stretch.shift k)) tokens ↔
      List.Forall₂ (fun w => Spells w.chars) words tokens :=
  List.forall₂_map_left_iff

/-- A literal. -/
def literal {v : Number} (hword : Pattern text) (hspells : Spells text (.number v)) :
    Derivation .factor text :=
  ⟨[⟨0, text⟩], .number v, .pattern hword, .cons hspells .nil⟩

/-- An operand as a chain. -/
def single (d : Derivation level.operand text) : Derivation (.chain level) text :=
  ⟨d.words, .single d.phrase, d.scan, d.spells⟩

/-- A factor as a phrase of every kind. -/
def lift (d : Derivation .factor text) : (kind : Phrase.Kind) → Derivation kind text
  | .factor => d
  | .chain .product => single d
  | .chain .sum => single (single d)

/-- A chain as an expression. -/
def toExpr : {level : Precedence} → Derivation (.chain level) text → Derivation .expr text
  | .sum, d => d
  | .product, d => single d

@[simp] theorem value_lift (d : Derivation .factor text) (kind : Phrase.Kind) :
    (d.lift kind).phrase.value = d.phrase.value := by
  rcases kind with _ | _ | _ <;> rfl

@[simp] theorem depth_lift (d : Derivation .factor text) (kind : Phrase.Kind) :
    (d.lift kind).phrase.depth = d.phrase.depth := by
  rcases kind with _ | _ | _ <;> rfl

@[simp] theorem words_toExpr (d : Derivation (.chain level) text) : d.toExpr.words = d.words := by
  cases level <;> rfl

@[simp] theorem value_toExpr (d : Derivation (.chain level) text) :
    d.toExpr.phrase.value = d.phrase.value := by
  cases level <;> rfl

@[simp] theorem depth_toExpr (d : Derivation (.chain level) text) :
    d.toExpr.phrase.depth = d.phrase.depth := by
  cases level <;> rfl

theorem breaks_toExpr {d : Derivation (.chain level) text} {k : Nat} {l r : Number} {op : Operator}
    {reason : Fault} (h : d.phrase.Breaks k l op r reason) :
    d.toExpr.phrase.Breaks k l op r reason := by
  cases level with
  | sum => exact h
  | product => exact .single h

/-- An expression in parentheses. -/
def group (d : Derivation .expr text) : Derivation .factor ('(' :: (text ++ [')'])) where
  words := ⟨0, ['(']⟩ :: (d.words.map (Stretch.shift 1) ++ [⟨1 + text.length, [')']⟩])
  phrase := .group d.phrase
  scan := by
    have hinner := d.scan.shift 1
    rw [Nat.zero_add] at hinner
    exact .symbol (by decide) (hinner.append (.of_symbol (by decide) _ _)
      (.symbol (by decide) (.done _)))
  spells := .cons .openParen
    (List.rel_append (spells_shift_iff.2 d.spells) (.cons .closeParen .nil))

theorem depth_group (d : Derivation .expr text) : d.group.phrase.depth = d.phrase.depth + 1 := rfl

/-- A chain, an operator of its level and one more operand. -/
def apply (dl : Derivation (.chain level) left) (op : Operator) (fits : op.precedence = level)
    (dr : Derivation level.operand right) : Derivation (.chain level) (left ++ op.symbol :: right)
    where
  words := dl.words ++ ⟨left.length, [op.symbol]⟩ :: dr.words.map (Stretch.shift (left.length + 1))
  phrase := .apply dl.phrase op fits dr.phrase
  scan := by
    have hright := dr.scan.shift (left.length + 1)
    rw [Nat.zero_add] at hright
    refine dl.scan.append (.of_symbol op.symbol_mem _ _) ?_
    rw [Nat.zero_add]
    exact .symbol op.symbol_mem hright
  spells := List.rel_append dl.spells (.cons (.operator op) (spells_shift_iff.2 dr.spells))

end Build

/-! ### Evaluation -/

theorem exists_stretch_of_getElem? {words : List Stretch} {tokens : List Placed}
    (h : List.Forall₂ Stretch.Gives words tokens) {k : Nat} {placed : Placed}
    (hk : tokens[k]? = some placed) : ∃ w, words[k]? = some w ∧ w.Gives placed := by
  induction h generalizing k with
  | nil => cases hk
  | cons hword _ ih =>
    cases k with
    | zero =>
      obtain rfl := Option.some.inj hk
      exact ⟨_, rfl, hword⟩
    | succ k => exact ih hk

variable {kind : Phrase.Kind} {source : Source} {text : List Char}

theorem parens (d : Derivation kind text) :
    text.filterMap Paren.ofChar? = d.phrase.tokens.filterMap Paren.ofToken? :=
  parens_of_spells d.scan d.spells

theorem depth_phrase (d : Derivation kind text) : d.phrase.depth = Text.nesting text := by
  rw [Text.nesting, d.parens, (d.phrase.nesting_tokens 0).2, Nat.add_zero]

theorem exists_tokens (d : Derivation kind text) (htext : source.text.toList = text) :
    ∃ tokens, (Lexer.start source).tokens.result = .ok tokens ∧
      List.Forall₂ Stretch.Gives d.words tokens ∧ tokens.map Placed.token = d.phrase.tokens := by
  subst htext
  exact exists_tokens_of_spells d.scan d.spells

theorem evaluate_of_value (d : Derivation .expr text) (htext : source.text.toList = text)
    (hdepth : d.phrase.depth ≤ maxDepth) {v : Number} (hv : d.phrase.value = .ok v) :
    source.evaluate.result = .ok v := by
  obtain ⟨tokens, hread, -, htokens⟩ := d.exists_tokens htext
  rw [Source.result_evaluate_of_ok hread]
  exact Parser.parse_of_value hv _ htokens.symm hdepth

/-- A derivation whose evaluation breaks at the operator that is the word `k`. -/
theorem evaluate_of_breaks (d : Derivation .expr text) (htext : source.text.toList = text)
    (hdepth : d.phrase.depth ≤ maxDepth) {k : Nat} {l r : Number} {op : Operator} {reason : Fault}
    (h : d.phrase.Breaks k l op r reason) :
    ∃ w place, d.words[k]? = some w ∧
      source.evaluate.result = .error (.ofFault reason l op r place) ∧
        place.start = ⟨w.start, 0, w.start, source⟩ ∧
          place.stop = ⟨w.stop, 0, w.stop, source⟩ := by
  obtain ⟨tokens, hread, hgives, htokens⟩ := d.exists_tokens htext
  obtain ⟨place, hplace, -, hresult⟩ := Parser.Breaks.parse_result h
    (Lexer.start source).tokens.state.position htokens.symm hdepth
  obtain ⟨w, hw, hword⟩ := exists_stretch_of_getElem? hgives hplace
  subst htext
  have hwithin := Lexer.within_of_tokens hread place (List.mem_of_getElem? hplace)
  refine ⟨w, place, hw, ?_, hwithin.1.at_start d.scan (List.mem_of_getElem? hw) hword.start,
    hwithin.2.at_stop d.scan (List.mem_of_getElem? hw) hword.stop⟩
  rw [Source.result_evaluate_of_ok hread]
  exact hresult

end Derivation

/-- **A text that evaluates has a derivation** with its value, within the limit of parentheses. -/
theorem exists_derivation {source : Source} {v : Number} (h : source.evaluate.result = .ok v) :
    ∃ d : Derivation .expr source.text.toList,
      d.phrase.value = .ok v ∧ d.phrase.depth ≤ maxDepth := by
  rcases hread : (Lexer.start source).tokens.result with e | tokens
  · rw [Source.result_evaluate_of_error hread] at h
    cases h
  · obtain ⟨words, hs, hgives⟩ := Lexer.exists_scan_of_tokens hread
    rw [Source.result_evaluate_of_ok hread] at h
    obtain ⟨phrase, htokens, hdepth, hv⟩ := Parser.exists_phrase_of_parse h
    refine ⟨⟨words, phrase, hs, ?_⟩, hv, hdepth⟩
    rw [htokens]
    exact spells_of_gives hgives

end Calculator
