import Calculator.Proofs.Lexeme.Scan
import Calculator.Proofs.Phrase
import Mathlib.Data.List.Forall2

/-! # Nesting

How many parentheses are open behind a text, and how many at once anywhere in it, counted from the
left. A closing parenthesis where none is open counts for nothing. The count sees parentheses only,
and these are the same in a text and among its tokens (`parens_of_spells`); those of a phrase nest
as deeply as its depth says (`Phrase.nesting_tokens`). -/

namespace Calculator

/-- A parenthesis. -/
inductive Paren where
  | opening
  | closing
  deriving DecidableEq, Repr

namespace Paren

/-- The parenthesis that a character writes. -/
def ofChar? (c : Char) : Option Paren :=
  if c = '(' then some opening else if c = ')' then some closing else none

/-- The parenthesis that a token is. -/
def ofToken? : Token → Option Paren
  | .openParen => some opening
  | .closeParen => some closing
  | _ => none

/-- How many are open after one more. -/
def after (depth : Nat) : Paren → Nat
  | opening => depth + 1
  | closing => depth - 1

/-- How many are open behind the parentheses, with `depth` open before them. -/
def unclosed (depth : Nat) (parens : List Paren) : Nat := parens.foldl after depth

/-- The most that are open at once, with `depth` open before the parentheses. -/
def nesting (depth : Nat) : List Paren → Nat
  | [] => depth
  | paren :: rest => max depth (nesting (paren.after depth) rest)

@[simp] theorem unclosed_nil (depth : Nat) : unclosed depth [] = depth := rfl

@[simp] theorem unclosed_cons (depth : Nat) (paren : Paren) (rest : List Paren) :
    unclosed depth (paren :: rest) = unclosed (paren.after depth) rest := rfl

@[simp] theorem unclosed_append (depth : Nat) (left right : List Paren) :
    unclosed depth (left ++ right) = unclosed (unclosed depth left) right := List.foldl_append

@[simp] theorem nesting_nil (depth : Nat) : nesting depth [] = depth := rfl

@[simp] theorem nesting_cons (depth : Nat) (paren : Paren) (rest : List Paren) :
    nesting depth (paren :: rest) = max depth (nesting (paren.after depth) rest) := rfl

@[simp] theorem nesting_append (depth : Nat) (left right : List Paren) :
    nesting depth (left ++ right) =
      max (nesting depth left) (nesting (unclosed depth left) right) := by
  induction left generalizing depth with
  | nil =>
    have hle : depth ≤ nesting depth right := by
      cases right with
      | nil => exact Nat.le_refl _
      | cons paren right => exact Nat.le_max_left _ _
    exact (Nat.max_eq_right hle).symm
  | cons paren left ih => simp [ih, Nat.max_assoc]

end Paren

/-! ### Texts and tokens -/

namespace Text

/-- How many parentheses are open behind a text. -/
def unclosed (text : List Char) : Nat := Paren.unclosed 0 (text.filterMap Paren.ofChar?)

/-- How many parentheses of a text are open at once at most. -/
def nesting (text : List Char) : Nat := Paren.nesting 0 (text.filterMap Paren.ofChar?)

end Text

theorem Paren.ofChar?_of_isDigit {c : Char} (h : c.isDigit ∨ c = '.') : ofChar? c = none := by
  unfold ofChar?
  rw [if_neg, if_neg]
  · rintro rfl
    exact absurd h (by decide)
  · rintro rfl
    exact absurd h (by decide)

theorem Paren.ofChar?_of_blank {c : Char} (h : Blank c) : ofChar? c = none := by
  rcases h with rfl | rfl <;> rfl

theorem Spells.parens {word : List Char} {token : Token} (h : Spells word token) :
    word.filterMap Paren.ofChar? = [token].filterMap Paren.ofToken? := by
  have hdigit : ∀ {digits : List Char}, (∀ c ∈ digits, c.isDigit) →
      digits.filterMap Paren.ofChar? = [] := fun hdigits =>
    List.filterMap_eq_nil_iff.2 fun c hc => Paren.ofChar?_of_isDigit (Or.inl (hdigits c hc))
  cases h with
  | integer hdigits _ => rw [hdigit hdigits]; rfl
  | decimal hwhole hfraction =>
    rw [List.filterMap_append, List.filterMap_cons_none (Paren.ofChar?_of_isDigit (Or.inr rfl)),
      hdigit hwhole, hdigit hfraction]
    rfl
  | operator op => cases op <;> rfl
  | openParen => rfl
  | closeParen => rfl

/-- **A text has the parentheses of its tokens.** -/
theorem parens_of_spells {i : Nat} {text : List Char} {words : List Stretch} {tokens : List Token}
    (h : Scan i text words none)
    (hspells : List.Forall₂ (fun w => Spells w.chars) words tokens) :
    text.filterMap Paren.ofChar? = tokens.filterMap Paren.ofToken? := by
  generalize hs : none = stuck at h
  induction h generalizing tokens with
  | done =>
    cases hspells
    rfl
  | blank hc _ ih => rw [List.filterMap_cons_none (Paren.ofChar?_of_blank hc), ih hspells hs]
  | @word i text word words stuck hl _ ih =>
    cases hspells with
    | cons hword hrest =>
      rw [← hl.append_drop, List.filterMap_append, hword.parens, ih hrest hs,
        ← List.filterMap_append, List.singleton_append]
  | stuck => cases hs

namespace Phrase

/-- **The parentheses of a phrase**: all of them are closed, and as many are open at once as the
phrase is deep. -/
theorem nesting_tokens : ∀ {kind : Kind} (phrase : Phrase kind) (d : Nat),
    Paren.unclosed d (phrase.tokens.filterMap Paren.ofToken?) = d ∧
      Paren.nesting d (phrase.tokens.filterMap Paren.ofToken?) = phrase.depth + d
  | _, .number _, d => ⟨rfl, (Nat.zero_add d).symm⟩
  | _, .group inner, d => by
    obtain ⟨hunclosed, hnesting⟩ := nesting_tokens inner (d + 1)
    simp only [tokens_group, List.filterMap_cons, List.filterMap_append, Paren.ofToken?,
      List.filterMap_nil, Paren.unclosed_cons, Paren.unclosed_append, Paren.nesting_cons,
      Paren.nesting_append, Paren.after, hunclosed, hnesting, depth_group, Paren.unclosed_nil,
      Paren.nesting_nil]
    omega
  | _, .single operand, d => nesting_tokens operand d
  | _, .apply lhs op _ rhs, d => by
    obtain ⟨hl, hlnesting⟩ := nesting_tokens lhs d
    obtain ⟨hr, hrnesting⟩ := nesting_tokens rhs d
    simp only [tokens_apply, List.filterMap_append, List.filterMap_cons, Paren.ofToken?,
      Paren.unclosed_append, Paren.nesting_append, hl, hr, hlnesting, hrnesting, depth_apply,
      true_and]
    omega

end Phrase

end Calculator
