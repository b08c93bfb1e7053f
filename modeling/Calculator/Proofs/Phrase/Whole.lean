import Calculator.Proofs.Phrase

/-! # Phrases of whole numbers

A phrase of integers with no quotient in it has an exact value, computed over all the integers, and
a list of the operations on the way, in the order in which they are carried out: the operands of an
operator come before it, the left one first. The 64-bit evaluation agrees as long as the results
fit. `exact_or_breaks` says so for every phrase: either all results fit, and the value is the exact
one, or the evaluation breaks at the first operation whose result does not, with the exact operands
at hand. `Breaks` says for any phrase where its evaluation stops. -/

namespace Calculator

namespace Phrase

variable {kind : Kind}

/-! ### Where an evaluation breaks -/

/-- The evaluation of a phrase stops at the operator that is the token `k` of the phrase: the values
`l` and `r` are at hand, and the operator has no result on them. -/
inductive Breaks : {kind : Kind} → Phrase kind → (k : Nat) → (l : Number) → Operator →
    (r : Number) → Fault → Prop
  /-- Both operands have values. -/
  | here {level : Precedence} {lhs : Phrase (.chain level)} {op : Operator}
      {fits : op.precedence = level} {rhs : Phrase level.operand} {l r : Number} {reason : Fault}
      (hl : lhs.value = .ok l) (hr : rhs.value = .ok r) (hreason : l.apply op r = .error reason) :
      Breaks (.apply lhs op fits rhs) lhs.tokens.length l op r reason
  /-- The left operand is evaluated first. -/
  | left {level : Precedence} {lhs : Phrase (.chain level)} {op o : Operator}
      {fits : op.precedence = level} {rhs : Phrase level.operand} {k : Nat} {l r : Number}
      {reason : Fault} (h : Breaks lhs k l o r reason) :
      Breaks (.apply lhs op fits rhs) k l o r reason
  /-- The right operand is evaluated behind it. -/
  | right {level : Precedence} {lhs : Phrase (.chain level)} {op o : Operator}
      {fits : op.precedence = level} {rhs : Phrase level.operand} {k : Nat} {v l r : Number}
      {reason : Fault} (hv : lhs.value = .ok v) (h : Breaks rhs k l o r reason) :
      Breaks (.apply lhs op fits rhs) (lhs.tokens.length + 1 + k) l o r reason
  | single {level : Precedence} {operand : Phrase level.operand} {k : Nat} {l r : Number}
      {o : Operator} {reason : Fault} (h : Breaks operand k l o r reason) :
      Breaks (.single operand) k l o r reason
  | group {inner : Phrase .expr} {k : Nat} {l r : Number} {o : Operator} {reason : Fault}
      (h : Breaks inner k l o r reason) : Breaks (.group inner) (k + 1) l o r reason

end Phrase

/-! ### Exact values -/

/-- A token of the arithmetic of integers: no double, and no quotient. -/
def Token.Whole : Token → Prop
  | .number (.float _) => False
  | .operator .div => False
  | _ => True

instance : DecidablePred Token.Whole
  | .number (.float _) => .isFalse id
  | .operator .div => .isFalse id
  | .number (.integer _) | .operator .add | .operator .sub | .operator .mul => .isTrue trivial
  | .openParen | .closeParen => .isTrue trivial

/-- The operator on all the integers; a quotient is none, and is given no meaning. -/
def Operator.exact : Operator → Int → Int → Int
  | .add, m, n => m + n
  | .sub, m, n => m - n
  | .mul, m, n => m * n
  | .div, _, _ => 0

/-- The integer that a value is; a double is none, and is given no meaning. -/
def Number.exact : Number → Int
  | .integer n => n.toInt
  | .float _ => 0

/-- An operator between two exact integers. -/
structure Operation where
  /-- The number of tokens before the operator. -/
  index : Nat
  lhs : Int
  op : Operator
  rhs : Int
  deriving DecidableEq, Repr

namespace Operation

/-- The exact result. -/
def result (o : Operation) : Int := o.op.exact o.lhs o.rhs

/-- The result fits in 64 bits. -/
def Fits (o : Operation) : Prop := Number.Fits o.result

instance (o : Operation) : Decidable o.Fits := inferInstanceAs (Decidable (Number.Fits _))

/-- The operation as it is shown. -/
def text (o : Operation) : String :=
  String.ofList (Decimal.integer o.lhs) ++ " " ++ o.op.text ++ " " ++
    String.ofList (Decimal.integer o.rhs)

end Operation

namespace Phrase

/-- The value of a phrase over all the integers. -/
def exact : {kind : Kind} → Phrase kind → Int
  | _, number v => v.exact
  | _, group inner => inner.exact
  | _, single operand => operand.exact
  | _, apply lhs op _ rhs => op.exact lhs.exact rhs.exact

/-- The operations of a phrase that `i` tokens precede, in the order in which they are carried
out. -/
def operations : {kind : Kind} → Phrase kind → (i : Nat) → List Operation
  | _, number _, _ => []
  | _, group inner, i => inner.operations (i + 1)
  | _, single operand, i => operand.operations i
  | _, apply lhs op _ rhs, i =>
    let k := i + lhs.tokens.length
    lhs.operations i ++ rhs.operations (k + 1) ++ [⟨k, lhs.exact, op, rhs.exact⟩]

end Phrase

theorem Number.apply_integer {op : Operator} (hop : op ≠ .div) (m n : Int64) :
    (Number.integer m).apply op (.integer n) = checked (op.exact m.toInt n.toInt) := by
  cases op with
  | add => rfl
  | sub => rfl
  | mul => rfl
  | div => exact (hop rfl).elim

/-! ### Exact or broken -/

/-- The value of a phrase is the exact one. -/
def Phrase.IsExact {kind : Phrase.Kind} (phrase : Phrase kind) : Prop :=
  ∃ n : Int64, phrase.value = .ok (.integer n) ∧ n.toInt = phrase.exact

/-- The evaluation of a phrase that `i` tokens precede breaks at the operation, with the exact
operands. -/
def Phrase.BreaksAt {kind : Phrase.Kind} (phrase : Phrase kind) (i : Nat) (o : Operation) : Prop :=
  ∃ (k : Nat) (l r : Int64), o.index = i + k ∧ l.toInt = o.lhs ∧ r.toInt = o.rhs ∧
    phrase.Breaks k (.integer l) o.op (.integer r) .overflow

/-- The first of the operations whose result does not fit. -/
def FirstMisfit (operations : List Operation) (o : Operation) : Prop :=
  ∃ before after, operations = before ++ o :: after ∧ (∀ b ∈ before, b.Fits) ∧ ¬ o.Fits

theorem FirstMisfit.append {first : List Operation} {o : Operation} (h : FirstMisfit first o)
    (second : List Operation) : FirstMisfit (first ++ second) o := by
  obtain ⟨before, after, rfl, hbefore, ho⟩ := h
  exact ⟨before, after ++ second, by rw [List.append_assoc, List.cons_append], hbefore, ho⟩

theorem FirstMisfit.append_of_fits {first second : List Operation} {o : Operation}
    (h : FirstMisfit second o) (hfirst : ∀ b ∈ first, b.Fits) :
    FirstMisfit (first ++ second) o := by
  obtain ⟨before, after, rfl, hbefore, ho⟩ := h
  refine ⟨first ++ before, after, by rw [List.append_assoc], fun b hb => ?_, ho⟩
  rcases List.mem_append.mp hb with hb | hb
  · exact hfirst b hb
  · exact hbefore b hb

namespace Phrase

/-- All results fit and the value is exact, or the evaluation breaks at the first that does not. -/
def ExactOrBreaks {kind : Kind} (phrase : Phrase kind) (i : Nat) : Prop :=
  ((∀ o ∈ phrase.operations i, o.Fits) ∧ phrase.IsExact) ∨
    ∃ o, FirstMisfit (phrase.operations i) o ∧ phrase.BreaksAt i o

section Apply

variable {level : Precedence} {lhs : Phrase (.chain level)} {op : Operator}
  {fits : op.precedence = level} {rhs : Phrase level.operand} {i : Nat}

theorem exactOrBreaks_of_exact (hop : op ≠ .div) (hl : lhs.IsExact) (hr : rhs.IsExact)
    (hbefore : ∀ b ∈ lhs.operations i ++ rhs.operations (i + lhs.tokens.length + 1), b.Fits) :
    (apply lhs op fits rhs).ExactOrBreaks i := by
  obtain ⟨l, hlvalue, hlexact⟩ := hl
  obtain ⟨r, hrvalue, hrexact⟩ := hr
  have happly : (Number.integer l).apply op (.integer r) =
      Number.checked (op.exact lhs.exact rhs.exact) := by
    rw [Number.apply_integer hop, hlexact, hrexact]
  unfold ExactOrBreaks
  rw [operations]
  rcases hchecked : Number.checked (op.exact lhs.exact rhs.exact) with reason | v
  · obtain ⟨rfl, hmisfit⟩ := Number.checked_eq_error_iff.mp hchecked
    have hreason : (Number.integer l).apply op (.integer r) = .error .overflow :=
      happly.trans hchecked
    exact Or.inr ⟨⟨i + lhs.tokens.length, lhs.exact, op, rhs.exact⟩,
      ⟨_, [], rfl, hbefore, hmisfit⟩, lhs.tokens.length, l, r, rfl, hlexact, hrexact,
      .here hlvalue hrvalue hreason⟩
  · obtain ⟨n, rfl, hn⟩ := Number.checked_eq_ok_iff.mp hchecked
    have hvalue : (apply lhs op fits rhs).value = .ok (.integer n) := by
      rw [value_apply_of_ok hlvalue hrvalue, happly, hchecked]
    refine Or.inl ⟨fun o ho => ?_, n, hvalue, hn⟩
    rcases List.mem_append.mp ho with ho | ho
    · exact hbefore o ho
    · obtain rfl := List.mem_singleton.mp ho
      have hfit := Number.fits_toInt n
      rw [hn] at hfit
      exact hfit

/-- The left operand is evaluated first, then the right one, and then the operator is applied. -/
theorem exactOrBreaks_apply (hop : op ≠ .div) (hl : lhs.ExactOrBreaks i)
    (hr : rhs.ExactOrBreaks (i + lhs.tokens.length + 1)) :
    (apply lhs op fits rhs).ExactOrBreaks i := by
  rcases hl with ⟨hlfits, hlexact⟩ | ⟨o, ho, k, m, n, hk, hm, hn, hbreaks⟩
  · rcases hr with ⟨hrfits, hrexact⟩ | ⟨o, ho, k, m, n, hk, hm, hn, hbreaks⟩
    · refine exactOrBreaks_of_exact hop hlexact hrexact fun b hb => ?_
      rcases List.mem_append.mp hb with hb | hb
      · exact hlfits b hb
      · exact hrfits b hb
    · obtain ⟨l, hlvalue, -⟩ := hlexact
      have hindex : o.index = i + (lhs.tokens.length + 1 + k) := by omega
      refine Or.inr ⟨o, ?_, _, m, n, hindex, hm, hn, hbreaks.right hlvalue⟩
      exact (ho.append_of_fits hlfits).append _
  · refine Or.inr ⟨o, ?_, k, m, n, hk, hm, hn, hbreaks.left⟩
    rw [operations, List.append_assoc]
    exact ho.append _

end Apply

/-- **Exact, or broken at the first result that does not fit**, by induction on the phrase. -/
theorem exact_or_breaks : ∀ {kind : Kind} (phrase : Phrase kind),
    (∀ token ∈ phrase.tokens, token.Whole) → ∀ i : Nat, phrase.ExactOrBreaks i
  | _, .number (.integer n), _, _ => Or.inl ⟨by simp [operations], n, rfl, rfl⟩
  | _, .number (.float x), hwhole, _ => (hwhole _ (List.mem_singleton_self _)).elim
  | _, .group inner, hwhole, i => by
    have hin : ∀ token ∈ inner.tokens, token.Whole := fun token ht =>
      hwhole token (by rw [tokens_group]; simp [ht])
    rcases exact_or_breaks inner hin (i + 1) with h | ⟨o, ho, k, l, r, hk, hl, hr, hbreaks⟩
    · exact Or.inl h
    · exact Or.inr ⟨o, ho, k + 1, l, r, by omega, hl, hr, hbreaks.group⟩
  | _, .single operand, hwhole, i => by
    rcases exact_or_breaks operand hwhole i with h | ⟨o, ho, k, l, r, hk, hl, hr, hbreaks⟩
    · exact Or.inl h
    · exact Or.inr ⟨o, ho, k, l, r, hk, hl, hr, hbreaks.single⟩
  | _, .apply lhs op _ rhs, hwhole, i => by
    rw [tokens_apply] at hwhole
    have hop : op ≠ .div := by
      rintro rfl
      exact hwhole (.operator .div) (by simp)
    have hl : ∀ token ∈ lhs.tokens, token.Whole := fun token ht => hwhole token (by simp [ht])
    have hr : ∀ token ∈ rhs.tokens, token.Whole := fun token ht => hwhole token (by simp [ht])
    exact exactOrBreaks_apply hop (exact_or_breaks lhs hl i) (exact_or_breaks rhs hr _)

end Phrase

end Calculator
