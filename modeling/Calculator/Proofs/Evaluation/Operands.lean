import Calculator.Proofs.Evaluation.Derivation

/-! # Operands in parentheses

The evaluation of two texts in parentheses with an operator between them applies the operator to the
values of the texts, and a fault is reported at the operator (`evaluate_operands`). Before a loose
operator the parentheses may be left out. In either form the operator joins the derivations of the
two texts to one of the whole, with both operands as chains or operands of its own level. -/

namespace Calculator

namespace Derivation

variable {level : Precedence} {source : Source} {left right : List Char}

/-- **An operator between two derived texts** is applied to their values. -/
theorem evaluate_apply (dl : Derivation (.chain level) left) (op : Operator)
    (fits : op.precedence = level) (dr : Derivation level.operand right)
    (htext : source.text.toList = left ++ op.symbol :: right) {l r : Number}
    (hl : dl.phrase.value = .ok l) (hr : dr.phrase.value = .ok r)
    (hdl : dl.phrase.depth ≤ maxDepth) (hdr : dr.phrase.depth ≤ maxDepth) :
    (∀ z, l.apply op r = .ok z → source.evaluate.result = .ok z) ∧
      ∀ reason, l.apply op r = .error reason → ∃ place,
        source.evaluate.result = .error (.ofFault reason l op r place) ∧
        place.start = ⟨left.length, 0, left.length, source⟩ ∧
        place.stop = ⟨↑(left.length + 1), 0, ↑(left.length + 1), source⟩ := by
  have hdepth : (dl.apply op fits dr).toExpr.phrase.depth ≤ maxDepth := by
    rw [depth_toExpr]
    exact Nat.max_le.2 ⟨hdl, hdr⟩
  have hvalue : (dl.apply op fits dr).phrase.value = l.apply op r :=
    Phrase.value_apply_of_ok hl hr
  constructor
  · intro z hz
    exact (dl.apply op fits dr).toExpr.evaluate_of_value htext hdepth
      (by rw [value_toExpr, hvalue, hz])
  · intro reason hreason
    have hbreaks : (dl.apply op fits dr).phrase.Breaks dl.phrase.tokens.length l op r reason :=
      .here hl hr hreason
    obtain ⟨w, place, hw, hresult, hstart, hstop⟩ :=
      (dl.apply op fits dr).toExpr.evaluate_of_breaks htext hdepth (breaks_toExpr hbreaks)
    have hword : (dl.apply op fits dr).words[dl.phrase.tokens.length]? =
        some ⟨left.length, [op.symbol]⟩ := by
      rw [← dl.spells.length_eq]
      change (dl.words ++ _)[_]? = _
      rw [List.getElem?_append_right (Nat.le_refl _), Nat.sub_self]
      rfl
    rw [words_toExpr, hword] at hw
    obtain rfl := Option.some.inj hw
    exact ⟨place, hresult, hstart, hstop⟩

end Derivation

/-- **Evaluation of operands in parentheses.** The operator is applied to the values of the two
texts; a fault is an error over the character of the operator that shows the two values. The
parentheses around the left operand of a sum or a difference change neither the value nor the kind
of the fault. -/
theorem evaluate_operands (name a b : String) (op : Operator) (x y : Number)
    (ha : (⟨name, a⟩ : Source).evaluate.result = .ok x)
    (hb : (⟨name, b⟩ : Source).evaluate.result = .ok y)
    (hdeep : Text.nesting a.toList ≤ 127) (hdeep' : Text.nesting b.toList ≤ 127) :
    let source : Source := ⟨name, "(" ++ a ++ ")" ++ op.text ++ "(" ++ b ++ ")"⟩
    let bare : Source := ⟨name, a ++ op.text ++ "(" ++ b ++ ")"⟩
    let start : Position := ⟨↑(a.length + 2), 0, ↑(a.length + 2), source⟩
    let stop : Position := ⟨↑(a.length + 3), 0, ↑(a.length + 3), source⟩
    let operation := x.text ++ " " ++ op.text ++ " " ++ y.text
    (∀ z, x.apply op y = .ok z → source.evaluate.result = .ok z) ∧
    (x.apply op y = .error .divisionByZero →
      source.evaluate.result = .error ⟨.divisionByZero, start, stop, operation⟩) ∧
    (x.apply op y = .error .overflow → source.evaluate.result =
      .error ⟨.overflow, start, stop, operation ++ " does not fit in a number"⟩) ∧
    (op = .add ∨ op = .sub →
      (∀ z, source.evaluate.result = .ok z → bare.evaluate.result = .ok z) ∧
      ∀ e, source.evaluate.result = .error e →
        ∃ e', bare.evaluate.result = .error e' ∧ e'.kind = e.kind) := by
  intro source bare start stop operation
  obtain ⟨da, hx, hda⟩ := exists_derivation ha
  obtain ⟨db, hy, -⟩ := exists_derivation hb
  have hroom : da.group.phrase.depth ≤ maxDepth := by
    rw [Derivation.depth_group, da.depth_phrase]
    exact Nat.succ_le_succ hdeep
  have hroom' : db.group.phrase.depth ≤ maxDepth := by
    rw [Derivation.depth_group, db.depth_phrase]
    exact Nat.succ_le_succ hdeep'
  have hlength : ('(' :: (a.toList ++ [')'])).length = a.length + 2 := by
    simp [← String.length_toList]
  have hsource : source.text.toList =
      ('(' :: (a.toList ++ [')'])) ++ op.symbol :: ('(' :: (b.toList ++ [')'])) := by
    simp [source, Operator.text]
  have hbare : bare.text.toList = a.toList ++ op.symbol :: ('(' :: (b.toList ++ [')'])) := by
    simp [bare, Operator.text]
  have hleft : ∀ kind, (da.group.lift kind).phrase.value = .ok x ∧
      (da.group.lift kind).phrase.depth ≤ maxDepth := fun kind =>
    ⟨(da.group.value_lift kind).trans hx, (da.group.depth_lift kind).trans_le hroom⟩
  have hright : ∀ kind, (db.group.lift kind).phrase.value = .ok y ∧
      (db.group.lift kind).phrase.depth ≤ maxDepth := fun kind =>
    ⟨(db.group.value_lift kind).trans hy, (db.group.depth_lift kind).trans_le hroom'⟩
  obtain ⟨hvalue, hfault⟩ := (da.group.lift (.chain op.precedence)).evaluate_apply op rfl
    (db.group.lift op.precedence.operand) hsource (hleft _).1 (hright _).1 (hleft _).2 (hright _).2
  rw [hlength] at hfault
  refine ⟨hvalue, fun h => ?_, fun h => ?_, fun hop => ?_⟩
  · obtain ⟨place, hresult, hstart, hstop⟩ := hfault _ h
    rw [hresult, Error.ofFault, hstart, hstop]
  · obtain ⟨place, hresult, hstart, hstop⟩ := hfault _ h
    rw [hresult, Error.ofFault, hstart, hstop]
  · have fits : op.precedence = .sum := by rcases hop with rfl | rfl <;> rfl
    obtain ⟨hbarevalue, hbarefault⟩ := da.evaluate_apply op fits
      (db.group.lift Precedence.sum.operand) hbare hx (hright _).1 hda (hright _).2
    rcases happly : x.apply op y with reason | z
    · obtain ⟨place, hresult, -⟩ := hfault reason happly
      obtain ⟨place', hresult', -⟩ := hbarefault reason happly
      rw [hresult]
      refine ⟨fun z hz => (by cases hz), fun e he => ⟨_, hresult', ?_⟩⟩
      obtain rfl := Except.error.inj he
      cases reason <;> rfl
    · rw [hvalue z happly, hbarevalue z happly]
      exact ⟨fun w hw => hw, fun e he => (by cases he)⟩

/-- A sum of two texts that overflows, and a product of the same texts. -/
theorem evaluate_operands_large :
    let a := "9223372036854775806+1"
    let b := "(2)-1"
    let sum : Source := ⟨"<test>", "(" ++ a ++ ")" ++ Operator.add.text ++ "(" ++ b ++ ")"⟩
    let bare : Source := ⟨"<test>", a ++ Operator.add.text ++ "(" ++ b ++ ")"⟩
    let product : Source := ⟨"<test>", "(" ++ a ++ ")" ++ Operator.mul.text ++ "(" ++ b ++ ")"⟩
    (⟨"<test>", a⟩ : Source).evaluate.result = .ok (.integer 9223372036854775807) ∧
      (⟨"<test>", b⟩ : Source).evaluate.result = .ok (.integer 1) ∧
      Text.nesting a.toList ≤ 127 ∧ Text.nesting b.toList ≤ 127 ∧
      sum.evaluate.result = .error ⟨.overflow, ⟨23, 0, 23, sum⟩, ⟨24, 0, 24, sum⟩,
        "9223372036854775807 + 1 does not fit in a number"⟩ ∧
      (∃ e, bare.evaluate.result = .error e ∧ e.kind = .overflow) ∧
      product.evaluate.result = .ok (.integer 9223372036854775807) := by
  intro a b sum bare product
  have ha : (⟨"<test>", a⟩ : Source).evaluate.result = .ok (.integer 9223372036854775807) := by
    decide +kernel
  have hb : (⟨"<test>", b⟩ : Source).evaluate.result = .ok (.integer 1) := by decide +kernel
  have hda : Text.nesting a.toList ≤ 127 := by decide +kernel
  have hdb : Text.nesting b.toList ≤ 127 := by decide +kernel
  obtain ⟨-, -, hoverflow, hbare⟩ := evaluate_operands "<test>" a b .add _ _ ha hb hda hdb
  have hsum := hoverflow (by decide +kernel)
  obtain ⟨e, he, hkind⟩ := (hbare (Or.inl rfl)).2 _ hsum
  refine ⟨ha, hb, hda, hdb, hsum.trans (by decide +kernel), ⟨e, he, hkind⟩, ?_⟩
  exact (evaluate_operands "<test>" a b .mul _ _ ha hb hda hdb).1 _ (by decide +kernel)

end Calculator
