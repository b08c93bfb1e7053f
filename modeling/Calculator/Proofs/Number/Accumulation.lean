import Calculator.Proofs.Decimal.Integers
import Calculator.Proofs.Number.Apply

/-! # Chains of operators

A chain applies one operator after another to the value that the last one left, and a fault leaves
the value as it is. Each result is that of the operator on the value reached before it
(`getElem?_accumulate`), so what one step does to a value (`isInteger_settle`, `exact_settle`) says
by induction what a chain does: the value reached is an integer as long as only integers were
carried into it, and then it is exact. `accumulate_results` puts this together with the conditions
of the two faults. -/

namespace Calculator.Number

/-- The value after a result: a fault leaves it as it was. -/
def settle (value : Number) : Except Fault Number → Number
  | .ok next => next
  | .error _ => value

/-- The value that is reached after the first `k` steps of a chain. -/
def reached (start : Number) (steps : List (Operator × Number)) (k : Nat) : Number :=
  ((start.accumulate steps).take k).foldl settle start

/-- The steps of a chain that are carried out, without those that are at fault. -/
def carried (start : Number) (steps : List (Operator × Number)) : List (Operator × Number) :=
  ((steps.zip (start.accumulate steps)).filter fun step => step.2.isOk).map Prod.fst

/-! ### One step -/

section Step

variable {value : Number} {op : Operator} {rhs : Number}

theorem isInteger_settle :
    (value.settle (value.apply op rhs)).IsInteger ↔
      value.IsInteger ∧ ((value.apply op rhs).isOk = true → op ≠ .div ∧ rhs.IsInteger) := by
  rcases h : value.apply op rhs with fault | next
  · exact (and_iff_left nofun).symm
  · change next.IsInteger ↔ _
    rw [isInteger_apply h]
    exact ⟨fun ⟨hop, hvalue, hrhs⟩ => ⟨hvalue, fun _ => ⟨hop, hrhs⟩⟩,
      fun ⟨hvalue, hstep⟩ => ⟨(hstep rfl).1, hvalue, (hstep rfl).2⟩⟩

/-- An integer that is left behind is the exact result, or the value before a fault. -/
theorem exact_settle (h : (value.settle (value.apply op rhs)).IsInteger) :
    (value.settle (value.apply op rhs)).exact =
      if (value.apply op rhs).isOk then op.exact value.exact rhs.exact else value.exact := by
  rcases hv : value.apply op rhs with fault | next
  · rfl
  · rw [hv] at h
    exact exact_apply hv h

theorem apply_eq_overflow_iff_exists :
    value.apply op rhs = .error .overflow ↔
      (op = .add ∨ op = .sub ∨ op = .mul) ∧ ∃ m n, value = .integer m ∧ rhs = .integer n ∧
        ¬ (-2 ^ 63 ≤ op.exact m.toInt n.toInt ∧ op.exact m.toInt n.toInt ≤ 2 ^ 63 - 1) := by
  have hop : op ≠ .div ↔ op = .add ∨ op = .sub ∨ op = .mul := by cases op <;> decide
  rw [apply_eq_overflow_iff, hop]
  refine and_congr_right fun _ => ?_
  constructor
  · rintro ⟨⟨hvalue, hrhs⟩, hfits⟩
    obtain ⟨m, rfl⟩ := isInteger_iff.mp hvalue
    obtain ⟨n, rfl⟩ := isInteger_iff.mp hrhs
    exact ⟨m, n, rfl, rfl, hfits⟩
  · rintro ⟨m, n, rfl, rfl, hfits⟩
    exact ⟨⟨trivial, trivial⟩, hfits⟩

end Step

/-! ### The steps of a chain -/

section Chain

variable {start : Number} {steps : List (Operator × Number)} {op : Operator} {rhs : Number}

theorem accumulate_cons (start : Number) (op : Operator) (rhs : Number)
    (rest : List (Operator × Number)) :
    start.accumulate ((op, rhs) :: rest) =
      start.apply op rhs :: (start.settle (start.apply op rhs)).accumulate rest := by
  rw [accumulate]
  rcases start.apply op rhs with fault | next <;> rfl

theorem length_accumulate (start : Number) (steps : List (Operator × Number)) :
    (start.accumulate steps).length = steps.length := by
  induction steps generalizing start with
  | nil => rfl
  | cons step rest ih =>
    obtain ⟨op, rhs⟩ := step
    rw [accumulate_cons, List.length_cons, List.length_cons, ih]

theorem reached_cons (start : Number) (op : Operator) (rhs : Number)
    (rest : List (Operator × Number)) (k : Nat) :
    reached start ((op, rhs) :: rest) (k + 1) =
      reached (start.settle (start.apply op rhs)) rest k := by
  rw [reached, accumulate_cons]
  rfl

theorem carried_cons (start : Number) (op : Operator) (rhs : Number)
    (rest : List (Operator × Number)) :
    carried start ((op, rhs) :: rest) =
      if (start.apply op rhs).isOk then
        (op, rhs) :: carried (start.settle (start.apply op rhs)) rest
      else carried (start.settle (start.apply op rhs)) rest := by
  rw [carried, accumulate_cons, List.zip_cons_cons, List.filter_cons]
  split <;> rfl

/-- **Each result** is that of the operator on the value reached before it. -/
theorem getElem?_accumulate (start : Number) {k : Nat} (h : steps[k]? = some (op, rhs)) :
    (start.accumulate steps)[k]? = some ((reached start steps k).apply op rhs) := by
  induction steps generalizing start k with
  | nil => cases h
  | cons step rest ih =>
    obtain ⟨op', rhs'⟩ := step
    rw [accumulate_cons]
    cases k with
    | zero =>
      cases h
      rfl
    | succ k =>
      rw [reached_cons]
      exact ih _ h

theorem reached_succ (start : Number) {k : Nat} (h : steps[k]? = some (op, rhs)) :
    reached start steps (k + 1) =
      (reached start steps k).settle ((reached start steps k).apply op rhs) := by
  have hresult := getElem?_accumulate start h
  rw [reached, List.take_add_one, hresult, List.foldl_append]
  rfl

theorem reached_succ_of_none {k : Nat} (h : steps[k]? = none) :
    reached start steps (k + 1) = reached start steps k := by
  have hlength : (start.accumulate steps).length ≤ k := by
    rw [length_accumulate]
    exact List.getElem?_eq_none_iff.mp h
  rw [reached, reached, List.take_of_length_le (Nat.le_succ_of_le hlength),
    List.take_of_length_le hlength]

/-- **A double is never left again.** -/
theorem not_isInteger_reached {j k : Nat} (hle : j ≤ k) (h : ¬ (reached start steps j).IsInteger) :
    ¬ (reached start steps k).IsInteger := by
  induction k, hle using Nat.le_induction with
  | base => exact h
  | succ k _ ih =>
    rcases hstep : steps[k]? with _ | ⟨op, rhs⟩
    · rw [reached_succ_of_none hstep]
      exact ih
    · rw [reached_succ start hstep, isInteger_settle]
      exact fun hinteger => ih hinteger.1

/-- **The value reached is an integer** exactly if the first one is, and so is what is carried into
it. -/
theorem isInteger_reached (start : Number) (steps : List (Operator × Number)) :
    (reached start steps steps.length).IsInteger ↔
      start.IsInteger ∧ ∀ step ∈ carried start steps, step.1 ≠ .div ∧ step.2.IsInteger := by
  induction steps generalizing start with
  | nil => exact (and_iff_left nofun).symm
  | cons step rest ih =>
    obtain ⟨op, rhs⟩ := step
    rw [List.length_cons, reached_cons, ih, isInteger_settle, carried_cons]
    split
    · next hok => rw [List.forall_mem_cons, forall_prop_of_true hok, and_assoc]
    · next hok => rw [and_iff_left fun h => (hok h).elim]

/-- **An integer that is reached is exact**: nothing has been rounded or cut off on the way. -/
theorem exact_reached (start : Number) (steps : List (Operator × Number))
    (h : (reached start steps steps.length).IsInteger) :
    (reached start steps steps.length).exact =
      (carried start steps).foldl (fun k step => step.1.exact k step.2.exact) start.exact := by
  induction steps generalizing start with
  | nil => rfl
  | cons step rest ih =>
    obtain ⟨op, rhs⟩ := step
    rw [List.length_cons, reached_cons] at h ⊢
    have hsettle := exact_settle ((isInteger_reached _ rest).mp h).1
    rw [ih _ h, carried_cons, hsettle]
    split <;> rfl

end Chain

/-- **What a chain of operators does.** There is one result for each step, that of the operator on
the value reached; a fault leaves this value. A step divides by zero exactly if it divides by the
integer zero or by a zero among the doubles, and overflows exactly if it adds, subtracts or
multiplies integers whose exact result does not fit. In the end there is an integer exactly if the
chain began with one and no step that was carried out divides or has a double on its right side, and
it is the exact result of these steps. Behind a double there are only doubles, and no overflow. -/
theorem accumulate_results (start : Number) (steps : List (Operator × Number)) :
    (start.accumulate steps).length = steps.length ∧
    (∀ k op rhs, steps[k]? = some (op, rhs) →
      ∃ result, (start.accumulate steps)[k]? = some result ∧
        result = (reached start steps k).apply op rhs ∧
        (∀ v, result = .ok v → reached start steps (k + 1) = v) ∧
        (∀ fault, result = .error fault → reached start steps (k + 1) = reached start steps k) ∧
        (result = .error .divisionByZero ↔
          op = .div ∧ (rhs = .integer 0 ∨ rhs = .float 0 ∨ rhs = .float (-0))) ∧
        (result = .error .overflow ↔
          (op = .add ∨ op = .sub ∨ op = .mul) ∧
            ∃ m n, reached start steps k = .integer m ∧ rhs = .integer n ∧
              ¬ (-2 ^ 63 ≤ op.exact m.toInt n.toInt ∧
                op.exact m.toInt n.toInt ≤ 2 ^ 63 - 1))) ∧
    ((∃ n, reached start steps steps.length = .integer n) ↔
      (∃ n, start = .integer n) ∧
        ∀ step ∈ carried start steps, step.1 ≠ .div ∧ ∃ n, step.2 = .integer n) ∧
    (∀ m n, start = .integer m → reached start steps steps.length = .integer n →
      n.toInt =
        (carried start steps).foldl (fun k step => step.1.exact k step.2.exact) m.toInt) ∧
    ∀ j x, reached start steps j = .float x → ∀ k, j ≤ k →
      (∃ y, reached start steps k = .float y) ∧
        (start.accumulate steps)[k]? ≠ some (.error .overflow) := by
  refine ⟨length_accumulate start steps, fun k op rhs hstep => ?_, ?_, fun m n hm hn => ?_,
    fun j x hj k hle => ?_⟩
  · have hnext := reached_succ start hstep
    refine ⟨_, getElem?_accumulate start hstep, rfl, fun v hv => ?_, fun fault hfault => ?_, ?_,
      apply_eq_overflow_iff_exists⟩
    · rw [hnext, hv]
      rfl
    · rw [hnext, hfault]
      rfl
    · rw [apply_eq_divisionByZero_iff, toFloat_eq_zero_iff]
  · simp only [← isInteger_iff]
    exact isInteger_reached start steps
  · have hexact := exact_reached start steps (isInteger_iff.mpr ⟨n, hn⟩)
    rw [hn, hm] at hexact
    subst hm
    exact hexact
  · have hdouble := not_isInteger_reached hle (not_isInteger_iff.mpr ⟨x, hj⟩)
    refine ⟨not_isInteger_iff.mp hdouble, fun hoverflow => ?_⟩
    rcases hstep : steps[k]? with _ | ⟨op, rhs⟩
    · have hlength := (List.getElem?_eq_some_iff.mp hoverflow).1
      rw [length_accumulate] at hlength
      exact absurd (List.getElem?_eq_none_iff.mp hstep) (Nat.not_le_of_lt hlength)
    · rw [getElem?_accumulate start hstep, Option.some.injEq, apply_eq_overflow_iff] at hoverflow
      exact hdouble hoverflow.2.1.1

/-- A quotient by zero is passed over. -/
example : reached (.integer 5) [(.div, .integer 0), (.mul, .integer 3)] 2 = .integer 15 := by
  decide +kernel

end Calculator.Number
