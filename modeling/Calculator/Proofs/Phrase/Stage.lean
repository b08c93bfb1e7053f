import Calculator.Proofs.Phrase

/-! # Reading a word from the left

What may follow a word depends on two things only: whether an operand has to begin or has just
ended, and how many parentheses are open. A `Stage` holds both, and `Stage.run?` leads it over a
word as long as there is a next one. Every phrase leads from the stage before an operand to the
stage behind it (`run?_tokens`), so a word that leads nowhere begins no sentence
(`Viable.exists_run?`). The precedence of operators plays no part. -/

namespace Calculator

/-- What a word leads to. -/
inductive Stage where
  /-- An operand has to begin. -/
  | before (depth : Nat)
  /-- An operand has just ended. -/
  | behind (depth : Nat)
  deriving DecidableEq, Repr

namespace Stage

/-- The number of open parentheses. -/
def depth : Stage → Nat
  | before depth | behind depth => depth

/-- The stage after one more token, if it may follow. -/
def next? (limit : Nat) : Stage → Token → Option Stage
  | before depth, .number _ => some (behind depth)
  | before depth, .openParen => if depth < limit then some (before (depth + 1)) else none
  | behind depth, .operator _ => some (before depth)
  | behind (depth + 1), .closeParen => some (behind depth)
  | _, _ => none

/-- The stage after a word, if each token of it may follow the ones before. -/
def run? (limit : Nat) : Stage → List Token → Option Stage
  | stage, [] => some stage
  | stage, token :: rest => (stage.next? limit token).bind fun next => run? limit next rest

variable {limit : Nat}

@[simp] theorem run?_nil (stage : Stage) : stage.run? limit [] = some stage := rfl

theorem run?_cons (stage : Stage) (token : Token) (rest : List Token) :
    stage.run? limit (token :: rest) =
      (stage.next? limit token).bind fun next => next.run? limit rest := rfl

theorem run?_append : ∀ (left right : List Token) (stage : Stage),
    stage.run? limit (left ++ right) =
      (stage.run? limit left).bind fun next => next.run? limit right
  | [], _, _ => rfl
  | token :: left, right, stage => by
    rw [List.cons_append, run?_cons, run?_cons]
    rcases stage.next? limit token with _ | next
    · rfl
    · exact run?_append left right next

theorem run?_append_of_some {left right : List Token} {stage next : Stage}
    (h : stage.run? limit left = some next) :
    stage.run? limit (left ++ right) = next.run? limit right := by
  rw [run?_append, h]; rfl

theorem exists_run?_of_append {left right : List Token} {stage last : Stage}
    (h : stage.run? limit (left ++ right) = some last) :
    ∃ next, stage.run? limit left = some next ∧ next.run? limit right = some last := by
  rw [run?_append, Option.bind_eq_some_iff] at h
  exact h

theorem run?_singleton (stage : Stage) (token : Token) :
    stage.run? limit [token] = stage.next? limit token := by
  rw [run?_cons]
  rcases stage.next? limit token with _ | next <;> rfl

end Stage

/-! ### Parentheses -/

/-- How many parentheses a word opens. -/
def opened (word : List Token) : Nat := word.countP fun token => token = .openParen

/-- How many parentheses a word closes. -/
def closed (word : List Token) : Nat := word.countP fun token => token = .closeParen

/-- How many parentheses are open behind a word. -/
def unclosed (word : List Token) : Nat := opened word - closed word

@[simp] theorem opened_nil : opened [] = 0 := rfl

@[simp] theorem closed_nil : closed [] = 0 := rfl

@[simp] theorem opened_append (left right : List Token) :
    opened (left ++ right) = opened left + opened right := List.countP_append

@[simp] theorem closed_append (left right : List Token) :
    closed (left ++ right) = closed left + closed right := List.countP_append

@[simp] theorem opened_cons (token : Token) (rest : List Token) :
    opened (token :: rest) = opened rest + if token = .openParen then 1 else 0 := by
  simp [opened, List.countP_cons]

@[simp] theorem closed_cons (token : Token) (rest : List Token) :
    closed (token :: rest) = closed rest + if token = .closeParen then 1 else 0 := by
  simp [closed, List.countP_cons]

namespace Stage

variable {limit : Nat}

theorem next?_eq_some {stage next : Stage} {token : Token}
    (h : stage.next? limit token = some next) :
    (∃ d v, stage = before d ∧ token = .number v ∧ next = behind d) ∨
    (∃ d, stage = before d ∧ token = .openParen ∧ d < limit ∧ next = before (d + 1)) ∨
    (∃ d op, stage = behind d ∧ token = .operator op ∧ next = before d) ∨
    (∃ d, stage = behind (d + 1) ∧ token = .closeParen ∧ next = behind d) := by
  unfold next? at h
  split at h
  · next d v => cases h; exact Or.inl ⟨d, v, rfl, rfl, rfl⟩
  · next d =>
    split at h
    · next hd => cases h; exact Or.inr (Or.inl ⟨d, rfl, rfl, hd, rfl⟩)
    · cases h
  · next d op => cases h; exact Or.inr (Or.inr (Or.inl ⟨d, op, rfl, rfl, rfl⟩))
  · next d => cases h; exact Or.inr (Or.inr (Or.inr ⟨d, rfl, rfl, rfl⟩))
  · cases h

/-- A token changes the number of open parentheses as it should, and keeps to the limit. -/
theorem depth_next? {stage next : Stage} {token : Token} (h : stage.next? limit token = some next) :
    stage.depth + opened [token] = next.depth + closed [token] ∧
      (stage.depth ≤ limit → next.depth ≤ limit) := by
  rcases next?_eq_some h with ⟨d, v, rfl, rfl, rfl⟩ | ⟨d, rfl, rfl, hd, rfl⟩ |
    ⟨d, op, rfl, rfl, rfl⟩ | ⟨d, rfl, rfl, rfl⟩
  all_goals simp [depth]
  all_goals omega

theorem depth_run? : ∀ {word : List Token} {stage last : Stage},
    stage.run? limit word = some last →
      stage.depth + opened word = last.depth + closed word ∧
        (stage.depth ≤ limit → last.depth ≤ limit)
  | [], stage, last, h => by
    cases h
    exact ⟨rfl, id⟩
  | token :: rest, stage, last, h => by
    rw [run?_cons, Option.bind_eq_some_iff] at h
    obtain ⟨next, hnext, hrest⟩ := h
    obtain ⟨hcount, hlimit⟩ := depth_next? hnext
    obtain ⟨ihcount, ihlimit⟩ := depth_run? hrest
    rw [← List.singleton_append, opened_append, closed_append]
    exact ⟨by omega, fun h => ihlimit (hlimit h)⟩

theorem run?_mono {more : Nat} (hle : limit ≤ more) : ∀ {word : List Token} {stage last : Stage},
    stage.run? limit word = some last → stage.run? more word = some last
  | [], _, _, h => h
  | token :: rest, stage, last, h => by
    rw [run?_cons, Option.bind_eq_some_iff] at h
    obtain ⟨next, hnext, hrest⟩ := h
    have hmore : stage.next? more token = some next := by
      rcases next?_eq_some hnext with ⟨d, v, rfl, rfl, rfl⟩ | ⟨d, rfl, rfl, hd, rfl⟩ |
        ⟨d, op, rfl, rfl, rfl⟩ | ⟨d, rfl, rfl, rfl⟩
      · rfl
      · simp only [next?, if_pos (Nat.lt_of_lt_of_le hd hle)]
      · rfl
      · rfl
    rw [run?_cons, hmore]
    exact run?_mono hle hrest

/-- A phrase leads from before an operand to behind it. -/
theorem run?_tokens : ∀ {kind : Phrase.Kind} (phrase : Phrase kind) {d : Nat},
    phrase.depth + d ≤ limit → (before d).run? limit phrase.tokens = some (behind d)
  | _, .number v, d, _ => rfl
  | _, .group inner, d, h => by
    rw [Phrase.depth_group] at h
    have hin := run?_tokens inner (d := d + 1) (by omega)
    rw [Phrase.tokens_group, run?_cons]
    simp only [next?, if_pos (show d < limit by omega), Option.bind_some]
    rw [run?_append_of_some hin]
    rfl
  | _, .single operand, d, h => run?_tokens operand h
  | _, .apply lhs op _ rhs, d, h => by
    rw [Phrase.depth_apply] at h
    have hl := run?_tokens lhs (d := d) (by omega)
    have hr := run?_tokens rhs (d := d) (by omega)
    rw [Phrase.tokens_apply, run?_append_of_some hl, run?_cons]
    exact hr

end Stage

/-! ### Sentences -/

theorem Sentence.run? {limit : Nat} {word : List Token} (h : Sentence limit word) :
    (Stage.before 0).run? limit word = some (.behind 0) := by
  obtain ⟨phrase, rfl, hd⟩ := h
  exact Stage.run?_tokens phrase hd

theorem Viable.exists_run? {limit : Nat} {word : List Token} (h : Viable limit word) :
    ∃ stage, (Stage.before 0).run? limit word = some stage := by
  obtain ⟨rest, h⟩ := h
  obtain ⟨stage, hs, -⟩ := Stage.exists_run?_of_append h.run?
  exact ⟨stage, hs⟩

theorem unclosed_eq_depth {limit : Nat} {word : List Token} {stage : Stage}
    (h : (Stage.before 0).run? limit word = some stage) : unclosed word = stage.depth := by
  have := (Stage.depth_run? h).1
  simp only [Stage.depth] at this
  unfold unclosed
  simp only [Stage.depth]
  omega

namespace Phrase

variable {kind : Kind}

theorem opened_tokens (phrase : Phrase kind) : opened phrase.tokens = closed phrase.tokens := by
  have h := (Stage.depth_run? (Stage.run?_tokens phrase (d := 0) (Nat.le_refl _))).1
  simp only [Stage.depth] at h
  omega

/-- A beginning of a phrase closes no more than it opens. -/
theorem closed_le_opened {phrase : Phrase kind} {left right : List Token}
    (h : phrase.tokens = left ++ right) : closed left ≤ opened left := by
  have hrun := Stage.run?_tokens phrase (d := 0) (Nat.le_refl _)
  rw [h] at hrun
  obtain ⟨stage, hs, -⟩ := Stage.exists_run?_of_append hrun
  have hcount := (Stage.depth_run? hs).1
  simp only [Stage.depth] at hcount
  omega

end Phrase

end Calculator
