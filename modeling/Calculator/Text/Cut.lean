import Calculator.Source

/-! # Places in bytes

A place in a text is given by the number of bytes before it. A number of bytes that would divide a
character, or go beyond the text, is no place. The main statement is that a text cut at the two ends
of a part gives that part. -/

namespace Calculator.Text

/-- What follows the first bytes of a text. -/
def dropBytes? : Nat → List Char → Option (List Char)
  | 0, text => some text
  | _ + 1, [] => none
  | n + 1, c :: rest => if c.utf8Size ≤ n + 1 then dropBytes? (n + 1 - c.utf8Size) rest else none

/-- The first bytes of a text. -/
def takeBytes? : Nat → List Char → Option (List Char)
  | 0, _ => some []
  | _ + 1, [] => none
  | n + 1, c :: rest =>
    if c.utf8Size ≤ n + 1 then (takeBytes? (n + 1 - c.utf8Size) rest).map (c :: ·) else none

/-- The part of a text between two places. -/
def cut? (text : List Char) (start stop : Nat) : Option (List Char) :=
  (dropBytes? start text).bind (takeBytes? (stop - start))

theorem dropBytes?_append (before after : List Char) :
    dropBytes? (utf8Length before) (before ++ after) = some after := by
  induction before with
  | nil => cases after <;> rfl
  | cons c before ih =>
    obtain ⟨n, hn⟩ : ∃ n, utf8Length (c :: before) = n + 1 :=
      Nat.exists_eq_add_one.2 (Nat.add_pos_left c.utf8Size_pos _)
    rw [hn, List.cons_append, dropBytes?, ← hn]
    simp [ih]

theorem takeBytes?_append (part after : List Char) :
    takeBytes? (utf8Length part) (part ++ after) = some part := by
  induction part with
  | nil => cases after <;> rfl
  | cons c part ih =>
    obtain ⟨n, hn⟩ : ∃ n, utf8Length (c :: part) = n + 1 :=
      Nat.exists_eq_add_one.2 (Nat.add_pos_left c.utf8Size_pos _)
    rw [hn, List.cons_append, takeBytes?, ← hn]
    simp [ih]

theorem cut?_append (before part after : List Char) :
    cut? (before ++ (part ++ after)) (utf8Length before) (utf8Length before + utf8Length part) =
      some part := by
  simp [cut?, dropBytes?_append, takeBytes?_append]

end Calculator.Text
