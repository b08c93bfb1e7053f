import Calculator.Text.Extender
import Calculator.Text.Unprintable

/-! # Quoted characters and texts

How a character or a text is shown inside quotes. The quote in use, the backslash and the four
control characters with a letter of their own are written with a backslash; a character that could
not be read on a page is written by its code point; every other character stands for itself. The
main statement is that no quoted character brings a line break, so a message that quotes one keeps
its lines. -/

namespace Calculator.Text

/-- The letter that stands for a character after a backslash, where `quote` encloses the text. -/
def escapeLetter? (quote c : Char) : Option Char :=
  if c = '\x00' then some '0'
  else if c = '\t' then some 't'
  else if c = '\r' then some 'r'
  else if c = '\n' then some 'n'
  else if c = '\\' then some '\\'
  else if c = quote then some quote
  else none

/-- A code point in lower-case hexadecimal digits without leading zeros. -/
def codePoint (c : Char) : List Char :=
  ['\\', 'u', '\x7b'] ++ Nat.toDigits 16 c.toNat ++ ['\x7d']

/-- What stands for a character where `quote` encloses the text. -/
def escape (quote c : Char) : List Char :=
  match escapeLetter? quote c with
  | some letter => ['\\', letter]
  | none => if isExtender c || isUnprintable c then codePoint c else [c]

/-! ### Line breaks -/

theorem escapeLetter?_ne {quote c letter : Char} (hn : quote ≠ '\n') (hr : quote ≠ '\r')
    (h : escapeLetter? quote c = some letter) : letter ≠ '\n' ∧ letter ≠ '\r' := by
  unfold escapeLetter? at h
  split at h
  · cases h; decide
  split at h
  · cases h; decide
  split at h
  · cases h; decide
  split at h
  · cases h; decide
  split at h
  · cases h; decide
  split at h
  · cases h; exact ⟨hn, hr⟩
  · cases h

theorem ne_of_escapeLetter?_eq_none {quote c : Char} (h : escapeLetter? quote c = none) :
    c ≠ '\n' ∧ c ≠ '\r' := by
  constructor
  · rintro rfl; cases h
  · rintro rfl; cases h

theorem digitChar_ne {n : Nat} (h : n < 16) :
    Nat.digitChar n ≠ '\n' ∧ Nat.digitChar n ≠ '\r' := by
  revert n; decide

theorem digit_ne {n : Nat} {d : Char} (h : d ∈ Nat.toDigits 16 n) : d ≠ '\n' ∧ d ≠ '\r' := by
  induction n using Nat.strongRecOn with
  | _ n ih =>
    rw [Nat.toDigits_eq_if (by decide)] at h
    split at h
    · obtain rfl : d = n.digitChar := by simpa using h
      exact digitChar_ne ‹_›
    · rcases List.mem_append.1 h with h | h
      · exact ih (n / 16) (Nat.div_lt_self (by omega) (by decide)) h
      · obtain rfl : d = (n % 16).digitChar := by simpa using h
        exact digitChar_ne (Nat.mod_lt _ (by decide))

theorem codePoint_ne {c d : Char} (h : d ∈ codePoint c) : d ≠ '\n' ∧ d ≠ '\r' := by
  simp only [codePoint, List.mem_append, List.mem_cons, List.not_mem_nil, or_false] at h
  rcases h with ((rfl | rfl | rfl) | h) | rfl
  · decide
  · decide
  · decide
  · exact digit_ne h
  · decide

/-- Quoted text has no line break, whatever it quotes. -/
theorem escape_ne {quote c d : Char} (hn : quote ≠ '\n') (hr : quote ≠ '\r')
    (h : d ∈ escape quote c) : d ≠ '\n' ∧ d ≠ '\r' := by
  unfold escape at h
  split at h
  · next letter hl =>
    simp only [List.mem_cons, List.not_mem_nil, or_false] at h
    rcases h with rfl | rfl
    · decide
    · exact escapeLetter?_ne hn hr hl
  · next hl =>
    split at h
    · exact codePoint_ne h
    · obtain rfl : d = c := by simpa using h
      exact ne_of_escapeLetter?_eq_none hl

/-! ### Quoting -/

/-- A character in single quotes. -/
def quoteChar (c : Char) : String :=
  String.ofList ('\'' :: escape '\'' c ++ ['\''])

/-- A text in double quotes. -/
def quoteText (text : String) : String :=
  String.ofList ('"' :: text.toList.flatMap (escape '"') ++ ['"'])

end Calculator.Text
