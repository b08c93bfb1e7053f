import Calculator.Error
import Calculator.Proofs.Lexeme.Scan
import Mathlib.Data.List.Forall2

/-! # The answer to a scan

What the words of a scan, and the place where it is stuck, call for. As long as no word is too large
each one has its token, with the indices of its first character and of the one after its last; the
first word that is too large is an error over its whole length, and the place where the scan is
stuck is an error over one character.

* `Answer`: the result, word by word.
* `Answer.forall₂`, `Answer.error_cases`: the result as a whole.
* `Scan.tiles`: the spans of the tokens are not empty, lie one behind the other, and leave out
  nothing but blanks. -/

namespace Calculator

/-- The token at a stretch is what its characters spell. -/
structure Stretch.Gives (w : Stretch) (placed : Placed) : Prop where
  spells : Spells w.chars placed.token
  start : placed.start.index = w.start
  stop : placed.stop.index = w.stop

/-- The error says that the word at the stretch is too large. -/
structure Stretch.TooLargeError (w : Stretch) (e : Error) : Prop where
  kind : e.kind = .literalTooLarge
  start : e.start.index = w.start
  stop : e.stop.index = w.stop
  details : e.details = String.ofList w.chars ++ " does not fit in a 64-bit integer"

/-- The error says that the character at the place begins no token. -/
structure IllegalAt (text : List Char) (place : Nat) (e : Error) : Prop where
  kind : e.kind = .illegalCharacter
  start : e.start.index = place
  stop : e.stop.index = place + 1
  details : ∃ c, text[place]? = some c ∧ e.details = Text.quoteChar c

/-- **The result that a scan of `text` calls for.** -/
inductive Answer (text : List Char) :
    List Stretch → Option Nat → Except Error (List Placed) → Prop
  | done : Answer text [] none (.ok [])
  | stuck {place : Nat} {e : Error} (he : IllegalAt text place e) :
    Answer text [] (some place) (.error e)
  | tooLarge {w : Stretch} {words : List Stretch} {stuck : Option Nat} {e : Error}
    (hw : TooLarge w.chars) (he : w.TooLargeError e) :
    Answer text (w :: words) stuck (.error e)
  | token {w : Stretch} {words : List Stretch} {stuck : Option Nat} {placed : Placed}
    {result : Except Error (List Placed)} (hw : ¬ TooLarge w.chars) (hp : w.Gives placed)
    (h : Answer text words stuck result) :
    Answer text (w :: words) stuck (result.map (placed :: ·))

/-! ### The answer as a whole -/

theorem Answer.forall₂ {text : List Char} {words : List Stretch} {stuck : Option Nat}
    {tokens : List Placed} (h : Answer text words stuck (.ok tokens)) :
    stuck = none ∧ (∀ w ∈ words, ¬ TooLarge w.chars) ∧ List.Forall₂ Stretch.Gives words tokens := by
  generalize hr : Except.ok tokens = result at h
  induction h generalizing tokens with
  | done =>
    cases hr
    exact ⟨rfl, by simp, .nil⟩
  | stuck => cases hr
  | tooLarge => cases hr
  | @token w _ _ placed result hw hp _ ih =>
    cases result with
    | error => cases hr
    | ok rest =>
      obtain ⟨hs, hwords, hall⟩ := ih rfl
      cases hr
      exact ⟨hs, List.forall_mem_cons.2 ⟨hw, hwords⟩, .cons hp hall⟩

/-- A failure is at the first word that is too large, or else where the scan is stuck. -/
theorem Answer.error_cases {text : List Char} {words : List Stretch} {stuck : Option Nat}
    {e : Error} (h : Answer text words stuck (.error e)) :
    (∃ before w after, words = before ++ w :: after ∧ (∀ v ∈ before, ¬ TooLarge v.chars) ∧
        TooLarge w.chars ∧ w.TooLargeError e) ∨
      ∃ place, stuck = some place ∧ (∀ w ∈ words, ¬ TooLarge w.chars) ∧
        IllegalAt text place e := by
  generalize hr : Except.error e = result at h
  induction h with
  | done => cases hr
  | stuck he =>
    cases hr
    exact Or.inr ⟨_, rfl, by simp, he⟩
  | @tooLarge w words _ _ hw he =>
    cases hr
    exact Or.inl ⟨[], w, words, rfl, by simp, hw, he⟩
  | @token v _ _ placed result hv _ _ ih =>
    cases result with
    | ok => cases hr
    | error =>
      cases hr
      rcases ih rfl with ⟨before, w, after, rfl, hbefore, hw, he⟩ | ⟨place, rfl, hwords, he⟩
      · exact Or.inl ⟨v :: before, w, after, rfl, List.forall_mem_cons.2 ⟨hv, hbefore⟩, hw, he⟩
      · exact Or.inr ⟨place, rfl, List.forall_mem_cons.2 ⟨hv, hwords⟩, he⟩

/-! ### Where the tokens lie -/

/-- The tokens lie in the text one behind the other, with nothing but blanks between them. -/
structure Tiles (text : List Char) (tokens : List Placed) : Prop where
  nonempty : ∀ t ∈ tokens, t.start.index < t.stop.index
  ordered : tokens.Pairwise fun s t => s.stop.index ≤ t.start.index
  outside : ∀ (j : Nat) (c : Char), text[j]? = some c →
    Blank c ∨ ∃ t ∈ tokens, t.start.index ≤ j ∧ j < t.stop.index

theorem Tiles.eq_of_start {text : List Char} {tokens : List Placed} (h : Tiles text tokens)
    {i j : Nat} {s t : Placed} (hs : tokens[i]? = some s) (ht : tokens[j]? = some t)
    (hstart : s.start.index = t.start.index) : i = j := by
  have hbefore : ∀ {i j : Nat} {s t : Placed}, tokens[i]? = some s → tokens[j]? = some t → i < j →
      s.start.index < t.start.index := by
    intro i j s t hs ht hlt
    obtain ⟨hi, rfl⟩ := List.getElem?_eq_some_iff.mp hs
    obtain ⟨hj, rfl⟩ := List.getElem?_eq_some_iff.mp ht
    exact Int.lt_of_lt_of_le (h.nonempty _ (List.getElem_mem hi))
      (List.pairwise_iff_getElem.mp h.ordered i j hi hj hlt)
  rcases Nat.lt_trichotomy i j with hlt | heq | hlt
  · have := hbefore hs ht hlt
    omega
  · exact heq
  · have := hbefore ht hs hlt
    omega

section Gives
variable {words : List Stretch} {tokens : List Placed}

theorem exists_stretch (h : List.Forall₂ Stretch.Gives words tokens) :
    ∀ t ∈ tokens, ∃ w ∈ words, w.Gives t := by
  induction h with
  | nil => simp
  | cons hp _ ih =>
    refine List.forall_mem_cons.2 ⟨⟨_, List.mem_cons_self .., hp⟩, fun t ht => ?_⟩
    obtain ⟨w, hw, hg⟩ := ih t ht
    exact ⟨w, List.mem_cons_of_mem _ hw, hg⟩

theorem exists_placed (h : List.Forall₂ Stretch.Gives words tokens) :
    ∀ w ∈ words, ∃ t ∈ tokens, w.Gives t := by
  induction h with
  | nil => simp
  | cons hp _ ih =>
    refine List.forall_mem_cons.2 ⟨⟨_, List.mem_cons_self .., hp⟩, fun w hw => ?_⟩
    obtain ⟨t, ht, hg⟩ := ih w hw
    exact ⟨t, List.mem_cons_of_mem _ ht, hg⟩

theorem pairwise_placed (h : List.Forall₂ Stretch.Gives words tokens)
    (hw : words.Pairwise fun w v => w.stop ≤ v.start) :
    tokens.Pairwise fun s t => s.stop.index ≤ t.start.index := by
  induction h with
  | nil => exact List.Pairwise.nil
  | cons hp hall ih =>
    obtain ⟨hfirst, hrest⟩ := List.pairwise_cons.1 hw
    refine List.pairwise_cons.2 ⟨fun t ht => ?_, ih hrest⟩
    obtain ⟨v, hv, hg⟩ := exists_stretch hall t ht
    have := hfirst v hv
    rw [hp.stop, hg.start]
    omega

/-- **The tokens of a scan that reaches the end tile the text.** -/
theorem Scan.tiles {text : List Char} (hs : Scan 0 text words none)
    (h : List.Forall₂ Stretch.Gives words tokens) : Tiles text tokens := by
  refine ⟨fun t ht => ?_, pairwise_placed h hs.ordered, fun j c hj => ?_⟩
  · obtain ⟨w, hw, hg⟩ := exists_stretch h t ht
    have := hs.bounds w hw
    rw [hg.start, hg.stop]
    omega
  · rcases hs.blank_outside hj with hb | ⟨w, hw, hle, hlt⟩
    · exact Or.inl hb
    · obtain ⟨t, ht, hg⟩ := exists_placed h w hw
      refine Or.inr ⟨t, ht, ?_, ?_⟩
      · rw [hg.start]
        omega
      · rw [hg.stop]
        omega

end Gives

end Calculator
