import Calculator.Proofs.Evaluation.Blame
import Calculator.Proofs.Evaluation.Moved

/-! # Sources as labels

The name of a source and its text stand in the positions of an error and have no other part in an
evaluation but that the text is read (`evaluate_label`). Under another name the words of the text
are the same at the same places, so both evaluations are those of a text whose words stay where
they are (`evaluate_moved`); and where an error points determines both of its positions up to the
source (`Error.PointsAt.samePlace`). -/

namespace Calculator

/-- The two positions differ in their sources only. -/
structure Position.SamePlace (p q : Position) : Prop where
  index : p.index = q.index
  line : p.line = q.line
  column : p.column = q.column

theorem Source.eq_iff {source other : Source} :
    source = other ↔ source.name = other.name ∧ source.text = other.text := by
  cases source
  cases other
  rw [Source.mk.injEq]

section PointsAt

variable {source other : Source} {i j : Nat} {d e : Error}

theorem Error.PointsAt.index_start (h : e.PointsAt source i j) : e.start.index = i := by
  rw [h.start]

theorem Error.PointsAt.index_stop (h : e.PointsAt source i j) : e.stop.index = j := by
  rw [h.stop]
  split <;> rfl

theorem Error.PointsAt.sources (h : e.PointsAt source i j) :
    e.start.source = source ∧ e.stop.source = source := by
  refine ⟨by rw [h.start], ?_⟩
  rw [h.stop]
  split <;> rfl

/-- Errors about the same characters of the same text are at the same places. -/
theorem Error.PointsAt.samePlace (hd : d.PointsAt source i j) (he : e.PointsAt other i j)
    (hkind : d.kind = e.kind) (htext : source.text = other.text) :
    d.start.SamePlace e.start ∧ d.stop.SamePlace e.stop := by
  rw [hd.start, hd.stop, he.start, he.stop, hkind, htext]
  refine ⟨⟨rfl, rfl, rfl⟩, ?_⟩
  split <;> exact ⟨rfl, rfl, rfl⟩

end PointsAt

/-- Under another name the same text has the same value or fails alike, at the same places. -/
theorem evaluate_renamed (name name' text : String) :
    let first := (⟨name, text⟩ : Source).evaluate.result
    let second := (⟨name', text⟩ : Source).evaluate.result
    (∃ v, first = .ok v ∧ second = .ok v) ∨
      ∃ d e, first = .error d ∧ second = .error e ∧ d.kind = e.kind ∧ d.details = e.details ∧
        d.start.SamePlace e.start ∧ d.stop.SamePlace e.stop := by
  intro first second
  obtain ⟨words, stuck, hs⟩ := exists_scan 0 text.toList
  rcases evaluate_moved ⟨name, text⟩ ⟨name', text⟩ hs hs (.refl words stuck) (fun _ => rfl) rfl with
    hvalue | ⟨d, e, hd, he, hmatch⟩
  · exact Or.inl hvalue
  obtain ⟨i, j, hpoints, -⟩ := blames_of_evaluate hd
  obtain ⟨i', j', hpoints', -⟩ := blames_of_evaluate he
  obtain ⟨place, length, hstart, hstop, hstart', hstop'⟩ := hmatch.span
  obtain rfl : i = i' :=
    Int.ofNat_inj.1 (hpoints.index_start.symm.trans (hstart.trans (hstart'.symm.trans
      hpoints'.index_start)))
  obtain rfl : j = j' :=
    Int.ofNat_inj.1 (hpoints.index_stop.symm.trans (hstop.trans (hstop'.symm.trans
      hpoints'.index_stop)))
  exact Or.inr ⟨d, e, hd, he, hmatch.kind, hmatch.details, hpoints.samePlace hpoints' hmatch.kind
    rfl⟩

theorem error_eq_iff {source other : Source} {d e : Error}
    (hd : source.evaluate.result = .error d) (he : other.evaluate.result = .error e) :
    d = e ↔ source = other := by
  obtain ⟨i, j, hpoints, -⟩ := blames_of_evaluate hd
  obtain ⟨i', j', hpoints', -⟩ := blames_of_evaluate he
  constructor
  · rintro rfl
    exact hpoints.sources.1.symm.trans hpoints'.sources.1
  · rintro rfl
    exact Except.error.inj (hd.symm.trans he)

/-- **The name of a source and its text only label** its errors. Under two names a text has the
same value, or fails with errors that differ in the name only. Every position of an error carries
its source, so that two errors compare equal exactly if they are of the same text under the same
name. -/
theorem evaluate_label (name name' text : String) :
    ((∃ v, (⟨name, text⟩ : Source).evaluate.result = .ok v ∧
        (⟨name', text⟩ : Source).evaluate.result = .ok v) ∨
      ∃ d e, (⟨name, text⟩ : Source).evaluate.result = .error d ∧
        (⟨name', text⟩ : Source).evaluate.result = .error e ∧
        d.kind = e.kind ∧ d.details = e.details ∧
        d.start.SamePlace e.start ∧ d.stop.SamePlace e.stop) ∧
    ∀ (source other : Source) (d e : Error), source.evaluate.result = .error d →
      other.evaluate.result = .error e →
        (d.start.source = source ∧ d.stop.source = source) ∧
        (d = e ↔ source.name = other.name ∧ source.text = other.text) ∧
        (source.evaluate.agree other.evaluate ↔
          source.name = other.name ∧ source.text = other.text) := by
  refine ⟨evaluate_renamed name name' text, fun source other d e hd he => ?_⟩
  have heq : d = e ↔ source.name = other.name ∧ source.text = other.text := by
    rw [error_eq_iff hd he, Source.eq_iff]
  have hagree : source.evaluate.agree other.evaluate ↔ d = e := by
    simp [Evaluation.agree, hd, he]
  obtain ⟨i, j, hpoints, -⟩ := blames_of_evaluate hd
  exact ⟨hpoints.sources, heq, hagree.trans heq⟩

/-- An illegal line feed, in two sources that differ in their names and in one with more text. -/
theorem evaluate_label_line_feed :
    let first : Source := ⟨"a", "1\n"⟩
    let second : Source := ⟨"b", "1\n"⟩
    let longer : Source := ⟨"a", "1\n2"⟩
    let d : Error := ⟨.illegalCharacter, ⟨1, 0, 1, first⟩, ⟨2, 1, 0, first⟩, "'\\n'"⟩
    first.evaluate.result = .error d ∧
      (∃ e, second.evaluate.result = .error e ∧ d.start.SamePlace e.start ∧
        d.stop.SamePlace e.stop ∧ d ≠ e) ∧
      ∃ e, longer.evaluate.result = .error e ∧ d ≠ e ∧
        ¬ first.evaluate.agree longer.evaluate := by
  intro first second longer d
  have hd : first.evaluate.result = .error d := Source.result_evaluate_of_error (by decide)
  obtain ⟨hrenamed, hcompare⟩ := evaluate_label "a" "b" "1\n"
  have hlonger : longer.evaluate.result = .error
      ⟨.illegalCharacter, ⟨1, 0, 1, longer⟩, ⟨2, 1, 0, longer⟩, "'\\n'"⟩ :=
    Source.result_evaluate_of_error (by decide)
  refine ⟨hd, ?_, _, hlonger, ?_⟩
  · rcases hrenamed with ⟨v, hv, -⟩ | ⟨d', e, hd', he, -, -, hstart, hstop⟩
    · cases hd.symm.trans hv
    obtain rfl : d = d' := Except.error.inj (hd.symm.trans hd')
    have hdiffer := (hcompare first second d e hd he).2.1
    exact ⟨e, he, hstart, hstop, fun h => absurd (hdiffer.1 h).1 (by decide)⟩
  · obtain ⟨-, hdiffer, hagree⟩ := hcompare first longer d _ hd hlonger
    have htext : first.text ≠ longer.text := by decide
    exact ⟨fun h => htext (hdiffer.1 h).2, fun h => htext (hagree.1 h).2⟩

end Calculator
