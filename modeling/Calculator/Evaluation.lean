import Calculator.Lexer
import Calculator.Parser

/-! # Evaluation

A source is read to its end before the first token is parsed; if reading fails, nothing is parsed.
The end of the tokens is reported where the reading came to rest. -/

namespace Calculator

/-- The value or the error of a source, and the events on the way to it. -/
structure Evaluation where
  result : Except Error Number
  events : Array Event

/-- The event that ends an evaluation. -/
def Event.ending : Except Error Number → Event
  | .ok value => .evaluated value
  | .error error => .failed error.kind

/-- The evaluation of a source. -/
def Source.evaluate (source : Source) : Evaluation :=
  match (Lexer.start source).tokens with
  | ⟨.error error, _, read⟩ => ⟨.error error, #[.evaluating source.name] ++ read⟩
  | ⟨.ok tokens, lexer, read⟩ =>
    match Parser.parse { tokens, eof := lexer.position } with
    | ⟨result, _, parsed⟩ =>
      ⟨result, #[.evaluating source.name] ++ read ++ parsed ++ #[.ending result]⟩

theorem Source.result_evaluate_of_error {source : Source} {error : Error}
    (h : (Lexer.start source).tokens.result = .error error) :
    source.evaluate.result = .error error := by
  unfold evaluate
  rcases ho : (Lexer.start source).tokens with ⟨result, lexer, read⟩
  rw [ho] at h
  cases h
  rfl

theorem Source.result_evaluate_of_ok {source : Source} {tokens : List Placed}
    (h : (Lexer.start source).tokens.result = .ok tokens) :
    source.evaluate.result =
      (Parser.parse { tokens, eof := (Lexer.start source).tokens.state.position }).result := by
  unfold evaluate
  rcases ho : (Lexer.start source).tokens with ⟨result, lexer, read⟩
  rw [ho] at h
  cases h
  rfl

/-- The events of reading stand before those of parsing, and both between the events that begin and
end the evaluation. -/
theorem Source.events_evaluate_of_ok {source : Source} {tokens : List Placed}
    (h : (Lexer.start source).tokens.result = .ok tokens) :
    source.evaluate.events =
      #[.evaluating source.name] ++ (Lexer.start source).tokens.events ++
        (Parser.parse { tokens, eof := (Lexer.start source).tokens.state.position }).events ++
          #[.ending source.evaluate.result] := by
  unfold evaluate
  rcases ho : (Lexer.start source).tokens with ⟨result, lexer, read⟩
  rw [ho] at h
  cases h
  rfl

/-- Comparison of evaluations by their results: values as values, errors by kind, details and both
positions. -/
def Evaluation.agree (a b : Evaluation) : Bool :=
  match a.result, b.result with
  | .ok v, .ok w => v == w
  | .error d, .error e => d = e
  | _, _ => false

end Calculator
