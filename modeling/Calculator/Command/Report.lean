import Calculator.Evaluation
import Calculator.Log.Filter
import Calculator.Text.Lines

/-! # Reports

What a run of the program leaves behind. The evaluation of a source prints its value or its error
and logs the events that the filter shows; runs that follow each other add up. -/

namespace Calculator.Command

/-- The traces of a run. -/
structure Report where
  /-- The exit code. -/
  code : Nat := 0
  /-- What is printed. -/
  output : String := ""
  /-- The lines that are logged. -/
  log : List String := []
  /-- Why the program gave up, if it did. -/
  failure : Option String := none
  deriving DecidableEq, Repr

namespace Report

/-- One run after another: together they fail if either does. -/
def andThen (first second : Report) : Report :=
  { code := max first.code second.code
    output := first.output ++ second.output
    log := first.log ++ second.log
    failure := first.failure.or second.failure }

/-- The first line of the reason to give up; a reason that names a path may have more. -/
def headline (report : Report) : Option String :=
  report.failure.map fun reason => String.ofList ((Text.charLines reason.toList).headD [])

/-- A run that gives up. -/
def giveUp (failure : String) : Report := { code := 1, failure := some failure }

/-- The run that ends at a directive that cannot be read. A divided character ends it without words,
and with a code of its own. -/
def ofFilterError (error : Log.Directive.Error) : Report :=
  { code := if error = .dividedCharacter then 101 else 1, failure := error.message? }

/-- The line or the two lines that show a result. -/
def shown : Except Error Number → String
  | .ok value => value.text ++ "\n"
  | .error error => error.message ++ "\n"

/-- The evaluation of a source. -/
def ofSource (filter : Log.Filter) (source : Source) : Report :=
  let evaluation := source.evaluate
  { code := if evaluation.result.isOk then 0 else 1
    output := shown evaluation.result
    log := filter.lines evaluation.events }

end Report

/-- The text that a sequence of bytes encodes, if it is well formed. -/
def decode? (bytes : List UInt8) : Option String := String.fromUTF8? bytes.toByteArray

end Calculator.Command
