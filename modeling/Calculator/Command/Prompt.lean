import Calculator.Command.Report

/-! # The prompt

The prompt asks for a line, evaluates it, and asks again, until the input ends. A line that fails
fails nothing else, and a blank line is evaluated like any other. A line that encodes no text ends
the run at once. -/

namespace Calculator.Command

/-- What asks for a line. -/
def prompt : String := "calc > "

/-- The name of a source that has no other. -/
def inputName : String := "<stdin>"

/-- The answer to one line, with the prompt for the next. -/
def Report.ofLine (filter : Log.Filter) (line : List UInt8) : Report :=
  match decode? line with
  | none => .giveUp "stream did not contain valid UTF-8"
  | some text =>
    { Report.ofSource filter ⟨inputName, text⟩ with code := 0 }.andThen { output := prompt }

/-- The answers to the lines of an input after what was reported so far, up to the first line that
encodes no text; at the end of the input a new line leaves the last prompt. -/
def Report.ofRest (filter : Log.Filter) (sofar : Report) : List (List UInt8) → Report
  | [] => sofar.andThen { output := "\n" }
  | line :: rest =>
    let next := sofar.andThen (.ofLine filter line)
    if next.failure.isSome then next else ofRest filter next rest

/-- The run on an input. -/
def Report.ofInput (filter : Log.Filter) (input : List UInt8) : Report :=
  .ofRest filter { output := prompt } (Text.byteLines input)

end Calculator.Command
