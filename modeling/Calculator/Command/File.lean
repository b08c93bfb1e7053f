import Calculator.Command.Report
import Calculator.Text.WhiteSpace

/-! # Files

A file is decoded as a whole before anything is evaluated. Its lines are evaluated one by one under
the path of the file, blank lines left out; a line that fails does not stop the others, but the run
fails. -/

namespace Calculator.Command

/-- The lines of a text that are evaluated. -/
def expressions (text : String) : List String :=
  ((Text.charLines text.toList).filter fun line => !Text.isBlank line).map String.ofList

/-- The run on the lines of a file, after what was reported so far. -/
def Report.ofLines (filter : Log.Filter) (path : String) (sofar : Report) (lines : List String) :
    Report :=
  lines.foldl (fun sofar line => sofar.andThen (.ofSource filter ⟨path, line⟩)) sofar

/-- The run on a file with these bytes; there are none if the file cannot be read. -/
def Report.ofFile (filter : Log.Filter) (path : String) (bytes : Option (List UInt8)) : Report :=
  match bytes.bind decode? with
  | none => .giveUp ("failed to read the input file '" ++ path ++ "'")
  | some text => .ofLines filter path {} (expressions text)

end Calculator.Command
