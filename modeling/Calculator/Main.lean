import Calculator.Command.Task

/-! # The program

The outer layer: it reads the arguments, the file or the input, and prints reports. Results go to
the standard output; the log and the reason to give up go to the standard error. -/

namespace Calculator

open Command

/-- The bytes of the input up to and with the next line feed, after the bytes `seen`. -/
partial def readPiece (input : IO.FS.Stream) (seen : ByteArray) : IO ByteArray := do
  let byte ← input.read 1
  if byte.isEmpty then return seen
  else if byte.toList.contains 10 then return seen ++ byte
  else readPiece input (seen ++ byte)

/-- Print a report and give its exit code. -/
def printReport (report : Report) : IO UInt32 := do
  let output ← IO.getStdout
  output.putStr report.output
  output.flush
  report.log.forM fun line => IO.eprintln line
  report.failure.forM fun failure => IO.eprintln ("Error: " ++ failure)
  return report.code.toUInt32

/-- Answer the lines of the input as they come. -/
partial def serve (filter : Log.Filter) (input : IO.FS.Stream) : IO UInt32 := do
  let piece ← readPiece input .empty
  match Text.byteLines piece.toList with
  | [] => printReport { output := "\n" }
  | line :: _ =>
    let report := Report.ofLine filter line
    let code ← printReport report
    if report.failure.isSome then return code else serve filter input

/-- The bytes of a file; none if it cannot be read. -/
def readFile? (path : String) : IO (Option (List UInt8)) := do
  try
    let bytes ← IO.FS.readBinFile path
    return some bytes.toList
  catch _ => return none

/-- Carry out the task of a command line. -/
def perform (line : List String) : IO UInt32 := do
  match plan line with
  | .error report =>
    if report.code = 2 then IO.eprint help
    printReport report
  | .ok (filter, .expression source) => printReport (.ofSource filter source)
  | .ok (filter, .file path) => do printReport (.ofFile filter path (← readFile? path))
  | .ok (filter, .prompt) => do
    let _ ← printReport { output := prompt }
    serve filter (← IO.getStdin)

end Calculator

def main (line : List String) : IO UInt32 := Calculator.perform line
