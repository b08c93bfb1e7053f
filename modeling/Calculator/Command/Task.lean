import Calculator.Command.Arguments
import Calculator.Command.File
import Calculator.Command.Prompt

/-! # Tasks

What a command line asks for: to evaluate one expression, the lines of a file, or the lines of the
input. The arguments are judged first and the log filter after them; only then is anything read or
evaluated.

The environment is left out. A valid filter that it names comes before that of the arguments, which
is then not judged; a run here is one for which it names none. Once a filter is read it decides on
the log alone. -/

namespace Calculator.Command

/-- What there is to do. -/
inductive Task where
  /-- Evaluate one source. -/
  | expression (source : Source)
  /-- Evaluate the lines of a file. -/
  | file (path : String)
  /-- Evaluate the lines of the input. -/
  | prompt
  deriving DecidableEq, Repr

/-- The task of a command line. -/
def Arguments.task (a : Arguments) : Task :=
  match a.contents, a.file with
  | none, _ => .prompt
  | some path, true => .file path
  | some text, false => .expression ⟨a.sourceName.getD inputName, text⟩

/-- The log filter where none is given. -/
def defaultFilter : String := "warn"

/-- The line that names the version. -/
def version : String := "tinycalc 0.1.0\n"

/-- The lines that help. -/
def help : String :=
  "tinycalc evaluates arithmetic expressions over integers and floats\n\n" ++
  "Usage: tinycalc [OPTIONS] [CONTENTS]\n\n" ++
  "Arguments:\n" ++
  "  [CONTENTS]  Expression to evaluate, or a file path with --file\n\n" ++
  "Options:\n" ++
  "  -f, --file                       Evaluate the file one line at a time\n" ++
  "  -s, --source-name <SOURCE_NAME>  Label of an expression in errors [default: <stdin>]\n" ++
  "      --log-level <LOG_LEVEL>      Events to log [default: warn]\n" ++
  "  -h, --help                       Print help\n" ++
  "  -V, --version                    Print version\n"

/-- The run that takes the place of a task. -/
def Halt.report : Halt → Report
  | .help => { output := Command.help }
  | .version => { output := Command.version }
  | _ => { code := 2 }

/-- The log filter and the task of a command line, or the run in their place. The filter is that of
the option or the default; none is taken from the environment. -/
def plan (line : List String) : Except Report (Log.Filter × Task) :=
  match Arguments.parse line with
  | .error halt => .error halt.report
  | .ok a =>
    match Log.Filter.parse (a.logLevel.getD defaultFilter) with
    | .error error => .error (.ofFilterError error)
    | .ok filter => .ok (filter, a.task)

/-- The run of a command line, where `files` gives the bytes of a file by its path and `input` is
the standard input. -/
def run (line : List String) (files : String → Option (List UInt8)) (input : List UInt8) : Report :=
  match plan line with
  | .error report => report
  | .ok (filter, .expression source) => .ofSource filter source
  | .ok (filter, .file path) => .ofFile filter path (files path)
  | .ok (filter, .prompt) => .ofInput filter input

end Calculator.Command
