/-! # Command line arguments

Options come before or after the one argument that is not an option, short options may stand
together in one argument, and the value of an option follows it, in the same argument or as the
next one. Everything after two hyphens is no option. The arguments are taken from left to right, and
the first that is wrong, or that asks for the version or for help, decides. -/

namespace Calculator.Command

/-- What the command line says. -/
structure Arguments where
  /-- The contents are the path of a file. -/
  file : Bool := false
  /-- The label of an expression in errors. -/
  sourceName : Option String := none
  /-- Which events to log. -/
  logLevel : Option String := none
  /-- The expression or the path. -/
  contents : Option String := none
  deriving DecidableEq, Repr

/-- Why nothing is evaluated. -/
inductive Halt where
  /-- Help is asked for. -/
  | help
  /-- The version is asked for. -/
  | version
  /-- No option has this name. -/
  | unknownOption
  /-- The option takes no value. -/
  | unexpectedValue
  /-- The value of an option is missing. -/
  | missingValue
  /-- An option is given twice. -/
  | repeatedOption
  /-- A second argument that is not an option. -/
  | extraArgument
  /-- There is no path to read. -/
  | missingContents
  deriving DecidableEq, Repr

/-- The options without a value. -/
inductive Flag where
  | file
  | version
  | help
  deriving DecidableEq, Repr

/-- The options with a value. -/
inductive Setting where
  | sourceName
  | logLevel
  deriving DecidableEq, Repr

/-- An option. -/
inductive Switch where
  | flag (flag : Flag)
  | setting (setting : Setting)
  deriving DecidableEq, Repr

namespace Switch

/-- The option of a name after two hyphens. -/
def ofName? (name : List Char) : Option Switch :=
  [("file", flag .file), ("version", flag .version), ("help", flag .help),
    ("source-name", setting .sourceName), ("log-level", setting .logLevel)].findSome?
    fun entry => if entry.1.toList = name then some entry.2 else none

/-- The option of a letter after one hyphen. -/
def ofLetter? : Char → Option Switch
  | 'f' => some (flag .file)
  | 'V' => some (flag .version)
  | 'h' => some (flag .help)
  | 's' => some (setting .sourceName)
  | _ => none

end Switch

namespace Arguments

/-- A flag is given. -/
def raise (a : Arguments) : Flag → Except Halt Arguments
  | .file => if a.file then .error .repeatedOption else .ok { a with file := true }
  | .version => .error .version
  | .help => .error .help

/-- The setting has no value yet. -/
def isUnset (a : Arguments) : Setting → Bool
  | .sourceName => a.sourceName.isNone
  | .logLevel => a.logLevel.isNone

/-- A setting is given with its value. -/
def set (a : Arguments) (setting : Setting) (value : List Char) : Except Halt Arguments :=
  if a.isUnset setting then
    match setting with
    | .sourceName => .ok { a with sourceName := some (String.ofList value) }
    | .logLevel => .ok { a with logLevel := some (String.ofList value) }
  else .error .repeatedOption

/-- An argument that is not an option is given. -/
def addContents (a : Arguments) (contents : String) : Except Halt Arguments :=
  if a.contents.isSome then .error .extraArgument else .ok { a with contents := some contents }

end Arguments

/-- What an argument leaves to do: nothing, or to take the next argument as the value of a
setting. -/
abbrev Progress := Arguments × Option Setting

/-- The argument after two hyphens: a name, and a value after an equals sign. -/
def readLong (a : Arguments) (text : List Char) : Except Halt Progress :=
  let name := text.takeWhile (· ≠ '=')
  match Switch.ofName? name, text.dropWhile (· ≠ '=') with
  | none, _ => .error .unknownOption
  | some (.flag flag), [] => do return (← a.raise flag, none)
  | some (.flag _), _ :: _ => .error .unexpectedValue
  | some (.setting setting), [] => .ok (a, some setting)
  | some (.setting setting), _ :: value => do return (← a.set setting value, none)

/-- The letters after one hyphen: flags, and at the end perhaps a setting, whose value is what is
left of the argument after an equals sign or none. -/
def readShort (a : Arguments) : List Char → Except Halt Progress
  | [] => .ok (a, none)
  | letter :: rest =>
    match Switch.ofLetter? letter, rest with
    | none, _ => .error .unknownOption
    | some (.flag flag), rest => do readShort (← a.raise flag) rest
    | some (.setting setting), [] => .ok (a, some setting)
    | some (.setting setting), '=' :: value => do return (← a.set setting value, none)
    | some (.setting setting), value => do return (← a.set setting value, none)

/-- The arguments after two hyphens alone. -/
def readContents (a : Arguments) : List String → Except Halt Arguments
  | [] => .ok a
  | argument :: rest => do readContents (← a.addContents argument) rest

/-- The arguments from left to right; `pending` still waits for its value. -/
def readAll (a : Arguments) (pending : Option Setting) : List String → Except Halt Arguments
  | [] => if pending.isSome then .error .missingValue else .ok a
  | argument :: rest =>
    match argument.toList, pending with
    | ['-', '-'], none => readContents a rest
    | '-' :: '-' :: text, none => do
      let (a, pending) ← readLong a text
      readAll a pending rest
    | '-' :: letter :: letters, none => do
      let (a, pending) ← readShort a (letter :: letters)
      readAll a pending rest
    | '-' :: _ :: _, some _ => .error .missingValue
    | _, none => do readAll (← a.addContents argument) none rest
    | value, some setting => do readAll (← a.set setting value) none rest

/-- The arguments of a command line. A file needs a path. -/
def Arguments.parse (line : List String) : Except Halt Arguments := do
  let a ← readAll {} none line
  if a.file && a.contents.isNone then .error .missingContents else .ok a

end Calculator.Command
