import LiveTree.Command

/-!
# Command line arguments

The arguments are read from left to right on two levels: options of the program, the name of a
command, then options and the file of that command.  The general options are known on both levels;
what the command level says goes before what the program level says.

* A long option starts with two dashes and has its value behind an equals sign or as the next
  argument, which then must not look like an option.  On one level no option may be given twice.
* An option given with a separate value takes effect only when the next option arrives or its level
  ends.  So a request for help that stands behind the command's name comes before a mistake in the
  last option in front of it.
* Behind a lone double dash, all arguments of a level are plain.
-/

namespace LiveTree

/-- What the value of an option must be. -/
inductive ValueKind where
  /-- The option has no value. -/
  | flag
  /-- A path is not empty. -/
  | path
  | text
  /-- A count is a machine word. -/
  | count
  deriving DecidableEq, Repr

/-- Reads a decimal number of at most 64 bits, with or without a plus sign. -/
def readCount? (value : String) : Option Nat :=
  let digits := match value.toList with
    | '+' :: rest => rest
    | all => all
  let number := digits.foldl (fun n c => 10 * n + (c.toNat - '0'.toNat)) 0
  if !digits.isEmpty && digits.all Char.isDigit && number < UInt64.size then some number else none

/-- Whether a value is of a kind. -/
def ValueKind.accepts (value : String) : ValueKind → Bool
  | flag => true
  | path => value ≠ ""
  | text => true
  | count => (readCount? value).isSome

namespace Arguments

/-- What a level of arguments knows. -/
structure Level where
  options : List (String × ValueKind)
  hasVersion : Bool := false
  takesFile : Bool := true

/-- The options known on both levels. -/
def generalOptions : List (String × ValueKind) :=
  [("config", .path), ("language", .text), ("log-level", .text), ("no-color", .flag),
    ("log-file", .flag)]

/-- The level in front of the command's name. -/
def programLevel : Level := { options := generalOptions, hasVersion := true, takesFile := false }

/-- The commands and their own options. -/
def commandOptions : List (String × List (String × ValueKind)) :=
  [("tree", [("sexp", .flag)]), ("select", [("offset", .count)]),
    ("bracket", [("start", .count), ("end", .count)]), ("verify", [("chunks", .count)])]

/-- An argument as it is written. -/
inductive Argument where
  | plain (value : String)
  | doubleDash
  | long (name : String) (value : Option String)
  | short (letter : Char)
  deriving DecidableEq, Repr

/-- Tells options from plain arguments; a lone dash is plain.  Of letters behind one dash only the
    first matters, because every letter that means anything ends the reading. -/
def Argument.ofString (arg : String) : Argument :=
  match arg.toList with
  | ['-', '-'] => doubleDash
  | '-' :: '-' :: rest =>
    let name := rest.takeWhile (· ≠ '=')
    match rest.dropWhile (· ≠ '=') with
    | _ :: value => long (String.ofList name) (some (String.ofList value))
    | [] => long (String.ofList name) none
  | '-' :: letter :: _ => short letter
  | _ => plain arg

/-- What has been read on a level: the options in effect, the last option while it waits, the file,
    and whether a double dash has been passed. -/
structure Reading where
  options : List (String × String) := []
  waiting : Option (String × Option String) := none
  file : Option String := none
  plainOnly : Bool := false
  deriving DecidableEq, Repr

namespace Reading

/-- Whether the next argument must be the value of an option. -/
def wantsValue (r : Reading) : Bool := r.waiting.any (·.2.isNone)

/-- Puts an option into effect. -/
def take (r : Reading) (level : Level) (name value : String) : Except Stop Reading :=
  if (r.options.lookup name).isNone && (level.options.lookup name).any (·.accepts value) then
    .ok { r with options := (name, value) :: r.options }
  else .error .usage

/-- Puts the waiting option into effect. -/
def resolve (r : Reading) (level : Level) : Except Stop Reading :=
  match r.waiting with
  | none => .ok r
  | some (_, none) => .error .usage
  | some (name, some value) => { r with waiting := none }.take level name value

/-- Reads a plain argument. -/
def plain (r : Reading) (level : Level) (value : String) : Except Stop Reading := do
  let r ← r.resolve level
  if level.takesFile && r.file.isNone && value ≠ "" then .ok { r with file := some value }
  else .error .usage

/-- Reads a long option. -/
def long (r : Reading) (level : Level) (name : String) (value : Option String) :
    Except Stop Reading := do
  let r ← r.resolve level
  if name = "help" && value.isNone then .error .help
  else if name = "version" && value.isNone && level.hasVersion then .error .version
  else
    match level.options.lookup name, value with
    | none, _ => .error .usage
    | some .flag, some _ => .error .usage
    | some .flag, none => r.take level name ""
    | some _, some value => r.take level name value
    | some _, none => .ok { r with waiting := some (name, none) }

/-- Reads a one-letter option. -/
def short (r : Reading) (level : Level) (letter : Char) : Except Stop Reading := do
  let _ ← r.resolve level
  if letter = 'h' then .error .help
  else if letter = 'V' && level.hasVersion then .error .version
  else .error .usage

/-- Reads one argument. -/
def step (level : Level) (r : Reading) (arg : String) : Except Stop Reading :=
  if r.plainOnly then r.plain level arg
  else
    match Argument.ofString arg, r.waiting with
    | .plain value, some (name, none) => .ok { r with waiting := some (name, some value) }
    | .plain value, _ => r.plain level value
    | .doubleDash, _ => .ok { r with plainOnly := true }
    | .long name value, _ => r.long level name value
    | .short letter, _ => r.short level letter

/-- The count given as an option. -/
def count? (r : Reading) (name : String) : Option Nat := do readCount? (← r.options.lookup name)

/-- Whether a flag was given. -/
def has (r : Reading) (name : String) : Bool := (r.options.lookup name).isSome

/-- The command that a level's reading amounts to; `none` if something is lacking. -/
def command? (r : Reading) (name : String) : Option Command := do
  let file ← r.file
  match name with
  | "tree" => return .tree file (r.has "sexp")
  | "select" => return .select file (← r.count? "offset")
  | "bracket" => return .bracket file ⟨← r.count? "start", ← r.count? "end"⟩
  | "verify" => return .verify file ((r.count? "chunks").getD 16)
  | _ => none

end Reading

/-- Reads the arguments behind a command's name. -/
def readCommand (name : String) (options : List (String × ValueKind)) (args : List String) :
    Except Stop (Reading × Command) := do
  let level : Level := { options := options ++ generalOptions }
  let r ← args.foldlM (Reading.step level) {}
  let r ← r.resolve level
  match r.command? name with
  | some command => return (r, command)
  | none => throw .usage

/-- Reads the arguments behind a request for help: at most one command can be asked about. -/
def readHelp : List String → Stop
  | [] => .help
  | [name] => if name = "help" || (commandOptions.lookup name).isSome then .help else .usage
  | _ => .usage

/-- What both levels say together. -/
def combine (program level : Reading) (command : Command) : Invocation :=
  let option (name : String) := (level.options.lookup name).or (program.options.lookup name)
  { command := command
    config := option "config"
    language := option "language"
    logLevel := option "log-level"
    noColor := (option "no-color").isSome
    logFile := (option "log-file").isSome }

/-- Reads the arguments from the program level on. -/
def read (program : Reading) : List String → Except Stop Invocation
  | [] => .error .usage
  | arg :: rest => do
    -- The value of an option may well be spelled like a command.
    if program.plainOnly || program.wantsValue then
      read (← program.step programLevel arg) rest
    else if arg = "help" then throw (readHelp rest)
    else
      match commandOptions.lookup arg with
      | some options =>
        let (level, command) ← readCommand arg options rest
        -- Only now is the last program option looked at.
        let program ← program.resolve programLevel
        return combine program level command
      | none => read (← program.step programLevel arg) rest

/-- Reads all arguments. -/
def parse (args : List String) : Except Stop Invocation := read {} args

end Arguments

end LiveTree
