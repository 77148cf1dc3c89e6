import XmlSchema.CommandLine

/-!
# Reading command lines

`CommandLine.read` takes the arguments of a program apart.  Up to three arguments stand for
themselves: a path, a line and a column.  The others start with hyphens: long options with two,
short ones, which may be bundled, with one.  An option takes its value from behind an equals sign
or from the next argument; a short option also from the rest of its own argument.  Behind a lone
`--` every argument stands for itself.

A value is looked at when the next option or plain argument begins, so that an unknown option wins
over a bad value right in front of it.
-/

namespace XmlSchema

open XmlSchema.Text

/-- Why a command line is refused, or what is shown instead of a run. -/
inductive UsageError where
  /-- A value is missing, or is none of the possible ones. -/
  | invalidValue
  | unknownArgument
  /-- Two arguments exclude each other, or one is given twice. -/
  | argumentConflict
  /-- A value is no number of the right range. -/
  | valueValidation
  /-- A switch is given a value. -/
  | tooManyValues
  | displayHelp
  | displayVersion
  deriving DecidableEq, Repr

namespace CommandLine

/-- The options. -/
inductive Flag where
  | files
  | format
  | baseDir
  | noWarnings
  | config
  | extensions
  | exclude
  | threads
  | verbose
  | quiet
  | help
  | version
  deriving DecidableEq, Repr

namespace Flag

/-- The option with a long name. -/
def ofLong? : String → Option Flag
  | "files" => some .files
  | "format" => some .format
  | "base-dir" => some .baseDir
  | "no-warnings" => some .noWarnings
  | "config" => some .config
  | "extensions" => some .extensions
  | "exclude" => some .exclude
  | "threads" => some .threads
  | "verbose" => some .verbose
  | "quiet" => some .quiet
  | "help" => some .help
  | "version" => some .version
  | _ => none

/-- The option with a short name. -/
def ofShort? : Char → Option Flag
  | 'f' => some .format
  | 'c' => some .config
  | 'e' => some .extensions
  | 't' => some .threads
  | 'v' => some .verbose
  | 'q' => some .quiet
  | 'h' => some .help
  | 'V' => some .version
  | _ => none

/-- Whether an option takes a value. -/
def takesValue : Flag → Bool
  | .noWarnings | .verbose | .quiet | .help | .version => false
  | _ => true

/-- Whether an option may be given more than once. -/
def repeatable : Flag → Bool
  | .files | .exclude => true
  | _ => false

end Flag

/-- What a value is given for. -/
inductive Target where
  | flag (flag : Flag)
  | path
  | line
  | column
  deriving DecidableEq, Repr

/-- How far a command line has been read. -/
structure Reading where
  result : CommandLine := {}
  /-- The options that have been taken in. -/
  seen : List Flag := []
  /-- The option or plain argument that has been begun, with its values so far. -/
  pending : Option (Target × List String) := none
  /-- The option that has been begun takes one more value. -/
  awaiting : Bool := false
  /-- The number of plain arguments. -/
  plain : Nat := 0
  /-- A lone `--` has been met. -/
  trailing : Bool := false

/-- A line or column. -/
def position? (value : String) : Option UInt32 :=
  (int? 0 maxWord32 value.toList).map fun n => n.toNat.toUInt32

/-- A path; the empty one is refused. -/
def path? (value : String) : Option Path := if value.isEmpty then none else some (.ofText value)

/-- Reads a value. -/
def store (c : CommandLine) (target : Target) (value : String) : Except UsageError CommandLine :=
  let valid {α : Type} (v : Option α) (f : α → CommandLine) : Except UsageError CommandLine :=
    match v with
    | some a => .ok (f a)
    | none => .error .invalidValue
  let number {α : Type} (v : Option α) (f : α → CommandLine) : Except UsageError CommandLine :=
    match v with
    | some a => .ok (f a)
    | none => .error .valueValidation
  match target with
  | .path => .ok { c with path := some value }
  | .line => number (position? value) fun n => { c with line := some n }
  | .column => number (position? value) fun n => { c with column := some n }
  | .flag .files => valid (path? value) fun p => { c with files := c.files ++ [p] }
  | .flag .format => valid (OutputFormat.ofName? value) fun f => { c with format := some f }
  | .flag .baseDir => valid (path? value) fun p => { c with baseDir := some p }
  | .flag .config => valid (path? value) fun p => { c with config := some p }
  | .flag .extensions => .ok { c with extensions := some value }
  | .flag .exclude => .ok { c with exclude := c.exclude ++ [value] }
  | .flag .threads =>
    number (nat? maxWord64 value.toList) fun n => { c with threads := some n }
  | .flag .noWarnings => .ok { c with noWarnings := true }
  | .flag .verbose => .ok { c with verbose := true }
  | .flag .quiet => .ok { c with quiet := true }
  | .flag .help | .flag .version => .ok c

namespace Reading

/-- Notes that an option has been taken in; a second time is refused for most of them. -/
def note (r : Reading) (flag : Flag) : Except UsageError Reading :=
  if r.seen.contains flag && !flag.repeatable then .error .argumentConflict
  else .ok { r with seen := flag :: r.seen }

/-- Takes in the values of an option or plain argument. -/
def record (r : Reading) (target : Target) (values : List String) : Except UsageError Reading := do
  if values.isEmpty then throw .invalidValue
  let r ← match target with
    | .flag flag => r.note flag
    | _ => pure r
  let result ← values.foldlM (store · target) r.result
  return { r with result }

/-- Takes in what has been begun. -/
def settle (r : Reading) : Except UsageError Reading :=
  match r.pending with
  | some (target, values) => record { r with pending := none } target values
  | none => .ok r

/-- Begins an option whose value comes later. -/
def await (r : Reading) (flag : Flag) : Except UsageError Reading := do
  return { ← r.settle with pending := some (.flag flag, []), awaiting := true }

/-- Takes in an option with its value. -/
def attach (r : Reading) (flag : Flag) (value : String) : Except UsageError Reading := do
  return { ← (← r.settle).record (.flag flag) [value] with awaiting := false }

/-- Takes in an option without value. -/
def switch (r : Reading) (flag : Flag) : Except UsageError Reading := do
  let r ← r.settle
  match flag with
  | .help => throw .displayHelp
  | .version => throw .displayVersion
  | _ =>
    let r ← r.note flag
    return { r with result := ← store r.result (.flag flag) "", awaiting := false }

/-- Reads a long option, given without its hyphens. -/
def long (r : Reading) (cs : List Char) : Except UsageError Reading :=
  let value := (cs.dropWhile (· != '=')).tail?.map String.ofList
  match Flag.ofLong? (String.ofList (cs.takeWhile (· != '='))), value with
  | none, _ => .error .unknownArgument
  | some flag, some value => if flag.takesValue then r.attach flag value else .error .tooManyValues
  | some flag, none => if flag.takesValue then r.await flag else r.switch flag

/-- Reads a bundle of short options, given without the hyphen. -/
def short (r : Reading) : List Char → Except UsageError Reading
  | [] => .ok r
  | c :: rest =>
    match Flag.ofShort? c with
    | none => .error .unknownArgument
    | some flag =>
      if flag.takesValue then
        match rest with
        | [] => r.await flag
        | '=' :: value => r.attach flag (String.ofList value)
        | value => r.attach flag (String.ofList value)
      else do short (← r.switch flag) rest

/-- Reads a plain argument. -/
def plainArgument (r : Reading) (argument : String) : Except UsageError Reading := do
  let target ← match r.plain with
    | 0 => pure Target.path
    | 1 => pure .line
    | 2 => pure .column
    | _ => throw .unknownArgument
  return { ← r.settle with
    pending := some (target, [argument]), awaiting := false, plain := r.plain + 1 }

/-- Reads a value of the option that has been begun. -/
def nextValue (r : Reading) (value : String) : Reading :=
  match r.pending with
  | some (target, values) =>
    { r with
      pending := some (target, values ++ [value])
      awaiting := target = .flag .files }
  | none => r

/-- Reads an argument. -/
def step (r : Reading) (argument : String) : Except UsageError Reading :=
  if r.trailing then r.plainArgument argument
  else
    match argument.toList with
    | ['-', '-'] => .ok { r with trailing := true }
    | '-' :: '-' :: rest => r.long rest
    | '-' :: c :: rest => r.short (c :: rest)
    | _ => if r.awaiting then .ok (r.nextValue argument) else r.plainArgument argument

/-- Ends the reading.  A path excludes a list of files, and a run cannot be both verbose and
quiet. -/
def finish (r : Reading) : Except UsageError CommandLine := do
  let c := (← r.settle).result
  if (c.path.isSome && !c.files.isEmpty) || (c.verbose && c.quiet) then throw .argumentConflict
  return c

end Reading

/-- Reads the arguments of a program. -/
def read (arguments : List String) : Except UsageError CommandLine := do
  (← arguments.foldlM Reading.step {}).finish

end CommandLine

end XmlSchema
