import XmlSchema.Location
import XmlSchema.Output

/-!
# Command lines

What a command line asks for, once it has been taken apart (`CommandLine`), and what follows from it:
the documents to validate (`CommandLine.inputs`), the file extensions to look for
(`CommandLine.extensionList?`) and the place of the cursor.  `CommandLine.check` refuses numbers
that make no sense.
-/

namespace XmlSchema

open XmlSchema.Text

/-- The arguments of a run. -/
structure CommandLine where
  /-- The document or directory to validate. -/
  path : Option String := none
  /-- The line of the cursor, counted from one. -/
  line : Option UInt32 := none
  /-- The column of the cursor, counted from one. -/
  column : Option UInt32 := none
  /-- Several documents or directories to validate. -/
  files : List Path := []
  format : Option OutputFormat := none
  /-- The directory that schema locations are relative to. -/
  baseDir : Option Path := none
  noWarnings : Bool := false
  /-- The file with the settings. -/
  config : Option Path := none
  /-- The file extensions to look for in directories, with commas between them. -/
  extensions : Option String := none
  /-- Patterns of files to leave out. -/
  exclude : List String := []
  threads : Option Nat := none
  verbose : Bool := false
  quiet : Bool := false
  deriving DecidableEq, Repr

/-- Why the input of a run is refused. -/
inductive InputError where
  | noThreads
  | zeroPosition
  /-- A document on the network. -/
  | remoteDocument (address : String)
  deriving DecidableEq, Repr

/-- The wording of an input error. -/
def InputError.message (e : InputError) : String :=
  "Invalid input: " ++ match e with
    | .noThreads => "Number of threads must be greater than 0"
    | .zeroPosition => "Line and column are 1-based"
    | .remoteDocument address => "Remote documents are not supported: " ++ address

/-- Something to validate. -/
inductive Input where
  /-- The document that comes in on the standard input. -/
  | stdin
  | path (path : Path)
  deriving DecidableEq, Repr

/-- The file that an argument names, by its path or as a URI. -/
def documentPath (argument : String) : Except InputError Path :=
  match SchemaLocation.ofText argument ⟨[]⟩ with
  | .file path => .ok path
  | .remote address => .error (.remoteDocument address)

/-- The parts of a text between commas. -/
def splitCommas (s : String) : List String :=
  let parts := s.toList.foldr (fun c (parts : List Char × List (List Char)) =>
    if c = ',' then ([], parts.1 :: parts.2) else (c :: parts.1, parts.2)) ([], [])
  (parts.1 :: parts.2).map String.ofList

/-- The words of a list with commas between them; empty ones do not count. -/
def commaList (s : String) : List String :=
  ((splitCommas s).map trimString).filter (!·.isEmpty)

namespace CommandLine

/-- The extensions to look for, without leading dots. -/
def extensionList? (c : CommandLine) : Option (List String) :=
  c.extensions.map fun list =>
    ((splitCommas list).map fun word =>
      String.ofList ((trim word.toList).dropWhile (· == '.'))).filter (!·.isEmpty)

/-- The line and column of the cursor. -/
def cursor (c : CommandLine) : Option (UInt32 × UInt32) :=
  c.line.map fun line => (line, c.column.getD 1)

/-- How much is to be written. -/
def verbosity (c : CommandLine) : Verbosity := .ofFlags c.verbose c.quiet

/-- What is to be validated. -/
def inputs (c : CommandLine) : Except InputError (List Input) :=
  if c.files.isEmpty then
    match c.path with
    | some path => (documentPath path).map fun path => [.path path]
    | none => .ok [.stdin]
  else .ok (c.files.map .path)

/-- Refuses a number of threads, a line or a column that is zero. -/
def check (c : CommandLine) : Except InputError Unit :=
  if c.threads = some 0 then .error .noThreads
  else if c.line = some 0 ∨ c.column = some 0 then .error .zeroPosition
  else .ok ()

end CommandLine

end XmlSchema
