import XmlSchema.CommandLine.Reader
import XmlSchema.Discovery
import XmlSchema.LanguageServer.Session
import XmlSchema.Settings.Format
import XmlSchema.Validation.Files

/-!
# Programs

`Program.run` is the command line program: it validates the documents that its arguments name and
prints the reports.  What is found in documents never makes a run fail; only inputs that cannot be
read do.  `Program.serverSettings` prepares the language server.
-/

namespace XmlSchema

open XmlSchema.Text

/-- What a program is run with. -/
structure Host (m : Type → Type) where
  files : FileAccess m
  environment : Environment
  workingDirectory : Path
  /-- The bytes on the standard input. -/
  standardInput : m (Except FileError (List UInt8))
  /-- Whether the output is shown in colours. -/
  colors : Bool := false

/-- How a run ends. -/
structure Outcome where
  code : Nat := 0
  output : String := ""
  errors : String := ""
  deriving DecidableEq, Repr

/-- Why a run fails. -/
inductive RunError where
  | input (cause : InputError)
  | settings (cause : SettingsError)
  | discovery (cause : DiscoveryError)
  | standardInput (cause : FileError)
  /-- Documents that could not be read. -/
  | unread (count : Nat)
  deriving DecidableEq, Repr

/-- The wording of an error, followed by what is behind it. -/
def RunError.messages : RunError → List String
  | .input cause => [cause.message]
  | .settings cause => "Failed to load configuration" :: cause.message :: cause.causes
  | .discovery cause => cause.message :: cause.causes
  | .standardInput cause => ["Failed to read document from stdin", cause.message]
  | .unread count => [toString count ++ " document(s) could not be read"]

/-- A text whose further lines are indented. -/
def indentLines (indent : String) (s : String) : String :=
  String.join (s.toList.map fun c => if c = '\n' then "\n" ++ indent else c.toString)

/-- The text that reports an error and what is behind it.  Several causes are numbered. -/
def errorText : List String → String
  | [] => ""
  | [message] => "Error: " ++ message ++ "\n"
  | [message, cause] =>
    "Error: " ++ message ++ "\n\nCaused by:\n    " ++ indentLines "    " cause ++ "\n"
  | message :: causes =>
    let numbered := causes.zipIdx.map fun (cause, index) =>
      "    " ++ toString index ++ ": " ++ indentLines "       " cause ++ "\n"
    "Error: " ++ message ++ "\n\nCaused by:\n" ++ String.join numbered

/-- The name of the command line program. -/
def programName : String := "xsd-validate"

/-- How the command line program is called. -/
def usageText : String :=
  "Usage: " ++ programName ++ " [OPTIONS] [PATH] [LINE] [COLUMN]\n"

/-- The help on the command line program. -/
def helpText : String :=
  "Validate XML documents against the XML Schemas named by their xsi:schemaLocation hints\n\n" ++
  usageText ++
  String.join ([
    "",
    "Arguments:",
    "  [PATH]    Document or directory to validate; stdin when omitted",
    "  [LINE]    1-based cursor line hint",
    "  [COLUMN]  1-based cursor column hint",
    "",
    "Options:",
    "      --files <FILES>...            Validate several documents or directories",
    "  -f, --format <FORMAT>             [possible values: human, json]",
    "      --base-dir <BASE_DIR>         Directory relative schema locations resolve against",
    "      --no-warnings                 Drop Warning issues from reports",
    "  -c, --config <CONFIG>             Configuration file (TOML or JSON)",
    "  -e, --extensions <EXTENSIONS>     File extensions to process (e.g., 'xml,cmdi')",
    "      --exclude <EXCLUDE_PATTERNS>  Exclude file patterns (gitignore glob syntax)",
    "  -t, --threads <THREADS>           Number of concurrent validation threads",
    "  -v, --verbose                     Enable verbose output",
    "  -q, --quiet                       Quiet mode",
    "  -h, --help                        Print help",
    "  -V, --version                     Print version"].map (· ++ "\n"))

/-- How a run ends whose command line is not one of a validation. -/
def UsageError.outcome (e : UsageError) : Outcome :=
  let refused (reason : String) : Outcome :=
    { code := 2
      errors := "error: " ++ reason ++ "\n\n" ++ usageText ++
        "\nFor more information, try '--help'.\n" }
  match e with
  | .displayHelp => { output := helpText }
  | .displayVersion => { output := programName ++ " " ++ programVersion ++ "\n" }
  | .invalidValue => refused "invalid value for an argument"
  | .unknownArgument => refused "unexpected argument found"
  | .argumentConflict => refused "an argument cannot be used with one of the other arguments"
  | .valueValidation => refused "invalid value for an argument"
  | .tooManyValues => refused "unexpected value for an argument found"

namespace Program

variable {m : Type → Type} [Monad m]

/-- Validates the document on the standard input. -/
def validateInput (host : Host m) (settings : Settings) : m (Except RunError Report) := do
  match ← host.standardInput with
  | .error cause => return .error (.standardInput cause)
  | .ok bytes =>
    match Utf8.decode? bytes with
    | none => return .error (.standardInput .invalidText)
    | some cs =>
      let baseDir := settings.validation.baseDir.getD host.workingDirectory
      let warnings := settings.validation.reportWarnings
      return .ok (← validateWith host.files baseDir warnings (String.ofList cs))

/-- Validates the document in a file.  Bytes that are no text are read as replacement
characters. -/
def validateFile (host : Host m) (settings : Settings) (path : Path) :
    m (Except DiscoveryError Report) := do
  match ← host.files.read path with
  | .error cause => return .error (.unreadable path cause)
  | .ok bytes =>
    let text := String.ofList (Utf8.decodeLossy bytes)
    let baseDir := settings.validation.baseDir.getD path.directory
    return .ok (← validateWith host.files baseDir settings.validation.reportWarnings text)

/-- The documents that some inputs stand for; the first input that cannot be read is reported. -/
def documents (host : Host m) (d : Discovery) : List Input → m (Except DiscoveryError (List Path))
  | [] => return .ok []
  | .stdin :: rest => documents host d rest
  | .path path :: rest => do
    match ← d.discover host.files path with
    | .error e => return .error e
    | .ok found =>
      match ← documents host d rest with
      | .error e => return .error e
      | .ok others => return .ok (found ++ others)

/-- What is printed about several documents, and how many of them could not be read. -/
def entries (host : Host m) (settings : Settings) (o : Output) : List Path → m (String × Nat)
  | [] => return ("", 0)
  | path :: rest => do
    let result ← validateFile host settings path
    let (text, unread) ← entries host settings o rest
    match result with
    | .ok report => return (o.entry path report ++ "\n" ++ text, unread)
    | .error _ => return (text, unread + 1)

/-- Validates inputs; gives what is printed and, if the run fails, why. -/
def validateInputs (host : Host m) (settings : Settings) (inputs : List Input) :
    m (String × Option RunError) := do
  let o : Output :=
    ⟨settings.output.format, .ofFlags settings.output.verbose settings.output.quiet, host.colors⟩
  let single : Option Path ← match inputs with
    | [.path path] => do pure (if ← host.files.isFile path then some path else none)
    | _ => pure none
  match inputs, single with
  | [.stdin], _ =>
    match ← validateInput host settings with
    | .error e => return ("", some e)
    | .ok report => return (o.report "<stdin>" report ++ "\n", none)
  | _, some path =>
    match ← validateFile host settings path with
    | .error e => return ("", some (.discovery e))
    | .ok report => return (o.report path.text report ++ "\n", none)
  | _, none =>
    let d := Discovery.ofExtensions settings.files.extensions settings.files.excludePatterns none
    match ← documents host d inputs with
    | .error e => return ("", some (.discovery e))
    | .ok paths =>
      let (text, unread) ← entries host settings o paths
      return (text, if unread = 0 then none else some (.unread unread))

/-- The settings of a file, or the defaults. -/
def fileSettings (host : Host m) (config : Option Path) : m (Except SettingsError Settings) :=
  match config with
  | some path => Settings.load host.files path
  | none => Settings.search host.files (Settings.directories host.environment)

/-- Runs a command line; gives what is printed and, if the run fails, why. -/
def runCommandLine (host : Host m) (c : CommandLine) : m (String × Option RunError) := do
  match c.check with
  | .error e => return ("", some (.input e))
  | .ok () =>
    match (← fileSettings host c.config).bind (Settings.forCommandLine host.environment c) with
    | .error e => return ("", some (.settings e))
    | .ok settings =>
      match c.inputs with
      | .error e => return ("", some (.input e))
      | .ok inputs => validateInputs host settings inputs

/-- The command line program. -/
def run (host : Host m) (arguments : List String) : m Outcome := do
  match CommandLine.read arguments with
  | .error e => return e.outcome
  | .ok c =>
    match ← runCommandLine host c with
    | (output, none) => return { output }
    | (output, some e) => return { code := 1, output, errors := errorText e.messages }

/-- The settings of the language server. -/
def serverSettings (host : Host m) : m (Except SettingsError Settings) := do
  return (← fileSettings host none).bind (Settings.forServer host.environment)

/-- How the language server ends when it has no settings. -/
def serverFailure (e : SettingsError) : Outcome :=
  { code := 1, errors := errorText (e.message :: e.causes) }

end Program

end XmlSchema
