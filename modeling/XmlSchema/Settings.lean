import XmlSchema.CommandLine
import XmlSchema.Diagnostic
import XmlSchema.Files.Basic
import XmlSchema.Unicode.Lowercase

/-!
# Settings

The settings of a run come in layers: defaults, a file, the environment (`Settings.applyEnvironment`)
and the command line (`Settings.applyCommandLine`).  Each layer overrides those before it in what it
says.  `Settings.check` refuses settings that make no sense together.
-/

namespace XmlSchema

open XmlSchema.Text

/-- How documents are validated. -/
structure ValidationSettings where
  reportWarnings : Bool := true
  /-- The directory that schema locations are relative to; that of the document if missing. -/
  baseDir : Option Path := none
  /-- The extensions of documents that a language server never validates. -/
  skipExtensions : List String := ["xsd"]
  deriving DecidableEq, Repr

/-- How reports are written. -/
structure OutputSettings where
  format : OutputFormat := .json
  verbose : Bool := false
  quiet : Bool := false
  deriving DecidableEq, Repr

/-- How a language server appears. -/
structure ServerSettings where
  /-- The name under which diagnostics are shown. -/
  diagnosticSource : String := defaultSource
  logLevel : String := "info"
  deriving DecidableEq, Repr

/-- Which documents are looked for in directories. -/
structure FileSettings where
  extensions : List String := ["xml"]
  /-- Patterns of files to leave out. -/
  excludePatterns : List String := []
  threads : Option Nat := none
  deriving DecidableEq, Repr

/-- The settings of a run. -/
structure Settings where
  validation : ValidationSettings := {}
  output : OutputSettings := {}
  server : ServerSettings := {}
  files : FileSettings := {}
  deriving DecidableEq, Repr

/-- Why settings make no sense. -/
inductive SettingsFault where
  | noThreads
  | tooManyThreads
  | verboseAndQuiet
  | noExtensions
  | badExtension (extension : String)
  | noDiagnosticSource
  deriving DecidableEq, Repr

/-- The wording of a fault. -/
def SettingsFault.message : SettingsFault → String
  | .noThreads => "Number of threads must be greater than 0"
  | .tooManyThreads => "Number of threads cannot exceed 1000"
  | .verboseAndQuiet => "Cannot enable both verbose and quiet modes"
  | .noExtensions => "At least one file extension must be specified"
  | .badExtension extension => "Invalid file extension: " ++ extension
  | .noDiagnosticSource => "Diagnostic source must not be empty"

/-- Why there are no settings. -/
inductive SettingsError where
  /-- The file with the settings cannot be read. -/
  | unreadable (cause : FileError)
  | malformedToml
  | malformedJson
  | invalid (fault : SettingsFault)
  /-- A variable of the environment has a value that cannot be used. -/
  | environment (name value : String)
  /-- The extension of the file is not that of a known format. -/
  | unsupportedFormat (extension : String)
  deriving DecidableEq, Repr

namespace SettingsError

/-- The wording of an error. -/
def message : SettingsError → String
  | .unreadable cause => "IO error: " ++ cause.message
  | .malformedToml => "TOML parsing error"
  | .malformedJson => "JSON parsing error"
  | .invalid fault => "Configuration validation error: " ++ fault.message
  | .environment name value =>
    "Environment variable error: Invalid " ++ name ++ " value: " ++ value
  | .unsupportedFormat extension => "Unsupported configuration file format: " ++ extension

/-- What is behind an error. -/
def causes : SettingsError → List String
  | .unreadable cause => [cause.message]
  | _ => []

end SettingsError

/-- The variables of the environment. -/
abbrev Environment := String → Option String

namespace Settings

/-! ## The environment -/

/-- The name of the variable for a setting. -/
def variableName (name : String) : String := "XSD_VALIDATE_" ++ name

/-- The settings that have a variable. -/
def variableNames : List String :=
  ["REPORT_WARNINGS", "BASE_DIR", "SKIP_EXTENSIONS", "VERBOSE", "QUIET", "FORMAT",
    "DIAGNOSTIC_SOURCE", "LOG_LEVEL", "EXTENSIONS", "THREADS"].map variableName

/-- The value of a variable, if it is set; `parse` reads it without surrounding blanks. -/
def parsed {α : Type} (env : Environment) (name : String) (parse : String → Option α) :
    Except SettingsError (Option α) :=
  match env (variableName name) with
  | none => .ok none
  | some value =>
    match parse (trimString value) with
    | some a => .ok (some a)
    | none => .error (.environment (variableName name) value)

/-- A truth value. -/
def truth? : String → Option Bool
  | "true" => some true
  | "false" => some false
  | _ => none

/-- A number of threads. -/
def threadCount? (value : String) : Option Nat := nat? maxWord64 value.toList

/-- The format that the environment asks for; its name may be in capital letters. -/
def environmentFormat (env : Environment) : Except SettingsError (Option OutputFormat) :=
  match env (variableName "FORMAT") with
  | none => .ok none
  | some value =>
    match OutputFormat.ofName? (Unicode.lowercase value) with
    | some format => .ok (some format)
    | none => .error (.environment (variableName "FORMAT") value)

/-- What the environment says.  Of several values that cannot be used the first in this order is
reported. -/
def applyEnvironment (env : Environment) (s : Settings) : Except SettingsError Settings := do
  let reportWarnings ← parsed env "REPORT_WARNINGS" truth?
  let verbose ← parsed env "VERBOSE" truth?
  let quiet ← parsed env "QUIET" truth?
  let format ← environmentFormat env
  let threads ← parsed env "THREADS" threadCount?
  let word (name : String) (default : String) : String := (env (variableName name)).getD default
  let list (name : String) (default : List String) : List String :=
    ((env (variableName name)).map commaList).getD default
  return {
    validation := {
      reportWarnings := reportWarnings.getD s.validation.reportWarnings
      baseDir := ((env (variableName "BASE_DIR")).map Path.ofText).or s.validation.baseDir
      skipExtensions := list "SKIP_EXTENSIONS" s.validation.skipExtensions }
    output := {
      format := format.getD s.output.format
      verbose := verbose.getD s.output.verbose
      quiet := quiet.getD s.output.quiet }
    server := {
      diagnosticSource := word "DIAGNOSTIC_SOURCE" s.server.diagnosticSource
      logLevel := word "LOG_LEVEL" s.server.logLevel }
    files := {
      extensions := list "EXTENSIONS" s.files.extensions
      excludePatterns := s.files.excludePatterns
      threads := threads.or s.files.threads } }

/-! ## The command line -/

/-- What the command line says.  Either of the switches for verbosity decides both settings. -/
def applyCommandLine (c : CommandLine) (s : Settings) : Settings where
  validation := {
    reportWarnings := s.validation.reportWarnings && !c.noWarnings
    baseDir := c.baseDir.or s.validation.baseDir
    skipExtensions := s.validation.skipExtensions }
  output := {
    format := c.format.getD s.output.format
    verbose := if c.quiet then false else c.verbose || s.output.verbose
    quiet := if c.quiet then true else if c.verbose then false else s.output.quiet }
  server := s.server
  files := {
    extensions := c.extensionList?.getD s.files.extensions
    excludePatterns := if c.exclude.isEmpty then s.files.excludePatterns else c.exclude
    threads := c.threads.or s.files.threads }

/-! ## Checks -/

/-- Whether a text can be a file extension. -/
def isExtension (extension : String) : Bool :=
  extension.toList.all fun c => c != '/' && c != '\\' && c != '.'

/-- The first thing that is wrong with settings. -/
def fault? (s : Settings) : Option SettingsFault :=
  if s.files.threads = some 0 then some .noThreads
  else if s.files.threads.any (1000 < ·) then some .tooManyThreads
  else if s.output.verbose && s.output.quiet then some .verboseAndQuiet
  else if s.files.extensions.isEmpty then some .noExtensions
  else
    match (s.files.extensions ++ s.validation.skipExtensions).find? (!isExtension ·) with
    | some extension => some (.badExtension extension)
    | none =>
      if isBlankText s.server.diagnosticSource.toList then some .noDiagnosticSource else none

/-- Refuses settings that make no sense. -/
def check (s : Settings) : Except SettingsError Unit :=
  match s.fault? with
  | some fault => .error (.invalid fault)
  | none => .ok ()

/-- The settings of a run on top of those from a file. -/
def forCommandLine (env : Environment) (c : CommandLine) (s : Settings) :
    Except SettingsError Settings := do
  let s := (← s.applyEnvironment env).applyCommandLine c
  s.check
  return s

/-- The settings of a language server on top of those from a file. -/
def forServer (env : Environment) (s : Settings) : Except SettingsError Settings := do
  let s ← s.applyEnvironment env
  s.check
  return s

end Settings

end XmlSchema
