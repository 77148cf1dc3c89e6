import XmlSchema.Json.Reader
import XmlSchema.Settings
import XmlSchema.Toml.Reader

/-!
# Settings in files

Settings are written in TOML or JSON.  What the two formats have in common is a `SettingsValue`; the
sections and fields are read once for both.  Sections and fields that are missing have their
defaults, and unknown ones are passed over.
-/

namespace XmlSchema

open XmlSchema.Text

/-- Values that settings can be read from. -/
class SettingsValue (V : Type) where
  /-- The values of the named fields of a record, in order; `none` for a field that is missing. -/
  fields? : List String → V → Option (List (Option V))
  flag? : V → Option Bool
  text? : V → Option String
  texts? : V → Option (List String)
  /-- A number of at most 64 bits. -/
  count? : V → Option Nat
  /-- A value that may be explicitly missing. -/
  optional? : {α : Type} → (V → Option α) → V → Option (Option α)
  /-- One of several names. -/
  choice? : {α : Type} → List (String × α) → V → Option α

instance : SettingsValue Json where
  fields? := Json.fields?
  flag? := Json.bool?
  text? := Json.string?
  texts? := Json.strings?
  count? := Json.natUpTo? maxWord64
  optional? := Json.nullable?
  choice? := Json.variant?

namespace Toml

/-- The text of a string. -/
def text? : Toml → Option String
  | .string s => some s
  | _ => none

/-- The value with one of several names, written as a string or as a table with something empty
under the name. -/
def choice? {α : Type} (names : List (String × α)) (v : Toml) : Option α :=
  let named (name : String) := (names.find? (·.1 == name)).map Prod.snd
  match v with
  | .string name => named name
  | .table _ [(name, .table _ [])] => named name
  | .table _ [(name, .array _ [])] => named name
  | _ => none

end Toml

instance : SettingsValue Toml where
  fields? names
    | .table _ members => some (names.map (Toml.find? · members))
    | .array _ items => some ((List.range names.length).map fun index => items[index]?)
    | _ => none
  flag?
    | .bool b => some b
    | _ => none
  text? := Toml.text?
  texts?
    | .array _ items => items.mapM Toml.text?
    | _ => none
  count?
    | .integer n => if 0 ≤ n ∧ n ≤ maxWord64 then some n.toNat else none
    | _ => none
  optional? decode v := (decode v).map some
  choice? := Toml.choice?

section

variable {V : Type} [SettingsValue V]

open SettingsValue

/-- The value of a field, or its default. -/
def fieldD {α : Type} (decode : V → Option α) (default : α) : Option V → Option α
  | some v => decode v
  | none => some default

/-- Reads the section on validation. -/
def ValidationSettings.ofValue? (v : V) : Option ValidationSettings := do
  let d : ValidationSettings := {}
  match ← fields? ["report_warnings", "base_dir", "skip_extensions"] v with
  | [reportWarnings, baseDir, skipExtensions] =>
    let reportWarnings ← fieldD flag? d.reportWarnings reportWarnings
    let baseDir ← fieldD (optional? text?) (d.baseDir.map (·.text)) baseDir
    let skipExtensions ← fieldD texts? d.skipExtensions skipExtensions
    return ⟨reportWarnings, baseDir.map Path.ofText, skipExtensions⟩
  | _ => none

/-- Reads the section on output. -/
def OutputSettings.ofValue? (v : V) : Option OutputSettings := do
  let d : OutputSettings := {}
  match ← fields? ["format", "verbose", "quiet"] v with
  | [format, verbose, quiet] =>
    let format ← fieldD (choice? OutputFormat.names) d.format format
    let verbose ← fieldD flag? d.verbose verbose
    let quiet ← fieldD flag? d.quiet quiet
    return ⟨format, verbose, quiet⟩
  | _ => none

/-- Reads the section on the language server. -/
def ServerSettings.ofValue? (v : V) : Option ServerSettings := do
  let d : ServerSettings := {}
  match ← fields? ["diagnostic_source", "log_level"] v with
  | [diagnosticSource, logLevel] =>
    let diagnosticSource ← fieldD text? d.diagnosticSource diagnosticSource
    let logLevel ← fieldD text? d.logLevel logLevel
    return ⟨diagnosticSource, logLevel⟩
  | _ => none

/-- Reads the section on files. -/
def FileSettings.ofValue? (v : V) : Option FileSettings := do
  let d : FileSettings := {}
  match ← fields? ["extensions", "exclude_patterns", "threads"] v with
  | [extensions, excludePatterns, threads] =>
    let extensions ← fieldD texts? d.extensions extensions
    let excludePatterns ← fieldD texts? d.excludePatterns excludePatterns
    let threads ← fieldD (optional? count?) d.threads threads
    return ⟨extensions, excludePatterns, threads⟩
  | _ => none

/-- Reads settings. -/
def Settings.ofValue? (v : V) : Option Settings := do
  match ← fields? ["validation", "output", "server", "files"] v with
  | [validation, output, server, files] =>
    let validation ← fieldD ValidationSettings.ofValue? {} validation
    let output ← fieldD OutputSettings.ofValue? {} output
    let server ← fieldD ServerSettings.ofValue? {} server
    let files ← fieldD FileSettings.ofValue? {} files
    return ⟨validation, output, server, files⟩
  | _ => none

end

namespace Settings

/-- Settings in JSON. -/
def toJson (s : Settings) : Json :=
  .object [
    ("validation", .object [
      ("report_warnings", .bool s.validation.reportWarnings),
      ("base_dir", .ofOption (fun path => .string path.text) s.validation.baseDir),
      ("skip_extensions", .strings s.validation.skipExtensions)]),
    ("output", .object [
      ("format", .string s.output.format.name),
      ("verbose", .bool s.output.verbose),
      ("quiet", .bool s.output.quiet)]),
    ("server", .object [
      ("diagnostic_source", .string s.server.diagnosticSource),
      ("log_level", .string s.server.logLevel)]),
    ("files", .object [
      ("extensions", .strings s.files.extensions),
      ("exclude_patterns", .strings s.files.excludePatterns),
      ("threads", .ofOption .nat s.files.threads)])]

/-- Reads settings in TOML. -/
def ofToml? (text : String) : Option Settings := (Toml.read? text).bind ofValue?

/-- Reads settings in JSON. -/
def ofJson? (text : String) : Option Settings := (Json.read? text).bind ofValue?

/-- Reads the text of a settings file.  The extension of the file names the format; without
extension both are tried. -/
def ofText (path : Path) (text : String) : Except SettingsError Settings :=
  let orError (result : Option Settings) (e : SettingsError) : Except SettingsError Settings :=
    match result with
    | some s => .ok s
    | none => .error e
  match path.extension? with
  | some "toml" => orError (ofToml? text) .malformedToml
  | some "json" => orError (ofJson? text) .malformedJson
  | some extension => .error (.unsupportedFormat extension)
  | none => orError ((ofToml? text).orElse fun _ => ofJson? text) .malformedJson

section

variable {m : Type → Type} [Monad m]

/-- Reads a settings file. -/
def load (files : FileAccess m) (path : Path) : m (Except SettingsError Settings) := do
  match ← files.readText path with
  | .error e => return .error (.unreadable e)
  | .ok text => return ofText path text

/-- The names of settings files, in the order in which they are looked for. -/
def fileNames : List String :=
  ["xsd-validate.toml", "xsd-validate.json", ".xsd-validate.toml", ".xsd-validate.json"]

/-- The first of some files that exists. -/
def firstExisting (files : FileAccess m) : List Path → m (Option Path)
  | [] => return none
  | path :: rest => do
    if ← files.exists? path then return some path else firstExisting files rest

/-- Reads the first settings file in some directories; the defaults if there is none. -/
def search (files : FileAccess m) (directories : List Path) :
    m (Except SettingsError Settings) := do
  let candidates := directories.flatMap fun directory =>
    fileNames.map fun name => directory.join (.ofText name)
  match ← firstExisting files candidates with
  | some path => load files path
  | none => return .ok {}

/-- The directories in which settings are looked for: the working directory, then the directory
for the settings of the user. -/
def directories (env : Environment) : List Path :=
  let chosen := ((env "XDG_CONFIG_HOME").map Path.ofText).filter Path.isAbsolute
  let usual := ((env "HOME").filter fun home => !home.isEmpty).map fun home =>
    Path.join (.ofText home) (.ofText ".config")
  .ofText "." ::
    ((chosen.or usual).map fun directory => directory.join (.ofText "xsd-validate")).toList

end

end Settings

end XmlSchema
