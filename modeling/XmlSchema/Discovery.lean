import XmlSchema.Discovery.Ignore
import XmlSchema.Files.Basic
import XmlSchema.Unicode.Lowercase

/-!
# Discovery of documents

`Discovery.discover` looks for documents below a directory: files with one of some extensions.  Hidden
files and directories are passed over, and so is what ignore files in the directory, below it and
above it describe.  Ignore files for version control count only inside a repository.  Patterns to
leave out go before all other rules.
-/

namespace XmlSchema

open XmlSchema.Text

/-- What documents are looked for. -/
structure Discovery where
  /-- The extensions of documents, in lower case. -/
  extensions : List String
  /-- Patterns of files to leave out. -/
  exclude : List String := []
  /-- How far below the directory files are looked for. -/
  maxDepth : Option Nat := none

/-- Why no documents can be looked for. -/
inductive DiscoveryError where
  | unreadable (path : Path) (cause : FileError)
  /-- A pattern to leave out is no glob. -/
  | badPattern (directory : Path) (pattern : String) (cause : GlobError)
  deriving DecidableEq, Repr

namespace DiscoveryError

/-- The wording of an error. -/
def message : DiscoveryError → String
  | .unreadable path cause => "Input could not be read: " ++ path.text ++ " - " ++ cause.message
  | .badPattern directory pattern cause =>
    "File system traversal error: " ++ directory.text ++ " - Invalid exclude pattern '" ++
      pattern ++ "': error parsing glob '!" ++ pattern ++ "': " ++ cause.message

/-- What is behind an error. -/
def causes : DiscoveryError → List String
  | .unreadable _ cause => [cause.message]
  | .badPattern .. => []

end DiscoveryError

/-- The ignore files of a directory. -/
structure IgnoreScope where
  directory : Path
  ignore : IgnoreRules
  /-- The rules for version control. -/
  versioned : IgnoreRules
  /-- The rules for version control that are kept apart from the files. -/
  unshared : IgnoreRules
  isRepository : Bool

/-- What decides about the files in a directory. -/
structure WalkRules where
  /-- The patterns to leave out. -/
  overrides : IgnoreRules
  /-- The absolute path of the directory that is walked. -/
  base : Option Path
  /-- The scopes from the current directory up to the one that is walked. -/
  inner : List IgnoreScope := []
  /-- The scopes of the directories above. -/
  above : List IgnoreScope

/-- What rules of one kind say: the innermost scope that decides. -/
def firstVerdict (scopes : List (IgnoreScope × List UInt8)) (rules : IgnoreScope → IgnoreRules)
    (isDirectory : Bool) : Verdict :=
  scopes.foldl (fun v (scope, path) => v.or ((rules scope).verdict path isDirectory)) .undecided

namespace WalkRules

/-- The absolute path of a file in the directory that is walked. -/
def absolutePath (w : WalkRules) (path : List UInt8) : Option (List UInt8) :=
  w.base.map fun base =>
    let relative := match w.inner.getLast? with
      | some scope =>
        let rest := (afterStart? (withoutDot scope.directory.bytes) path).getD path
        (afterStart? [0x2F] rest).getD rest
      | none => path
    (base.join ⟨relative⟩).bytes

/-- The scopes that can say something about a path, the innermost first, each with the path as it
sees it. -/
def scopes (w : WalkRules) (path : List UInt8) : List (IgnoreScope × List UInt8) :=
  let above := match w.absolutePath path with
    | some absolute => w.above.map (·, absolute)
    | none => []
  w.inner.map (·, path) ++ above

/-- The scopes up to the innermost repository. -/
def upToRepository : List (IgnoreScope × List UInt8) → List (IgnoreScope × List UInt8)
  | [] => []
  | scope :: rest => if scope.1.isRepository then [scope] else scope :: upToRepository rest

/-- What ignore files say about a path. -/
def ignoreVerdict (w : WalkRules) (path : List UInt8) (isDirectory : Bool) : Verdict :=
  let scopes := w.scopes path
  let versioned := if (w.inner ++ w.above).any (·.isRepository) then upToRepository scopes else []
  (firstVerdict scopes (·.ignore) isDirectory).or
    ((firstVerdict versioned (·.versioned) isDirectory).or
      (firstVerdict versioned (·.unshared) isDirectory))

/-- What is said about a file or directory: patterns to leave out first, then ignore files, and
hidden ones are passed over. -/
def verdict (w : WalkRules) (path : Path) (isDirectory : Bool) : Verdict :=
  let bytes := withoutDot path.bytes
  let hidden := path.fileName?.any (·.head? == some 0x2E)
  ((w.overrides.verdict bytes isDirectory).or (w.ignoreVerdict bytes isDirectory)).or
    (if hidden then .pass else .undecided)

end WalkRules

namespace Discovery

/-- What documents are looked for by some settings. -/
def ofExtensions (extensions exclude : List String) (maxDepth : Option Nat) : Discovery :=
  ⟨extensions.map Unicode.lowercase, exclude, maxDepth⟩

/-- Whether a file is a document by its extension. -/
def accepts (d : Discovery) (path : Path) : Bool :=
  path.extension?.any fun extension => d.extensions.contains (Unicode.lowercase extension)

/-- The rules of the patterns to leave out. -/
def overrides (d : Discovery) (directory : Path) : Except DiscoveryError IgnoreRules := do
  let rules ← d.exclude.mapM fun pattern =>
    match IgnoreRule.ofLine false ('!' :: pattern.toList) with
    | .ok rule => .ok rule
    | .error cause => .error (DiscoveryError.badPattern directory pattern cause)
  return .ofRules directory ((rules.filterMap id).map fun rule => { rule with keeps := false })

section

variable {m : Type → Type} [Monad m]

/-- The rules of an ignore file. -/
def ignoreFile (files : FileAccess m) (directory : Path) (name : String) : m IgnoreRules := do
  match ← files.read (directory.join (.ofText name)) with
  | .ok bytes => return .ofBytes directory bytes
  | .error _ => return .none

/-- The ignore files of a directory. -/
def scope (files : FileAccess m) (directory : Path) : m IgnoreScope := do
  return {
    directory
    ignore := ← ignoreFile files directory ".ignore"
    versioned := ← ignoreFile files directory ".gitignore"
    unshared := ← ignoreFile files directory ".git/info/exclude"
    isRepository := ← files.exists? (directory.join (.ofText ".git")) }

/-- The directories above an absolute path, the nearest first. -/
def ancestors : Nat → Path → List Path
  | 0, _ => []
  | fuel + 1, path =>
    match path.parent? with
    | some up => up :: ancestors fuel up
    | none => []

/-- The files below a directory that are not passed over.  `fuel` is the number of levels below
that can be reached, `depth` the level of the directory. -/
def walk (files : FileAccess m) (d : Discovery) :
    Nat → Nat → WalkRules → Path → m (List Path)
  | 0, _, _, _ => return []
  | fuel + 1, depth, rules, directory => do
    if d.maxDepth.any (· ≤ depth) then return []
    let rules := { rules with inner := (← scope files directory) :: rules.inner }
    match ← files.entries directory with
    | .error _ => return []
    | .ok entries =>
      let found ← entries.mapM fun (name, kind) => do
        let path := directory.join ⟨name⟩
        if rules.verdict path (kind = .directory) = .pass then return []
        match kind with
        | .directory => walk files d fuel (depth + 1) rules path
        | .file => return if d.accepts path then [path] else []
        | .other => return []
      return found.flatten

/-- The documents below a path, in order.  A file is a document whatever its extension. -/
def discover (files : FileAccess m) (d : Discovery) (path : Path) :
    m (Except DiscoveryError (List Path)) := do
  match ← files.kind path with
  | .error cause => return .error (.unreadable path cause)
  | .ok .file => return .ok [path]
  | .ok _ =>
    match d.overrides path with
    | .error e => return .error e
    | .ok overrides =>
      let base ← files.absolute path
      let above ← match base with
        | some base => (ancestors maxPathLength base).mapM (scope files)
        | none => pure []
      let found ← walk files d maxPathLength 0 { overrides, base, above } path
      return .ok (found.mergeSort Path.le)

end

end Discovery

end XmlSchema
