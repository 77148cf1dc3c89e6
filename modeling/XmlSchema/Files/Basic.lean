import XmlSchema.Path
import XmlSchema.Text.Utf8

/-!
# Access to files

The parts of the library that work on files do so through a `FileAccess`, which says what reading a
file or listing a directory gives.  A program plugs in the files of the machine it runs on; a
`FileTree` plugs in files that exist as values only.
-/

namespace XmlSchema

open XmlSchema.Text

/-- Why a file or directory cannot be used. -/
inductive FileError where
  | notFound
  | permissionDenied
  | notADirectory
  | isADirectory
  | nameTooLong
  /-- The path holds a null character. -/
  | nullInPath
  /-- The content is no text. -/
  | invalidText
  /-- Any other error, with its description. -/
  | other (description : String)
  deriving DecidableEq, Repr

/-- The wording of a file error. -/
def FileError.message : FileError → String
  | .notFound => "No such file or directory (os error 2)"
  | .permissionDenied => "Permission denied (os error 13)"
  | .notADirectory => "Not a directory (os error 20)"
  | .isADirectory => "Is a directory (os error 21)"
  | .nameTooLong => "File name too long (os error 36)"
  | .nullInPath => "file name contained an unexpected NUL byte"
  | .invalidText => "stream did not contain valid UTF-8"
  | .other description => description

/-- What a path can name. -/
inductive FileKind where
  | file
  | directory
  | other
  deriving DecidableEq, Repr

/-- What is known about the files that a program can reach. -/
structure FileAccess (m : Type → Type) where
  /-- The bytes of a file. -/
  read : Path → m (Except FileError (List UInt8))
  /-- What a path names. -/
  kind : Path → m (Except FileError FileKind)
  /-- The names in a directory, and what they name. -/
  entries : Path → m (Except FileError (List (List UInt8 × FileKind)))
  /-- The absolute path of a file, without detours. -/
  absolute : Path → m (Option Path)

namespace FileAccess

variable {m : Type → Type} [Monad m]

/-- The text of a file. -/
def readText (files : FileAccess m) (path : Path) : m (Except FileError String) := do
  match ← files.read path with
  | .error e => return .error e
  | .ok bytes =>
    match Utf8.decode? bytes with
    | some cs => return .ok (String.ofList cs)
    | none => return .error .invalidText

/-- Whether a path names something. -/
def exists? (files : FileAccess m) (path : Path) : m Bool := do
  return (← files.kind path).toOption.isSome

/-- Whether a path names a file. -/
def isFile (files : FileAccess m) (path : Path) : m Bool := do
  return (← files.kind path).toOption == some .file

end FileAccess

/-- The number of bytes of the longest path that can name something. -/
def maxPathLength : Nat := 4095

end XmlSchema
