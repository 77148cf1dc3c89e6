import XmlSchema.Files.Basic
import XmlSchema.Validation.Run

/-!
# Validation against schema files

Which schema files a validation needs shows only while it goes on.  `schemaSource` therefore validates
in rounds: it answers the requests of each round from the files and starts again, until a round
makes no request that has not been answered.  `validateWith` validates with the source so found.
-/

namespace XmlSchema

/-- What is known about requested schema files; `none` for one that does not exist. -/
abbrev SchemaAnswers := List (Path × Option FileEntry)

namespace SchemaAnswers

/-- The source with the files that exist. -/
def source (answers : SchemaAnswers) : SchemaSource :=
  .ofFiles (answers.filterMap fun (path, entry) => entry.map (path, ·))

/-- The first of some requests that has not been answered. -/
def unanswered? (answers : SchemaAnswers) (requests : List Path) : Option Path :=
  requests.find? fun path => !answers.any (·.1.Same path)

end SchemaAnswers

section

variable {m : Type → Type} [Monad m]

/-- What a schema file holds.  A byte order mark at its start does not count. -/
def schemaFile (files : FileAccess m) (path : Path) : m (Option FileEntry) := do
  match ← files.readText path with
  | .ok text => return some (.ok (String.ofList (Xml.dropByteOrderMark text.toList)))
  | .error .notFound => return none
  | .error e => return some (.error e.message)

/-- Answers requests until none is left.  `fuel` limits the number of rounds. -/
def answerRequests (files : FileAccess m) (requests : SchemaSource → List Path) :
    Nat → SchemaAnswers → m SchemaAnswers
  | 0, answers => return answers
  | fuel + 1, answers => do
    match answers.unanswered? (requests answers.source) with
    | none => return answers
    | some path =>
      answerRequests files requests fuel (answers ++ [(path, ← schemaFile files path)])

/-- A limit to the number of rounds: there are no more paths that can name a file. -/
def roundLimit : Nat := Nat.pow 256 (maxPathLength + 1)

/-- The source with all schema files that validating a document asks for. -/
def schemaSource (files : FileAccess m) (baseDir : Path) (text : String) : m SchemaSource := do
  let requests (source : SchemaSource) : List Path :=
    (runDocument { baseDir, source } (Xml.dropByteOrderMark text.toList)).set.requests
  return (← answerRequests files requests roundLimit []).source

/-- Validates a document against schema files. -/
def validateWith (files : FileAccess m) (baseDir : Path) (reportWarnings : Bool) (text : String) :
    m Report := do
  return validate { baseDir, reportWarnings, source := ← schemaSource files baseDir text } text

end

end XmlSchema
