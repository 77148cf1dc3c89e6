import XmlSchema.Settings
import XmlSchema.Validation.Run

/-!
# Language server

A language server keeps the documents that are open in an editor and publishes diagnostics for them.
`Server.handle` says what happens when a document is opened, changed or closed: the stored documents
(`Documents`) and what is published.  Documents with certain extensions, as a rule schemas, are
stored but not validated.
-/

namespace XmlSchema

/-- An open document. -/
structure OpenDocument where
  text : String
  version : Int
  deriving DecidableEq, Repr

/-- The open documents. -/
abbrev Documents := List (Uri × OpenDocument)

namespace Documents

/-- The open document with a URI. -/
def get? (docs : Documents) (uri : Uri) : Option OpenDocument :=
  (docs.find? (·.1 = uri)).map Prod.snd

/-- The documents without the one with a URI. -/
def erase (docs : Documents) (uri : Uri) : Documents := docs.filter (·.1 ≠ uri)

/-- The documents with one put in the place of any with the same URI. -/
def set (docs : Documents) (uri : Uri) (document : OpenDocument) : Documents :=
  docs.erase uri ++ [(uri, document)]

end Documents

/-- What an editor does with a document. -/
inductive DocumentEvent where
  | opened (uri : Uri) (version : Int) (text : String)
  /-- The texts after each of several changes. -/
  | changed (uri : Uri) (version : Int) (texts : List String)
  | closed (uri : Uri)
  deriving DecidableEq, Repr

/-- The diagnostics of a document as they are sent to the editor. -/
structure Publication where
  uri : Uri
  diagnostics : List Diagnostic
  version : Option Int
  deriving DecidableEq, Repr

namespace ValidationSettings

/-- Whether a document is never validated because of its extension. -/
def skips (s : ValidationSettings) (uri : Uri) : Bool :=
  let backwards := uri.path.toList.reverse
  let extension := (backwards.takeWhile (· != '.')).reverse
  backwards.contains '.' && !extension.contains '/' &&
    s.skipExtensions.any fun skipped =>
      skipped.toList.map Char.toLower == extension.map Char.toLower

/-- The directory that the schema locations of a document are relative to: the one of the settings,
else that of the document, else the working directory. -/
def baseDirFor (s : ValidationSettings) (workingDirectory : Path) (uri : Uri) : Path :=
  match s.baseDir, uri.filePath? with
  | some dir, _ => dir
  | none, some path => path.directory
  | none, none => workingDirectory

end ValidationSettings

/-- What the answers of a language server depend on besides its documents. -/
structure Server where
  settings : Settings
  workingDirectory : Path
  source : SchemaSource

namespace Server

/-- The diagnostics of a document. -/
def diagnose (s : Server) (uri : Uri) (text : String) : List Diagnostic :=
  let options : Options := {
    baseDir := s.settings.validation.baseDirFor s.workingDirectory uri
    reportWarnings := s.settings.validation.reportWarnings
    source := s.source }
  (validate options text).diagnostics text s.settings.server.diagnosticSource

/-- Publishes the diagnostics of a stored document, unless it is never validated.  `latest` are the
documents when the validation has come to its end: if another version is stored by then, nothing is
published. -/
def publish (s : Server) (stored latest : Documents) (uri : Uri) (version : Int) :
    List Publication :=
  if s.settings.validation.skips uri then []
  else
    match stored.get? uri with
    | none => []
    | some document =>
      if (latest.get? uri).map (·.version) = some version then
        [⟨uri, s.diagnose uri document.text, some version⟩]
      else []

/-- Stores a document and publishes its diagnostics.  Messages are handled one after another, so
that the documents do not change in between. -/
def store (s : Server) (docs : Documents) (uri : Uri) (document : OpenDocument) :
    Documents × List Publication :=
  let docs := docs.set uri document
  (docs, s.publish docs docs uri document.version)

/-- What happens to the documents, and what is published.  Of several changes the last counts; the
diagnostics of a document that is closed are taken back. -/
def handle (s : Server) (docs : Documents) : DocumentEvent → Documents × List Publication
  | .opened uri version text => s.store docs uri ⟨text, version⟩
  | .changed uri version texts =>
    match texts.getLast? with
    | some text => s.store docs uri ⟨text, version⟩
    | none => (docs, [])
  | .closed uri => (docs.erase uri, [⟨uri, [], none⟩])

end Server

/-- The document that an event makes the server validate, with its text. -/
def DocumentEvent.subject? (e : DocumentEvent) (s : ValidationSettings) :
    Option (Uri × String) :=
  let subject := match e with
    | .opened uri _ text => some (uri, text)
    | .changed uri _ texts => texts.getLast?.map (uri, ·)
    | .closed _ => none
  subject.filter fun (uri, _) => !s.skips uri

end XmlSchema
