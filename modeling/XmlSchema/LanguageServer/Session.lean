import XmlSchema.LanguageServer.Message
import XmlSchema.Validation.Files

/-!
# Sessions of a language server

A session goes from its start over initialization and shutdown to its end (`Phase`).  `Session.receive`
takes in a message of the client and gives the answer, if there is one, and the notifications that
are sent.
-/

namespace XmlSchema

/-- How far a session has come. -/
inductive Phase where
  | started
  | initialized
  | shutDown
  | exited
  deriving DecidableEq, Repr

/-- The state of a session. -/
structure Session where
  phase : Phase := .started
  documents : Documents := []

/-- What a server does with a message. -/
structure Reaction where
  response : Option Json := none
  notifications : List Notification := []

/-- The version of the programs. -/
def programVersion : String := "0.1.0"

/-- What a server says about itself: documents are sent to it as a whole. -/
def initializeResult : Json :=
  .object [
    ("capabilities", .object [("textDocumentSync", .nat 1)]),
    ("serverInfo", .object [("name", .string serverName), ("version", .string programVersion)])]

/-- How a value that is no record is called. -/
def unexpectedValue : Json → String
  | .null => "null"
  | .bool b => "boolean `" ++ toString b ++ "`"
  | .number (.integer n) => "integer `" ++ toString n ++ "`"
  | .number (.real literal) => "floating point `" ++ literal ++ "`"
  | .string s => "string " ++ String.ofList (Json.quote s)
  | .array _ => "sequence"
  | .object _ => "map"

/-- What is wrong with the parameters of an initialization. -/
def initializeError? : Option Json → Option RpcError
  | none => some (.invalidParams "Missing params field")
  | some (.object members) =>
    match (Json.object members).member? "capabilities" with
    | none => some (.invalidParams "missing field `capabilities`")
    | some (.object _) => none
    | some j => some (.invalidParams
        ("invalid type: " ++ unexpectedValue j ++ ", expected struct ClientCapabilities"))
  | some j => some (.invalidParams
      ("invalid type: " ++ unexpectedValue j ++ ", expected struct InitializeParams"))

/-- The requests that are known but not answered. -/
def knownRequests : List String :=
  ["textDocument/willSaveWaitUntil", "textDocument/declaration", "textDocument/definition",
    "textDocument/typeDefinition", "textDocument/implementation", "textDocument/references",
    "textDocument/prepareCallHierarchy", "callHierarchy/incomingCalls",
    "callHierarchy/outgoingCalls", "textDocument/prepareTypeHierarchy",
    "typeHierarchy/supertypes", "typeHierarchy/subtypes", "textDocument/documentHighlight",
    "textDocument/documentLink", "documentLink/resolve", "textDocument/hover",
    "textDocument/codeLens", "codeLens/resolve", "textDocument/foldingRange",
    "textDocument/selectionRange", "textDocument/documentSymbol",
    "textDocument/semanticTokens/full", "textDocument/semanticTokens/full/delta",
    "textDocument/semanticTokens/range", "textDocument/inlineValue", "textDocument/inlayHint",
    "inlayHint/resolve", "textDocument/moniker", "textDocument/completion",
    "completionItem/resolve", "textDocument/diagnostic", "workspace/diagnostic",
    "textDocument/signatureHelp", "textDocument/codeAction", "codeAction/resolve",
    "textDocument/documentColor", "textDocument/colorPresentation", "textDocument/formatting",
    "textDocument/rangeFormatting", "textDocument/onTypeFormatting", "textDocument/rename",
    "textDocument/prepareRename", "textDocument/linkedEditingRange", "workspace/symbol",
    "workspaceSymbol/resolve", "workspace/willCreateFiles", "workspace/willRenameFiles",
    "workspace/willDeleteFiles", "workspace/executeCommand"]

/-- The notifications that are known, with or without effect. -/
def knownNotifications : List String :=
  ["initialized", "textDocument/didOpen", "textDocument/didChange", "textDocument/didClose",
    "textDocument/willSave", "textDocument/didSave", "workspace/didChangeConfiguration",
    "workspace/didChangeWorkspaceFolders", "workspace/didCreateFiles", "workspace/didRenameFiles",
    "workspace/didDeleteFiles", "workspace/didChangeWatchedFiles"]

namespace Session

/-- The refusal of a request outside the time in which requests are answered. -/
def refusal (s : Session) : RpcError :=
  match s.phase with
  | .started => .notInitialized
  | _ => .invalidRequest

/-- The answer to a request that is refused; notifications are not answered. -/
def refuse (message : ClientMessage) (e : RpcError) : Reaction :=
  { response := message.id.map e.response }

/-- Takes in an initialization. -/
def start (s : Session) (message : ClientMessage) : Session × Reaction :=
  if s.phase ≠ .started then (s, refuse message .invalidRequest)
  else
    match message.id, initializeError? message.params with
    | none, _ => (s, {})
    | some _, some e => (s, refuse message e)
    | some id, none =>
      ({ s with phase := .initialized }, { response := some (resultResponse initializeResult id) })

/-- Takes in a shutdown. -/
def shutdown (s : Session) (message : ClientMessage) : Session × Reaction :=
  if s.phase ≠ .initialized then (s, refuse message s.refusal)
  else
    let response := message.id.map fun id =>
      match message.params with
      | some params => (RpcError.invalidParams ("Unexpected params: " ++ params.compact)).response id
      | none => resultResponse .null id
    ({ s with phase := .shutDown }, { response })

/-- Takes in a request that is known but not answered. -/
def unanswered (s : Session) (message : ClientMessage) : Reaction :=
  if s.phase ≠ .initialized then refuse message s.refusal
  else if message.params.isNone then refuse message (.invalidParams "Missing params field")
  else refuse message (.methodNotFound none)

/-- What a notification says about a document, while such notifications count. -/
def documentEvent? (s : Session) (message : ClientMessage) : Option DocumentEvent :=
  if s.phase = .initialized ∧ message.id.isNone then
    message.params.bind (DocumentEvent.ofMessage? message.method)
  else none

/-- Whether a notification says that the client is ready. -/
def isReady (message : ClientMessage) : Bool :=
  message.method == "initialized" && message.id.isNone && match message.params with
    | some (.object _) => true
    | some (.array []) => true
    | _ => false

/-- Takes in a notification that is known. -/
def notification (server : Server) (s : Session) (message : ClientMessage) : Session × Reaction :=
  if s.phase ≠ .initialized then (s, refuse message s.refusal)
  else
    match s.documentEvent? message with
    | some event =>
      let (documents, publications) := server.handle s.documents event
      ({ s with documents }, { notifications := publications.map .publish })
    | none => (s, { notifications := if isReady message then [.ready] else [] })

/-- Takes in a message. -/
def receive (server : Server) (s : Session) (message : ClientMessage) : Session × Reaction :=
  if s.phase = .exited then (s, {})
  else if message.method = "initialize" then s.start message
  else if message.method = "shutdown" then s.shutdown message
  else if message.method = "exit" then ({ s with phase := .exited }, {})
  else if knownRequests.contains message.method then (s, s.unanswered message)
  else if knownNotifications.contains message.method then s.notification server message
  else if "$/".toList.isPrefixOf message.method.toList then (s, {})
  else (s, refuse message (.methodNotFound (some message.method)))

/-- Takes in a message; schemas are read from files. -/
def receiveWith {m : Type → Type} [Monad m] (files : FileAccess m) (settings : Settings)
    (workingDirectory : Path) (s : Session) (message : ClientMessage) :
    m (Session × Reaction) := do
  let subject := (s.documentEvent? message).bind (·.subject? settings.validation)
  let source ← match subject with
    | some (uri, text) =>
      schemaSource files (settings.validation.baseDirFor workingDirectory uri) text
    | none => pure .none
  return s.receive ⟨settings, workingDirectory, source⟩ message

end Session

end XmlSchema
