import XmlSchema.Json.Printer
import XmlSchema.Json.Record
import XmlSchema.LanguageServer

/-!
# Messages of the language server protocol

A client sends requests, which have an identifier and are answered, and notifications, which are not.
This file reads what clients say about documents (`DocumentEvent.ofMessage?`) and writes the server's
answers (`RpcError.response`, `resultResponse`) and notifications (`Notification.toJson`).
-/

namespace XmlSchema

/-- A request or notification of a client. -/
structure ClientMessage where
  method : String
  /-- The identifier of a request. -/
  id : Option Json := none
  params : Option Json := none

/-! ## Documents -/

/-- The smallest and largest numbers of 32 bits with a sign. -/
def versionLimits : Int × Int := (-2147483648, 2147483647)

/-- Reads the version of a document. -/
def version? (j : Json) : Option Int := j.intIn? versionLimits.1 versionLimits.2

/-- Reads a URI. -/
def uri? (j : Json) : Option Uri := j.string?.bind Uri.parse?

/-- Reads a position in a text. -/
def isPosition (j : Json) : Bool :=
  match j.fields? ["line", "character"] with
  | some [line, character] =>
    (Json.required? (Json.natUpTo? Text.maxWord32) line).isSome &&
      (Json.required? (Json.natUpTo? Text.maxWord32) character).isSome
  | _ => false

/-- Reads a range of a text. -/
def isRange (j : Json) : Bool :=
  match j.fields? ["start", "end"] with
  | some [some start, some stop] => isPosition start && isPosition stop
  | _ => false

/-- Whether an optional value is missing, `null` or as it should be. -/
def optionally (valid : Json → Bool) : Option Json → Bool
  | none => true
  | some .null => true
  | some j => valid j

/-- Reads the text after a change. -/
def changeText? (j : Json) : Option String := do
  match ← j.fields? ["range", "rangeLength", "text"] with
  | [range, rangeLength, text] =>
    let text ← Json.required? Json.string? text
    let validLength := optionally (fun j => (j.natUpTo? Text.maxWord32).isSome) rangeLength
    if optionally isRange range && validLength then return text else none
  | _ => none

/-- Reads what happened to a document. -/
def DocumentEvent.ofMessage? (method : String) (params : Json) : Option DocumentEvent := do
  match method with
  | "textDocument/didOpen" =>
    match ← params.fields? ["textDocument"] with
    | [some document] =>
      match ← document.fields? ["uri", "languageId", "version", "text"] with
      | [uri, languageId, version, text] =>
        let uri ← Json.required? uri? uri
        let _ ← Json.required? Json.string? languageId
        let version ← Json.required? version? version
        let text ← Json.required? Json.string? text
        return .opened uri version text
      | _ => none
    | _ => none
  | "textDocument/didChange" =>
    match ← params.fields? ["textDocument", "contentChanges"] with
    | [some document, some changes] =>
      match ← document.fields? ["uri", "version"] with
      | [uri, version] =>
        let uri ← Json.required? uri? uri
        let version ← Json.required? version? version
        let texts ← (← changes.items?).mapM changeText?
        return .changed uri version texts
      | _ => none
    | _ => none
  | "textDocument/didClose" =>
    match ← params.fields? ["textDocument"] with
    | [some document] =>
      match ← document.fields? ["uri"] with
      | [uri] => return .closed (← Json.required? uri? uri)
      | _ => none
    | _ => none
  | _ => none

/-! ## Answers -/

/-- Why a request is refused. -/
inductive RpcError where
  | notInitialized
  | invalidRequest
  /-- A method that is not there; an unknown one is named. -/
  | methodNotFound (unknown : Option String)
  | invalidParams (message : String)
  | parseError
  deriving DecidableEq, Repr

namespace RpcError

/-- The number of an error. -/
def code : RpcError → Int
  | .notInitialized => -32002
  | .invalidRequest => -32600
  | .methodNotFound _ => -32601
  | .invalidParams _ => -32602
  | .parseError => -32700

/-- The wording of an error. -/
def message : RpcError → String
  | .notInitialized => "Server not initialized"
  | .invalidRequest => "Invalid request"
  | .methodNotFound _ => "Method not found"
  | .invalidParams message => message
  | .parseError => "Parse error"

/-- An error in JSON. -/
def toJson (e : RpcError) : Json :=
  let data := match e with
    | .methodNotFound (some method) => [("data", Json.string method)]
    | _ => []
  .object ([("code", .int e.code), ("message", .string e.message)] ++ data)

/-- The answer to a request that is refused. -/
def response (e : RpcError) (id : Json) : Json :=
  .object [("jsonrpc", .string "2.0"), ("error", e.toJson), ("id", id)]

end RpcError

/-- The answer to a request. -/
def resultResponse (result : Json) (id : Json) : Json :=
  .object [("jsonrpc", .string "2.0"), ("result", result), ("id", id)]

/-! ## Notifications -/

/-- A diagnostic in JSON. -/
def Diagnostic.toJson (d : Diagnostic) : Json :=
  let place (line column : UInt32) : Json :=
    .object [("line", .nat line.toNat), ("character", .nat column.toNat)]
  let severity := match d.severity with
    | .error => 1
    | .warning => 2
  .object [
    ("range", .object [("start", place d.range.startLine d.range.startColumn),
      ("end", place d.range.endLine d.range.endColumn)]),
    ("severity", .nat severity), ("source", .string d.source), ("message", .string d.message)]

/-- What a server tells its client unasked. -/
inductive Notification where
  /-- The server is ready. -/
  | ready
  | publish (publication : Publication)
  deriving DecidableEq, Repr

/-- The name of the server. -/
def serverName : String := "xsd-ls"

/-- A notification in JSON. -/
def Notification.toJson (n : Notification) : Json :=
  let (method, params) := match n with
    | .ready =>
      ("window/logMessage",
        Json.object [("type", .nat 3), ("message", .string (serverName ++ " initialized"))])
    | .publish p =>
      let version := p.version.toList.map fun version => ("version", Json.int version)
      ("textDocument/publishDiagnostics",
        .object ([("uri", .string p.uri.text),
          ("diagnostics", .array (p.diagnostics.map Diagnostic.toJson))] ++ version))
  .object [("jsonrpc", .string "2.0"), ("method", .string method), ("params", params)]

end XmlSchema
