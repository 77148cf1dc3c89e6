import XmlSchema.Json.Reader
import XmlSchema.LanguageServer.Session

/-!
# Messages on a wire

Messages travel as JSON texts, each behind a header that gives its length in bytes.
`ClientMessage.ofJson` reads a message of the client; `frame` writes one of the server.
-/

namespace XmlSchema

open XmlSchema.Text

/-- What arrives from a client: a message, an answer to a request of the server, or something
else. -/
inductive Arrival where
  | message (message : ClientMessage)
  | answer
  | invalid

/-- Whether a value can be the identifier of a request. -/
def isIdentifier : Json → Bool
  | .number (.integer n) => -Nat.pow 2 63 ≤ n && n < Nat.pow 2 63
  | .string _ => true
  | .null => true
  | _ => false

/-- Reads what arrives from a client. -/
def Arrival.ofJson (j : Json) : Arrival :=
  let versioned := j.member? "jsonrpc" |>.bind Json.string? |>.any (· == "2.0")
  let validId := (j.member? "id").all isIdentifier
  match j.member? "method" with
  | some (.string method) =>
    if versioned && validId then .message ⟨method, j.member? "id", j.member? "params"⟩
    else .invalid
  | some _ => .invalid
  | none =>
    let settled := (j.member? "result").isSome || (j.member? "error").isSome
    if versioned && validId && settled then .answer else .invalid

/-- The messages that a reaction sends. -/
def Reaction.messages (r : Reaction) : List Json :=
  r.notifications.map Notification.toJson ++ r.response.toList

/-- A message with its header. -/
def frame (j : Json) : String :=
  let body := j.compact
  "Content-Length: " ++ toString body.utf8ByteSize ++ "\r\n\r\n" ++ body

/-- The length that the header lines of a message give. -/
def contentLength? (headers : List String) : Option Nat :=
  headers.findSome? fun header =>
    let cs := header.toList
    let name := String.ofList ((cs.takeWhile (· != ':')).map Char.toLower)
    if name = "content-length" then digits? (trim ((cs.dropWhile (· != ':')).drop 1)) else none

section

variable {m : Type → Type} [Monad m]

/-- Takes in what arrives from a client; gives the messages that are sent. -/
def Session.arrive (files : FileAccess m) (settings : Settings) (workingDirectory : Path)
    (s : Session) (j : Json) : m (Session × List Json) := do
  match Arrival.ofJson j with
  | .answer => return (s, [])
  | .invalid => return (s, [RpcError.invalidRequest.response .null])
  | .message message =>
    let (s, reaction) ← s.receiveWith files settings workingDirectory message
    return (s, reaction.messages)

end

end XmlSchema
