import XmlSchema.Text.Number
import XmlSchema.Text.Offset

/-!
# Character and entity references

`Reference.decode` replaces the references of character data and attribute values: decimal and
hexadecimal character references and the five predefined entities.  Anything else that follows an
ampersand is a `Reference.Error`, which records byte offsets into the text that was decoded.
-/

namespace XmlSchema.Xml.Reference

open XmlSchema.Text

/-- Why an ampersand does not start a reference. -/
inductive Error where
  | unterminated (start stop : Nat)
  | unknownEntity (start stop : Nat) (name : String)
  | sign
  | number (cause : NumberError)
  | nul
  | codePoint (value : Nat)
  deriving DecidableEq, Repr

/-- The wording of a reference error. -/
def Error.message : Error → String
  | .unterminated start stop =>
    s!"Error while escaping character at range {start}..{stop}: Cannot find ';' after '&'"
  | .unknownEntity start stop name =>
    s!"at {start}..{stop}: unrecognized entity `{name}`"
  | .sign => "invalid character reference: unexpected number sign"
  | .number cause => "invalid character reference: " ++ cause.message
  | .nul => "invalid character reference: 0x0 character is not permitted in XML"
  | .codePoint value => s!"invalid character reference: `{value}` is not a valid codepoint"

/-- The five entities that need no declaration. -/
def predefined? : List Char → Option Char
  | ['a', 'm', 'p'] => some '&'
  | ['l', 't'] => some '<'
  | ['g', 't'] => some '>'
  | ['q', 'u', 'o', 't'] => some '"'
  | ['a', 'p', 'o', 's'] => some '\''
  | _ => none

/-- The number of a character reference, without its number sign. -/
def codePoint (cs : List Char) : Except Error Nat :=
  let (radix, digits) := match cs with
    | 'x' :: rest => (16, rest)
    | _ => (10, cs)
  match digits with
  | '+' :: _ => .error .sign
  | '-' :: _ => .error .sign
  | _ => (readNat radix maxWord32 digits).mapError .number

/-- The character with the given number. -/
def charOfCodePoint (n : Nat) : Except Error Char :=
  if n = 0 then .error .nul
  else if h : n.isValidChar then .ok (Char.ofNatAux n h)
  else .error (.codePoint n)

/-- The character that a reference stands for; `start` is the offset of the text between the
ampersand and the semicolon. -/
def resolve (start : Nat) (body : List Char) : Except Error Char :=
  match body with
  | '#' :: number => codePoint number >>= charOfCodePoint
  | _ =>
    match predefined? body with
    | some c => .ok c
    | none => .error (.unknownEntity start (start + byteLength body) (String.ofList body))

/-- Characters that end the text between an ampersand and a semicolon. -/
def isDelimiter (c : Char) : Bool := c == '&' || c == ';'

/-- Decodes `cs`, which starts at byte `offset` of a text of `total` bytes. -/
def decodeFrom (total : Nat) : Nat → Nat → List Char → Except Error (List Char)
  | 0, _, _ => .ok []
  | _ + 1, _, [] => .ok []
  | fuel + 1, offset, '&' :: cs =>
    let body := cs.takeWhile (!isDelimiter ·)
    match cs.dropWhile (!isDelimiter ·) with
    | ';' :: rest => do
      let c ← resolve (offset + 1) body
      let decoded ← decodeFrom total fuel (offset + byteLength body + 2) rest
      return c :: decoded
    | _ => .error (.unterminated offset total)
  | fuel + 1, offset, c :: cs => do
    let decoded ← decodeFrom total fuel (offset + c.utf8Size) cs
    return c :: decoded

/-- The text with every reference replaced by the character it stands for. -/
def decode (cs : List Char) : Except Error (List Char) :=
  decodeFrom (byteLength cs) cs.length 0 cs

end XmlSchema.Xml.Reference
