/-!
# Qualified names

A name is a namespace name with a local name; the empty namespace name means "no namespace".
-/

namespace XmlSchema

/-- A namespace name with a local name. -/
structure QName where
  namespaceName : String
  localName : String
  deriving DecidableEq, Repr, Inhabited

/-- The namespace of schema documents. -/
def schemaNamespace : String := "http://www.w3.org/2001/XMLSchema"

/-- The namespace of the attributes that tie an instance to its schemas. -/
def instanceNamespace : String := "http://www.w3.org/2001/XMLSchema-instance"

/-- The namespace of the prefix `xml`. -/
def xmlNamespace : String := "http://www.w3.org/XML/1998/namespace"

namespace QName

/-- A name of the schema namespace. -/
def schema (localName : String) : QName := ⟨schemaNamespace, localName⟩

/-- The form of a name in messages. -/
def text (n : QName) : String :=
  if n.namespaceName.isEmpty then n.localName else n.namespaceName ++ ":" ++ n.localName

/-- A raw name split at its first colon; `none` in the first place without a colon. -/
def splitRaw (raw : List Char) : Option (List Char) × List Char :=
  match raw.dropWhile (· != ':') with
  | _ :: rest => (some (raw.takeWhile (· != ':')), rest)
  | [] => (none, raw)

/-- The prefix of a raw name, if it has a colon, and what follows it. -/
def splitPrefix (raw : String) : Option String × String :=
  let (first, rest) := splitRaw raw.toList
  (first.map String.ofList, String.ofList rest)

end QName

end XmlSchema
