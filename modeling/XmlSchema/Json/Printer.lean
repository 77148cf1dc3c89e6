import XmlSchema.Json.Basic

/-!
# Writing JSON

`Json.compact` writes a value without any space, `Json.pretty` with one item or member to a line,
indented by two spaces a level.  In strings only quotes, backslashes and control characters are
escaped.
-/

namespace XmlSchema.Json

/-- A digit of base sixteen in lower case. -/
def hexDigit (n : Nat) : Char := Nat.digitChar n

/-- A character inside a string. -/
def escapeChar (c : Char) : List Char :=
  if c = '"' then ['\\', '"']
  else if c = '\\' then ['\\', '\\']
  else if c = '\n' then ['\\', 'n']
  else if c = '\r' then ['\\', 'r']
  else if c = '\t' then ['\\', 't']
  else if c = '\x08' then ['\\', 'b']
  else if c = '\x0c' then ['\\', 'f']
  else if c.toNat < 0x20 then
    ['\\', 'u', '0', '0', hexDigit (c.toNat / 16), hexDigit (c.toNat % 16)]
  else [c]

/-- A string in quotes. -/
def quote (s : String) : List Char := '"' :: s.toList.flatMap escapeChar ++ ['"']

/-- A number as written. -/
def numberText : JsonNumber → List Char
  | .integer n => (toString n).toList
  | .real literal => literal.toList

mutual

/-- A value without any space. -/
def compactText : Json → List Char
  | .null => "null".toList
  | .bool true => "true".toList
  | .bool false => "false".toList
  | .number n => numberText n
  | .string s => quote s
  | .array items => '[' :: compactItems items ++ [']']
  | .object members => '\x7b' :: compactMembers members ++ ['\x7d']

/-- Items with commas between them. -/
def compactItems : List Json → List Char
  | [] => []
  | [j] => compactText j
  | j :: rest => compactText j ++ ',' :: compactItems rest

/-- Members with commas between them. -/
def compactMembers : List (String × Json) → List Char
  | [] => []
  | [(name, j)] => quote name ++ ':' :: compactText j
  | (name, j) :: rest => quote name ++ ':' :: compactText j ++ ',' :: compactMembers rest

end

/-- A line break with the indentation of a level. -/
def lineBreak (level : Nat) : List Char := '\n' :: List.replicate (2 * level) ' '

mutual

/-- A value at an indentation level. -/
def prettyText (level : Nat) : Json → List Char
  | .null => "null".toList
  | .bool true => "true".toList
  | .bool false => "false".toList
  | .number n => numberText n
  | .string s => quote s
  | .array [] => "[]".toList
  | .array items => '[' :: prettyItems (level + 1) items ++ lineBreak level ++ [']']
  | .object [] => ['\x7b', '\x7d']
  | .object members => '\x7b' :: prettyMembers (level + 1) members ++ lineBreak level ++ ['\x7d']

/-- Items, each on a line of its own. -/
def prettyItems (level : Nat) : List Json → List Char
  | [] => []
  | [j] => lineBreak level ++ prettyText level j
  | j :: rest => lineBreak level ++ prettyText level j ++ ',' :: prettyItems level rest

/-- Members, each on a line of its own. -/
def prettyMembers (level : Nat) : List (String × Json) → List Char
  | [] => []
  | [(name, j)] => lineBreak level ++ quote name ++ ':' :: ' ' :: prettyText level j
  | (name, j) :: rest =>
    lineBreak level ++ quote name ++ ':' :: ' ' :: prettyText level j ++
      ',' :: prettyMembers level rest

end

/-- The text of a value without any space. -/
def compact (j : Json) : String := String.ofList j.compactText

/-- The text of a value with one item or member to a line. -/
def pretty (j : Json) : String := String.ofList (j.prettyText 0)

end XmlSchema.Json
