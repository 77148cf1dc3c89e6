import XmlSchema.Toml.Scalar

/-!
# Reading TOML

`Toml.read?` reads a document: lines with keys and values, and headers that name the table which the
following lines belong to.
-/

namespace XmlSchema.Toml

open XmlSchema.Text

/-! ## Blanks and comments -/

/-- A space or a tab. -/
def isGap (c : Char) : Bool := c == ' ' || c == '\t'

/-- The characters that may stand in a comment or a string: all but control characters. -/
def isPrintable (c : Char) : Bool := c == '\t' || (0x20 ≤ c.toNat && c.toNat != 0x7F)

/-- What follows the blanks at the start of a line. -/
def skipGaps (cs : List Char) : List Char := cs.dropWhile isGap

/-- What follows a line end. -/
def lineEnd? : List Char → Option (List Char)
  | '\n' :: cs => some cs
  | '\r' :: '\n' :: cs => some cs
  | _ => none

/-- What follows a comment, if there is one. -/
def skipComment : List Char → List Char
  | '#' :: cs => cs.dropWhile isPrintable
  | cs => cs

/-- What follows the rest of a line that holds nothing more. -/
def endOfLine? (cs : List Char) : Option (List Char) :=
  match skipComment (skipGaps cs) with
  | [] => some []
  | cs => lineEnd? cs

/-- What follows blanks, comments and line ends. -/
def skipFiller : Nat → List Char → List Char
  | 0, cs => cs
  | fuel + 1, cs =>
    let cs := skipComment (skipGaps cs)
    match lineEnd? cs with
    | some rest => skipFiller fuel rest
    | none => cs

/-! ## Strings -/

/-- The character with the code of the given number of hexadecimal digits, and what follows. -/
def codeEscape? (count : Nat) (cs : List Char) : Option (Char × List Char) := do
  let digits ← (cs.take count).mapM (digit? 16)
  let n := digits.foldl (fun n d => n * 16 + d) 0
  if digits.length = count ∧ n.isValidChar then return (Char.ofNat n, cs.drop count) else none

/-- The character of an escape behind its backslash, and what follows. -/
def escape? : List Char → Option (Char × List Char)
  | 'b' :: cs => some ('\x08', cs)
  | 't' :: cs => some ('\t', cs)
  | 'n' :: cs => some ('\n', cs)
  | 'f' :: cs => some ('\x0c', cs)
  | 'r' :: cs => some ('\r', cs)
  | 'e' :: cs => some ('\x1b', cs)
  | '"' :: cs => some ('"', cs)
  | '\\' :: cs => some ('\\', cs)
  | 'x' :: cs => codeEscape? 2 cs
  | 'u' :: cs => codeEscape? 4 cs
  | 'U' :: cs => codeEscape? 8 cs
  | _ => none

/-- Puts a character in front of what has been read. -/
def consChar (c : Char) : Option (List Char × List Char) → Option (List Char × List Char) :=
  Option.map fun (text, rest) => (c :: text, rest)

/-- Reads a string from behind its opening quote. -/
def basicString : Nat → List Char → Option (List Char × List Char)
  | 0, _ => none
  | _, [] => none
  | fuel + 1, c :: cs =>
    if c = '"' then some ([], cs)
    else if c = '\\' then do
      let (c, cs) ← escape? cs
      consChar c (basicString fuel cs)
    else if isPrintable c then consChar c (basicString fuel cs)
    else none

/-- Reads a string without escapes from behind its opening quote. -/
def literalString : List Char → Option (List Char × List Char)
  | [] => none
  | c :: cs =>
    if c = '\'' then some ([], cs)
    else if isPrintable c then consChar c (literalString cs)
    else none

/-- What follows the blanks and line ends behind a backslash at the end of a line. -/
def continuation? (cs : List Char) : Option (List Char) :=
  (lineEnd? (skipGaps cs)).map fun rest => rest.dropWhile fun c => isGap c || c == '\n' || c == '\r'

/-- The closing quotes of a string of several lines: the quotes that belong to the string, and
what follows. -/
def closingQuotes? (quote : Char) (cs : List Char) : Option (List Char × List Char) :=
  let count := ((cs.takeWhile (· == quote)).length).min 5
  if 3 ≤ count then some (List.replicate (count - 3) quote, cs.drop count) else none

/-- Reads a string of several lines from behind its opening quotes. -/
def multilineString (quote : Char) : Nat → List Char → Option (List Char × List Char)
  | 0, _ => none
  | _, [] => none
  | fuel + 1, c :: cs =>
    match closingQuotes? quote (c :: cs), lineEnd? (c :: cs) with
    | some result, _ => some result
    | none, some rest => consChar '\n' (multilineString quote fuel rest)
    | none, none =>
      if c = '\\' ∧ quote = '"' then
        match continuation? cs with
        | some rest => multilineString quote fuel rest
        | none => do
          let (c, cs) ← escape? cs
          consChar c (multilineString quote fuel cs)
      else if isPrintable c then consChar c (multilineString quote fuel cs)
      else none

/-- Reads a string of several lines; a line end right behind the opening quotes does not
count. -/
def multiline (quote : Char) (cs : List Char) : Option (List Char × List Char) :=
  let body := (lineEnd? cs).getD cs
  multilineString quote (body.length + 1) body

/-- Reads a string of one line, if there is one. -/
def lineString? : List Char → Option (List Char × List Char)
  | '"' :: cs => basicString (cs.length + 1) cs
  | '\'' :: cs => literalString cs
  | _ => none

/-! ## Keys -/

/-- The characters of keys without quotes. -/
def isBareKeyChar (c : Char) : Bool := c.isAlphanum || c == '_' || c == '-'

/-- Reads one part of a key. -/
def keyPart? (cs : List Char) : Option (String × List Char) :=
  let bare := cs.takeWhile isBareKeyChar
  if bare.isEmpty then (lineString? cs).map fun (text, rest) => (String.ofList text, rest)
  else some (String.ofList bare, cs.dropWhile isBareKeyChar)

/-- Reads a key: the parts before its last one, the last one, and what follows. -/
def key? : Nat → List Char → Option ((List String × String) × List Char)
  | 0, _ => none
  | fuel + 1, cs => do
    let (part, rest) ← keyPart? (skipGaps cs)
    match skipGaps rest with
    | '.' :: rest =>
      let ((path, last), rest) ← key? fuel rest
      return ((part :: path, last), rest)
    | rest => return (([], part), rest)

/-! ## Values -/

/-- Reads items, each followed by a comma or the closing bracket; blanks, comments and line ends
may stand between them. -/
def readItems {α : Type} (item : α → List Char → Option (α × List Char)) (close : Char) :
    Nat → α → List Char → Option (α × List Char)
  | 0, _, _ => none
  | fuel + 1, acc, cs => do
    match skipFiller (cs.length + 1) cs with
    | [] => none
    | c :: rest =>
      if c = close then return (acc, rest)
      let (acc, rest) ← item acc (c :: rest)
      match skipFiller (rest.length + 1) rest with
      | c :: rest =>
        if c = close then return (acc, rest)
        else if c = ',' then readItems item close fuel acc rest
        else none
      | [] => none

/-- Reads a key and its value into a table. -/
def readMember (value : List Char → Option (Toml × List Char)) (kind : TableKind)
    (members : Members) (cs : List Char) : Option (Toml × List Char) := do
  let ((path, key), rest) ← key? (cs.length + 1) cs
  match rest with
  | '=' :: rest =>
    let (v, rest) ← value (skipGaps rest)
    return (← addKey path key v kind members, rest)
  | _ => none

/-- Reads a value; `depth` limits how deep arrays and inline tables are nested. -/
def readValue : Nat → List Char → Option (Toml × List Char)
  | depth, cs =>
    let text (result : Option (List Char × List Char)) : Option (Toml × List Char) :=
      result.map fun (text, rest) => (.string (String.ofList text), rest)
    match depth, cs with
    | _, '"' :: '"' :: '"' :: rest => text (multiline '"' rest)
    | _, '\'' :: '\'' :: '\'' :: rest => text (multiline '\'' rest)
    | _, '"' :: _ => text (lineString? cs)
    | _, '\'' :: _ => text (lineString? cs)
    | 0, '[' :: _ => none
    | 0, '\x7b' :: _ => none
    | depth + 1, '[' :: rest => do
      let item (items : List Toml) (cs : List Char) : Option (List Toml × List Char) :=
        (readValue depth cs).map fun (v, rest) => (v :: items, rest)
      let (items, rest) ← readItems item ']' (rest.length + 1) [] rest
      return (.array false items.reverse, rest)
    | depth + 1, '\x7b' :: rest => do
      let item (table : Toml) (cs : List Char) : Option (Toml × List Char) :=
        match table with
        | .table kind members => readMember (readValue depth) kind members cs
        | _ => none
      readItems item '\x7d' (rest.length + 1) (.table .inline []) rest
    | _, _ => do
      let (token, rest) := splitScalar cs
      return (← scalar? token, rest)

/-- How deep arrays and inline tables may be nested. -/
def depthLimit : Nat := 80

/-! ## Documents -/

/-- How far a document has been read. -/
structure Reading where
  /-- The document so far. -/
  members : Members := []
  /-- The header of the current table. -/
  current : List String := []

/-- The document after a change of its table. -/
def Reading.update (r : Reading) (current : List String) : Toml → Reading
  | .table _ members => ⟨members, current⟩
  | _ => r

/-- Reads a header from behind its opening bracket. -/
def readHeader (r : Reading) (cs : List Char) : Option (Reading × List Char) :=
  match cs with
  | '[' :: cs => do
    let ((path, key), rest) ← key? (cs.length + 1) cs
    match rest with
    | ']' :: ']' :: rest =>
      return (r.update (path ++ [key]) (← openArrayTable path key .header r.members), rest)
    | _ => none
  | _ => do
    let ((path, key), rest) ← key? (cs.length + 1) cs
    match rest with
    | ']' :: rest =>
      return (r.update (path ++ [key]) (← openTable path key .header r.members), rest)
    | _ => none

/-- Reads a key and its value into the current table. -/
def readPair (r : Reading) (cs : List Char) : Option (Reading × List Char) := do
  let ((path, key), rest) ← key? (cs.length + 1) cs
  match rest with
  | '=' :: rest =>
    let (v, rest) ← readValue depthLimit (skipGaps rest)
    let table ← change false (addKey path key v) r.current .header r.members
    return (r.update r.current table, rest)
  | _ => none

/-- Reads lines until the text ends. -/
def readLines : Nat → Reading → List Char → Option Reading
  | 0, _, _ => none
  | _, r, [] => some r
  | fuel + 1, r, cs =>
    match endOfLine? cs with
    | some rest => readLines fuel r rest
    | none => do
      let (r, rest) ← match skipGaps cs with
        | '[' :: rest => readHeader r rest
        | rest => readPair r rest
      readLines fuel r (← endOfLine? rest)

/-- Reads a document.  A byte order mark at its start does not count. -/
def read? (text : String) : Option Toml :=
  let cs := match text.toList with
    | c :: cs => if c.toNat = 0xFEFF then cs else c :: cs
    | [] => []
  (readLines (cs.length + 1) {} cs).map fun r => .table .header r.members

end XmlSchema.Toml
