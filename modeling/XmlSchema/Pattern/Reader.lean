import XmlSchema.Pattern.Expr
import XmlSchema.Pattern.Property
import XmlSchema.Text.Blank
import XmlSchema.Text.Number

/-!
# Reading regular expressions

`Expr.read?` reads the text of a regular expression and refuses what the dialect does not have:
look-around, back references, unknown escapes and properties, and malformed repetitions and
classes.  Classes know ranges, nested classes and the operations `&&`, `--` and `~~`.

Readers have the type `Reader α`: they take the characters that are left and the group names seen
so far.  Their first argument bounds the depth of the recursion; the length of the text is enough.
-/

namespace XmlSchema.Pattern

open XmlSchema.Text

/-- Switches that a pattern can set with `(?imsUuRx)`. -/
structure Flags where
  caseInsensitive : Bool := false
  multiLine : Bool := false
  dotMatchesNewLine : Bool := false
  swapGreed : Bool := false
  unicode : Bool := true
  carriageReturns : Bool := false
  ignoreSpace : Bool := false
  deriving DecidableEq, Repr

/-- What is left to read, and the names of the groups so far. -/
structure ReadState where
  rest : List Char
  names : List (List Char) := []

/-- A reader that may refuse the text. -/
abbrev Reader := StateT ReadState Option

namespace Reader

/-- The next character. -/
def peek : Reader (Option Char) := do return (← get).rest.head?

/-- The character behind the next one. -/
def peekSecond : Reader (Option Char) := do return (← get).rest[1]?

/-- Passes over some characters. -/
def skip (n : Nat) : Reader Unit := modify fun s => { s with rest := s.rest.drop n }

/-- Drops blanks and comments. -/
def dropInsignificant : Nat → List Char → List Char
  | 0, cs => cs
  | fuel + 1, cs =>
    match cs with
    | [] => []
    | c :: rest =>
      if isBlank c then dropInsignificant fuel rest
      else if c = '#' then dropInsignificant fuel ((rest.dropWhile (· != '\n')).drop 1)
      else cs

/-- Passes over blanks and comments where the flags say that they do not count. -/
def skipInsignificant (flags : Flags) : Reader Unit := do
  if flags.ignoreSpace then
    modify fun s => { s with rest := dropInsignificant s.rest.length s.rest }

/-- Passes over one character and what does not count behind it. -/
def advance (flags : Flags) : Reader Unit := do
  skip 1
  skipInsignificant flags

/-- Passes over the given characters if they come next. -/
def accept (text : String) : Reader Bool := do
  let s ← get
  let cs := text.toList
  if cs.isPrefixOf s.rest then
    set { s with rest := s.rest.drop cs.length }
    return true
  else return false

/-- The next character; refuses the end of the text. -/
def current : Reader Char := do
  match (← get).rest with
  | c :: _ => return c
  | [] => failure

end Reader

open Reader

/-- An item of a pattern that is neither a group nor a class in brackets. -/
inductive Primitive where
  | literal (c : Char)
  | chars (p : CharClass)
  | expr (e : Expr)

/-! ## Escapes -/

/-- The characters with a meaning of their own in a pattern. -/
def isMeta (c : Char) : Bool := "\\.+*?()|[]\x7b\x7d^$#&-~".toList.contains c

/-- The characters that may be escaped without need. -/
def isEscapable (c : Char) : Bool :=
  isMeta c || (c.toNat ≤ 0x7F && !c.isAlphanum && c != '<' && c != '>')

/-- The character with the number that the hexadecimal digits denote. -/
def hexChar? (digits : List Char) : Option Char := do
  let n ← (readNat 16 maxWord32 digits).toOption
  if n.isValidChar then some (Char.ofNat n) else none

/-- Reads exactly `n` hexadecimal digits. -/
def readHexDigits (flags : Flags) : Nat → Reader (List Char)
  | 0 => return []
  | n + 1 => do
    let c ← current
    if (digit? 16 c).isNone then failure
    else
      advance flags
      return c :: (← readHexDigits flags n)

/-- Reads up to a closing brace, characters that satisfy `p` only. -/
def readBraced (flags : Flags) (p : Char → Bool) : Nat → Reader (List Char)
  | 0 => failure
  | fuel + 1 => do
    let c ← current
    if c = '\x7d' then return []
    else if p c then
      advance flags
      return c :: (← readBraced flags p fuel)
    else failure

/-- Reads a hexadecimal escape behind its letter; `width` is the number of digits without
braces. -/
def readHex (flags : Flags) (width : Nat) : Reader Char := do
  advance flags
  let digits ←
    if (← current) = '\x7b' then do
      advance flags
      let digits ← readBraced flags (fun c => (digit? 16 c).isSome) ((← get).rest.length + 1)
      advance flags
      if digits.isEmpty then failure else pure digits
    else readHexDigits flags width
  let c ← hexChar? digits
  if !flags.unicode && width = 2 && c.toNat > 0x7F then failure else return c

/-- Splits a text at the first occurrence of another. -/
def splitAtText (mark : List Char) : List Char → Option (List Char × List Char)
  | [] => none
  | c :: cs =>
    if mark.isPrefixOf (c :: cs) then some ([], (c :: cs).drop mark.length)
    else (splitAtText mark cs).map fun (a, b) => (c :: a, b)

/-- Reads a Unicode property behind its backslash. -/
def readProperty (flags : Flags) : Reader CharClass := do
  let negated := (← current) == 'P'
  advance flags
  let c ← current
  let (cls, negated) ←
    if c = '\x7b' then do
      advance flags
      let name ← readBraced flags (fun _ => true) ((← get).rest.length + 1)
      skip 1
      match splitAtText ['!', '='] name with
      | some (name, value) => pure (← valuedProperty? name value, !negated)
      | none =>
        match splitAtText [':'] name with
        | some (name, value) => pure (← valuedProperty? name value, negated)
        | none =>
          match splitAtText ['='] name with
          | some (name, value) => pure (← valuedProperty? name value, negated)
          | none => pure (← namedProperty? name, negated)
    else if c = '\\' then failure
    else do
      advance flags
      pure (← namedProperty? [c], negated)
  if !flags.unicode then failure
  else
    let folded := if flags.caseInsensitive then foldCase cls else cls
    return if negated then fun c => !folded c else folded

/-- The class of a letter escape such as `\d`. -/
def letterClass (flags : Flags) (c : Char) : Option CharClass :=
  let pick (wide narrow : CharClass) : CharClass := if flags.unicode then wide else narrow
  let digit := pick digitClass asciiDigitClass
  let space := pick spaceClass asciiSpaceClass
  let word := pick wordClass asciiWordClass
  -- without Unicode, a negated class would match parts of characters
  let negated (p : CharClass) : Option CharClass :=
    if flags.unicode then some fun c => !p c else none
  match c with
  | 'd' => some digit
  | 's' => some space
  | 'w' => some word
  | 'D' => negated digit
  | 'S' => negated space
  | 'W' => negated word
  | _ => none

/-- The word characters that word boundaries go by. -/
def boundaryClass (flags : Flags) : CharClass :=
  if flags.unicode then wordClass else asciiWordClass

/-- Reads what may follow `\b` in braces. -/
def readBoundary (flags : Flags) : Reader Look := do
  let isNameChar (c : Char) : Bool := c.isAlpha || c == '-'
  let before ← get
  if (← peek) != some '\x7b' then return .wordBoundary
  else
    advance flags
    if !isNameChar (← current) then
      set before
      return .wordBoundary
    else
      let name ← readBraced flags isNameChar ((← get).rest.length + 1)
      skip 1
      match String.ofList name with
      | "start" => return .wordStart
      | "end" => return .wordEnd
      | "start-half" => return .wordStartHalf
      | "end-half" => return .wordEndHalf
      | _ => failure

/-- Reads an escape from its backslash on. -/
def readEscape (flags : Flags) : Reader Primitive := do
  skip 1
  let c ← current
  let look (l : Look) : Reader Primitive := return .expr (.look l (boundaryClass flags))
  if isDigit c then failure
  else if c = 'x' then return .literal (← readHex flags 2)
  else if c = 'u' then return .literal (← readHex flags 4)
  else if c = 'U' then return .literal (← readHex flags 8)
  else if c = 'p' ∨ c = 'P' then return .chars (← readProperty flags)
  else if "dswDSW".toList.contains c then
    skip 1
    return .chars (← letterClass flags c)
  else
    skip 1
    if isEscapable c then return .literal c
    else
      match c with
      | 'a' => return .literal '\x07'
      | 'f' => return .literal '\x0c'
      | 't' => return .literal '\t'
      | 'n' => return .literal '\n'
      | 'r' => return .literal '\r'
      | 'v' => return .literal '\x0b'
      | 'A' => look .startOfText
      | 'z' => look .endOfText
      | 'b' => look (← readBoundary flags)
      | 'B' => look .notWordBoundary
      | '<' => look .wordStart
      | '>' => look .wordEnd
      | _ => failure

/-! ## Classes -/

/-- The operations between classes. -/
inductive ClassOp where
  | intersection
  | difference
  | symmetricDifference
  deriving DecidableEq, Repr

/-- The class that an operation yields. -/
def ClassOp.apply : ClassOp → CharClass → CharClass → CharClass
  | .intersection, a, b => fun c => a c && b c
  | .difference, a, b => fun c => a c && !b c
  | .symmetricDifference, a, b => fun c => a c != b c

/-- The characters of some of the classes. -/
def unionOf (items : List CharClass) : CharClass := fun c => items.any (· c)

/-- A class with its case variants, where the flags say that case does not count. -/
def folded (flags : Flags) (p : CharClass) : CharClass :=
  if flags.caseInsensitive then foldCase p else p

/-- A class as it stands between its brackets, with its negation. -/
def closeClass (flags : Flags) (negated : Bool) (p : CharClass) : Option CharClass :=
  let p := folded flags p
  if negated then if flags.unicode then some fun c => !p c else none else some p

/-- Joins the operand on the left of an operation, if there is one, with the one on the right. -/
def joinOperands (flags : Flags) : Option (CharClass × ClassOp) → CharClass → CharClass
  | none, right => right
  | some (left, op), right => op.apply (folded flags left) (folded flags right)

/-- Reads one character or escape of a class. -/
def readClassPrimitive (flags : Flags) : Reader Primitive := do
  let c ← current
  if c = '\\' then readEscape flags
  else
    skip 1
    return .literal c

/-- The second next character that counts. -/
def peekSignificant (flags : Flags) : Reader (Option Char) := do
  let s ← get
  let rest := s.rest.drop 1
  let rest := if flags.ignoreSpace then dropInsignificant rest.length rest else rest
  return rest.head?

/-- Reads a character, a range or an escape of a class. -/
def readClassItem (flags : Flags) : Reader CharClass := do
  let first ← readClassPrimitive flags
  skipInsignificant flags
  let next ← current
  let second ← peekSignificant flags
  if next ≠ '-' ∨ second = some ']' ∨ second = some '-' then
    match first with
    | .literal c => return fun x => x == c
    | .chars p => return p
    | .expr _ => failure
  else
    advance flags
    match first, ← (do let _ ← current; readClassPrimitive flags) with
    | .literal low, .literal high =>
      if low ≤ high then return fun x => low ≤ x && x ≤ high else failure
    | _, _ => failure

/-- Reads a class such as `[:alpha:]`; passes over nothing when there is none. -/
def readAsciiClass (flags : Flags) : Reader (Option CharClass) := do
  let before ← get
  if ← accept "[:" then
    let negated ← accept "^"
    let s ← get
    let name := s.rest.takeWhile (· != ':')
    set { s with rest := s.rest.dropWhile (· != ':') }
    if ← accept ":]" then
      match asciiClass? (String.ofList name) with
      | some p => return some ((closeClass flags negated p).getD p)
      | none => set before
    else set before
  return none

/-- Reads the hyphens that may open a class. -/
def readHyphens (flags : Flags) : Nat → Reader (List CharClass)
  | 0 => return []
  | fuel + 1 => do
    if (← current) = '-' then
      advance flags
      let _ ← current
      return (fun x => x == '-') :: (← readHyphens flags fuel)
    else return []

/-- Reads the beginning of a class: its bracket, its negation, and a hyphen or bracket that stands
for itself. -/
def openClass (flags : Flags) : Reader (Bool × List CharClass) := do
  advance flags
  let negated := (← current) == '^'
  if negated then
    advance flags
    let _ ← current
  let hyphens ← readHyphens flags ((← get).rest.length + 1)
  if hyphens.isEmpty && (← current) == ']' then
    advance flags
    let _ ← current
    return (negated, [fun x => x == ']'])
  else return (negated, hyphens)

/-- Reads the rest of a class, given the items so far and the operation that is open. -/
def readClassBody (flags : Flags) (negated : Bool) :
    Nat → Option (CharClass × ClassOp) → List CharClass → Reader CharClass
  | 0, _, _ => failure
  | fuel + 1, left, items => do
    skipInsignificant flags
    let c ← current
    let second ← peekSecond
    let operate (op : ClassOp) : Reader CharClass := do
      skip 2
      readClassBody flags negated fuel (some (joinOperands flags left (unionOf items), op)) []
    if c = '[' then
      match ← readAsciiClass flags with
      | some p => readClassBody flags negated fuel left (items ++ [p])
      | none =>
        let (innerNegated, start) ← openClass flags
        let p ← readClassBody flags innerNegated fuel none start
        readClassBody flags negated fuel left (items ++ [p])
    else if c = ']' then
      skip 1
      closeClass flags negated (joinOperands flags left (unionOf items))
    else if c = '&' ∧ second = some '&' then operate .intersection
    else if c = '-' ∧ second = some '-' then operate .difference
    else if c = '~' ∧ second = some '~' then operate .symmetricDifference
    else
      let p ← readClassItem flags
      readClassBody flags negated fuel left (items ++ [p])

/-- Reads a class in brackets. -/
def readClass (flags : Flags) : Reader CharClass := do
  let (negated, start) ← openClass flags
  readClassBody flags negated ((← get).rest.length + 1) none start

/-! ## Repetitions -/

/-- Reads a number of a repetition; `none` when there are no digits. -/
def readCount (flags : Flags) : Reader (Option Nat) := do
  modify fun s => { s with rest := s.rest.dropWhile isBlank }
  let rec digits : Nat → Reader (List Char)
    | 0 => return []
    | fuel + 1 => do
      match ← peek with
      | some c =>
        if isDigit c then
          advance flags
          return c :: (← digits fuel)
        else return []
      | none => return []
  let ds ← digits ((← get).rest.length + 1)
  modify fun s => { s with rest := s.rest.dropWhile isBlank }
  if ds.isEmpty then return none
  else
    match (readNat 10 maxWord32 ds).toOption with
    | some n => return some n
    | none => failure

/-- Passes over the mark of a lazy repetition. -/
def skipLazyMark : Reader Unit := do
  let _ ← accept "?"

/-- Reads the bounds of a repetition in braces. -/
def readBounds (flags : Flags) : Reader (Nat × Option Nat) := do
  advance flags
  let _ ← current
  let min ← readCount flags
  let bounds ←
    if (← current) = ',' then do
      advance flags
      if (← current) = '\x7d' then
        match min with
        | some m => pure (m, none)
        | none => failure
      else
        match min, ← readCount flags with
        | some m, some n => pure (m, some n)
        | _, _ => failure
    else
      match min with
      | some m => pure (m, some m)
      | none => failure
  if (← current) ≠ '\x7d' then failure
  else
    advance flags
    skipLazyMark
    if bounds.2.any (· < bounds.1) then failure else return bounds

/-! ## Groups and sequences -/

/-- Sets or clears one flag. -/
def setFlag (flags : Flags) (c : Char) (on : Bool) : Option Flags :=
  match c with
  | 'i' => some { flags with caseInsensitive := on }
  | 'm' => some { flags with multiLine := on }
  | 's' => some { flags with dotMatchesNewLine := on }
  | 'U' => some { flags with swapGreed := on }
  | 'u' => some { flags with unicode := on }
  | 'R' => some { flags with carriageReturns := on }
  | 'x' => some { flags with ignoreSpace := on }
  | _ => none

/-- Reads flags up to a colon or a closing parenthesis; `seen` are the letters so far. -/
def readFlags : Nat → List Char → Bool → Flags → Reader (Flags × Bool)
  | 0, _, _, _ => failure
  | fuel + 1, seen, on, flags => do
    let c ← current
    if c = ':' ∨ c = ')' then
      if seen.head? = some '-' then failure else return (flags, seen.isEmpty)
    else if seen.contains c then failure
    else
      skip 1
      if c = '-' then readFlags fuel (c :: seen) false flags
      else readFlags fuel (c :: seen) on (← setFlag flags c on)

/-- Whether a character may stand in the name of a group. -/
def isNameChar (first : Bool) (c : Char) : Bool :=
  c == '_' || Unicode.propertyAlphabetic.contains c ||
    (!first && (c == '.' || c == '[' || c == ']' || Unicode.number.contains c))

/-- Reads the name of a group behind its angle bracket. -/
def readGroupName : Reader Unit := do
  let s ← get
  let name := s.rest.takeWhile (· != '>')
  match s.rest.dropWhile (· != '>'), name with
  | _ :: rest, first :: others =>
    if isNameChar true first && others.all (isNameChar false) && !s.names.contains name then
      set { s with rest := rest, names := name :: s.names }
    else failure
  | _, _ => failure

/-- How a group opens: with flags for the rest of the enclosing group, or with its content. -/
inductive GroupStart where
  | flags (flags : Flags)
  | content (flags : Flags)

/-- Reads the beginning of a group from its parenthesis on. -/
def openGroup (flags : Flags) : Reader GroupStart := do
  advance flags
  let s ← get
  if ["?=", "?!", "?<=", "?<!"].any fun mark => mark.toList.isPrefixOf s.rest then failure
  else if ← accept "?P<" then
    readGroupName
    return .content flags
  else if ← accept "?<" then
    readGroupName
    return .content flags
  else if ← accept "?" then
    let (flags, none?) ← readFlags ((← get).rest.length + 1) [] true flags
    let c ← current
    skip 1
    if c = ')' then if none? then failure else return .flags flags
    else return .content flags
  else return .content flags

/-- The expression of a character that stands for itself. -/
def literalExpr (flags : Flags) (c : Char) : Expr := .char (folded flags fun x => x == c)

/-- The expression of the dot. -/
def dotExpr (flags : Flags) : Option Expr :=
  if !flags.unicode then none
  else if flags.dotMatchesNewLine then some (.char fun _ => true)
  else if flags.carriageReturns then some (.char fun c => c != '\n' && c != '\r')
  else some (.char fun c => c != '\n')

/-- The condition of the circumflex. -/
def startLook (flags : Flags) : Look :=
  if !flags.multiLine then .startOfText
  else if flags.carriageReturns then .startOfLineOrReturn
  else .startOfLine

/-- The condition of the dollar sign. -/
def endLook (flags : Flags) : Look :=
  if !flags.multiLine then .endOfText
  else if flags.carriageReturns then .endOfLineOrReturn
  else .endOfLine

/-- Reads a single item of a sequence. -/
def readPrimitive (flags : Flags) : Reader Expr := do
  let c ← current
  match c with
  | '\\' =>
    match ← readEscape flags with
    | .literal c => return literalExpr flags c
    | .chars p => return .char p
    | .expr e => return e
  | '.' =>
    skip 1
    dotExpr flags
  | '^' =>
    skip 1
    return .look (startLook flags) (boundaryClass flags)
  | '$' =>
    skip 1
    return .look (endLook flags) (boundaryClass flags)
  | c =>
    skip 1
    return literalExpr flags c

/-- Repeats the last item of a sequence; flags cannot be repeated. -/
def repeatLast (items : List (Option Expr)) (min : Nat) (max : Option Nat) :
    Option (List (Option Expr)) :=
  match items with
  | some e :: rest => some (some (e.repeated min max) :: rest)
  | _ => none

/-- The concatenation of the items of a sequence, the last of them first. -/
def sequenceExpr (items : List (Option Expr)) : Expr :=
  Expr.concat (items.reverse.filterMap id)

/-- Reads alternatives up to a closing parenthesis or the end of the text.  `done` is the
expression of the alternatives before, `items` are the items of the current one, the last of them
first; an item without expression sets flags. -/
def readAlternatives :
    Nat → Flags → Option Expr → List (Option Expr) → Reader Expr
  | 0, _, _, _ => failure
  | fuel + 1, flags, done, items => do
    let finish (e : Expr) : Expr := match done with
      | some d => .alt d e
      | none => e
    let repeatItem (min : Nat) (max : Option Nat) : Reader Expr := do
      readAlternatives fuel flags done (← repeatLast items min max)
    skipInsignificant flags
    match ← peek with
    | none => return finish (sequenceExpr items)
    | some ')' => return finish (sequenceExpr items)
    | some '|' =>
      skip 1
      readAlternatives fuel flags (some (finish (sequenceExpr items))) []
    | some '(' =>
      match ← openGroup flags with
      | .flags flags => readAlternatives fuel flags done (none :: items)
      | .content inner =>
        let e ← readAlternatives fuel inner none []
        if ← accept ")" then readAlternatives fuel flags done (some e :: items) else failure
    | some '[' =>
      let p ← readClass flags
      readAlternatives fuel flags done (some (.char p) :: items)
    | some '?' =>
      skip 1
      skipLazyMark
      repeatItem 0 (some 1)
    | some '*' =>
      skip 1
      skipLazyMark
      repeatItem 0 none
    | some '+' =>
      skip 1
      skipLazyMark
      repeatItem 1 none
    | some '\x7b' =>
      if (repeatLast items 0 none).isNone then failure
      else
        let (min, max) ← readBounds flags
        repeatItem min max
    | some _ =>
      let e ← readPrimitive flags
      readAlternatives fuel flags done (some e :: items)

/-- Reads a regular expression; `none` when the dialect does not have it. -/
def Expr.read? (text : String) : Option Expr :=
  let cs := text.toList
  match (readAlternatives (cs.length + 1) {} none []).run { rest := cs } with
  | some (e, s) => if s.rest.isEmpty then some e else none
  | none => none

end XmlSchema.Pattern
