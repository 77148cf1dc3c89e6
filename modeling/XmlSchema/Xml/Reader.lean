import XmlSchema.Xml.Attributes

/-!
# The event reader

`events` reads a document into its events in one pass.  The reader is lenient: it finds the end of
each construct and decodes it, and leaves it to its client whether the tags nest and whether
names are declared.  The list of events ends with `Event.endOfInput` or with the first construct
that is not accepted.
-/

namespace XmlSchema.Xml

open XmlSchema.Text

/-- The byte order mark. -/
def byteOrderMark : Char := Char.ofNat 0xFEFF

/-- A text without a leading byte order mark. -/
def dropByteOrderMark (cs : List Char) : List Char :=
  match cs with
  | c :: rest => if c = byteOrderMark then rest else cs
  | [] => cs

/-- The content of a construct, and the text behind the `>` that ends it. -/
abbrev Split := List Char × List Char

/-- Splits at the first `>` before which `done` holds of the characters read, the last of them
first. -/
def splitAtClose (done : List Char → Bool) : List Char → List Char → Option Split
  | _, [] => none
  | seen, c :: cs =>
    if c = '>' ∧ done seen then some (seen.reverse, cs) else splitAtClose done (c :: seen) cs

/-- The end of a comment: two hyphens, and at least five characters from the `!` on. -/
def closesComment : List Char → Bool
  | '-' :: '-' :: _ :: _ :: _ :: _ => true
  | _ => false

/-- The end of a section of character data. -/
def closesCharacterData : List Char → Bool
  | ']' :: ']' :: _ => true
  | _ => false

/-- The end of a processing instruction. -/
def closesInstruction : List Char → Bool
  | '?' :: _ => true
  | _ => false

/-- Splits at the `>` that balances the `<` read so far. -/
def splitAtBalance : Nat → List Char → List Char → Option Split
  | _, _, [] => none
  | depth, seen, c :: cs =>
    if c = '<' then splitAtBalance (depth + 1) (c :: seen) cs
    else if c = '>' then
      match depth with
      | 0 => some (seen.reverse, cs)
      | depth + 1 => splitAtBalance depth (c :: seen) cs
    else splitAtBalance depth (c :: seen) cs

/-- Splits at the first `>` outside quotes; `quote` is the quote that is open. -/
def splitAtTagEnd : Option Char → List Char → List Char → Option Split
  | _, _, [] => none
  | quote, seen, c :: cs =>
    match quote with
    | some q => splitAtTagEnd (if c = q then none else quote) (c :: seen) cs
    | none =>
      if c = '>' then some (seen.reverse, cs)
      else if c = '"' ∨ c = '\'' then splitAtTagEnd (some c) (c :: seen) cs
      else splitAtTagEnd none (c :: seen) cs

/-- The name in an end tag: its content without trailing space, unless it is all space. -/
def endTagName (content : List Char) : List Char :=
  if content.all isSpace then content else (content.reverse.dropWhile isSpace).reverse

/-- A text starts with the given characters, in either case. -/
def startsWithIgnoringCase (start text : List Char) : Bool :=
  start.map Char.toLower == (text.take start.length).map Char.toLower

/-- The offset of a tag's `<`, given the reader's position before the tag.  The two differ only
when the reader has passed over a byte order mark. -/
def tagStart (text : List Char) (before : Nat) : Nat :=
  if charAt? before text = some '<' then before
  else if 0 < before ∧ charAt? (before - 1) text = some '<' then before - 1
  else before

/-- A declaration behind `<!`: a comment, character data or a document type.  `start` is the offset
behind the `<`.  Gives the event, the offset behind the construct and the text from there on. -/
def readDeclaration (start : Nat) (cs : List Char) :
    Except Fault (Event × Nat × List Char) :=
  let refuse (cause : MarkupError) : Except Fault (Event × Nat × List Char) :=
    .error ⟨.markup cause, start - 1⟩
  let stop (content : List Char) := start + byteLength content + 1
  match cs.drop 1 with
  | '-' :: _ =>
    match splitAtClose closesComment [] cs with
    | some (content, rest) =>
      if "!--".toList.isPrefixOf content then .ok (.other, stop content, rest)
      else refuse .unclosedComment
    | none => refuse .unclosedComment
  | '[' :: _ =>
    match splitAtClose closesCharacterData [] cs with
    | some (content, rest) =>
      if "![CDATA[".toList.isPrefixOf content then
        let data := (content.drop 8).take (content.length - 10)
        .ok (.text (.ok (String.ofList data)) (start - 1), stop content, rest)
      else refuse .unclosedCharacterData
    | none => refuse .unclosedCharacterData
  | c :: _ =>
    if c = 'D' ∨ c = 'd' then
      match splitAtBalance 0 [] cs with
      | some (content, rest) =>
        if startsWithIgnoringCase "!DOCTYPE".toList content then
          if (content.drop 8).all isSpace then
            .error ⟨.markup .doctypeWithoutName, stop content - 1⟩
          else .ok (.other, stop content, rest)
        else refuse .unclosedDoctype
      | none => refuse .unclosedDoctype
    else refuse .unknownDeclaration
  | [] => refuse .unknownDeclaration

/-- The event of a start tag with the given content. -/
def startTagEvent (text : List Char) (start stop : Nat) (content : List Char) : Event :=
  let tag := tagStart text (start - 1)
  let selfClosing := content.getLast? == some '/'
  let content := if selfClosing then content.dropLast else content
  .startTag {
    rawName := String.ofList (tagName content)
    attributes := decodeAttributes text tag content
    selfClosing, offset := tag, stop }

/-- The construct behind a `<`, with `start` and the result as in `readDeclaration`. -/
def readMarkup (text : List Char) (start : Nat) (cs : List Char) :
    Except Fault (Event × Nat × List Char) :=
  let refuse (cause : MarkupError) : Except Fault (Event × Nat × List Char) :=
    .error ⟨.markup cause, start - 1⟩
  match cs with
  | '!' :: _ => readDeclaration start cs
  | '/' :: _ =>
    match splitAtTagEnd none [] cs with
    | some (content, rest) =>
      let stop := start + byteLength content + 1
      let name := String.ofList (endTagName (content.drop 1))
      .ok (.endTag name (tagStart text (start - 1) + 2) stop, stop, rest)
    | none => refuse .unclosedTag
  | '?' :: _ =>
    match splitAtClose closesInstruction [] cs with
    | some (content, rest) =>
      if content.length < 2 then refuse .unclosedInstruction
      else .ok (.other, start + byteLength content + 1, rest)
    | none => refuse .unclosedInstruction
  | _ :: _ =>
    match splitAtTagEnd none [] cs with
    | some (content, rest) =>
      let stop := start + byteLength content + 1
      .ok (startTagEvent text start stop content, stop, rest)
    | none => refuse .unclosedTag
  | [] => refuse .unclosedTag

/-- The event of a text that starts at byte `offset`; it is reported at its first character that
is not blank. -/
def textEvent (offset : Nat) (raw : List Char) : Event :=
  let offset := offset + (raw.takeWhile isAsciiBlank).length
  match Reference.decode raw with
  | .ok value => .text (.ok (String.ofList value)) offset
  | .error cause => .text (.error ⟨.reference cause, offset⟩) offset

/-- The events of the text `cs`, which starts at byte `offset` of the document `text`. -/
def eventsFrom (text : List Char) : Nat → Nat → List Char → List Event
  | 0, _, _ => [.endOfInput]
  | fuel + 1, offset, cs =>
    let raw := cs.takeWhile (· != '<')
    match raw, cs.dropWhile (· != '<') with
    | [], [] => [.endOfInput]
    | raw, [] => [textEvent offset raw, .endOfInput]
    | raw, _ :: markup =>
      let start := offset + byteLength raw + 1
      let continued :=
        match readMarkup text start markup with
        | .error fault => [.malformed fault]
        | .ok (event, stop, rest) => event :: eventsFrom text fuel stop rest
      if raw.isEmpty then continued else textEvent offset raw :: continued

/-- The events of a document.  A byte order mark at its start is passed over and not counted. -/
def events (text : List Char) : List Event :=
  eventsFrom text (text.length + 1) 0 (dropByteOrderMark text)

end XmlSchema.Xml
