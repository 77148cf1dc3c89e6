import XmlSchema.Text.Offset

/-!
# Lines and columns

A line ends at a line feed, at a carriage return with its line feed, or at a carriage return alone.
A `LineIndex` is a text together with the offsets at which its lines start.  `position` turns a byte
offset into a line and a column, both counted from one, the column in characters: the line is looked
up among the starts by a binary search.  `lines` lists the lines without their ends.
-/

namespace XmlSchema.Text

/-- A place in a text: line and column, both counted from one, the column in characters. -/
structure Position where
  line : Nat
  column : Nat
  deriving DecidableEq, Repr

/-- Whether the character `c`, followed by `rest`, is the last of its line. -/
def endsLine (c : Char) (rest : List Char) : Bool :=
  c == '\n' || (c == '\r' && rest.head? != some '\n')

/-! ## Searching -/

/-- Where a binary search for `key` ends among the `size` entries from the index `base` on. -/
def bisect (entries : Array Nat) (key base size : Nat) : Nat :=
  if size ≤ 1 then base
  else
    let middle := base + size / 2
    if entries.getD middle 0 ≤ key then bisect entries key middle (size - size / 2)
    else bisect entries key base (size - size / 2)
termination_by size

/-- The index of `key` among ascending entries, or else the one at which it could be put in. -/
def binarySearch (entries : Array Nat) (key : Nat) : Except Nat Nat :=
  if entries.isEmpty then .error 0
  else
    let index := bisect entries key 0 entries.size
    match compare (entries.getD index 0) key with
    | .eq => .ok index
    | .lt => .error (index + 1)
    | .gt => .error index

/-! ## Line starts -/

/-- The offsets behind the characters that end a line, in a text that starts at `offset`. -/
def breakOffsets (offset : Nat) : List Char → List Nat
  | [] => []
  | c :: cs =>
    let next := offset + c.utf8Size
    if endsLine c cs then next :: breakOffsets next cs else breakOffsets next cs

/-- The last character boundary at an offset or before it. -/
def floorBoundary (text : List Char) : Nat → Nat
  | 0 => 0
  | n + 1 => if (dropBytes? (n + 1) text).isSome then n + 1 else floorBoundary text n

/-- The text without the line feeds and carriage returns at its end. -/
def trimLineEnd (cs : List Char) : List Char :=
  (cs.reverse.dropWhile fun c => c == '\n' || c == '\r').reverse

/-- A text with the offsets at which its lines start, in ascending order. -/
structure LineIndex where
  text : List Char
  starts : Array Nat

namespace LineIndex

/-- The index of a text. -/
def ofText (text : List Char) : LineIndex := ⟨text, (0 :: breakOffsets 0 text).toArray⟩

/-- The index of the line that an offset stands in, counted from zero. -/
def lineOf (index : LineIndex) (offset : Nat) : Nat :=
  match binarySearch index.starts offset with
  | .ok line => line
  | .error next => next - 1

/-- The line and column of a byte offset.  An offset inside a character counts as the start of
that character, and one behind the text as its end. -/
def position (index : LineIndex) (offset : Nat) : Position :=
  let offset := floorBoundary index.text (min offset (byteLength index.text))
  let line := index.lineOf offset
  let before := (sliceBytes? (index.starts.getD line 0) offset index.text).getD []
  ⟨line + 1, before.length + 1⟩

/-- The line with the given index, counted from zero, without its end. -/
def lineText? (index : LineIndex) (line : Nat) : Option (List Char) := do
  let start ← index.starts[line]?
  let stop := (index.starts[line + 1]?).getD (byteLength index.text)
  return trimLineEnd ((sliceBytes? start stop index.text).getD [])

/-- The number of lines. -/
def lineCount (index : LineIndex) : Nat := index.starts.size

/-- The lines without their ends. -/
def lines (index : LineIndex) : List (List Char) :=
  (List.range index.lineCount).filterMap index.lineText?

end LineIndex

/-- The line and column of a byte offset. -/
def position (text : List Char) (offset : Nat) : Position := (LineIndex.ofText text).position offset

/-- The number of lines of a text; there is always at least one. -/
def lineCount (text : List Char) : Nat := (LineIndex.ofText text).lineCount

/-- The line with the given index, counted from zero, without its end. -/
def line? (text : List Char) (index : Nat) : Option (List Char) :=
  (LineIndex.ofText text).lineText? index

/-- The lines of a text, without their ends. -/
def lines (text : List Char) : List (List Char) := (LineIndex.ofText text).lines

end XmlSchema.Text
