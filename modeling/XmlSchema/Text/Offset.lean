/-!
# Byte offsets into a text

Offsets in this library count the bytes of the UTF-8 encoding, although texts are lists of
characters.  `byteLength` measures a text, `dropBytes?` gives the rest of a text from an offset on
a character boundary, and `sliceBytes?` cuts out a range.
-/

namespace XmlSchema.Text

/-- The number of bytes of the UTF-8 encoding of a text. -/
def byteLength : List Char → Nat
  | [] => 0
  | c :: cs => c.utf8Size + byteLength cs

@[simp] theorem byteLength_nil : byteLength [] = 0 := rfl

@[simp] theorem byteLength_cons (c : Char) (cs : List Char) :
    byteLength (c :: cs) = c.utf8Size + byteLength cs := rfl

@[simp] theorem byteLength_append (as bs : List Char) :
    byteLength (as ++ bs) = byteLength as + byteLength bs := by
  induction as with
  | nil => simp
  | cons a as ih => simp [ih, Nat.add_assoc]

/-- The rest of the text from a byte offset on; `none` inside a character or behind the end. -/
def dropBytes? : Nat → List Char → Option (List Char)
  | 0, cs => some cs
  | _ + 1, [] => none
  | n + 1, c :: cs => if c.utf8Size ≤ n + 1 then dropBytes? (n + 1 - c.utf8Size) cs else none

/-- The first characters of the text that make up exactly so many bytes. -/
def takeBytes? : Nat → List Char → Option (List Char)
  | 0, _ => some []
  | _ + 1, [] => none
  | n + 1, c :: cs =>
    if c.utf8Size ≤ n + 1 then (takeBytes? (n + 1 - c.utf8Size) cs).map (c :: ·) else none

/-- The text between two byte offsets, when both are character boundaries in order. -/
def sliceBytes? (start stop : Nat) (cs : List Char) : Option (List Char) :=
  if start ≤ stop then (dropBytes? start cs).bind (takeBytes? (stop - start)) else none

/-- The character that starts at a byte offset. -/
def charAt? (offset : Nat) (cs : List Char) : Option Char :=
  (dropBytes? offset cs).bind List.head?

/-- The characters from the first character boundary at or behind a byte offset on, with the
offset of that boundary. -/
def dropToBoundary : Nat → List Char → Nat × List Char
  | 0, cs => (0, cs)
  | _ + 1, [] => (0, [])
  | n + 1, c :: cs =>
    let (k, rest) := dropToBoundary (n + 1 - c.utf8Size) cs
    (c.utf8Size + k, rest)

end XmlSchema.Text
