/-!
# Blank characters

Three notions of white space meet in this library: the four characters that separate markup
(`isSpace`), those together with the form feed (`isAsciiBlank`), and all characters with the
Unicode property White_Space (`isBlank`).  This file defines them with the operations on texts
that depend on them: `trim`, `words` and `unwords`.
-/

namespace XmlSchema.Text

/-- The characters that separate names and attributes in markup. -/
def isSpace (c : Char) : Bool :=
  c == ' ' || c == '\t' || c == '\n' || c == '\r'

/-- The ASCII characters that count as blank: markup space and the form feed. -/
def isAsciiBlank (c : Char) : Bool :=
  isSpace c || c == '\x0c'

/-- The characters with the Unicode property White_Space. -/
def isBlank (c : Char) : Bool :=
  let n := c.toNat
  (9 ≤ n && n ≤ 13) || n == 0x20 || n == 0x85 || n == 0xA0 || n == 0x1680 ||
    (0x2000 ≤ n && n ≤ 0x200A) || n == 0x2028 || n == 0x2029 || n == 0x202F || n == 0x205F ||
    n == 0x3000

/-- A text that holds nothing but blank characters. -/
def isBlankText (cs : List Char) : Bool := cs.all isBlank

/-- The text without its leading blank characters. -/
def trimStart (cs : List Char) : List Char := cs.dropWhile isBlank

/-- The text without its trailing blank characters. -/
def trimEnd (cs : List Char) : List Char := (cs.reverse.dropWhile isBlank).reverse

/-- The text without its leading and trailing blank characters. -/
def trim (cs : List Char) : List Char := trimEnd (trimStart cs)

/-- `trim` on strings. -/
def trimString (s : String) : String := String.ofList (trim s.toList)

/-- The maximal blank-free parts of a text, in order. -/
def words : List Char → List (List Char)
  | [] => []
  | c :: cs =>
    if isBlank c then words cs
    else
      match cs with
      | [] => [[c]]
      | d :: _ =>
        if isBlank d then [c] :: words cs
        else
          match words cs with
          | w :: ws => (c :: w) :: ws
          | [] => [[c]]

/-- Words joined by single spaces. -/
def unwords : List (List Char) → List Char
  | [] => []
  | [w] => w
  | w :: ws => w ++ ' ' :: unwords ws

/-- `words` on strings. -/
def splitWords (s : String) : List String := (words s.toList).map String.ofList

@[simp] theorem words_nil : words [] = [] := rfl

theorem words_cons_of_isBlank {c : Char} {cs : List Char} (h : isBlank c = true) :
    words (c :: cs) = words cs := by
  simp [words, h]

end XmlSchema.Text
