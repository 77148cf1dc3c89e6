import XmlSchema.Report
import XmlSchema.Text.Position

/-!
# Diagnostics

What an editor shows for an issue: the issue with the range of text that it marks.  The message
names the offending text in quotes, so the width of the mark is taken from the message.  Lines and
columns of ranges are counted from zero.
-/

namespace XmlSchema

open XmlSchema.Text

/-- A range of text: from a line and a column up to another line and column. -/
structure Range where
  startLine : UInt32
  startColumn : UInt32
  endLine : UInt32
  endColumn : UInt32
  deriving DecidableEq, Repr

/-- An issue as shown by an editor. -/
structure Diagnostic where
  range : Range
  severity : Severity
  /-- The name of the program that made the diagnostic. -/
  source : String
  message : String
  deriving DecidableEq, Repr

/-- A number counted from one, counted from zero; zero stays. -/
def fromZero (n : UInt32) : UInt32 := if n = 0 then 0 else n - 1

/-- The sentence that says that nothing is known about an element. -/
def unknownElementStart : String := "Could not find schema information for the element"

/-- The first text in single quotes, unless the message starts with the quote. -/
def quotedToken? (message : List Char) : Option (List Char) :=
  match message.takeWhile (· != '\''), message.dropWhile (· != '\'') with
  | [], _ => none
  | _, [] => none
  | _, _ :: rest =>
    if rest.contains '\'' then some (rest.takeWhile (· != '\'')) else none

/-- The index of the first space of a line at or behind an index. -/
def spaceFrom? (line : List Char) (index : Nat) : Option Nat :=
  ((line.drop index).findIdx? (· == ' ')).map (index + ·)

namespace Issue

/-- The range of an issue in a document with the given lines.  An unknown element is marked up to
the space behind its name, a quoted text by its width, and otherwise the rest of the line. -/
def range (i : Issue) (lines : List (List Char)) : Range :=
  let line := fromZero i.line
  let column := fromZero i.column
  let wholeLine : Range := ⟨line, column, i.line, 0⟩
  if unknownElementStart.toList.isPrefixOf i.message.toList then
    match (lines[line.toNat]?).bind (spaceFrom? · i.column.toNat) with
    | some index =>
      if i.column.toNat < index then ⟨line, column, line, index.toUInt32⟩ else wholeLine
    | none => wholeLine
  else
    match quotedToken? i.message.toList with
    | some token => ⟨line, column, line, column + token.length.toUInt32⟩
    | none => wholeLine

/-- The diagnostic of an issue. -/
def diagnostic (i : Issue) (lines : List (List Char)) (source : String) : Diagnostic :=
  ⟨i.range lines, i.severity, source, i.message⟩

end Issue

/-- The name under which diagnostics are shown unless another is configured. -/
def defaultSource : String := "xsd"

/-- The diagnostics of a report on a document, one for each issue. -/
def Report.diagnostics (r : Report) (text : String) (source : String) : List Diagnostic :=
  let lines := Text.lines text.toList
  r.issues.map (·.diagnostic lines source)

end XmlSchema
