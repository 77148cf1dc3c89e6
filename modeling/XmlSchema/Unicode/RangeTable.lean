/-!
# Tables of code points

A `RangeTable` is a set of code points given by ranges in ascending order, so that
`RangeTable.contains` can look a character up by halving.  Tables are written in the notation of the
Unicode character database: code points in hexadecimal, ranges with two dots, separated by
spaces.
-/

namespace XmlSchema.Unicode

/-- A set of code points: those that lie in one of the ranges.  The ranges are in ascending order
and do not overlap. -/
structure RangeTable where
  ranges : Array (Nat × Nat)
  deriving Inhabited

/-- The value of a hexadecimal digit in upper case. -/
def hexValue (c : Char) : Nat :=
  if '0' ≤ c ∧ c ≤ '9' then c.toNat - '0'.toNat else c.toNat - 'A'.toNat + 10

/-- What has been read of a table: the finished ranges, the last of them first, the start of a
range and the number that is being read. -/
structure TableReader where
  ranges : List (Nat × Nat) := []
  start : Option Nat := none
  number : Option Nat := none

/-- Ends the entry that is being read. -/
def TableReader.flush (r : TableReader) : TableReader :=
  match r.number with
  | none => r
  | some n => { ranges := (r.start.getD n, n) :: r.ranges }

/-- Reads one character of a table. -/
def TableReader.next (r : TableReader) (c : Char) : TableReader :=
  if c = ' ' then r.flush
  else if c = '.' then
    match r.number with
    | some n => { r with start := some n, number := none }
    | none => r
  else { r with number := some (r.number.getD 0 * 16 + hexValue c) }

namespace RangeTable

/-- Reads one line of a table. -/
def lineRanges (line : String) : List (Nat × Nat) :=
  (line.toList.foldl TableReader.next {}).flush.ranges.reverse

/-- Reads a table. -/
def ofText (lines : List String) : RangeTable := ⟨(lines.flatMap lineRanges).toArray⟩

/-- Looks for a range with the number `n` among those with indices from `start` to before `stop`. -/
def search (t : RangeTable) (n : Nat) : Nat → Nat → Nat → Bool
  | 0, _, _ => false
  | fuel + 1, start, stop =>
    if stop ≤ start then false
    else
      let middle := (start + stop) / 2
      match t.ranges[middle]? with
      | none => false
      | some (low, high) =>
        if n < low then t.search n fuel start middle
        else if high < n then t.search n fuel (middle + 1) stop
        else true

/-- Whether a number lies in one of the ranges. -/
def containsNat (t : RangeTable) (n : Nat) : Bool :=
  t.search n t.ranges.size 0 t.ranges.size

/-- Whether a character belongs to the table. -/
def contains (t : RangeTable) (c : Char) : Bool := t.containsNat c.toNat

/-- Joins a range to ranges in descending order, of which none starts behind it. -/
def join (found : List (Nat × Nat)) (range : Nat × Nat) : List (Nat × Nat) :=
  match found with
  | (low, high) :: rest =>
    if range.1 ≤ high + 1 then (low, max high range.2) :: rest else range :: found
  | [] => [range]

/-- The code points of several tables. -/
def union (ts : List RangeTable) : RangeTable :=
  let sorted := (ts.flatMap (·.ranges.toList)).mergeSort fun a b => a.1 ≤ b.1
  ⟨(sorted.foldl join []).reverse.toArray⟩

/-- The gaps between ranges in ascending order, from `next` on. -/
def gapsFrom : Nat → List (Nat × Nat) → List (Nat × Nat)
  | next, [] => if next ≤ 0x10FFFF then [(next, 0x10FFFF)] else []
  | next, (low, high) :: rest =>
    if next < low then (next, low - 1) :: gapsFrom (high + 1) rest else gapsFrom (high + 1) rest

/-- The code points outside a table. -/
def complement (t : RangeTable) : RangeTable := ⟨(gapsFrom 0 t.ranges.toList).toArray⟩

/-- The code points of a table that are not in another one. -/
def without (t u : RangeTable) : RangeTable := (union [t.complement, u]).complement

end RangeTable

/-- Reads lists of code points: spaces inside a list, commas between lists. -/
def readClasses (lines : List String) : List (List Nat) :=
  let flush (current : List Nat) (number : Option Nat) : List Nat :=
    match number with
    | some n => n :: current
    | none => current
  let step (state : List (List Nat) × List Nat × Option Nat) (c : Char) :=
    let (done, current, number) := state
    if c = ' ' then (done, flush current number, none)
    else if c = ',' then ((flush current number).reverse :: done, [], none)
    else (done, current, some (number.getD 0 * 16 + hexValue c))
  lines.flatMap fun line =>
    let (done, current, number) := line.toList.foldl step ([], [], none)
    ((flush current number).reverse :: done).reverse

/-- A run of code points that are mapped in step: every `step`-th code point from `first` to `last`.
The first of them is mapped to `target`, and the targets are as far apart as the code points. -/
structure MapRun where
  first : Nat
  last : Nat
  step : Nat
  target : Nat

/-- What a code point in a run is mapped to. -/
def MapRun.target? (r : MapRun) (n : Nat) : Option Nat :=
  if r.first ≤ n ∧ n ≤ r.last ∧ (n - r.first) % r.step = 0 then some (r.target + (n - r.first))
  else none

/-- Reads runs, each by its first and last code point, its step and its first target. -/
def readRuns (lines : List String) : List MapRun :=
  (readClasses lines).filterMap fun
    | [first, last, step, target] => some ⟨first, last, step, target⟩
    | _ => none

end XmlSchema.Unicode
