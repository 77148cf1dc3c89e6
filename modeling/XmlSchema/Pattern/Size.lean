import XmlSchema.Pattern.Expr

/-!
# The size of expressions

Repetitions are copied out when an expression is turned into an automaton over bytes, so a short
text can stand for an automaton of any size.  `Expr.size` is the memory in bytes that the automaton
takes, read from its end to its start, and `Expr.fits` says that this is within `sizeLimit`.

Characters are read byte by byte.  `byteSequences` splits a range of characters into sequences of
byte ranges, and the automaton of a class shares what neighbouring sequences have in common at
their start.
-/

namespace XmlSchema.Pattern

/-- The number of bytes that the automaton of an expression may take. -/
def sizeLimit : Nat := 10485760

/-! ## Classes -/

/-- The first and the last element of a range of numbers. -/
abbrev Range := Nat × Nat

/-- Adds a number to ascending ranges that all lie above it. -/
def addLeast (n : Nat) : List Range → List Range
  | (low, high) :: rest => if low = n + 1 then (n, high) :: rest else (n, n) :: (low, high) :: rest
  | [] => [(n, n)]

/-- The ranges of code points below `n` whose characters satisfy `p`, in front of `found`. -/
def runsBelow (p : Char → Bool) : Nat → List Range → List Range
  | 0, found => found
  | n + 1, found =>
    runsBelow p n (if n.isValidChar && p (Char.ofNat n) then addLeast n found else found)

/-- The ranges of code points whose characters satisfy `p`, in ascending order. -/
def runs (p : Char → Bool) : List Range := runsBelow p 0x110000 []

/-- Splits a range of numbers, written with a leading digit and `k` digits to base 64, into
sequences of digit ranges. -/
def digitSequences : Nat → Nat → Nat → List (List Range)
  | 0, low, high => [[(low, high)]]
  | k + 1, low, high =>
    let unit := Nat.pow 64 (k + 1)
    let first := low / unit
    let last := high / unit
    let under (digit low high : Nat) : List (List Range) :=
      (digitSequences k low high).map ((digit, digit) :: ·)
    if first = last then under first (low % unit) (high % unit)
    else
      let startsInside := low % unit != 0
      let stopsInside := high % unit != unit - 1
      let head := if startsInside then under first (low % unit) (unit - 1) else []
      let tail := if stopsInside then under last 0 (high % unit) else []
      let start := if startsInside then first + 1 else first
      let stop := if stopsInside then last else last + 1
      let middle :=
        if start < stop then [(start, stop - 1) :: List.replicate (k + 1) (0, 63)] else []
      head ++ middle ++ tail

/-- The part of a range of code points that is encoded with `k` bytes behind the first, as
sequences of ranges; `mark` is what the first byte starts with, `least` and `greatest` are the
first and the last code point of that length. -/
def sequencesOfLength (run : Range) (k mark least greatest : Nat) : List (List Range) :=
  let low := max run.1 least
  let high := min run.2 greatest
  if low ≤ high then
    digitSequences k (low + mark * Nat.pow 64 k) (high + mark * Nat.pow 64 k)
  else []

/-- The sequences of byte ranges that encode the characters in a range. -/
def byteSequences (run : Range) : List (List Range) :=
  sequencesOfLength run 0 0 0 0x7F ++ sequencesOfLength run 1 0xC0 0x80 0x7FF ++
    sequencesOfLength run 2 0xE0 0x800 0xFFFF ++ sequencesOfLength run 3 0xF0 0x10000 0x10FFFF

/-- How many elements two lists have in common at their start. -/
def sharedStart : List Range → List Range → Nat
  | a :: as, b :: bs => if a = b then sharedStart as bs + 1 else 0
  | _, _ => 0

/-- The number of byte ranges in the sequences, those not counted that a sequence has in common
with the one before it, which is `previous` for the first. -/
def countFresh : List Range → List (List Range) → Nat → Nat
  | _, [], count => count
  | previous, s :: rest, count =>
    countFresh s rest (count + (s.length - sharedStart previous s))

/-- The size of the automaton of a class: that of a single character is a chain of states, that
of ASCII characters one state with a step for each range, and any other has a state for every byte
range and a step for every sequence. -/
def classSize (p : Char → Bool) : Nat :=
  match runs p with
  | [] => 32
  | [(low, high)] =>
    if low = high then 32 * (Char.ofNat low).utf8Size
    else sized [(low, high)]
  | found => sized found
where
  /-- The size of the automaton of a class of several characters. -/
  sized (found : List Range) : Nat :=
    if found.all (·.2 ≤ 0x7F) then 64 + 8 * found.length
    else
      let sequences := found.flatMap byteSequences
      64 + 4 * sequences.length + 32 * countFresh [] sequences 0

/-! ## Expressions -/

namespace Expr

/-- Whether the expression matches nothing but the empty text. -/
def isEmptyOnly : Expr → Bool
  | .empty => true
  | .char _ => false
  | .look _ _ => true
  | .seq a b => a.isEmptyOnly && b.isEmptyOnly
  | .alt a b => a.isEmptyOnly && b.isEmptyOnly
  | .star a => a.isEmptyOnly
  | .repeat a n => n == 0 || a.isEmptyOnly
  | .upTo a n => n == 0 || a.isEmptyOnly

/-- The class that an expression amounts to, if it is a class or a choice of classes. -/
def class? : Expr → Option (Char → Bool)
  | .char p => some p
  | .seq a .empty => a.class?
  | .alt a b => do
    let p ← a.class?
    let q ← b.class?
    return fun c => p c || q c
  | _ => none

/-- The size of the automaton of an expression, given the sizes of those of its classes.  What
matches nothing but the empty text is not repeated. -/
def sizeWith (classSize : (Char → Bool) → Nat) : Expr → Nat
  | .empty => 0
  | .char p => classSize p
  | .look _ _ => 32
  | .seq a b => a.sizeWith classSize + b.sizeWith classSize
  | .alt a b =>
    match (Expr.alt a b).class? with
    | some p => classSize p
    | none => 36 + a.sizeWith classSize + b.sizeWith classSize
  | .star a => 40 + a.sizeWith classSize
  | .repeat a n => (if a.isEmptyOnly then min n 1 else n) * a.sizeWith classSize
  | .upTo _ 0 => 0
  | .upTo a n =>
    32 + (if a.isEmptyOnly then 1 else n) * (40 + a.sizeWith classSize)

/-- The size of the automaton of an expression. -/
def size (e : Expr) : Nat := e.sizeWith classSize

/-- A bound on the sizes of the classes that a pattern can name. -/
def namedClassBound : Nat := 65536

/-- Whether the automaton of an expression is within the limit.  The classes are measured only
where an expression with the largest of them would be too large. -/
def fits (e : Expr) : Bool :=
  e.sizeWith (fun _ => namedClassBound) ≤ sizeLimit || e.size ≤ sizeLimit

end Expr

end XmlSchema.Pattern
