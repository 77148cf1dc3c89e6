import XmlSchema.Pattern.Expr
import XmlSchema.Text.Utf8

/-!
# Globs

A glob describes paths: `?` and `*` stand for characters of a name, `**` for any number of directories,
brackets for one of several characters and braces for one of several globs.  `Glob.read` reads a
glob; `Glob.describes` asks whether it describes a path.  Paths are matched byte by byte.
-/

namespace XmlSchema

open XmlSchema.Pattern XmlSchema.Text

/-- Why a text is no glob. -/
inductive GlobError where
  | unclosedClass
  | invalidRange (low high : Char)
  | unopenedAlternates
  | unclosedAlternates
  | danglingEscape
  deriving DecidableEq, Repr

/-- The wording of a glob error. -/
def GlobError.message : GlobError → String
  | .unclosedClass => "unclosed character class; missing ']'"
  | .invalidRange low high =>
    "invalid range; '" ++ low.toString ++ "' > '" ++ high.toString ++ "'"
  | .unopenedAlternates =>
    "unopened alternate group; missing '\x7b' (maybe escape '\x7d' with '[\x7d]'?)"
  | .unclosedAlternates =>
    "unclosed alternate group; missing '\x7d' (maybe escape '\x7b' with '[\x7b]'?)"
  | .danglingEscape => "dangling '\\'"

/-- A part of a glob. -/
inductive GlobPart where
  | literal (c : Char)
  /-- One byte of a name. -/
  | any
  /-- Any number of bytes of a name. -/
  | star
  /-- Any directories at the start of a path. -/
  | anyPrefix
  /-- Anything inside a directory. -/
  | anySuffix
  /-- A separator, or separators with any directories between them. -/
  | anyDirectories
  | oneOf (negated : Bool) (ranges : List (Char × Char))
  | alternates (branches : List (List GlobPart))
  deriving Inhabited

/-- A glob: its parts in order. -/
structure Glob where
  parts : List GlobPart
  deriving Inhabited

namespace Glob

/-! ## Meaning -/

/-- Bytes, each as a character of its own. -/
def byteChars (bs : List UInt8) : List Char := bs.map fun b => Char.ofNat b.toNat

/-- The ranges of bytes that a range of characters stands for inside brackets: the bytes of both
ends one after the other, with a range between the neighbours. -/
def byteRanges (range : Char × Char) : List (Char × Char) :=
  let single (b : Char) := (b, b)
  let low := byteChars (Utf8.encodeChar range.1)
  let high := byteChars (Utf8.encodeChar range.2)
  if range.1 = range.2 then low.map single
  else
    match low.getLast?, high with
    | some last, first :: rest => low.dropLast.map single ++ (last, first) :: rest.map single
    | _, _ => []

/-- Whether a byte lies in one of some ranges. -/
def inRanges (ranges : List (Char × Char)) (b : Char) : Bool :=
  (ranges.flatMap byteRanges).any fun (low, high) => low ≤ b && b ≤ high

/-- Any number of any bytes. -/
def anything : Expr := .star (.char fun _ => true)

/-- The separator of paths. -/
def separator : Expr := .char (· == '/')

/-- One of several expressions. -/
def oneOf : List Expr → Expr
  | [] => .empty
  | [e] => e
  | e :: rest => .alt e (oneOf rest)

mutual

/-- Whether nothing stands in a part. -/
def isBlankPart : GlobPart → Bool
  | .alternates branches => areBlankBranches branches
  | _ => false

/-- Whether nothing stands in some parts. -/
def areBlankParts : List GlobPart → Bool
  | [] => true
  | part :: rest => isBlankPart part && areBlankParts rest

/-- Whether nothing stands in some branches. -/
def areBlankBranches : List (List GlobPart) → Bool
  | [] => true
  | branch :: rest => areBlankParts branch && areBlankBranches rest

end

mutual

/-- The expression of a part. -/
def partExpr : GlobPart → Expr
  | .literal c => .concat ((byteChars (Utf8.encodeChar c)).map fun b => .char (· == b))
  | .any => .char (· != '/')
  | .star => .star (.char (· != '/'))
  | .anyPrefix => .alt (.upTo separator 1) (.seq anything separator)
  | .anySuffix => .seq separator anything
  | .anyDirectories => .alt separator (.seq separator (.seq anything separator))
  | .oneOf negated ranges => .char fun b => inRanges ranges b != negated
  | .alternates branches => oneOf (branchExprs branches)

/-- The expression of parts one after the other. -/
def partsExpr : List GlobPart → Expr
  | [] => .empty
  | part :: rest => .seq (partExpr part) (partsExpr rest)

/-- The expressions of branches; empty ones do not count. -/
def branchExprs : List (List GlobPart) → List Expr
  | [] => []
  | branch :: rest =>
    if areBlankParts branch then branchExprs rest else partsExpr branch :: branchExprs rest

end

/-- The expression of a glob. -/
def expr (g : Glob) : Expr :=
  match g.parts with
  | [.anyPrefix] => anything
  | parts =>
    .seq (.look .startOfText fun _ => false)
      (.seq (partsExpr parts) (.look .endOfText fun _ => false))

/-- Whether a glob describes a path. -/
def describes (g : Glob) (path : List UInt8) : Bool := g.expr.matches (byteChars path)

/-! ## Reading -/

/-- How far a glob has been read. -/
structure Reading where
  /-- The parts of the current branch, the last first. -/
  current : List GlobPart := []
  /-- The finished branches of the current group, the last first. -/
  branches : List (List GlobPart) := []
  /-- The parts and branches around each open group, the innermost first. -/
  outer : List (List GlobPart × List (List GlobPart)) := []
  /-- The character read last. -/
  previous : Option Char := none
  /-- A bracket without its partner stands for itself. -/
  lenient : Bool := false
  /-- Such a bracket has been met. -/
  unclosed : Bool := false

/-- Adds a part. -/
def Reading.push (r : Reading) (part : GlobPart) : Reading :=
  { r with current := part :: r.current }

/-- Whether a group is open. -/
def Reading.inGroup (r : Reading) : Bool := !r.outer.isEmpty

/-- Reads the rest of a double star, of which `rest` is what follows. -/
def Reading.doubleStar (r : Reading) (rest : List Char) : Reading × List Char :=
  let behindStar (r : Reading) : Reading × List Char := ({ r with previous := some '*' }, rest)
  let behindSeparator (r : Reading) (rest : List Char) : Reading × List Char :=
    ({ r with previous := some '/' }, rest)
  let plain := behindStar ((r.push .star).push .star)
  let atBranch := r.previous == some ',' || r.previous == some '\x7b'
  if r.current.isEmpty then
    match rest with
    | [] => behindStar (r.push .anyPrefix)
    | '/' :: rest => behindSeparator (r.push .anyPrefix) rest
    | _ => plain
  else if r.previous != some '/' && !(r.inGroup && atBranch) then plain
  else
    let replaceLast (part : GlobPart) : Reading :=
      match r.current with
      | .anyPrefix :: _ => r
      | .anySuffix :: _ => r
      | _ :: before => { r with current := part :: before }
      | [] => r
    match rest with
    | [] => behindStar (replaceLast .anySuffix)
    | '/' :: rest => behindSeparator (replaceLast .anyDirectories) rest
    | c :: _ =>
      if r.inGroup && (c == ',' || c == '\x7d') then behindStar (replaceLast .anySuffix) else plain

/-- The ranges between brackets, the last first, and what follows the closing bracket.  `first`
says that nothing has been read, `hyphen` that a hyphen waits for the end of its range. -/
def readRanges : List Char → Bool → Bool → List (Char × Char) →
    Except GlobError (Option (List (Char × Char) × List Char))
  | [], _, _, _ => .ok none
  | c :: rest, first, hyphen, ranges =>
    if c = ']' ∧ !first then
      .ok (some (if hyphen then ('-', '-') :: ranges else ranges, rest))
    else if c = '-' ∧ !first ∧ !hyphen then readRanges rest false true ranges
    else
      match hyphen, ranges with
      | true, (low, _) :: before =>
        if c < low then .error (.invalidRange low c)
        else readRanges rest false false ((low, c) :: before)
      | _, _ => readRanges rest false false ((c, c) :: ranges)

/-- Reads what stands between brackets. -/
def Reading.brackets (r : Reading) (rest : List Char) : Except GlobError (Reading × List Char) := do
  let (negated, body) := match rest with
    | '!' :: body => (true, body)
    | '^' :: body => (true, body)
    | _ => (false, rest)
  match ← readRanges body true false [] with
  | some (ranges, rest) =>
    return ({ r.push (.oneOf negated ranges.reverse) with previous := some ']' }, rest)
  | none =>
    if r.lenient then
      return ({ r.push (.literal '[') with previous := some '[', unclosed := true }, rest)
    else throw .unclosedClass

/-- Reads one part that starts with `c`. -/
def Reading.step (r : Reading) (c : Char) (rest : List Char) :
    Except GlobError (Reading × List Char) :=
  let after (r : Reading) : Reading := { r with previous := some c }
  match c, rest with
  | '*', '*' :: rest => .ok (r.doubleStar rest)
  | '*', _ => .ok (after (r.push .star), rest)
  | '?', _ => .ok (after (r.push .any), rest)
  | '[', _ => if r.unclosed then .ok (after (r.push (.literal c)), rest) else r.brackets rest
  | '\\', [] => .error .danglingEscape
  | '\\', d :: rest => .ok ({ r.push (.literal d) with previous := some d }, rest)
  | _, _ =>
    if c = '\x7b' then
      let outer := (r.current, r.branches) :: r.outer
      .ok (after { r with current := [], branches := [], outer }, rest)
    else if c = '\x7d' then
      match r.outer with
      | [] => .error .unopenedAlternates
      | (current, branches) :: outer =>
        let group := (r.current :: r.branches).reverse.map List.reverse
        .ok (after { r with current := .alternates group :: current, branches, outer }, rest)
    else if c = ',' ∧ r.inGroup then
      .ok (after { r with current := [], branches := r.current :: r.branches }, rest)
    else .ok (after (r.push (.literal c)), rest)

/-- Reads parts until the text ends. -/
def Reading.steps : Nat → Reading → List Char → Except GlobError Reading
  | 0, r, _ => .ok r
  | _, r, [] => .ok r
  | fuel + 1, r, c :: rest => do
    let (r, rest) ← r.step c rest
    steps fuel r rest

/-- Reads a glob; if `lenient`, a bracket without its partner stands for itself. -/
def read (lenient : Bool) (cs : List Char) : Except GlobError Glob := do
  let r ← Reading.steps cs.length { lenient } cs
  if r.inGroup then throw .unclosedAlternates
  return ⟨r.current.reverse⟩

end Glob

end XmlSchema
