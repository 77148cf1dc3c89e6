import XmlSchema.Text.Utf8

/-!
# File paths

A `Path` keeps the bytes it was written with, the byte 0x2F (`/`) between its parts.  Most paths are
written as texts (`Path.ofText`), but a file may have a name that is no text.  Two paths name the
same file when their components agree (`Path.Same`): repeated and trailing separators do not count,
nor do `.` components, except for one at the start of a relative path; `..` does count.
-/

namespace XmlSchema

open XmlSchema.Text

/-- A file path, as written. -/
structure Path where
  bytes : List UInt8
  deriving DecidableEq, Repr, Inhabited

namespace Path

/-- The path that a text writes. -/
def ofText (s : String) : Path := ⟨Utf8.encode s.toList⟩

/-- The path as it is shown; what is no text in it is replaced. -/
def text (p : Path) : String := String.ofList (Utf8.decodeLossy p.bytes)

/-- The text that writes the path. -/
def text? (p : Path) : Option String := (Utf8.decode? p.bytes).map String.ofList

/-- One step of a path. -/
inductive Component where
  | root
  | here
  | up
  | entry (name : List UInt8)
  deriving DecidableEq, Repr

/-- The parts of a path between the separators. -/
def splitSeparators : List UInt8 → List (List UInt8)
  | [] => [[]]
  | b :: bs =>
    if b = 0x2F then [] :: splitSeparators bs
    else
      match splitSeparators bs with
      | part :: parts => (b :: part) :: parts
      | [] => [[b]]

/-- The component that a part between separators stands for. -/
def component? (part : List UInt8) : Option Component :=
  match part with
  | [] => none
  | [0x2E] => none
  | [0x2E, 0x2E] => some .up
  | _ => some (.entry part)

/-- The part of a path that comes before its ordinary components: the root, or a `.` at the start
of a relative path. -/
def leading (bs : List UInt8) : List UInt8 :=
  match bs with
  | 0x2F :: _ => [0x2F]
  | [0x2E] => [0x2E]
  | 0x2E :: 0x2F :: _ => [0x2E]
  | _ => []

/-- The components of a path. -/
def components (p : Path) : List Component :=
  let start := match leading p.bytes with
    | [0x2F] => [Component.root]
    | [0x2E] => [Component.here]
    | _ => []
  start ++ (splitSeparators p.bytes).filterMap component?

/-- Paths with the same components name the same file. -/
def Same (p q : Path) : Prop := p.components = q.components

instance (p q : Path) : Decidable (Same p q) := inferInstanceAs (Decidable (_ = _))

@[refl] theorem Same.refl (p : Path) : Same p p := rfl

theorem Same.symm {p q : Path} (h : Same p q) : Same q p := Eq.symm h

theorem Same.trans {p q r : Path} (h₁ : Same p q) (h₂ : Same q r) : Same p r := Eq.trans h₁ h₂

/-- Whether a path starts at the root. -/
def isAbsolute (p : Path) : Bool := p.bytes.head? == some 0x2F

/-- The path `p` seen from the directory `base`. -/
def join (base p : Path) : Path :=
  if p.isAbsolute || base.bytes.isEmpty then p
  else if base.bytes.getLast? == some 0x2F then ⟨base.bytes ++ p.bytes⟩
  else ⟨base.bytes ++ 0x2F :: p.bytes⟩

/-- Drops the last part of a path body with its separator.  The body is given backwards. -/
def dropLastPart (body : List UInt8) : List UInt8 := (body.dropWhile (· != 0x2F)).drop 1

/-- Drops the trailing parts of a path body that are no components.  The body is given
backwards. -/
def dropIdleParts : Nat → List UInt8 → List UInt8
  | 0, body => body
  | fuel + 1, body =>
    if body.isEmpty then body
    else if (component? (body.takeWhile (· != 0x2F)).reverse).isSome then body
    else dropIdleParts fuel (dropLastPart body)

/-- The path without its last component; the root and the empty path have none. -/
def parent? (p : Path) : Option Path :=
  let start := leading p.bytes
  let body := (p.bytes.drop start.length).reverse
  match dropIdleParts body.length body with
  | [] => if start = [0x2E] then some ⟨[]⟩ else none
  | body =>
    let body := dropLastPart body
    some ⟨start ++ (dropIdleParts body.length body).reverse⟩

/-- The directory that a document lies in; the current one when its path names none. -/
def directory (p : Path) : Path :=
  match p.parent? with
  | some dir => if dir.bytes.isEmpty then .ofText "." else dir
  | none => .ofText "."

/-- The name of the file, when the last component of the path is one. -/
def fileName? (p : Path) : Option (List UInt8) :=
  match p.components.getLast? with
  | some (.entry name) => some name
  | _ => none

/-- The part of a file name behind its last dot.  A name whose only dot comes first has none. -/
def extensionOf? (name : List UInt8) : Option (List UInt8) :=
  match name.reverse.dropWhile (· != 0x2E) with
  | _ :: before =>
    if before.isEmpty then none else some (name.reverse.takeWhile (· != 0x2E)).reverse
  | [] => none

/-- The extension of the file, when it is a text. -/
def extension? (p : Path) : Option String :=
  (p.fileName?.bind extensionOf?).bind fun bs => (Utf8.decode? bs).map String.ofList

/-- The place of a component in the order of components. -/
def Component.rank : Component → Nat × List UInt8
  | .root => (0, [])
  | .here => (1, [])
  | .up => (2, [])
  | .entry name => (3, name)

/-- The order of components: the root, `.`, `..`, then names by their bytes. -/
def Component.compare (a b : Component) : Ordering :=
  (Ord.compare a.rank.1 b.rank.1).then (Ord.compare a.rank.2 b.rank.2)

/-- The order of paths, component by component. -/
def compareComponents : List Component → List Component → Ordering
  | [], [] => .eq
  | [], _ :: _ => .lt
  | _ :: _, [] => .gt
  | a :: as, b :: bs => (a.compare b).then (compareComponents as bs)

/-- The order in which paths are listed. -/
def le (p q : Path) : Bool := compareComponents p.components q.components != .gt

end Path

end XmlSchema
