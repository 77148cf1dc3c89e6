import XmlSchema.Discovery.Glob
import XmlSchema.Path
import XmlSchema.Text.Blank

/-!
# Ignore rules

Ignore files list globs of files to pass over, one a line.  A line that starts with an exclamation mark
takes files out again; one that ends with a separator is about directories only.  A glob with a
separator inside is matched from the directory of the file, any other at every depth.  The last line
that describes a path decides.
-/

namespace XmlSchema

open XmlSchema.Text

/-- What rules say about a path. -/
inductive Verdict where
  | undecided
  | pass
  | keep
  deriving DecidableEq, Repr

namespace Verdict

/-- The first verdict that decides. -/
def or : Verdict → Verdict → Verdict
  | .undecided, v => v
  | v, _ => v

end Verdict

/-- A line of an ignore file. -/
structure IgnoreRule where
  glob : Glob
  /-- The rule takes files out of what is passed over. -/
  keeps : Bool
  onlyDirectories : Bool

/-- The rules for the paths in a directory. -/
structure IgnoreRules where
  /-- The directory, as its path is written. -/
  directory : List UInt8
  rules : List IgnoreRule

/-- The bytes behind a given start, if they have that start. -/
def afterStart? (start bs : List UInt8) : Option (List UInt8) :=
  if start.isPrefixOf bs then some (bs.drop start.length) else none

/-- A path without a leading `./`. -/
def withoutDot (bs : List UInt8) : List UInt8 := (afterStart? [0x2E, 0x2F] bs).getD bs

/-- The glob that a line stands for, without its marks: one without separator is looked for at
every depth, and one for everything in a directory does not describe the directory itself. -/
def lineGlob (anchored : Bool) (body : List Char) : List Char :=
  let doubleStar := body = ['*', '*'] ∨ ['*', '*', '/'].isPrefixOf body
  let body := if anchored || body.contains '/' || doubleStar then body else ['*', '*', '/'] ++ body
  if ['/', '*', '*'].isSuffixOf body then body ++ ['/', '*'] else body

/-- Reads a line.  Blank lines and comments hold no rule. -/
def IgnoreRule.ofLine (lenient : Bool) (line : List Char) :
    Except GlobError (Option IgnoreRule) := do
  let line := if ['\\', ' '].isSuffixOf line then line else trimEnd line
  if line.isEmpty || line.head? == some '#' then return none
  let (keeps, anchored, body) := match line with
    | '\\' :: '!' :: rest => (false, false, '!' :: rest)
    | '\\' :: '#' :: rest => (false, false, '#' :: rest)
    | '!' :: '/' :: rest => (true, true, rest)
    | '!' :: rest => (true, false, rest)
    | '/' :: rest => (false, true, rest)
    | _ => (false, false, line)
  let (onlyDirectories, body) :=
    if body.getLast? = some '/' then
      let body := body.dropLast
      (true, if body.getLast? = some '\\' then body.dropLast else body)
    else (false, body)
  return some ⟨← Glob.read lenient (lineGlob anchored body), keeps, onlyDirectories⟩

namespace IgnoreRules

/-- Rules for a directory. -/
def ofRules (directory : Path) (rules : List IgnoreRule) : IgnoreRules :=
  ⟨withoutDot directory.bytes, rules⟩

/-- No rules. -/
def none : IgnoreRules := ⟨[], []⟩

/-- A path as seen from the directory of the rules. -/
def strip (r : IgnoreRules) (path : List UInt8) : List UInt8 :=
  let path := withoutDot path
  if r.directory = [0x2E] ∨ !path.contains 0x2F then path
  else
    match afterStart? r.directory path with
    | some rest => (afterStart? [0x2F] rest).getD rest
    | .none => path

/-- What the rules say about a path. -/
def verdict (r : IgnoreRules) (path : List UInt8) (isDirectory : Bool) : Verdict :=
  let path := r.strip path
  match r.rules.reverse.find? fun rule =>
      (!rule.onlyDirectories || isDirectory) && rule.glob.describes path with
  | some rule => if rule.keeps then .keep else .pass
  | .none => .undecided

/-- The lines of some bytes, without their line ends. -/
def lines (bytes : List UInt8) : List (List UInt8) :=
  let parts := bytes.foldr (fun b (parts : List UInt8 × List (List UInt8)) =>
    if b = 10 then ([], parts.1 :: parts.2) else (b :: parts.1, parts.2)) ([], [])
  parts.1 :: parts.2

/-- The texts of lines, up to the first that is no text. -/
def readable : List (List UInt8) → List (List Char)
  | [] => []
  | line :: rest =>
    match Utf8.decode? line with
    | some cs => cs :: readable rest
    | .none => []

/-- The rules of an ignore file in a directory.  Lines that cannot be read hold no rule; a byte
order mark at the start does not count. -/
def ofBytes (directory : Path) (bytes : List UInt8) : IgnoreRules :=
  let texts := match readable (lines bytes) with
    | first :: rest => (first.dropWhile fun (c : Char) => c.toNat = 0xFEFF) :: rest
    | [] => []
  ofRules directory <| texts.filterMap fun line =>
    match IgnoreRule.ofLine true line with
    | .ok rule => rule
    | .error _ => .none

end IgnoreRules

end XmlSchema
