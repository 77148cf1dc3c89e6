import XmlSchema.Files.Basic

/-!
# File trees

A `FileTree` holds files and directories as a value.  `FileTree.find` follows a path through it: a
name leads to an entry, `..` to the directory above, and only directories can be passed through.
`FileTree.access` makes the tree accessible to programs.
-/

namespace XmlSchema

/-- A file or directory with everything in it. -/
inductive FileTree where
  | file (bytes : List UInt8)
  | directory (entries : List (List UInt8 × FileTree))
  deriving Inhabited

namespace FileTree

/-- What the tree is at its root. -/
def kind : FileTree → FileKind
  | .file _ => .file
  | .directory _ => .directory

/-- The entry with a name. -/
def child? (entries : List (List UInt8 × FileTree)) (name : List UInt8) : Option FileTree :=
  (entries.find? (·.1 == name)).map Prod.snd

/-- The directory with an entry put in the place of one of the same name. -/
def setEntry (name : List UInt8) (tree : FileTree) :
    List (List UInt8 × FileTree) → List (List UInt8 × FileTree)
  | [] => [(name, tree)]
  | e :: rest => if e.1 = name then (name, tree) :: rest else e :: setEntry name tree rest

/-- The tree with another tree put at a place, given by the names that lead there; directories on
the way are made as needed. -/
def insert (tree : FileTree) : List (List UInt8) → FileTree → FileTree
  | [], new => new
  | name :: rest, new =>
    let entries := match tree with
      | .directory entries => entries
      | .file _ => []
    let below := (child? entries name).getD (.directory [])
    .directory (setEntry name (insert below rest new) entries)

/-- A place in a tree: what stands there, and the names that lead there with the directories they
are in, the last first. -/
structure Place where
  here : FileTree
  above : List (List UInt8 × FileTree) := []

/-- The longest name of an entry, in bytes. -/
def maxNameLength : Nat := 255

/-- Follows the parts of a path from a place. -/
def Place.follow (p : Place) : List (List UInt8) → Except FileError Place
  | [] => .ok p
  | part :: rest =>
    match p.here with
    | .file _ => .error .notADirectory
    | .directory entries =>
      if part = [] ∨ part = [0x2E] then p.follow rest
      else if part = [0x2E, 0x2E] then
        match p.above with
        | [] => p.follow rest
        | (_, up) :: above => Place.follow ⟨up, above⟩ rest
      else if maxNameLength < part.length then .error .nameTooLong
      else
        match child? entries part with
        | none => .error .notFound
        | some tree => Place.follow ⟨tree, (part, p.here) :: p.above⟩ rest

/-- The absolute path of a place. -/
def Place.path (p : Place) : Path :=
  match p.above with
  | [] => ⟨[0x2F]⟩
  | above => ⟨above.reverse.flatMap fun (name, _) => 0x2F :: name⟩

/-- The place that a path names, seen from the directory `start`. -/
def find (tree : FileTree) (start : Path) (path : Path) : Except FileError Place :=
  if path.bytes.isEmpty then .error .notFound
  else if path.bytes.contains 0 then .error .nullInPath
  else if maxPathLength < path.bytes.length then .error .nameTooLong
  else do
    let origin ← if path.isAbsolute then pure ⟨tree, []⟩
      else Place.follow ⟨tree, []⟩ (Path.splitSeparators start.bytes)
    origin.follow (Path.splitSeparators path.bytes)

/-- The tree as a program sees it that runs in the directory `start`. -/
def access (tree : FileTree) (start : Path) : FileAccess Id where
  read path := pure do
    match (← tree.find start path).here with
    | .file bytes => return bytes
    | .directory _ => throw .isADirectory
  kind path := pure ((tree.find start path).map (·.here.kind))
  entries path := pure do
    match (← tree.find start path).here with
    | .file _ => throw .notADirectory
    | .directory entries => return entries.map fun (name, tree) => (name, tree.kind)
  absolute path := pure ((tree.find start path).toOption.map (·.path))

end FileTree

end XmlSchema
