/-!
# TOML values

A TOML document is a table.  Tables grow while a document is read, and how a table came about decides
what may still be added to it (`TableKind`): `Toml.addKey` enters a key with its value,
`Toml.openTable` and `Toml.openArrayTable` follow the headers of a document.
-/

namespace XmlSchema

/-- How a table came about. -/
inductive TableKind where
  /-- By a header of its own, or as the document itself. -/
  | header
  /-- On the way to a table with a longer header. -/
  | implicit
  /-- On the way to a key with dots. -/
  | dotted
  /-- Between braces; nothing may be added to it. -/
  | inline
  deriving DecidableEq, Repr

/-- A TOML value.  Floats and times are kept as written. -/
inductive Toml where
  | string (value : String)
  | integer (value : Int)
  | float (literal : String)
  | bool (value : Bool)
  | datetime (literal : String)
  /-- An array; one that is made of tables with headers of their own is growing. -/
  | array (growing : Bool) (items : List Toml)
  | table (kind : TableKind) (members : List (String × Toml))
  deriving Inhabited

namespace Toml

/-- The members of a table. -/
abbrev Members := List (String × Toml)

/-- The member with a key. -/
def find? (key : String) (members : Members) : Option Toml :=
  (members.find? (·.1 == key)).map Prod.snd

/-- Puts a value in the place of the one that the key has. -/
def replace (key : String) (value : Toml) (members : Members) : Members :=
  members.map fun member => if member.1 = key then (key, value) else member

/-- Changes the table that a path leads to.  Tables on the way are made as needed; a growing array
stands for its last table.  Inline tables cannot be entered, and when `dotted` says that the path
is part of a key, neither can a table with a header of its own. -/
def change (dotted : Bool) (f : TableKind → Members → Option Toml) :
    List String → TableKind → Members → Option Toml
  | [], kind, members => f kind members
  | key :: rest, kind, members =>
    match find? key members with
    | none => do
      let child ← change dotted f rest (if dotted then .dotted else .implicit) []
      return .table kind (members ++ [(key, child)])
    | some (.table childKind children) => do
      if childKind = .inline ∨ (dotted ∧ childKind = .header) then none
      let child ← change dotted f rest childKind children
      return .table kind (replace key child members)
    | some (.array true items) =>
      match items.getLast? with
      | some (.table childKind children) => do
        let child ← change dotted f rest childKind children
        return .table kind (replace key (.array true (items.dropLast ++ [child])) members)
      | _ => none
    | some _ => none

/-- Enters a value under a key that may have dots.  The key must be new, and tables that the dots
lead to must not have come about in another way. -/
def addKey (path : List String) (key : String) (value : Toml) : TableKind → Members → Option Toml :=
  change true
    (fun kind members =>
      if (!path.isEmpty ∧ kind ≠ .dotted) ∨ (find? key members).isSome then none
      else some (.table kind (members ++ [(key, value)])))
    path

/-- Follows a table header. -/
def openTable (path : List String) (key : String) : TableKind → Members → Option Toml :=
  change false
    (fun kind members =>
      match find? key members with
      | none => some (.table kind (members ++ [(key, .table .header [])]))
      | some (.table .implicit children) =>
        some (.table kind (replace key (.table .header children) members))
      | some _ => none)
    path

/-- Follows a header that adds a table to a growing array. -/
def openArrayTable (path : List String) (key : String) : TableKind → Members → Option Toml :=
  change false
    (fun kind members =>
      match find? key members with
      | none => some (.table kind (members ++ [(key, .array true [.table .header []])]))
      | some (.array true items) =>
        some (.table kind (replace key (.array true (items ++ [.table .header []])) members))
      | some _ => none)
    path

end Toml

end XmlSchema
