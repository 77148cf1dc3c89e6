import XmlSchema.Json.Basic

/-!
# Records in JSON

A record is written as an object with a member for each field, or as an array with the fields in
order.  Members that are no fields are passed over; a field that occurs twice, or an array with too
many items, is refused.
-/

namespace XmlSchema.Json

/-- The values of the named fields of a record, in order; `none` for a field that is missing. -/
def fields? (names : List String) : Json → Option (List (Option Json))
  | .object members =>
    let own := (members.map Prod.fst).filter names.contains
    if own.eraseDups.length = own.length then
      some (names.map fun name => (members.find? (·.1 == name)).map Prod.snd)
    else none
  | .array items =>
    if items.length ≤ names.length then
      some ((List.range names.length).map fun index => items[index]?)
    else none
  | _ => none

/-- The value of a field that must be there. -/
def required? {α : Type} (decode : Json → Option α) (field : Option Json) : Option α :=
  field.bind decode

/-- The value of a field with a default for when it is missing. -/
def withDefault? {α : Type} (decode : Json → Option α) (value : α) (field : Option Json) :
    Option α :=
  match field with
  | some j => decode j
  | none => some value

/-- An optional value: `null` means that there is none. -/
def nullable? {α : Type} (decode : Json → Option α) : Json → Option (Option α)
  | .null => some none
  | j => (decode j).map some

/-- One of several names, written as a string or as an object with `null` under the name. -/
def variant? {α : Type} (names : List (String × α)) (j : Json) : Option α :=
  let named (name : String) := (names.find? (·.1 == name)).map Prod.snd
  match j with
  | .string name => named name
  | .object [(name, .null)] => named name
  | _ => none

end XmlSchema.Json
