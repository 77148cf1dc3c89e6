/-!
# JSON values

Objects keep their members in the order in which they are written.
-/

namespace XmlSchema

/-- A number: an integer of at most 64 bits, or any other number by its literal. -/
inductive JsonNumber where
  | integer (value : Int)
  | real (literal : String)
  deriving DecidableEq, Repr

/-- A JSON value. -/
inductive Json where
  | null
  | bool (value : Bool)
  | number (value : JsonNumber)
  | string (value : String)
  | array (items : List Json)
  | object (members : List (String × Json))
  deriving Inhabited

namespace Json

/-- An integer as a value. -/
def int (n : Int) : Json := .number (.integer n)

/-- A natural number as a value. -/
def nat (n : Nat) : Json := .int n

/-- An optional value, `null` if it is missing. -/
def ofOption {α : Type} (f : α → Json) : Option α → Json
  | some a => f a
  | none => .null

/-- An array of strings. -/
def strings (values : List String) : Json := .array (values.map .string)

/-- The member of an object with the given name; of several the last counts. -/
def member? (j : Json) (name : String) : Option Json :=
  match j with
  | .object members => (members.reverse.find? (·.1 == name)).map Prod.snd
  | _ => none

/-- The text of a string. -/
def string? : Json → Option String
  | .string s => some s
  | _ => none

/-- The value of a truth value. -/
def bool? : Json → Option Bool
  | .bool b => some b
  | _ => none

/-- The items of an array. -/
def items? : Json → Option (List Json)
  | .array items => some items
  | _ => none

/-- The value of an integer in a range. -/
def intIn? (low high : Int) : Json → Option Int
  | .number (.integer n) => if low ≤ n ∧ n ≤ high then some n else none
  | _ => none

/-- The value of a natural number up to a limit. -/
def natUpTo? (limit : Nat) (j : Json) : Option Nat := (j.intIn? 0 limit).map Int.toNat

/-- The strings of an array of strings. -/
def strings? (j : Json) : Option (List String) := j.items?.bind (·.mapM string?)

end Json

end XmlSchema
