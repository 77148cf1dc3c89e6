import XmlSchema.Pattern.Reader
import XmlSchema.Pattern.Size

/-!
# Pattern facets

The patterns of schemas are written in a dialect of their own: a pattern always matches the whole
value, `^` and `$` stand for themselves outside classes, `\i` and `\c` are the characters of names,
and `[a-z-[aeiou]]` takes one class from another.  `expressionText` writes such a pattern as a
regular expression.  A `Pattern` is an expression text that can be read.
-/

namespace XmlSchema

namespace Pattern

/-- The characters that may start a name, as items of a class. -/
def nameStartItems : List Char := "_:A-Za-z".toList

/-- The characters of names, as items of a class. -/
def nameItems : List Char := "\\-._:A-Za-z0-9".toList

/-- The escape of `c`, inside or outside a class. -/
def escapeText (inClass : Bool) (c : Char) : List Char :=
  match inClass, c with
  | true, 'i' => nameStartItems
  | true, 'c' => nameItems
  | false, 'i' => '[' :: nameStartItems ++ [']']
  | _, 'I' => '[' :: '^' :: nameStartItems ++ [']']
  | false, 'c' => '[' :: nameItems ++ [']']
  | _, 'C' => '[' :: '^' :: nameItems ++ [']']
  | _, _ => ['\\', c]

/-- The expression of a pattern without its frame; `depth` counts the open classes. -/
def bodyFrom : Nat → List Char → List Char
  | _, [] => []
  | _, ['\\'] => ['\\', '\\']
  | depth, '\\' :: c :: cs => escapeText (0 < depth) c ++ bodyFrom depth cs
  | depth, c :: cs =>
    if c = '[' then '[' :: bodyFrom (depth + 1) cs
    else if c = '-' ∧ 0 < depth ∧ cs.head? = some '[' then '-' :: '-' :: bodyFrom depth cs
    else if c = ']' ∧ 0 < depth then ']' :: bodyFrom (depth - 1) cs
    else if (c = '^' ∨ c = '$') ∧ depth = 0 then '\\' :: c :: bodyFrom depth cs
    else c :: bodyFrom depth cs

/-- The expression of a pattern without its frame. -/
def body (pattern : List Char) : List Char := bodyFrom 0 pattern

/-- The regular expression that a pattern stands for: it matches the whole value. -/
def expressionText (pattern : List Char) : List Char :=
  "^(?:".toList ++ body pattern ++ ")$".toList

end Pattern

/-- A regular expression, by a text that can be read. -/
structure Pattern where
  source : String
  readable : (Pattern.Expr.read? source).isSome = true
  deriving DecidableEq

namespace Pattern

/-- The pattern of a facet value; `none` when the expression cannot be read or is too large. -/
def ofFacet? (value : String) : Option Pattern :=
  let source := String.ofList (expressionText value.toList)
  if h : (Expr.read? source).isSome = true then
    if ((Expr.read? source).get h).fits then some ⟨source, h⟩ else none
  else none

/-- The expression of a pattern. -/
def expr (p : Pattern) : Expr := (Expr.read? p.source).get p.readable

/-- Whether a value matches the pattern. -/
def accepts (p : Pattern) (value : String) : Bool := p.expr.matches value.toList

end Pattern

end XmlSchema
