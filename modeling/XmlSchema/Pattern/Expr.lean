/-!
# Regular expressions

An `Expr` is a regular expression over characters with assertions about the place it stands at.
`Expr.reach` computes where a match can end, for all starting places at once: a `Mask` marks places
of the text, place `i` being the one before character `i`.  `Expr.matches` asks whether the
expression matches some part of the text.
-/

namespace XmlSchema.Pattern

/-- A condition on a place in a text. -/
inductive Look where
  | startOfText
  | endOfText
  | startOfLine
  | endOfLine
  | startOfLineOrReturn
  | endOfLineOrReturn
  | wordBoundary
  | notWordBoundary
  | wordStart
  | wordEnd
  | wordStartHalf
  | wordEndHalf
  deriving DecidableEq, Repr

/-- A regular expression. -/
inductive Expr where
  | empty
  | char (p : Char → Bool)
  | look (l : Look) (isWord : Char → Bool)
  | seq (a b : Expr)
  | alt (a b : Expr)
  | star (a : Expr)
  | repeat (a : Expr) (count : Nat)
  | upTo (a : Expr) (count : Nat)

/-- The concatenation of expressions. -/
def Expr.concat (es : List Expr) : Expr := es.foldr .seq .empty

/-- Between `min` and `max` matches of an expression, any number from `min` on without `max`. -/
def Expr.repeated (e : Expr) (min : Nat) : Option Nat → Expr
  | none => .seq (.repeat e min) (.star e)
  | some max => .seq (.repeat e min) (.upTo e (max - min))

/-! ## Matching -/

/-- Marks places of a text of `n` characters: a list of `n + 1` truth values. -/
abbrev Mask := List Bool

/-- The places marked in either mask. -/
def Mask.union (a b : Mask) : Mask := List.zipWith (· || ·) a b

/-- The places marked in both masks. -/
def Mask.inter (a b : Mask) : Mask := List.zipWith (· && ·) a b

/-- Whether a place between two characters satisfies a condition.  At the ends of the text there
is no character on one side. -/
def Look.holds (isWord : Char → Bool) (before after : Option Char) : Look → Bool
  | .startOfText => before.isNone
  | .endOfText => after.isNone
  | .startOfLine => before.isNone || before == some '\n'
  | .endOfLine => after.isNone || after == some '\n'
  | .startOfLineOrReturn =>
    before.isNone || before == some '\n' || (before == some '\r' && after != some '\n')
  | .endOfLineOrReturn =>
    after.isNone || after == some '\r' || (after == some '\n' && before != some '\r')
  | .wordBoundary => before.any isWord != after.any isWord
  | .notWordBoundary => before.any isWord == after.any isWord
  | .wordStart => !before.any isWord && after.any isWord
  | .wordEnd => before.any isWord && !after.any isWord
  | .wordStartHalf => !before.any isWord
  | .wordEndHalf => !after.any isWord

/-- The places of a text that satisfy a condition on their neighbours. -/
def placesWhere (holds : Option Char → Option Char → Bool) : Option Char → List Char → Mask
  | before, [] => [holds before none]
  | before, c :: cs => holds before (some c) :: placesWhere holds (some c) cs

/-- The places reached from marked places by passing over one character that satisfies `p`. -/
def passChar (p : Char → Bool) (text : List Char) (m : Mask) : Mask :=
  false :: List.zipWith (fun c marked => marked && p c) text m

/-- Applies `step` again and again, collecting everything that is reached, until nothing is
added. -/
def collect (step : Mask → Mask) : Nat → Mask → Mask
  | 0, m => m
  | fuel + 1, m =>
    let next := m.union (step m)
    if next == m then m else collect step fuel next

/-- Applies `step` a number of times, which can end early where it changes nothing. -/
def iterate (step : Mask → Mask) : Nat → Mask → Mask
  | 0, m => m
  | n + 1, m =>
    let next := step m
    if next == m then m else iterate step n next

/-- The places where a match can end that starts at a marked place. -/
def Expr.reach (text : List Char) : Expr → Mask → Mask
  | .empty, m => m
  | .char p, m => passChar p text m
  | .look l isWord, m => m.inter (placesWhere (fun b a => l.holds isWord b a) none text)
  | .seq a b, m => b.reach text (a.reach text m)
  | .alt a b, m => (a.reach text m).union (b.reach text m)
  | .star a, m => collect (a.reach text) (text.length + 1) m
  | .repeat a n, m => iterate (a.reach text) n m
  | .upTo a n, m => collect (a.reach text) n m

/-- Whether the expression matches some part of the text. -/
def Expr.matches (e : Expr) (text : List Char) : Bool :=
  (e.reach text (List.replicate (text.length + 1) true)).any id

end XmlSchema.Pattern
