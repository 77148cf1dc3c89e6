import XmlSchema.Component.Types

/-!
# Content automata

An automaton with silent steps whose other steps are labelled by leaves: element declarations and
wildcards.  Automata are put together from fragments.  A `Fragment` adds a part to an automaton
under construction: it gets the state from which the part starts and gives the state in which it
ends.  `Automaton.closure` lists the states that silent steps lead to.
-/

namespace XmlSchema

/-! ## Leaves -/

/-- What a child element can match. -/
inductive Leaf where
  | element (declaration : ElementDecl)
  | wildcard (wildcard : Wildcard)

namespace Leaf

/-- Whether the leaf is a declared element. -/
def isElement : Leaf → Bool
  | .element _ => true
  | .wildcard _ => false

/-- Whether a child with the given name matches. -/
def admits (l : Leaf) (name : QName) : Bool :=
  match l with
  | .element declaration => declaration.name == name
  | .wildcard w => w.namespaces.admits name.namespaceName

/-- The form of a leaf in messages. -/
def describe : Leaf → String
  | .element declaration => declaration.name.text
  | .wildcard w =>
    match w.namespaces with
    | .any => "##any"
    | .other _ => "##other"
    | .list names =>
      " ".intercalate (names.map fun name => if name.isEmpty then "##local" else name)

end Leaf

/-! ## Automata -/

/-- A state: the targets of its silent steps, and its other steps by leaf and target. -/
structure State where
  silent : List Nat := []
  edges : List (Nat × Nat) := []
  deriving Inhabited

/-- The states and leaves of an automaton; both are known by their indices. -/
structure Graph where
  states : Array State
  leaves : Array Leaf

/-- An automaton that reads the names of child elements. -/
structure Automaton extends Graph where
  start : Nat
  accept : Nat

namespace Graph

/-- The graph with one state and no steps. -/
def initial : Graph := ⟨#[{}], #[]⟩

/-- Adds a state without steps and gives its index. -/
def addState (g : Graph) : Nat × Graph :=
  (g.states.size, { g with states := g.states.push {} })

/-- Adds a silent step. -/
def addSilent (g : Graph) (source target : Nat) : Graph :=
  { g with states := g.states.modify source fun s => { s with silent := s.silent ++ [target] } }

/-- Adds a step for the leaf with the given index. -/
def addEdge (g : Graph) (source leaf target : Nat) : Graph :=
  { g with
    states := g.states.modify source fun s => { s with edges := s.edges ++ [(leaf, target)] } }

/-- The silent steps from a state. -/
def silentFrom (g : Graph) (state : Nat) : List Nat :=
  ((g.states[state]?).map State.silent).getD []

/-- The labelled steps from a state. -/
def edgesFrom (g : Graph) (state : Nat) : List (Nat × Nat) :=
  ((g.states[state]?).map State.edges).getD []

/-- The number of silent steps. -/
def silentCount (g : Graph) : Nat := g.states.foldl (fun n s => n + s.silent.length) 0

/-- Marks the states that silent steps lead to from the states on the stack. -/
def markFrom (g : Graph) : Nat → List Nat → Array Bool → Array Bool
  | 0, _, marked => marked
  | _, [], marked => marked
  | fuel + 1, state :: stack, marked =>
    if marked[state]? = some false then
      g.markFrom fuel (g.silentFrom state ++ stack) (marked.setIfInBounds state true)
    else g.markFrom fuel stack marked

/-- The states that silent steps lead to from the given ones, in ascending order. -/
def closure (g : Graph) (seeds : List Nat) : List Nat :=
  let marked := g.markFrom (seeds.length + g.silentCount) seeds
    (Array.replicate g.states.size false)
  (List.range g.states.size).filter fun state => marked[state]? = some true

end Graph

/-! ## Fragments -/

/-- A part of an automaton: given the state in which the part starts and the graph so far, the
state in which it ends and the graph with the part. -/
abbrev Fragment := Nat → Graph → Nat × Graph

namespace Fragment

/-- The part that reads nothing. -/
def skip : Fragment := fun start g => (start, g)

/-- The part that reads one element. -/
def leaf (l : Leaf) : Fragment := fun start g =>
  let index := g.leaves.size
  let (stop, g) := Graph.addState { g with leaves := g.leaves.push l }
  (stop, g.addEdge start index stop)

/-- One part after another. -/
def andThen (first second : Fragment) : Fragment := fun start g =>
  let (middle, g) := first start g
  second middle g

/-- Several parts, one after another. -/
def sequence : List Fragment → Fragment
  | [] => skip
  | f :: fs => andThen f (sequence fs)

/-- A part so many times in a row. -/
def times : Nat → Fragment → Fragment
  | 0, _ => skip
  | n + 1, f => andThen f (times n f)

/-- A part any number of times. -/
def star (f : Fragment) : Fragment := fun start g =>
  let (head, g) := g.addState
  let (stop, g) := f head (g.addSilent start head)
  (head, g.addSilent stop head)

/-- Up to `n` parts in a row; after each of them the automaton may go on to `exit`. -/
def upToFrom (f : Fragment) (exit : Nat) : Nat → Nat → Graph → Graph
  | 0, start, g => g.addSilent start exit
  | n + 1, start, g =>
    let (stop, g) := f start (g.addSilent start exit)
    upToFrom f exit n stop g

/-- A part at most so many times. -/
def upTo (n : Nat) (f : Fragment) : Fragment := fun start g =>
  let (exit, g) := g.addState
  (exit, upToFrom f exit n start g)

/-- Adds parts that all lead from `start` to `stop`. -/
def alternatives (start stop : Nat) : List Fragment → Graph → Graph
  | [], g => g
  | f :: fs, g =>
    let (last, g) := f start g
    alternatives start stop fs (g.addSilent last stop)

/-- One of several parts. -/
def choice (fs : List Fragment) : Fragment := fun start g =>
  let (stop, g) := g.addState
  (stop, alternatives start stop fs g)

/-- Any number of several parts in any order. -/
def anyOrder (fs : List Fragment) : Fragment := fun start g =>
  let (head, g) := g.addState
  (head, alternatives head head fs (g.addSilent start head))

/-- The automaton of a fragment. -/
def toAutomaton (f : Fragment) : Automaton :=
  let (accept, g) := f 0 Graph.initial
  { g with start := 0, accept }

end Fragment

end XmlSchema
