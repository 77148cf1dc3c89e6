import XmlSchema.Content.Automaton

/-!
# Content models

`ContentMatcher.ofParticle` compiles a particle into a matcher for the names of child elements.  A
group `all` at the top has a matcher of its own, since its members come in any order; every other
particle becomes an automaton.

Large occurrence bounds are not copied out: a minimum counts as at most `expandedMin`, and a
maximum above `expandedMax` as no maximum at all.  References to model groups are followed to a
depth of `groupDepth`.
-/

namespace XmlSchema

/-- How many mandatory copies of a term an automaton has at most. -/
def expandedMin : Nat := 64

/-- The largest maximum that an automaton counts to. -/
def expandedMax : Nat := 128

/-- How deep references to model groups are followed. -/
def groupDepth : Nat := 16

/-- The global components that particles refer to. -/
structure Globals where
  element? : QName → Option ElementDecl
  group? : QName → Option (Particle ElementDecl)

namespace Globals

/-- The declaration that a reference stands for.  A reference that leads nowhere still stands for
its name. -/
def element (globals : Globals) (name : QName) : ElementDecl :=
  (globals.element? name).getD (.untyped name)

/-- The leaf of a term that is one. -/
def leaf? (globals : Globals) : Term ElementDecl → Option Leaf
  | .element declaration => some (.element declaration)
  | .elementRef name => some (.element (globals.element name))
  | .wildcard wildcard => some (.wildcard wildcard)
  | _ => none

end Globals

/-! ## Compilation -/

/-- The maximum that an automaton counts to, if any. -/
def MaxOccurs.expanded? (max : MaxOccurs) (min : Nat) : Option Nat :=
  match max with
  | .bounded n => if n ≤ expandedMax then some (Nat.max n min) else none
  | .unbounded => none

/-- A term with occurrence bounds. -/
def Fragment.occurs (min : Nat) (max : MaxOccurs) (term : Fragment) : Fragment :=
  let min := Nat.min min expandedMin
  match max.expanded? min with
  | some 0 => .skip
  | some n => .andThen (.times min term) (.upTo (n - min) term)
  | none => .andThen (.times min term) (.star term)

section Compilation

variable (globals : Globals) (group : QName → Fragment)

mutual

/-- The fragment of a particle; `group` gives those of the groups it refers to. -/
def Particle.fragment : Particle ElementDecl → Fragment
  | ⟨min, max, term⟩ => .occurs min max term.fragment

/-- The fragment of a term. -/
def Term.fragment : Term ElementDecl → Fragment
  | .element declaration => .leaf (.element declaration)
  | .elementRef name => .leaf (.element (globals.element name))
  | .wildcard wildcard => .leaf (.wildcard wildcard)
  | .sequence items => .sequence (Particle.fragments items)
  | .choice items => .choice (Particle.fragments items)
  | .all items => .anyOrder (Particle.termFragments items)
  | .groupRef name => group name

/-- The fragments of several particles. -/
def Particle.fragments : List (Particle ElementDecl) → List Fragment
  | [] => []
  | p :: ps => p.fragment :: Particle.fragments ps

/-- The fragments of the terms of several particles. -/
def Particle.termFragments : List (Particle ElementDecl) → List Fragment
  | [] => []
  | ⟨_, _, term⟩ :: ps => term.fragment :: Particle.termFragments ps

end

end Compilation

/-- The fragment of a reference to a model group, when references may be nested so deep; beyond
that, and when there is no such group, it reads nothing. -/
def Globals.groupFragment (globals : Globals) : Nat → QName → Fragment
  | 0, _ => .skip
  | levels + 1, name =>
    match globals.group? name with
    | some particle => particle.fragment globals (globals.groupFragment levels)
    | none => .skip

/-- The automaton of a particle. -/
def Globals.automaton (globals : Globals) (p : Particle ElementDecl) : Automaton :=
  (p.fragment globals (globals.groupFragment groupDepth)).toAutomaton

/-- The members of an `all` group that a particle is or refers to, through references nested so
deep, and whether the group may be left out. -/
def Globals.topLevelAll? (globals : Globals) :
    Nat → Particle ElementDecl → Option (List (Particle ElementDecl) × Bool)
  | _, ⟨min, _, .all members⟩ => some (members, min == 0)
  | levels + 1, ⟨min, _, .groupRef name⟩ => do
    let (members, isOptional) ← globals.topLevelAll? levels (← globals.group? name)
    return (members, isOptional || min == 0)
  | _, _ => none

/-- An `all` group at the top: its members with whether they are required. -/
structure AllModel where
  members : List (Leaf × Bool)
  isOptional : Bool

/-- A compiled content model. -/
inductive CompiledModel where
  | automaton (automaton : Automaton)
  | all (model : AllModel)

/-- Compiles a particle. -/
def CompiledModel.ofParticle (globals : Globals) (p : Particle ElementDecl) : CompiledModel :=
  match globals.topLevelAll? groupDepth p with
  | some (members, isOptional) =>
    let leaves := members.filterMap fun member =>
      (globals.leaf? member.term).map fun leaf => (leaf, decide (0 < member.min))
    .all ⟨leaves, isOptional⟩
  | none => .automaton (globals.automaton p)

/-! ## Matching -/

/-- The state of matching the children of one element. -/
inductive ContentMatcher where
  | automaton (automaton : Automaton) (current : List Nat)
  /-- `seen` says for each member whether it has occurred. -/
  | all (model : AllModel) (seen : List Bool)

namespace ContentMatcher

/-- The state before the first child. -/
def ofModel : CompiledModel → ContentMatcher
  | .automaton a => .automaton a (a.closure [a.start])
  | .all model => .all model (model.members.map fun _ => false)

/-- The matcher of a particle before the first child. -/
def ofParticle (globals : Globals) (p : Particle ElementDecl) : ContentMatcher :=
  ofModel (.ofParticle globals p)

/-- The leaf with the given index, if it admits the name. -/
def admittingLeaf? (a : Automaton) (name : QName) (index : Nat) : Option Leaf :=
  (a.leaves[index]?).filter (·.admits name)

/-- The steps of an automaton for a name: leaves that admit it, with their targets.  Declared
elements take precedence over wildcards. -/
def candidates (a : Automaton) (current : List Nat) (name : QName) : List (Leaf × Nat) :=
  let admitting := (current.flatMap a.edgesFrom).filterMap fun (index, target) =>
    (admittingLeaf? a name index).map (·, target)
  let declared := admitting.filter (·.1.isElement)
  if declared.isEmpty then admitting else declared

/-- Finds the first member of an `all` group that admits a name and has not occurred, and marks
it. -/
def takeMember (name : QName) : List (Leaf × Bool) → List Bool → Option Leaf × List Bool
  | (leaf, _) :: members, seen :: rest =>
    if !seen && leaf.admits name then (some leaf, true :: rest)
    else
      let (taken, rest) := takeMember name members rest
      (taken, seen :: rest)
  | _, seen => (none, seen)

/-- Passes over a child: the leaf that it matches, if any, and the state behind it. -/
def step (m : ContentMatcher) (name : QName) : Option Leaf × ContentMatcher :=
  match m with
  | .automaton a current =>
    match candidates a current name with
    | [] => (none, .automaton a current)
    | (leaf, target) :: rest =>
      (some leaf, .automaton a (a.closure (target :: rest.map Prod.snd)))
  | .all model seen =>
    let (leaf, seen) := takeMember name model.members seen
    (leaf, .all model seen)

/-- Whether the children so far may be all. -/
def isComplete : ContentMatcher → Bool
  | .automaton a current => current.contains a.accept
  | .all model seen =>
    (model.isOptional && seen.all (!·)) ||
      (model.members.zip seen).all fun ((_, required), seen) => seen || !required

/-- The leaves that the next child may match, in the order of the model. -/
def available : ContentMatcher → List Leaf
  | .automaton a current =>
    let indices := (current.flatMap a.edgesFrom).map Prod.fst
    indices.mergeSort.filterMap (a.leaves[·]?)
  | .all model seen =>
    (model.members.zip seen).filterMap fun ((leaf, _), seen) => if seen then none else some leaf

/-- What may come next, for messages: the descriptions of the available leaves, each once. -/
def expected (m : ContentMatcher) : List String :=
  (m.available.map Leaf.describe).foldl
    (fun names name => if names.contains name then names else names ++ [name]) []

/-- The sentence of a message that lists what may come next; nothing if nothing may. -/
def expectedSuffix (m : ContentMatcher) : String :=
  if m.expected.isEmpty then ""
  else " List of possible elements expected: '" ++ ", ".intercalate m.expected ++ "'."

end ContentMatcher

end XmlSchema
