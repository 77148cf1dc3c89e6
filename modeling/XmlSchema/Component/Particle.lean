import XmlSchema.Component.Basic

/-!
# Particles

A particle is a term with bounds on how often it occurs; a term is an element, a wildcard, a model
group or a reference.  The type `α` of element declarations is a parameter, since content models
only ask an element for its name.
-/

namespace XmlSchema

mutual

/-- A term with occurrence bounds. -/
structure Particle (α : Type) where
  min : Nat
  max : MaxOccurs
  term : Term α

/-- What a particle repeats. -/
inductive Term (α : Type) where
  | element (declaration : α)
  | elementRef (name : QName)
  | wildcard (wildcard : Wildcard)
  | sequence (items : List (Particle α))
  | choice (items : List (Particle α))
  | all (items : List (Particle α))
  | groupRef (name : QName)

end

/-- A particle that occurs exactly once. -/
def Particle.once {α : Type} (term : Term α) : Particle α := ⟨1, .bounded 1, term⟩

/-- The particle without content. -/
def Particle.emptySequence {α : Type} : Particle α := .once (.sequence [])

end XmlSchema
