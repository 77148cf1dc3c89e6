import XmlSchema.Proofs.Component.Consistency

/-!
# Identities of complex types

A complex type is told from others by the place of the element that defines it.  Places are unique
in a tree that has been read (`Xml.Element.Within.eq_of_place_eq`), but an element could still be
read in two ways: at two depths, or as a global and as a local definition.  The depth does not
matter where reading succeeds (`SchemaContext.Steady.of_le`), and a place tells whether its element
is a child of the root.  So two types of a document with one identity are the same
(`SchemaDocument.eq_of_identity_eq`).
-/

namespace XmlSchema

/-! ## Places -/

namespace Xml.Element

/-- Every element inside the tree stands at its index below its parent. -/
inductive Placed : Element → Prop where
  | intro {e : Element}
      (place : ∀ (index : Nat) (child : Element), e.children[index]? = some child →
        child.place = index :: e.place)
      (inner : ∀ child ∈ e.children, Placed child) : Placed e

theorem place_withPlaces (place : List Nat) (e : Element) : (e.withPlaces place).place = place := by
  cases e
  rw [withPlaces]

mutual

theorem placed_withPlaces (place : List Nat) : ∀ e : Element, (e.withPlaces place).Placed
  | ⟨name, attributes, scope, children, _⟩ => by
    rw [withPlaces]
    have inner := placed_withPlacesFrom place 0 children
    refine .intro (fun index child found => ?_) fun child mem => ?_
    · rw [(inner index child found).1, Nat.zero_add]
    · obtain ⟨index, found⟩ := List.mem_iff_getElem?.1 mem
      exact (inner index child found).2

theorem placed_withPlacesFrom (place : List Nat) (first : Nat) : ∀ (es : List Element)
    (index : Nat) (child : Element), (withPlacesFrom place first es)[index]? = some child →
      child.place = (first + index) :: place ∧ child.Placed
  | [], index, child, found => by simp [withPlacesFrom] at found
  | e :: es, 0, child, found => by
    rw [withPlacesFrom, List.getElem?_cons_zero] at found
    obtain rfl := Option.some.inj found
    exact ⟨place_withPlaces _ e, placed_withPlaces _ e⟩
  | e :: es, index + 1, child, found => by
    rw [withPlacesFrom, List.getElem?_cons_succ] at found
    rw [← Nat.succ_add_eq_add_succ]
    exact placed_withPlacesFrom place (first + 1) es index child found

end

variable {root e e' child : Element}

theorem Placed.exists_index (h : e.Placed) (mem : child ∈ e.schemaChildren) :
    child.Placed ∧ ∃ index, e.children[index]? = some child ∧ child.place = index :: e.place := by
  have mem := (List.mem_filter.1 mem).1
  obtain ⟨index, found⟩ := List.mem_iff_getElem?.1 mem
  cases h with
  | intro place inner => exact ⟨inner child mem, index, found, place index child found⟩

theorem Within.placed (h : root.Within e) (placed : root.Placed) : e.Placed := by
  induction h with
  | self => exact placed
  | child _ mem ih => exact (ih.exists_index mem).1

/-- In a tree that starts at the place of a root, no two elements stand at one place. -/
theorem Within.eq_of_place_eq (placed : root.Placed) (top : root.place = [])
    (h : root.Within e) (h' : root.Within e') (same : e.place = e'.place) : e = e' := by
  induction h generalizing e' with
  | self =>
    cases h' with
    | self => rfl
    | child within mem =>
      obtain ⟨-, index, -, place⟩ := (within.placed placed).exists_index mem
      rw [top, place] at same
      cases same
  | child within mem ih =>
    obtain ⟨-, index, found, place⟩ := (within.placed placed).exists_index mem
    cases h' with
    | self =>
      rw [top, place] at same
      cases same
    | child within' mem' =>
      obtain ⟨-, index', found', place'⟩ := (within'.placed placed).exists_index mem'
      rw [place, place'] at same
      obtain ⟨rfl, parents⟩ := List.cons.inj same
      obtain rfl := ih within' parents
      exact Option.some.inj (found.symm.trans found')

/-- No child of the root stands inside another child. -/
theorem Inside.place_ne (placed : root.Placed) (top : root.place = []) (inside : root.Inside e)
    (mem : child ∈ e.schemaChildren) {other : Element} (outer : other ∈ root.schemaChildren) :
    other.place ≠ child.place := by
  obtain ⟨parent, within, mem'⟩ := inside
  obtain ⟨e_placed, i, -, e_place⟩ := (within.placed placed).exists_index mem'
  obtain ⟨-, j, -, child_place⟩ := e_placed.exists_index mem
  obtain ⟨-, k, -, other_place⟩ := placed.exists_index outer
  rw [other_place, child_place, e_place, top]
  simp

end Xml.Element

/-! ## Depths -/

section ConfirmedBy

variable {α β ε : Type}

/-- Whatever the first result is, unless it is an error, the second is the same. -/
def ConfirmedBy (x y : Except ε α) : Prop := ∀ a, x = .ok a → y = .ok a

theorem confirmedBy_error (e : ε) (y : Except ε α) : ConfirmedBy (.error e) y := by
  rintro _ ⟨⟩

theorem ConfirmedBy.refl (x : Except ε α) : ConfirmedBy x x := fun _ h => h

theorem ConfirmedBy.bind {x y : Except ε α} {f g : α → Except ε β} (h : ConfirmedBy x y)
    (next : ∀ a, ConfirmedBy (f a) (g a)) : ConfirmedBy (x >>= f) (y >>= g) := by
  intro b hb
  cases x with
  | error e => cases hb
  | ok a =>
    rw [h a rfl]
    exact next a b hb

/-- What is done first is the same. -/
theorem confirmedBy_bind {x : Except ε α} {f g : α → Except ε β}
    (next : ∀ a, ConfirmedBy (f a) (g a)) : ConfirmedBy (x >>= f) (x >>= g) :=
  (ConfirmedBy.refl x).bind next

theorem ConfirmedBy.map {x y : Except ε α} (h : ConfirmedBy x y) (f : α → β) :
    ConfirmedBy (f <$> x) (f <$> y) := by
  intro b hb
  cases x with
  | error e => cases hb
  | ok a =>
    rw [h a rfl]
    exact hb

theorem ConfirmedBy.mapM {f g : α → Except ε β} (h : ∀ a, ConfirmedBy (f a) (g a)) (as : List α) :
    ConfirmedBy (as.mapM f) (as.mapM g) := by
  induction as with
  | nil => exact .refl _
  | cons a as ih =>
    rw [List.mapM_cons, List.mapM_cons]
    exact (h a).bind fun b => ih.bind fun bs => .refl _

theorem ConfirmedBy.foldlM {f g : β → α → Except ε β} (h : ∀ b a, ConfirmedBy (f b a) (g b a))
    (as : List α) (b : β) : ConfirmedBy (as.foldlM f b) (as.foldlM g b) := by
  induction as generalizing b with
  | nil => exact .refl _
  | cons a as ih =>
    rw [List.foldlM_cons, List.foldlM_cons]
    exact (h b a).bind ih

end ConfirmedBy

namespace SchemaContext

variable (c : SchemaContext) {depth depth' : Nat}

theorem confirmedBy_simpleType (le : depth ≤ depth') (name : Option String) (e : Xml.Element) :
    ConfirmedBy (c.simpleType depth name e) (c.simpleType depth' name e) := by
  induction depth generalizing depth' name e with
  | zero => exact confirmedBy_error _ _
  | succ depth ih =>
    obtain ⟨depth', rfl⟩ : ∃ n, depth' = n + 1 := ⟨depth' - 1, by omega⟩
    have inner (part : Xml.Element) := ih (Nat.le_of_succ_le_succ le) none part
    unfold simpleType
    extract_lets name component component'
    have confirmed (part : Xml.Element) (attributeName : String) :
        ConfirmedBy (component part attributeName) (component' part attributeName) := by
      refine confirmedBy_bind fun named => ?_
      split
      · exact .refl _
      · split
        · exact (inner _).bind fun t => .refl _
        · exact .refl _
    split
    · exact (confirmed _ _).bind fun base => .refl _
    · split
      · exact (confirmed _ _).bind fun item => .refl _
      · split
        · exact confirmedBy_bind fun named =>
            (ConfirmedBy.mapM (fun part => (inner part).map _) _).bind fun members => .refl _
        · exact .refl _

variable (le : depth ≤ depth')

include le

theorem confirmedBy_attributeDecl (isGlobal : Bool) (e : Xml.Element) :
    ConfirmedBy (c.attributeDecl depth isGlobal e) (c.attributeDecl depth' isGlobal e) := by
  unfold attributeDecl
  refine confirmedBy_bind fun localName => confirmedBy_bind fun named => ?_
  dsimp only
  split
  · exact .refl _
  · split
    · exact ((c.confirmedBy_simpleType le none _).map _).bind fun type => .refl _
    · exact .refl _

theorem confirmedBy_attributeItems (e : Xml.Element) :
    ConfirmedBy (c.attributeItems depth e) (c.attributeItems depth' e) := by
  refine ConfirmedBy.foldlM (fun group child => ?_) _ _
  unfold addAttributeItem
  split
  · refine ConfirmedBy.bind ?_ fun item => .refl _
    unfold attributeUse
    refine confirmedBy_bind fun ref => ?_
    split
    · exact .refl _
    · exact (c.confirmedBy_attributeDecl le false child).bind fun decl => .refl _
  all_goals exact .refl _

theorem confirmedBy_simpleContent (type : ComplexType) (e : Xml.Element) :
    ConfirmedBy (c.simpleContent depth type e) (c.simpleContent depth' type e) := by
  have items := c.confirmedBy_attributeItems le e
  unfold simpleContent
  refine confirmedBy_bind fun base => ?_
  dsimp only
  split
  · exact confirmedBy_bind fun content => items.bind fun group => .refl _
  · split
    · refine ((c.confirmedBy_simpleType le none _).map _).bind fun restricted => ?_
      exact confirmedBy_bind fun facets => confirmedBy_bind fun content =>
        items.bind fun group => .refl _
    · exact confirmedBy_bind fun restricted => confirmedBy_bind fun facets =>
        confirmedBy_bind fun content => items.bind fun group => .refl _

omit le

/-- What reading gives at one depth, it also gives at the other. -/
structure Steady (depth depth' : Nat) : Prop where
  elementDecl : ∀ isGlobal e,
    ConfirmedBy (c.elementDecl depth isGlobal e) (c.elementDecl depth' isGlobal e)
  particle : ∀ e, ConfirmedBy (c.particle depth e) (c.particle depth' e)
  modelGroup : ∀ e, ConfirmedBy (c.modelGroup depth e) (c.modelGroup depth' e)
  complexType : ∀ name e, ConfirmedBy (c.complexType depth name e) (c.complexType depth' name e)
  complexContent : ∀ type e,
    ConfirmedBy (c.complexContent depth type e) (c.complexContent depth' type e)

namespace Steady

variable {c} (le : depth ≤ depth') (h : c.Steady depth depth')

include h

theorem particle_succ (e : Xml.Element) :
    ConfirmedBy (c.particle (depth + 1) e) (c.particle (depth' + 1) e) := by
  unfold SchemaContext.particle
  refine confirmedBy_bind fun bounds => ?_
  dsimp only
  split
  · refine confirmedBy_bind fun ref => ?_
    split
    · exact .refl _
    · exact (h.elementDecl false e).bind fun decl => .refl _
  · exact .refl _
  · exact .refl _
  · exact (h.modelGroup e).bind fun group => .refl _
  · exact (h.modelGroup e).bind fun group => .refl _
  · exact (h.modelGroup e).bind fun group => .refl _
  · exact .refl _

theorem modelGroup_succ (e : Xml.Element) :
    ConfirmedBy (c.modelGroup (depth + 1) e) (c.modelGroup (depth' + 1) e) := by
  unfold SchemaContext.modelGroup
  exact confirmedBy_bind fun bounds => (ConfirmedBy.mapM h.particle _).bind fun items => .refl _

include le

theorem elementDecl_succ (isGlobal : Bool) (e : Xml.Element) :
    ConfirmedBy (c.elementDecl (depth + 1) isGlobal e) (c.elementDecl (depth' + 1) isGlobal e) := by
  unfold SchemaContext.elementDecl
  refine confirmedBy_bind fun localName => confirmedBy_bind fun named => ?_
  dsimp only
  split
  · exact .refl _
  · split
    · exact ((h.complexType none _).map _).bind fun type => .refl _
    · exact ((c.confirmedBy_simpleType le none _).map _).bind fun type => .refl _
    · exact .refl _

theorem complexType_succ (name : Option String) (e : Xml.Element) :
    ConfirmedBy (c.complexType (depth + 1) name e) (c.complexType (depth' + 1) name e) := by
  unfold SchemaContext.complexType
  dsimp only
  split
  · split
    · exact c.confirmedBy_simpleContent le _ _
    · exact .refl _
  · split
    · exact .refl _
    · exact confirmedBy_bind fun base => h.complexContent _ _
  · exact h.complexContent _ _

theorem complexContent_succ (type : ComplexType) (e : Xml.Element) :
    ConfirmedBy (c.complexContent (depth + 1) type e) (c.complexContent (depth' + 1) type e) := by
  have items := c.confirmedBy_attributeItems le e
  unfold SchemaContext.complexContent
  dsimp only
  split
  · exact (h.particle _).bind fun own => items.bind fun group => .refl _
  · exact confirmedBy_bind fun own => items.bind fun group => .refl _

omit le h

/-- What reading gives at some depth, it also gives at every greater one. -/
theorem of_le (c : SchemaContext) (le : depth ≤ depth') : c.Steady depth depth' := by
  induction depth generalizing depth' with
  | zero => exact ⟨fun _ _ => confirmedBy_error _ _, fun _ => confirmedBy_error _ _,
      fun _ => confirmedBy_error _ _, fun _ _ => confirmedBy_error _ _,
      fun _ _ => confirmedBy_error _ _⟩
  | succ depth ih =>
    obtain ⟨depth', rfl⟩ : ∃ n, depth' = n + 1 := ⟨depth' - 1, by omega⟩
    have le := Nat.le_of_succ_le_succ le
    exact {
      elementDecl := (ih le).elementDecl_succ le
      particle := (ih le).particle_succ
      modelGroup := (ih le).modelGroup_succ
      complexType := (ih le).complexType_succ le
      complexContent := (ih le).complexContent_succ le }

end Steady

/-- At whatever depths an element is read as a type, the types are the same. -/
theorem eq_of_complexType {name : Option String} {e : Xml.Element} {t t' : ComplexType}
    (read : c.complexType depth name e = .ok t) (read' : c.complexType depth' name e = .ok t') :
    t = t' := by
  rcases Nat.le_total depth depth' with le | le
  · have same := (Steady.of_le c le).complexType name e t read
    exact Except.ok.inj (same.symm.trans read')
  · have same := (Steady.of_le c le).complexType name e t' read'
    exact Except.ok.inj (read.symm.trans same)

/-! ## Types -/

variable {c} {root : Xml.Element}

/-- Types that have been read in a tree are the same if they have the same identity. -/
theorem ReadIn.eq_of_identity_eq (placed : root.Placed) (top : root.place = []) {t t' : ComplexType}
    (h : c.ReadIn root (.complexType t)) (h' : c.ReadIn root (.complexType t'))
    (same : t.identity = t'.identity) : t = t' := by
  have place_eq {depth depth' : Nat} {name name' : Option String} {e e' : Xml.Element}
      (read : c.complexType depth name e = .ok t) (read' : c.complexType depth' name' e' = .ok t') :
      e.place = e'.place := by
    rw [(c.ensures_complexType _ e name t read).1, (c.ensures_complexType _ e' name' t' read').1]
      at same
    exact (TypeId.definedAt.inj same).2
  cases h with
  | globalType child named read =>
    cases h' with
    | globalType child' named' read' =>
      obtain rfl := Xml.Element.Within.eq_of_place_eq placed top (.child .self child)
        (.child .self child') (place_eq read read')
      obtain rfl := Option.some.inj (named.symm.trans named')
      exact c.eq_of_complexType read read'
    | localType inside mem read' =>
      exact absurd (place_eq read read') (inside.place_ne placed top mem child)
  | localType inside mem read =>
    cases h' with
    | globalType child' named' read' =>
      exact absurd (place_eq read read').symm (inside.place_ne placed top mem child')
    | localType inside' mem' read' =>
      obtain rfl := Xml.Element.Within.eq_of_place_eq placed top (inside.within.child mem)
        (inside'.within.child mem') (place_eq read read')
      exact c.eq_of_complexType read read'

end SchemaContext

/-! ## Documents -/

theorem Xml.placed_of_readTree {text : List Char} {root : Xml.Element}
    (h : Xml.readTree text = .ok root) : root.Placed ∧ root.place = [] := by
  unfold Xml.readTree at h
  split at h
  · cases h
  · split at h
    · cases h
    · split at h
      · cases h
        exact ⟨Xml.Element.placed_withPlaces _ _, Xml.Element.place_withPlaces _ _⟩
      · cases h

namespace SchemaDocument

variable {identity : DocumentId} {text : String} {path : Path} {d : SchemaDocument}
  (h : readAs identity text path = .ok d) {t t' : ComplexType}

include h

/-- The identity of a type names the document that the type stands in. -/
theorem exists_identity_of_contains (ht : d.Contains (.complexType t)) :
    ∃ place, t.identity = .definedAt identity place := by
  obtain ⟨root, -, hroot⟩ := exists_root_of_readAs h
  obtain ⟨-, read⟩ := ensures_ofElement_readIn identity root path d hroot
  cases read.of_contains ht with
  | globalType _ _ read => exact ⟨_, (SchemaContext.ensures_complexType _ _ _ _ t read).1⟩
  | localType _ _ read => exact ⟨_, (SchemaContext.ensures_complexType _ _ _ _ t read).1⟩

/-- The types of a document, named or not, are told apart by their identities. -/
theorem eq_of_identity_eq (ht : d.Contains (.complexType t)) (ht' : d.Contains (.complexType t'))
    (same : t.identity = t'.identity) : t = t' := by
  obtain ⟨root, tree, hroot⟩ := exists_root_of_readAs h
  obtain ⟨placed, top⟩ := Xml.placed_of_readTree tree
  obtain ⟨-, read⟩ := ensures_ofElement_readIn identity root path d hroot
  exact (read.of_contains ht).eq_of_identity_eq placed top (read.of_contains ht') same

end SchemaDocument

end XmlSchema
