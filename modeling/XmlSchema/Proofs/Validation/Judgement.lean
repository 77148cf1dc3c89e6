import XmlSchema.Proofs.SchemaSet.Holding
import XmlSchema.Proofs.Validation.Conformity

/-!
# Judging and conformity

An element is judged in two parts: when it opens, its attributes are checked and its mode is
settled; then its content is passed over in that mode, child by child and text by text
(`ElementContent.read`).  There is nothing to remark in either part exactly if the element conforms
in its context and the children conform in theirs (`OpeningElement.conformsIn_iff`).
-/

namespace XmlSchema

/-! ## Passing over content -/

/-- The mode behind a text, unless there is something to remark. -/
def Mode.addText? (mode : Mode) (name : QName) (value : String) (offset : Nat) : Option Mode :=
  match mode with
  | .typed element =>
    match element.addText name value offset with
    | (element, []) => some (.typed element)
    | _ => none
  | _ => some mode

/-- What is to be remarked at the end of an element. -/
def Mode.closingRemarks (set : SchemaSet) (name : QName) (offset : Nat) : Mode → List Remark
  | .typed element => element.closingRemarks set name offset
  | _ => []

namespace ElementContent

/-- What governs the children of the element called `parent`, and the mode behind them, unless
there is something to remark about the children or texts. -/
def read (scopes : List Scope) (parent : QName) :
    ElementContent → Mode → Option (List Context × Mode)
  | nil, mode => some ([], mode)
  | element tree rest, mode =>
    match childContext parent mode (tree.name scopes) with
    | .error _ => none
    | .ok (context, mode) =>
      (rest.read scopes parent mode).map fun (contexts, mode) => (context :: contexts, mode)
  | text value offset rest, mode =>
    match mode.addText? parent value offset with
    | none => none
    | some mode => rest.read scopes parent mode
  | other rest, mode => rest.read scopes parent mode

/-- The content as the inside of an element. -/
def interior (set : SchemaSet) (scopes : List Scope) (content : ElementContent) : Interior :=
  ⟨content.names scopes, content.texts, fun contexts => content.Conforms set contexts scopes⟩

/-- There is nothing to remark about the content and the end of an element, and the children
conform. -/
def Passes (set : SchemaSet) (scopes : List Scope) (parent : QName) (offset : Nat)
    (content : ElementContent) (mode : Mode) : Prop :=
  ∃ contexts last, content.read scopes parent mode = some (contexts, last) ∧
    content.Conforms set contexts scopes ∧ last.closingRemarks set parent offset = []

variable (set : SchemaSet) (scopes : List Scope) (parent : QName)

/-- A mode that asks nothing of texts and puts all children into one context. -/
theorem read_uniform {mode : Mode} {context : Context}
    (children : ∀ child, childContext parent mode child = .ok (context, mode))
    (texts : ∀ value offset, mode.addText? parent value offset = some mode) :
    ∀ content : ElementContent,
      content.read scopes parent mode = some ((content.names scopes).map fun _ => context, mode)
  | nil => rfl
  | element tree rest => by
    rw [read, children]
    dsimp only
    rw [read_uniform children texts rest]
    rfl
  | text value offset rest => by
    rw [read, texts]
    exact read_uniform children texts rest
  | other rest => read_uniform children texts rest

theorem conforms_skip : ∀ content : ElementContent,
    content.Conforms set ((content.names scopes).map fun _ => .skip) scopes
  | nil => by
    rw [ElementContent.Conforms]
    trivial
  | element tree rest => by
    rw [names, List.map_cons, ElementContent.Conforms]
    refine ⟨?_, conforms_skip rest⟩
    cases tree <;> rw [ElementTree.Conforms] <;> trivial
  | text _ _ rest => by
    rw [ElementContent.Conforms]
    exact conforms_skip rest
  | other rest => by
    rw [ElementContent.Conforms]
    exact conforms_skip rest

theorem passes_skip (offset : Nat) (content : ElementContent) :
    content.Passes set scopes parent offset .skip :=
  ⟨_, _, read_uniform scopes parent (fun _ => rfl) (fun _ _ => rfl) content,
    conforms_skip set scopes content, rfl⟩

theorem passes_lax (offset : Nat) (content : ElementContent) :
    content.Passes set scopes parent offset .lax ↔ (content.interior set scopes).ConformLaxly := by
  unfold Passes
  rw [read_uniform scopes parent (fun _ => rfl) (fun _ _ => rfl) content]
  constructor
  · rintro ⟨contexts, last, heq, conform, -⟩
    cases heq
    exact conform
  · intro conform
    exact ⟨_, _, rfl, conform, rfl⟩

theorem isBlank_text {value : String} {offset : Nat} {rest : ElementContent} :
    ((text value offset rest).interior set scopes).IsBlank ↔
      Text.isBlankText value.toList = true ∧ (rest.interior set scopes).IsBlank :=
  List.forall_mem_cons

/-- A mode without room for children, and for texts only if they are white space. -/
theorem read_closed {mode : Mode}
    (children : ∀ child, ∃ finding, childContext parent mode child = .error finding)
    (texts : ∀ value offset, mode.addText? parent value offset =
      if Text.isBlankText value.toList then some mode else none) :
    ∀ (content : ElementContent) (result : List Context × Mode),
      content.read scopes parent mode = some result ↔
        (content.names scopes = [] ∧ (content.interior set scopes).IsBlank) ∧ result = ([], mode)
  | nil, result => by
    rw [read, Option.some.injEq, eq_comm]
    exact (and_iff_right ⟨rfl, List.forall_mem_nil _⟩).symm
  | element tree rest, result => by
    obtain ⟨finding, hchild⟩ := children (tree.name scopes)
    simp [read, hchild, names]
  | text value offset rest, result => by
    have ih := read_closed children texts rest result
    rw [read, texts, isBlank_text, names]
    by_cases blank : Text.isBlankText value.toList = true
    · simpa [blank] using ih
    · simp [blank]
  | other rest, result => read_closed children texts rest result

/-- Simple content has no children, and takes in all texts. -/
theorem read_simple (declaration : ElementDecl) (type : TypeRef) :
    ∀ (content : ElementContent) (before : String) (result : List Context × Mode),
      content.read scopes parent (.typed ⟨declaration, .simple type, false, before⟩) = some result ↔
        content.names scopes = [] ∧ result =
          ([], .typed ⟨declaration, .simple type, false, before ++ String.join content.texts⟩)
  | nil, before, result => by
    simp [read, names, ElementContent.texts, eq_comm]
  | element tree rest, before, result => by
    simp [read, names, childContext]
  | text value offset rest, before, result => by
    have ih := read_simple declaration type rest (before ++ value) result
    rw [String.append_assoc, ← String.join_cons] at ih
    exact ih
  | other rest, before, result => read_simple declaration type rest before result

/-- Element content passes the names on to the matcher, and takes no text but white space unless
it is mixed. -/
theorem read_elements (declaration : ElementDecl) (mixed : Bool) :
    ∀ (content : ElementContent) (matcher : ContentMatcher) (result : List Context × Mode),
      content.read scopes parent (.typed ⟨declaration, .elements matcher mixed, false, ""⟩) =
          some result ↔
        (mixed = true ∨ (content.interior set scopes).IsBlank) ∧
          ∃ leaves last, matcher.matchAll (content.names scopes) = some (leaves, last) ∧
            result = (leaves.map Leaf.context,
              .typed ⟨declaration, .elements last mixed, false, ""⟩)
  | nil, matcher, result => by
    have blank : (nil.interior set scopes).IsBlank := List.forall_mem_nil _
    simp only [read, names, ContentMatcher.matchAll, Option.some.injEq, Prod.mk.injEq, blank,
      or_true, true_and]
    constructor
    · rintro rfl
      exact ⟨[], matcher, ⟨rfl, rfl⟩, rfl⟩
    · rintro ⟨_, _, ⟨rfl, rfl⟩, rfl⟩
      rfl
  | element tree rest, matcher, result => by
    have blank : ((element tree rest).interior set scopes).IsBlank ↔
        (rest.interior set scopes).IsBlank := Iff.rfl
    rw [blank, names, ContentMatcher.matchAll, read, childContext]
    dsimp only [Bool.false_eq_true, ite_false]
    generalize matcher.step (tree.name scopes) = taken
    obtain ⟨_ | leaf, matcher'⟩ := taken
    · simp
    · simp only [Option.map_eq_some_iff, Bool.false_eq_true, ite_false,
        read_elements declaration mixed rest matcher']
      constructor
      · rintro ⟨_, ⟨texts, leaves, last, matched, rfl⟩, rfl⟩
        exact ⟨texts, leaf :: leaves, last, ⟨_, matched, rfl⟩, rfl⟩
      · rintro ⟨texts, _, _, ⟨⟨leaves, last⟩, matched, heq⟩, rfl⟩
        cases heq
        exact ⟨_, ⟨texts, leaves, last, matched, rfl⟩, rfl⟩
  | text value offset rest, matcher, result => by
    have ih := read_elements declaration mixed rest matcher result
    rw [read, isBlank_text, names]
    simp only [Mode.addText?, TypedElement.addText, Bool.false_eq_true, ite_false]
    cases mixed with
    | true => simpa using ih
    | false =>
      by_cases blank : Text.isBlankText value.toList = true
      · simpa [blank] using ih
      · simp [blank]
  | other rest, matcher, result => read_elements declaration mixed rest matcher result

theorem conforms_of_names_eq_nil (contexts : List Context) :
    ∀ content : ElementContent, content.names scopes = [] → content.Conforms set contexts scopes
  | nil, _ => by
    rw [ElementContent.Conforms]
    trivial
  | element _ _, h => by simp [names] at h
  | text _ _ rest, h => by
    rw [ElementContent.Conforms]
    exact conforms_of_names_eq_nil contexts rest h
  | other rest, h => by
    rw [ElementContent.Conforms]
    exact conforms_of_names_eq_nil contexts rest h

/-- Where there is no room for children, there is nothing to remark if there are none and all texts
are white space. -/
theorem passes_closed {mode : Mode} (offset : Nat)
    (children : ∀ child, ∃ finding, childContext parent mode child = .error finding)
    (texts : ∀ value offset, mode.addText? parent value offset =
      if Text.isBlankText value.toList then some mode else none)
    (closing : mode.closingRemarks set parent offset = []) (content : ElementContent) :
    content.Passes set scopes parent offset mode ↔
      content.names scopes = [] ∧ (content.interior set scopes).IsBlank := by
  unfold Passes
  simp only [read_closed set scopes parent children texts content]
  constructor
  · rintro ⟨contexts, last, ⟨h, -⟩, -⟩
    exact h
  · intro h
    exact ⟨_, _, ⟨h, rfl⟩, conforms_of_names_eq_nil set scopes [] content h.1, closing⟩

theorem simpleContentRemarks_eq_nil (name : QName) (typed : TypedElement) (type : TypeRef)
    (offset : Nat) : simpleContentRemarks set name typed type offset = [] ↔
      SimpleConforms set typed.declaration type typed.text := by
  unfold simpleContentRemarks SimpleConforms
  dsimp only
  split
  · rename_i e failed
    rw [failed]
    simp
  · rename_i valid
    rw [valid]
    by_cases empty : typed.text.isEmpty = true
    · simp [empty]
    · cases typed.declaration.fixed <;> simp [empty]

theorem closingRemarks_simple {declaration : ElementDecl} {type : TypeRef} {value : String}
    {offset : Nat} :
    (Mode.typed ⟨declaration, .simple type, false, value⟩).closingRemarks set parent offset = [] ↔
      SimpleConforms set declaration type value :=
  simpleContentRemarks_eq_nil set parent ⟨declaration, .simple type, false, value⟩ type offset

end ElementContent

/-- The content of a type as that of an open element. -/
def EffectiveContent.opened (mixed : Bool) : EffectiveContent → OpenContent
  | .empty => .empty
  | .simple type => .simple type
  | .elements model => .elements (.ofModel model) mixed

theorem OpeningElement.openContent_eq (type : EffectiveType) :
    openContent type = type.content.opened type.mixed := by
  unfold openContent
  cases type.content <;> rfl

theorem ElementContent.passes_typed (set : SchemaSet) (scopes : List Scope) (parent : QName)
    (offset : Nat) (declaration : ElementDecl) (type : EffectiveContent) (mixed isNil : Bool)
    (content : ElementContent) :
    content.Passes set scopes parent offset
        (.typed ⟨declaration, type.opened mixed, isNil, ""⟩) ↔
      (isNil = true → content.names scopes = [] ∧ (content.interior set scopes).IsBlank) ∧
        (isNil = false →
          (content.interior set scopes).ConformsTo set declaration mixed type) := by
  cases isNil with
  | true =>
    rw [passes_closed set scopes parent offset (fun _ => ⟨_, rfl⟩) (fun value offset => ?_) rfl]
    · simp
    · simp only [Mode.addText?, TypedElement.addText, ite_true]
      split <;> simp_all
  | false =>
    simp only [Bool.false_eq_true, false_implies, true_and, true_implies]
    cases type with
    | empty =>
      refine passes_closed set scopes parent offset (fun _ => ⟨_, rfl⟩) (fun value offset => ?_) rfl
        content
      simp only [Mode.addText?, TypedElement.addText, EffectiveContent.opened, Bool.false_eq_true,
        ite_false]
      split <;> simp_all
    | simple type =>
      unfold Passes
      simp only [EffectiveContent.opened, read_simple]
      constructor
      · rintro ⟨_, _, ⟨names, heq⟩, -, closing⟩
        cases heq
        rw [closingRemarks_simple, String.empty_append] at closing
        exact ⟨names, closing⟩
      · rintro ⟨names, valid⟩
        refine ⟨_, _, ⟨names, rfl⟩, conforms_of_names_eq_nil set scopes [] content names, ?_⟩
        rw [closingRemarks_simple, String.empty_append]
        exact valid
    | elements model =>
      unfold Passes
      simp only [EffectiveContent.opened, read_elements set]
      constructor
      · rintro ⟨_, _, ⟨texts, leaves, last, matched, heq⟩, conform, closing⟩
        cases heq
        refine ⟨texts, leaves, last, matched, ?_, conform⟩
        simpa [Mode.closingRemarks, TypedElement.closingRemarks] using closing
      · rintro ⟨texts, leaves, last, matched, complete, conform⟩
        refine ⟨_, _, ⟨texts, leaves, last, matched, rfl⟩, conform, ?_⟩
        simp [Mode.closingRemarks, TypedElement.closingRemarks, complete]

/-! ## Attributes -/

section Attributes

variable (set : SchemaSet)

theorem attributeValueRemarks_eq_nil (name : QName) (declaration : AttributeDecl)
    (a : NamedAttribute) :
    attributeValueRemarks set name declaration a = [] ↔ declaration.Admits set a.value := by
  unfold attributeValueRemarks AttributeDecl.Admits
  dsimp only
  split
  · rename_i e failed
    rw [failed]
    simp
  · rename_i valid
    rw [valid]
    cases declaration.fixed <;> simp

theorem Wildcard.admits_iff_of_known {w : Wildcard} {name : QName} {declaration : AttributeDecl}
    (checked : w.process ≠ .skip) (known : set.attribute? name = some declaration)
    (value : String) : w.Admits set name value ↔ declaration.Admits set value := by
  refine ⟨fun h => ?_, .known known⟩
  cases h with
  | skipped skip => exact absurd skip checked
  | known known' admits =>
    rw [known] at known'
    cases known'
    exact admits
  | unknown unknown =>
    rw [known] at unknown
    cases unknown

theorem Wildcard.admits_iff_of_unknown {w : Wildcard} {name : QName}
    (checked : w.process ≠ .skip) (unknown : set.attribute? name = none) (value : String) :
    w.Admits set name value ↔ ¬ (w.process = .strict ∧ name.namespaceName ≠ xmlNamespace) := by
  constructor
  · rintro h ⟨strict, hxml⟩
    cases h with
    | skipped skip => exact checked skip
    | known known =>
      rw [unknown] at known
      cases known
    | unknown _ free =>
      rcases free with lax | hxml'
      · rw [strict] at lax
        cases lax
      · exact hxml hxml'
  · intro free
    refine .unknown unknown ?_
    cases hprocess : w.process with
    | lax => exact .inl rfl
    | skip => exact absurd hprocess checked
    | strict => exact .inr (Decidable.byContradiction fun hxml => free ⟨hprocess, hxml⟩)

theorem wildcardAttributeRemarks_eq_nil (wildcard : Option Wildcard) (name : QName)
    (a : NamedAttribute) :
    wildcardAttributeRemarks set wildcard name a = [] ↔
      ∃ w, wildcard = some w ∧ w.namespaces.admits name.namespaceName = true ∧
        w.Admits set name a.value := by
  unfold wildcardAttributeRemarks
  cases hwildcard : wildcard.filter (·.namespaces.admits name.namespaceName) with
  | none =>
    simp only [List.cons_ne_nil, false_iff, not_exists, not_and]
    intro w hw admitted
    simp [hw, admitted] at hwildcard
  | some w =>
    obtain ⟨rfl, admitted⟩ := Option.filter_eq_some_iff.1 hwildcard
    have only (P : Wildcard → Prop) : (∃ w', some w = some w' ∧
        w'.namespaces.admits name.namespaceName = true ∧ P w') ↔ P w := by
      simp [admitted]
    rw [only (·.Admits set name a.value)]
    dsimp only
    by_cases skip : w.process = .skip
    · rw [if_pos skip]
      exact iff_of_true rfl (.skipped skip)
    · rw [if_neg skip]
      cases known : set.attribute? name with
      | some declaration =>
        rw [Wildcard.admits_iff_of_known set skip known]
        exact attributeValueRemarks_eq_nil set name declaration a
      | none =>
        rw [Wildcard.admits_iff_of_unknown set skip known]
        dsimp only
        split
        · rename_i strict
          exact iff_of_false (List.cons_ne_nil _ _) (not_not_intro strict)
        · rename_i free
          exact iff_of_true rfl free

theorem attributeRemarks_eq_nil (type : EffectiveType) (name : QName) (a : NamedAttribute) :
    attributeRemarks set type name a = [] ↔ AttributeConforms set type name a.value := by
  unfold attributeRemarks
  cases found : type.attributes.find? (·.declaration.name == name) with
  | some use =>
    dsimp only
    rw [attributeValueRemarks_eq_nil]
    constructor
    · exact .declared found
    · intro h
      cases h with
      | declared found' admits =>
        rw [found] at found'
        cases found'
        exact admits
      | undeclared unused =>
        rw [found] at unused
        cases unused
  | none =>
    dsimp only
    rw [wildcardAttributeRemarks_eq_nil]
    constructor
    · rintro ⟨w, hw, inNamespace, admits⟩
      exact .undeclared found hw inNamespace admits
    · intro h
      cases h with
      | declared found' =>
        rw [found] at found'
        cases found'
      | undeclared _ hw inNamespace admits => exact ⟨_, hw, inNamespace, admits⟩

theorem attributesRemarks_eq_nil (type : EffectiveType) (attributes : List NamedAttribute)
    (nameOffset : Nat) :
    attributesRemarks set type attributes nameOffset = [] ↔
      AttributesConform set type attributes := by
  unfold attributesRemarks
  rw [List.append_eq_nil_iff, List.flatMap_eq_nil_iff, List.map_eq_nil_iff]
  have allowed : (∀ p ∈ checkedAttributes attributes, attributeRemarks set type p.1 p.2 = []) ↔
      ∀ a ∈ attributes, ∀ name, a.checkedName? = some name →
        AttributeConforms set type name a.value := by
    simp only [checkedAttributes, List.mem_filterMap, Option.map_eq_some_iff,
      attributeRemarks_eq_nil]
    constructor
    · intro h a ha name hname
      exact h (name, a) ⟨a, ha, name, hname, rfl⟩
    · rintro h _ ⟨a, ha, name, hname, rfl⟩
      exact h a ha name hname
  have complete : missingAttributes type attributes = [] ↔
      ∀ use ∈ type.attributes, use.isRequired = true →
        ∃ a ∈ attributes, a.name = some use.declaration.name := by
    simp only [missingAttributes, List.filter_eq_nil_iff, List.mem_map, List.mem_filter,
      Bool.not_eq_true, Bool.not_eq_false_eq_eq_true, List.any_eq_true, beq_iff_eq]
    constructor
    · intro h use huse required
      exact h _ ⟨use, ⟨huse, required⟩, rfl⟩
    · rintro h _ ⟨use, ⟨huse, required⟩, rfl⟩
      exact h use huse required
  rw [complete]
  exact ⟨fun h => ⟨allowed.1 h.1, h.2⟩, fun h => ⟨allowed.2 h.allowed, h.complete⟩⟩

theorem SchemaSet.SameComponents.attributesRemarks_eq {s t : SchemaSet}
    (h : SchemaSet.SameComponents s t) : attributesRemarks t = attributesRemarks s := by
  funext type attributes nameOffset
  simp only [attributesRemarks, attributeRemarks, wildcardAttributeRemarks, attributeValueRemarks,
    h.resolve_eq, h.attribute?_eq]

end Attributes

/-! ## Types of the set -/

/-- The set holds the complex type that stands in the declaration of a context. -/
def Context.HeldBy (set : SchemaSet) : Context → Prop
  | .declared declaration => set.HoldsTypeOf declaration
  | _ => True

/-- The set holds the types of all children that elements in the mode can have. -/
def Mode.HeldBy (set : SchemaSet) : Mode → Prop
  | .typed ⟨_, .elements matcher _, _, _⟩ => matcher.Over set.HoldsLeaf
  | _ => True

theorem EffectiveContent.heldBy_opened {set : SchemaSet} {content : EffectiveContent}
    (h : content.Over set.HoldsLeaf) {declaration : ElementDecl} {mixed isNil : Bool}
    {value : String} :
    (Mode.typed ⟨declaration, content.opened mixed, isNil, value⟩).HeldBy set := by
  cases content with
  | empty | simple => trivial
  | elements model => exact ContentMatcher.over_ofModel h

theorem Leaf.heldBy_context {set : SchemaSet} {leaf : Leaf} (h : set.HoldsLeaf leaf) :
    leaf.context.HeldBy set := by
  cases leaf with
  | element declaration => exact h
  | wildcard w =>
    obtain ⟨namespaces, process⟩ := w
    cases process <;> trivial

/-- What governs a child has a type of the set, if the parent is in such a mode; and the parent
stays in one. -/
theorem Mode.HeldBy.childContext {set : SchemaSet} {mode mode' : Mode} (h : mode.HeldBy set)
    {parent child : QName} {context : Context}
    (next : XmlSchema.childContext parent mode child = .ok (context, mode')) :
    context.HeldBy set ∧ mode'.HeldBy set := by
  cases mode with
  | lax | skip =>
    cases next
    exact ⟨trivial, trivial⟩
  | typed element =>
    obtain ⟨declaration, content, isNil, value⟩ := element
    unfold XmlSchema.childContext at next
    dsimp only at next
    split at next
    · cases next
    · cases content with
      | empty | simple => cases next
      | elements matcher mixed =>
        dsimp only at next
        split at next
        · rename_i leaf matcher' taken
          cases next
          obtain ⟨holds, stays⟩ := ContentMatcher.Over.step h taken
          exact ⟨Leaf.heldBy_context holds, stays⟩
        · cases next

theorem Mode.HeldBy.addText {set : SchemaSet} {element : TypedElement}
    (h : (Mode.typed element).HeldBy set) (name : QName) (value : String) (offset : Nat) :
    (Mode.typed (element.addText name value offset).1).HeldBy set := by
  obtain ⟨declaration, content, isNil, before⟩ := element
  unfold TypedElement.addText
  dsimp only
  split
  · exact h
  · cases content <;> exact h

/-- The type of an element is one of the set, whether it stands in the declaration or is named. -/
theorem SchemaSet.HoldsTypeOf.of_governingType {set : SchemaSet} {declaration : ElementDecl}
    (held : set.HoldsTypeOf declaration) {e : OpeningElement} {definition : ComplexType}
    (resolved : set.resolve (e.governingType set declaration).1 = some (.complex definition)) :
    set.Holds definition := by
  have declared (h : set.resolve (declaration.type.getD (.named (.schema "anyType"))) =
      some (.complex definition)) : set.Holds definition := by
    cases htype : declaration.type with
    | none =>
      rw [htype] at h
      exact holds_of_resolve_named h
    | some type =>
      rw [htype] at h
      cases type with
      | named name => exact holds_of_resolve_named h
      | complex type =>
        cases h
        exact held _ htype
      | simple type => cases h
  unfold OpeningElement.governingType at resolved
  dsimp only at resolved
  split at resolved
  · exact declared resolved
  · split at resolved
    · rename_i type hnamed
      obtain ⟨hnamed, -⟩ := Option.filter_eq_some_iff.1 hnamed
      obtain ⟨name, -, rfl⟩ := Option.map_eq_some_iff.1 hnamed
      exact holds_of_resolve_named resolved
    · exact declared resolved

/-! ## Opening elements -/

namespace OpeningElement

theorem governingType_eq {set t : SchemaSet} (same : SchemaSet.SameComponents set t)
    {declaration : ElementDecl} (e : OpeningElement) :
    e.governingType t declaration = e.governingType set declaration := by
  unfold governingType
  rw [same.resolve_eq]


variable (set : SchemaSet) (declaration : ElementDecl) (e : OpeningElement)

theorem hasType_iff (type : TypeRef) :
    e.HasType set declaration type ↔ e.governingType set declaration = (type, []) := by
  unfold governingType
  cases hattribute : e.instanceAttribute? "type" with
  | none =>
    constructor
    · intro h
      cases h with
      | declared => rfl
      | named h =>
        rw [hattribute] at h
        cases h
    · intro h
      cases h
      exact .declared hattribute
  | some a =>
    have names_type : e.HasType set declaration type ↔
        ∃ name, Scope.elementName? e.scopes (Text.trimString a.value) = some name ∧
          (set.resolve (.named name)).isSome = true ∧ type = .named name := by
      constructor
      · intro h
        cases h with
        | declared h =>
          rw [hattribute] at h
          cases h
        | named h hname known =>
          rw [hattribute] at h
          cases h
          exact ⟨_, hname, known, rfl⟩
      · rintro ⟨name, hname, known, rfl⟩
        exact .named hattribute hname known
    rw [names_type]
    dsimp only
    cases Scope.elementName? e.scopes (Text.trimString a.value) with
    | none => simp
    | some name =>
      by_cases known : (set.resolve (.named name)).isSome = true
      · simp only [Option.some.injEq, exists_eq_left', known, true_and, Option.map_some,
          Option.filter_some, ite_true, Prod.mk.injEq, and_true]
        exact eq_comm
      · rw [Option.map_some, Option.filter_some, if_neg known]
        simp [known]

/-- There is nothing to remark about being nil unless the declaration does not allow for it; then
the element is nil exactly if it says so. -/
theorem isNil_spec :
    ((e.isNil declaration).2 = [] ↔ (e.SaysNil → declaration.nillable = true)) ∧
      ((e.isNil declaration).2 = [] → ((e.isNil declaration).1 = true ↔ e.SaysNil)) := by
  unfold isNil SaysNil
  cases e.instanceAttribute? "nil" with
  | none => simp
  | some a =>
    have iff_contains : (∃ a', some a = some a' ∧ Text.trimString a'.value ∈ ["true", "1"]) ↔
        ["true", "1"].contains (Text.trimString a.value) = true := by
      rw [List.contains_iff_mem]
      exact ⟨fun ⟨_, heq, hvalue⟩ => Option.some.inj heq ▸ hvalue, fun hvalue => ⟨a, rfl, hvalue⟩⟩
    rw [iff_contains]
    dsimp only
    cases ["true", "1"].contains (Text.trimString a.value) <;> cases declaration.nillable <;> simp

/-- Judges an element whose type and whose being nil are settled. -/
def judgeType (type : TypeRef) (isNil : Bool) : Judgement × SchemaSet :=
  match set.resolve type with
  | none => ((.lax, []), set)
  | some (.complex definition) =>
    let (effective, set) := set.effectiveType definition
    if effective.isAbstract then ((.skip, [⟨.abstractElement e.name, e.nameOffset⟩]), set)
    else
      ((.typed ⟨declaration, openContent effective, isNil, ""⟩,
        attributesRemarks set effective e.attributes e.nameOffset), set)
  | some _ =>
    ((.typed ⟨declaration, .simple type, isNil, ""⟩,
      (checkedAttributes e.attributes).map fun (name, a) => ⟨.undeclaredAttribute name, a.offset⟩),
      set)

theorem judgeDeclared_eq (h : declaration.isAbstract = false) :
    e.judgeDeclared set declaration =
      let judged := e.judgeType set declaration (e.governingType set declaration).1
        (e.isNil declaration).1
      ((judged.1.1, (e.governingType set declaration).2 ++ (e.isNil declaration).2 ++ judged.1.2),
        judged.2) := by
  unfold judgeDeclared judgeType
  rw [if_neg (by simp [h])]
  dsimp only
  cases set.resolve (e.governingType set declaration).1 with
  | none => simp
  | some resolved =>
    cases resolved with
    | complex definition =>
      dsimp only
      split <;> rfl
    | simple | builtin => rfl

/-- There is nothing to remark when an element of a settled type opens, nor about its content in the
mode that it opens with, exactly if the element conforms to the type. -/
theorem conformsToType_iff {set t : SchemaSet} (same : SchemaSet.SameComponents set t)
    (remembers : t.Remembers) (declaration : ElementDecl) (e : OpeningElement) (type : TypeRef)
    (held : ∀ definition, set.resolve type = some (.complex definition) → set.Holds definition)
    {isNil : Bool} (hnil : isNil = true ↔ e.SaysNil) (offset : Nat) (content : ElementContent) :
    e.ConformsToType set declaration type (content.interior set e.scopes) ↔
      (e.judgeType t declaration type isNil).1.2 = [] ∧
        content.Passes set e.scopes e.name offset (e.judgeType t declaration type isNil).1.1 := by
  have passes (inside : EffectiveContent) (mixed : Bool) :
      e.InteriorConforms set declaration inside mixed (content.interior set e.scopes) ↔
        content.Passes set e.scopes e.name offset
          (.typed ⟨declaration, inside.opened mixed, isNil, ""⟩) := by
    rw [ElementContent.passes_typed, ← Bool.not_eq_true, hnil]
    rfl
  unfold ConformsToType judgeType
  rw [same.resolve_eq]
  cases resolved : set.resolve type with
  | none =>
    dsimp only
    rw [ElementContent.passes_lax, and_iff_right rfl]
  | some definition =>
    cases definition with
    | complex definition =>
      -- what `t` answers is what `set` computes, whether or not `t` remembers it
      obtain ⟨answer, asked⟩ := remembers.effectiveType (same.holds_iff.2 (held definition resolved))
      have same' := same.trans asked.same
      dsimp only
      rw [answer, same.flatten_eq]
      cases (set.flatten definition).isAbstract with
      | true => simp
      | false =>
        simp only [Bool.false_eq_true, ite_false, true_and]
        rw [same'.attributesRemarks_eq, attributesRemarks_eq_nil, openContent_eq, passes]
    | simple | builtin =>
      dsimp only
      rw [passes, List.map_eq_nil_iff, checkedAttributes, List.filterMap_eq_nil_iff]
      simp only [Option.map_eq_none_iff]
      rfl

section Judged

variable {set t : SchemaSet} (same : SchemaSet.SameComponents set t) (remembers : t.Remembers)

include same remembers

theorem conformsToDeclaration_iff {declaration : ElementDecl} (held : set.HoldsTypeOf declaration)
    (e : OpeningElement) (offset : Nat) (content : ElementContent) :
    e.ConformsToDeclaration set declaration (content.interior set e.scopes) ↔
      (e.judgeDeclared t declaration).1.2 = [] ∧
        content.Passes set e.scopes e.name offset (e.judgeDeclared t declaration).1.1 := by
  unfold ConformsToDeclaration
  cases habstract : declaration.isAbstract with
  | true => simp [judgeDeclared, habstract]
  | false =>
    obtain ⟨allowed, says_nil⟩ := e.isNil_spec declaration
    rw [judgeDeclared_eq t declaration e habstract, e.governingType_eq same]
    dsimp only
    rw [List.append_eq_nil_iff, List.append_eq_nil_iff, and_iff_right rfl]
    constructor
    · rintro ⟨nillable, type, hasType, conforms⟩
      rw [hasType_iff] at hasType
      have nil_ok := allowed.2 nillable
      rw [conformsToType_iff same remembers declaration e type
        (fun _ resolved => held.of_governingType (by rwa [hasType])) (says_nil nil_ok) offset]
        at conforms
      rw [hasType]
      exact ⟨⟨⟨rfl, nil_ok⟩, conforms.1⟩, conforms.2⟩
    · rintro ⟨⟨⟨type_ok, nil_ok⟩, remarks⟩, passes⟩
      refine ⟨allowed.1 nil_ok, (e.governingType set declaration).1, ?_, ?_⟩
      · rw [hasType_iff, ← type_ok]
      · rw [conformsToType_iff same remembers declaration e _
          (fun _ => held.of_governingType) (says_nil nil_ok) offset]
        exact ⟨remarks, passes⟩

/-- There is nothing to remark when an element opens in a context, nor about its content in the mode
that it opens with, exactly if the element conforms in the context. -/
theorem conformsIn_iff {context : Context} (held : context.HeldBy set) (e : OpeningElement)
    (offset : Nat) (content : ElementContent) :
    e.ConformsIn set (content.interior set e.scopes) context ↔
      (e.judge t context).1.2 = [] ∧
        content.Passes set e.scopes e.name offset (e.judge t context).1.1 := by
  have found {declaration : ElementDecl} (h : set.element? e.name = some declaration) :=
    conformsToDeclaration_iff same remembers (SchemaSet.holdsTypeOf_of_element? h) e offset content
  have lax := content.passes_lax set e.scopes e.name offset
  cases context with
  | skip => exact iff_of_true trivial ⟨rfl, content.passes_skip set e.scopes e.name offset⟩
  | declared declaration => exact conformsToDeclaration_iff same remembers held e offset content
  | lax =>
    unfold ConformsIn judge
    rw [same.element?_eq]
    cases known : set.element? e.name with
    | some declaration => exact found known
    | none =>
      dsimp only
      unfold judgeUndeclared
      rw [same.isEmpty_eq]
      cases set.isEmpty with
      | true => simpa using lax.symm
      | false =>
        simp only [Bool.false_eq_true, ite_false, false_and, false_iff, not_and]
        split <;> simp
  | strictWildcard =>
    unfold ConformsIn judge
    rw [same.element?_eq]
    cases known : set.element? e.name with
    | some declaration => simpa using found known
    | none => simp
  | laxWildcard =>
    unfold ConformsIn judge
    rw [same.element?_eq]
    cases known : set.element? e.name with
    | some declaration => exact found known
    | none => simpa using lax.symm

theorem asked_judgeDeclared {declaration : ElementDecl} (held : set.HoldsTypeOf declaration)
    (e : OpeningElement) :
    t.Asked (e.judgeDeclared t declaration).2 ∧
      (e.judgeDeclared t declaration).1.1.HeldBy set := by
  cases habstract : declaration.isAbstract with
  | true =>
    rw [judgeDeclared, if_pos habstract]
    exact ⟨.refl remembers, trivial⟩
  | false =>
    rw [judgeDeclared_eq t declaration e habstract, e.governingType_eq same]
    dsimp only
    unfold judgeType
    rw [same.resolve_eq]
    cases resolved : set.resolve (e.governingType set declaration).1 with
    | none => exact ⟨.refl remembers, trivial⟩
    | some definition =>
      cases definition with
      | simple | builtin => exact ⟨.refl remembers, trivial⟩
      | complex definition =>
        have holds := held.of_governingType resolved
        obtain ⟨answer, asked⟩ := remembers.effectiveType (same.holds_iff.2 holds)
        dsimp only
        rw [answer, same.flatten_eq, openContent_eq]
        split
        · exact ⟨asked, trivial⟩
        · exact ⟨asked, EffectiveContent.heldBy_opened (SchemaSet.over_flatten holds)⟩

/-- Judging an element changes nothing in the set but what it remembers, and gives a mode in which
the set holds the types of all children. -/
theorem asked_judge {context : Context} (held : context.HeldBy set) (e : OpeningElement) :
    t.Asked (e.judge t context).2 ∧ (e.judge t context).1.1.HeldBy set := by
  have found {declaration : ElementDecl} (h : t.element? e.name = some declaration) :
      t.Asked (e.judgeDeclared t declaration).2 ∧
        (e.judgeDeclared t declaration).1.1.HeldBy set := by
    rw [same.element?_eq] at h
    exact asked_judgeDeclared same remembers (SchemaSet.holdsTypeOf_of_element? h) e
  unfold judge
  split
  · exact ⟨.refl remembers, trivial⟩
  · exact asked_judgeDeclared same remembers held e
  · split
    · rename_i known
      exact found known
    · refine ⟨.refl remembers, ?_⟩
      unfold judgeUndeclared
      repeat' split
      all_goals trivial
  all_goals
    split
    · rename_i known
      exact found known
    · exact ⟨.refl remembers, trivial⟩

end Judged

end OpeningElement

end XmlSchema
