import XmlSchema.Proofs.Path
import XmlSchema.Proofs.SchemaSet.Loading

/-!
# Spellings of paths

A path can be written in several ways.  How the path of a document is written has an effect on
how it names other files, and on nothing else (`SchemaDocument.exists_read_same`).
-/

namespace XmlSchema

namespace SchemaDocument

variable {c d e : SchemaDocument}

/-- The document without its paths. -/
def withoutPaths (d : SchemaDocument) : SchemaDocument :=
  { d with location := ⟨[]⟩, includes := [], imports := [] }

/-- The documents differ at most in how their paths are written. -/
structure Same (d e : SchemaDocument) : Prop where
  location : d.location.Same e.location
  includes : d.includes.map Path.components = e.includes.map Path.components
  imports :
    d.imports.map (Prod.map id Path.components) = e.imports.map (Prod.map id Path.components)
  others : d.withoutPaths = e.withoutPaths

theorem Same.symm (h : d.Same e) : e.Same d :=
  ⟨h.location.symm, h.includes.symm, h.imports.symm, h.others.symm⟩

theorem Same.trans (h : c.Same d) (h' : d.Same e) : c.Same e :=
  ⟨h.location.trans h'.location, h.includes.trans h'.includes, h.imports.trans h'.imports,
    h.others.trans h'.others⟩

theorem Same.targetNamespace (h : d.Same e) : d.targetNamespace = e.targetNamespace :=
  calc d.targetNamespace = d.withoutPaths.targetNamespace := rfl
    _ = e.withoutPaths.targetNamespace := by rw [h.others]
    _ = e.targetNamespace := rfl

/-- If the first result is a document, then so is the second, with paths that may be written in
another way. -/
def Parallel (r r' : ReadResult SchemaDocument) : Prop :=
  ∀ d, r = .ok d → ∃ e, r' = .ok e ∧ d.Same e

theorem parallel_ok (h : d.Same e) : Parallel (.ok d) (.ok e) := by
  rintro _ ⟨⟩
  exact ⟨e, rfl, h⟩

theorem parallel_bind {α : Type} {x : ReadResult α} {f g : α → ReadResult SchemaDocument}
    (h : ∀ a, Parallel (f a) (g a)) : Parallel (x >>= f) (x >>= g) := by
  cases x with
  | error fault =>
    intro d hd
    cases hd
  | ok a => exact h a

/-- A document refers to the same files, however its own path is written. -/
theorem referencedPath?_same {p q : Path} (h : p.Same q) (x : Xml.Element) :
    (SchemaContext.referencedPath? p x).toList.map Path.components =
      (SchemaContext.referencedPath? q x).toList.map Path.components := by
  unfold SchemaContext.referencedPath?
  cases x.attribute? "schemaLocation" with
  | none => rw [Option.bind_none, Option.bind_none]
  | some value =>
    have joined := h.parent.join
    rw [Option.bind_some, Option.bind_some]
    generalize p.parent?.getD ⟨[]⟩ = base at joined ⊢
    generalize q.parent?.getD ⟨[]⟩ = base' at joined ⊢
    unfold SchemaLocation.ofText
    generalize Text.trimString value = location
    dsimp only
    by_cases remote : ("http://".toList.isPrefixOf location.toList ||
        "https://".toList.isPrefixOf location.toList) = true
    · rw [if_pos remote, if_pos remote]
    · rw [if_neg remote, if_neg remote]
      cases fileUriPath? location with
      | some path => rfl
      | none => exact congrArg (fun components => [components]) (joined (.ofText location))

theorem parallel_addComponent (h : d.Same e) (context : SchemaContext) (depth : Nat)
    (x : Xml.Element) :
    Parallel (context.addComponent depth d x) (context.addComponent depth e x) := by
  have kept (f : SchemaDocument → SchemaDocument)
      (hf : ∀ c, (f c).location = c.location ∧ (f c).includes = c.includes ∧
        (f c).imports = c.imports ∧ (f c).withoutPaths = f c.withoutPaths) :
      Parallel (.ok (f d)) (.ok (f e)) := by
    obtain ⟨location, includes, imports, others⟩ := hf d
    obtain ⟨location', includes', imports', others'⟩ := hf e
    refine parallel_ok ⟨?_, ?_, ?_, ?_⟩
    · rw [location, location']
      exact h.location
    · rw [includes, includes', h.includes]
    · rw [imports, imports', h.imports]
    · rw [others, others', h.others]
  unfold SchemaContext.addComponent
  split
  case h_1 =>
    exact parallel_bind fun decl => kept (fun c => { c with
      elements := Table.insert c.elements decl.name.localName decl }) fun _ => ⟨rfl, rfl, rfl, rfl⟩
  case h_2 =>
    exact parallel_bind fun decl => kept (fun c => { c with
      attributes := Table.insert c.attributes decl.name.localName decl })
      fun _ => ⟨rfl, rfl, rfl, rfl⟩
  case h_3 =>
    exact parallel_bind fun name => parallel_bind fun type => kept (fun c => { c with
      types := Table.insert c.types name (.complex type) }) fun _ => ⟨rfl, rfl, rfl, rfl⟩
  case h_4 =>
    exact parallel_bind fun name => parallel_bind fun type => kept (fun c => { c with
      types := Table.insert c.types name (.simple type) }) fun _ => ⟨rfl, rfl, rfl, rfl⟩
  case h_5 =>
    refine parallel_bind fun name => ?_
    have grouped (particle : Particle ElementDecl) := kept (fun c => { c with
      groups := Table.insert c.groups name particle }) fun _ => ⟨rfl, rfl, rfl, rfl⟩
    split <;> exact parallel_bind grouped
  case h_6 =>
    exact parallel_bind fun name => parallel_bind fun group => kept (fun c => { c with
      attributeGroups := Table.insert c.attributeGroups name group })
      fun _ => ⟨rfl, rfl, rfl, rfl⟩
  case h_7 | h_8 =>
    refine parallel_ok ⟨h.location, ?_, h.imports, h.others⟩
    rw [List.map_append, List.map_append, h.includes, referencedPath?_same h.location]
  case h_9 =>
    have named (name : String) (paths : List Path) :
        (paths.map fun path => (name, path)).map (Prod.map id Path.components) =
          (paths.map Path.components).map (name, ·) := by
      rw [List.map_map, List.map_map]
      rfl
    refine parallel_ok ⟨h.location, h.includes, ?_, h.others⟩
    rw [List.map_append, List.map_append, h.imports, named, named,
      referencedPath?_same h.location]
  case h_10 => exact parallel_ok h

theorem parallel_foldlM (h : d.Same e) (context : SchemaContext) (depth : Nat)
    (xs : List Xml.Element) :
    Parallel (xs.foldlM (context.addComponent depth) d)
      (xs.foldlM (context.addComponent depth) e) := by
  induction xs generalizing d e with
  | nil => exact parallel_ok h
  | cons x xs ih =>
    intro d' hd'
    rw [List.foldlM_cons] at hd' ⊢
    cases hstep : context.addComponent depth d x with
    | error fault =>
      rw [hstep] at hd'
      cases hd'
    | ok d₁ =>
      obtain ⟨e₁, hstep', same⟩ := parallel_addComponent h context depth x d₁ hstep
      rw [hstep] at hd'
      rw [hstep']
      exact ih same d' hd'

theorem parallel_ofElement {p q : Path} (h : p.Same q) (identity : DocumentId)
    (root : Xml.Element) :
    Parallel (ofElement identity root p) (ofElement identity root q) := by
  have start (name : String) : Same { targetNamespace := name, identity, location := p }
      { targetNamespace := name, identity, location := q } := ⟨h, rfl, rfl, rfl⟩
  unfold ofElement
  split
  · exact parallel_foldlM (start _) _ _ _
  · intro _ wrong
    cases wrong

/-- A text that is a document is one however its path is written. -/
theorem exists_read_same {text : String} {p q : Path} (h : p.Same q) (hd : read text p = .ok d) :
    ∃ e, read text q = .ok e ∧ d.Same e := by
  unfold read readAs at hd ⊢
  dsimp only at hd ⊢
  -- the identity of a document does not depend on the spelling
  rw [← show p.components = q.components from h]
  generalize Xml.readTree text.toList = tree at hd ⊢
  cases tree with
  | error fault => cases hd
  | ok root =>
    dsimp only at hd ⊢
    cases hread : ofElement (.file p.components) root p with
    | error fault =>
      rw [hread] at hd
      cases hd
    | ok document =>
      rw [hread] at hd
      cases hd
      obtain ⟨e, hread', same⟩ := parallel_ofElement h _ root d hread
      rw [hread']
      exact ⟨e, rfl, same⟩

/-- The document includes or imports a file by this path. -/
def Names (d : SchemaDocument) (path : Path) : Prop :=
  path ∈ d.includes ∨ ∃ name, (name, path) ∈ d.imports

theorem Same.exists_names (h : d.Same e) {path : Path} (hpath : d.Names path) :
    ∃ path', e.Names path' ∧ path.Same path' := by
  rcases hpath with hpath | ⟨name, hpath⟩
  · have mem := List.mem_map_of_mem (f := Path.components) hpath
    rw [h.includes] at mem
    obtain ⟨path', hpath', same⟩ := List.mem_map.1 mem
    exact ⟨path', .inl hpath', same.symm⟩
  · have mem := List.mem_map_of_mem (f := Prod.map id Path.components) hpath
    rw [h.imports] at mem
    obtain ⟨⟨name', path'⟩, hpath', same⟩ := List.mem_map.1 mem
    exact ⟨path', .inr ⟨name', hpath'⟩, (congrArg Prod.snd same).symm⟩

theorem mem_references {path : Path} {includedBy : Option String} :
    (path, includedBy) ∈ SchemaSet.references d ↔
      (path ∈ d.includes ∧ includedBy = some d.targetNamespace) ∨
        (∃ name, (name, path) ∈ d.imports) ∧ includedBy = none := by
  unfold SchemaSet.references
  rw [List.mem_append, List.mem_map, List.mem_map]
  constructor
  · rintro (⟨_, h, ⟨⟩⟩ | ⟨⟨name, _⟩, h, ⟨⟩⟩)
    · exact .inl ⟨h, rfl⟩
    · exact .inr ⟨⟨name, h⟩, rfl⟩
  · rintro (⟨h, rfl⟩ | ⟨⟨name, h⟩, rfl⟩)
    · exact .inl ⟨path, h, rfl⟩
    · exact .inr ⟨(name, path), h, rfl⟩

theorem Names.refersTo {path : Path} (h : d.Names path) : d.RefersTo path := by
  rcases h with h | h
  · exact ⟨_, mem_references.2 (.inl ⟨h, rfl⟩), .refl path⟩
  · exact ⟨_, mem_references.2 (.inr ⟨h, rfl⟩), .refl path⟩

end SchemaDocument

end XmlSchema
