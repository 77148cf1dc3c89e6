import Mathlib.Data.List.Basic
import XmlSchema.Proofs.SchemaSet.Remembering

/-!
# The index of a set

A set finds its documents through an index by target namespace.  The index of a set that comes about
is the one that its documents give when they are added to a new set (`SchemaSet.Indexed`,
`SchemaSet.Reachable.indexed`).  It has the places of the documents of each namespace in ascending
order (`SchemaSet.Indexed.indices?_eq`), so that a lookup gives what the first document with the
right namespace has (`SchemaSet.Indexed.find_eq`).
-/

namespace XmlSchema

namespace SchemaSet

variable {s : SchemaSet} {d : SchemaDocument}

/-! ## Sets of documents -/

/-- The set with the given documents, added in order to a new one. -/
def ofDocuments (ds : List SchemaDocument) : SchemaSet := ds.foldl addDocument {}

theorem ofDocuments_append_singleton (ds : List SchemaDocument) (d : SchemaDocument) :
    ofDocuments (ds ++ [d]) = (ofDocuments ds).addDocument d := by
  unfold ofDocuments
  rw [List.foldl_append]
  rfl

theorem documents_foldl_addDocument (ds : List SchemaDocument) (s : SchemaSet) :
    (ds.foldl addDocument s).documents.toList = s.documents.toList ++ ds := by
  induction ds generalizing s with
  | nil => rw [List.foldl_nil, List.append_nil]
  | cons d ds ih =>
    have pushed : (s.addDocument d).documents.toList = s.documents.toList ++ [d] :=
      Array.toList_push
    rw [List.foldl_cons, ih, pushed, List.append_assoc, List.singleton_append]

theorem documents_ofDocuments (ds : List SchemaDocument) :
    (ofDocuments ds).documents = ds.toArray :=
  Array.toList_inj.1 (documents_foldl_addDocument ds {})

/-! ## The index of documents -/

/-- The places of the documents with the given target namespace, in ascending order. -/
def places (ds : List SchemaDocument) (namespaceName : String) : List Nat :=
  ds.findIdxs (·.targetNamespace == namespaceName)

theorem find?_addIndex (added sought : String) (index : Nat)
    (entries : List (String × List Nat)) :
    ((addIndex added index entries).find? (·.1 == sought)).map Prod.snd =
      if added = sought then
        some (((entries.find? (·.1 == sought)).map Prod.snd).getD [] ++ [index])
      else (entries.find? (·.1 == sought)).map Prod.snd := by
  induction entries with
  | nil => by_cases h : added = sought <;> simp [addIndex, h]
  | cons entry entries ih =>
    obtain ⟨name, indices⟩ := entry
    unfold addIndex
    by_cases hname : name = added
    · rw [if_pos hname]
      by_cases h : added = sought <;> simp [hname, h]
    · rw [if_neg hname]
      by_cases hsought : name = sought
      · have h : ¬ added = sought := fun h => hname (hsought.trans h.symm)
        simp [hsought, h]
      · simpa [hsought] using ih

theorem indices?_addDocument (s : SchemaSet) (d : SchemaDocument) (namespaceName : String) :
    (s.addDocument d).indices? namespaceName =
      if d.targetNamespace = namespaceName then
        some ((s.indices? namespaceName).getD [] ++ [s.documents.size])
      else s.indices? namespaceName :=
  find?_addIndex d.targetNamespace namespaceName s.documents.size s.byNamespace

theorem indices?_foldl_addDocument (namespaceName : String) (ds : List SchemaDocument)
    (s : SchemaSet) :
    (ds.foldl addDocument s).indices? namespaceName =
      if ds.any (·.targetNamespace == namespaceName) then
        some ((s.indices? namespaceName).getD [] ++
          ds.findIdxs (·.targetNamespace == namespaceName) s.documents.size)
      else s.indices? namespaceName := by
  -- the places are counted from the documents that are there already
  induction ds generalizing s with
  | nil => simp
  | cons d ds ih =>
    have size : (s.addDocument d).documents.size = s.documents.size + 1 := Array.size_push _
    rw [List.foldl_cons, ih, indices?_addDocument, size]
    by_cases h : d.targetNamespace = namespaceName
    · by_cases later : ds.any (·.targetNamespace == namespaceName) = true
      · simp [h, later]
      · have none_later : ds.findIdxs (·.targetNamespace == namespaceName)
            (s.documents.size + 1) = [] := by
          simpa [List.findIdxs_eq_nil_iff] using later
        simp [h, later, none_later]
    · simp [h]

/-- A namespace has the places of its documents in the index, and is not there if it has none. -/
theorem indices?_ofDocuments (ds : List SchemaDocument) (namespaceName : String) :
    (ofDocuments ds).indices? namespaceName =
      if ds.any (·.targetNamespace == namespaceName) then some (places ds namespaceName)
      else none :=
  indices?_foldl_addDocument namespaceName ds {}

/-- What `pick` finds in the first of the documents for the namespace that has one. -/
def firstOf {α : Type} (ds : List SchemaDocument) (namespaceName : String)
    (pick : SchemaDocument → Option α) : Option α :=
  ds.findSome? fun d => if d.targetNamespace = namespaceName then pick d else none

theorem findSome?_places {α : Type} (namespaceName : String) (pick : SchemaDocument → Option α)
    (ds : List SchemaDocument) :
    (places ds namespaceName).findSome? (fun index => (ds[index]?).bind pick) =
      firstOf ds namespaceName pick := by
  induction ds with
  | nil => rfl
  | cons d ds ih =>
    -- behind the first document, all places are one further on
    have later : (ds.findIdxs (·.targetNamespace == namespaceName) (0 + 1)).findSome?
        (fun index => ((d :: ds)[index]?).bind pick) =
        (places ds namespaceName).findSome? fun index => (ds[index]?).bind pick := by
      rw [List.findIdxs_start, List.findSome?_map]
      rfl
    unfold places firstOf
    rw [List.findIdxs_cons, List.findSome?_cons]
    by_cases h : d.targetNamespace = namespaceName
    · rw [if_pos (by simpa using h), if_pos h, List.findSome?_cons, later, ih]
      rfl
    · rw [if_neg (by simpa using h), if_neg h, later, ih]
      rfl

/-- A lookup gives what the first document with the right namespace has. -/
theorem find_ofDocuments {α : Type} (ds : List SchemaDocument) (namespaceName : String)
    (pick : SchemaDocument → Option α) :
    (ofDocuments ds).find namespaceName pick = firstOf ds namespaceName pick := by
  unfold find
  rw [indices?_ofDocuments, documents_ofDocuments, ← findSome?_places]
  by_cases h : ds.any (·.targetNamespace == namespaceName) = true
  · rw [if_pos h]
    simp
  · have none_there : places ds namespaceName = [] := by
      simpa [places, List.findIdxs_eq_nil_iff] using h
    rw [if_neg h, none_there]
    rfl

/-! ## Sets that come about -/

/-- The index is the one that the documents give. -/
def Indexed (s : SchemaSet) : Prop :=
  s.byNamespace = (ofDocuments s.documents.toList).byNamespace

theorem Indexed.same (h : s.Indexed) : SameComponents (ofDocuments s.documents.toList) s := by
  refine ⟨?_, h⟩
  rw [documents_ofDocuments, Array.toArray_toList]

theorem Indexed.insertOne (h : s.Indexed) (source : SchemaSource) (d : SchemaDocument) :
    (s.insertOne source d).Indexed := by
  have same := sameDocuments_insertOne s source d
  have documents_eq : (s.insertOne source d).documents.toList = s.documents.toList ++ [d] := by
    rw [documents_insertOne, Array.toList_push]
  have size_eq : (ofDocuments s.documents.toList).documents.size = s.documents.size := by
    rw [documents_ofDocuments, List.size_toArray, Array.length_toList]
  unfold Indexed
  rw [documents_eq, ofDocuments_append_singleton, congrArg byNamespace same]
  unfold addDocument
  dsimp only
  rw [size_eq, ← show s.byNamespace = _ from h]

theorem Reachable.indexed (h : s.Reachable) : s.Indexed := by
  refine h.preserves (P := Indexed) rfl (fun s b h => ?_) (fun _ h => h) (fun _ _ h => h)
    (fun _ _ _ h => h) (fun _ source d h => h.insertOne source d) (fun s type _ h => ?_)
  · unfold SchemaSet.add
    split <;> exact h
  · unfold SchemaSet.effectiveType
    split <;> exact h

namespace Indexed

variable (h : s.Indexed) (namespaceName : String)

include h

theorem indices?_eq :
    s.indices? namespaceName =
      if s.documents.toList.any (·.targetNamespace == namespaceName) then
        some (places s.documents.toList namespaceName)
      else none := by
  rw [← indices?_ofDocuments]
  unfold indices?
  rw [h.same.byNamespace]

theorem indices?_eq_none_iff :
    s.indices? namespaceName = none ↔ ∀ d ∈ s.documents, d.targetNamespace ≠ namespaceName := by
  rw [h.indices?_eq, ite_eq_right_iff]
  simp [-Array.any_toList]

theorem indices_spec (indices : List Nat) (found : s.indices? namespaceName = some indices) :
    indices ≠ [] ∧ indices.Pairwise (· < ·) ∧
      ∀ i, i ∈ indices ↔ ∃ d, s.documents[i]? = some d ∧ d.targetNamespace = namespaceName := by
  rw [h.indices?_eq] at found
  split at found
  · rename_i present
    obtain rfl := Option.some.inj found
    refine ⟨?_, List.pairwise_findIdxs, fun i => ?_⟩
    · unfold places
      rw [ne_eq, List.findIdxs_eq_nil_iff]
      simpa [-Array.any_toList] using present
    · unfold places
      rw [List.mem_findIdxs_iff_exists_getElem_pos]
      simp [Array.getElem?_eq_some_iff]
  · cases found

theorem hasNamespace_iff :
    s.hasNamespace namespaceName = true ↔ ∃ d ∈ s.documents, d.targetNamespace = namespaceName := by
  unfold hasNamespace
  rw [h.indices?_eq, Option.isSome_ite, List.any_eq_true]
  simp only [Array.mem_toList_iff, beq_iff_eq]

theorem find_eq {α : Type} (pick : SchemaDocument → Option α) :
    s.find namespaceName pick = firstOf s.documents.toList namespaceName pick := by
  rw [h.same.find_eq, find_ofDocuments]

end Indexed

end SchemaSet

end XmlSchema
