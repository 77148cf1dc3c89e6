import Mathlib.Data.List.Pairwise
import XmlSchema.Proofs.Component.Identity
import XmlSchema.Proofs.SchemaSet.Closure

/-!
# Where the documents of a set come from

A document was obtained from a file or stood inside an instance document.  No file is obtained
twice, and schemas inside instance documents are numbered (`SchemaSet.Reachable.identified`).  So
the documents of a set are told apart by their identities, and with them the complex types that the
set holds (`SchemaSet.Reachable.eq_of_identity_eq`).
-/

namespace XmlSchema

namespace SchemaSet

variable {source : SchemaSource} {P : SchemaDocument → Prop} {s : SchemaSet}
  {ds es : List SchemaDocument} {d : SchemaDocument}

/-! ## Documents from files -/

/-- The document is what the source has at its location. -/
def Provides (source : SchemaSource) (d : SchemaDocument) : Prop :=
  source.document? d.location = some d

/-- The documents were obtained from files, no two of them from the same file, and none of these
files will be loaded again.  What is known of documents from files is `P`. -/
structure Sourced (P : SchemaDocument → Prop) (s : SchemaSet) (ds : List SchemaDocument) :
    Prop where
  obtained : ∀ d ∈ ds, P d
  marked : ∀ d ∈ ds, s.isLoaded d.location = true
  distinct : ds.Pairwise fun d e => ¬ d.location.Same e.location

namespace Sourced

theorem perm (h : Sourced P s ds) (same : ds.Perm es) : Sourced P s es where
  obtained d hd := h.obtained d (same.mem_iff.2 hd)
  marked d hd := h.marked d (same.mem_iff.2 hd)
  distinct := (same.pairwise_iff fun not_same same => not_same same.symm).1 h.distinct

theorem sublist (h : Sourced P s ds) (sub : es.Sublist ds) : Sourced P s es where
  obtained d hd := h.obtained d (sub.subset hd)
  marked d hd := h.marked d (sub.subset hd)
  distinct := h.distinct.sublist sub

theorem mono {t : SchemaSet} (h : Sourced P s ds)
    (kept : ∀ p, s.isLoaded p = true → t.isLoaded p = true) : Sourced P t ds where
  obtained := h.obtained
  marked d hd := kept d.location (h.marked d hd)
  distinct := h.distinct

/-- A document from a file that was not met before is different from all others. -/
theorem cons {t : SchemaSet} (h : Sourced P s ds) (new : s.isLoaded d.location = false)
    (found : P d) (met : t.isLoaded d.location = true)
    (kept : ∀ p, s.isLoaded p = true → t.isLoaded p = true) : Sourced P t (d :: ds) where
  obtained := List.forall_mem_cons.2 ⟨found, h.obtained⟩
  marked := List.forall_mem_cons.2 ⟨met, (h.mono kept).marked⟩
  distinct := by
    refine List.pairwise_cons.2 ⟨fun e he same => ?_, h.distinct⟩
    have marked := isLoaded_of_same (h.marked e he) same.symm
    rw [new] at marked
    cases marked

section Loading

variable (provided : ∀ d, Provides source d → P d)

include provided

theorem loadReferenced (h : Sourced P s ds) (path : Path) (includedBy : Option String) :
    Sourced P (s.loadReferenced source path includedBy).2
      ((s.loadReferenced source path includedBy).1.toList ++ ds) := by
  rcases loadReferenced_cases s source path includedBy with ⟨-, same⟩ | ⟨visits, finds⟩
  · rwa [same]
  · have kept (p : Path) (hp : s.isLoaded p = true) :
        (s.loadReferenced source path includedBy).2.isLoaded p = true :=
      (visits.marks p).2 (.inl hp)
    generalize s.loadReferenced source path includedBy = result at visits finds kept ⊢
    obtain ⟨found, t⟩ := result
    cases found with
    | none => exact h.mono kept
    | some d =>
      have hd := ((finds d).1 rfl).1
      obtain rfl := SchemaSource.location_of_document? hd
      exact h.cons visits.new (provided d hd) ((visits.marks _).2 (.inr (.refl _))) kept

theorem loadReferences (references : List (Path × Option String)) (found : List SchemaDocument)
    (h : Sourced P s (found ++ ds)) :
    Sourced P (loadReferences source references found s).2
      ((loadReferences source references found s).1 ++ ds) := by
  induction references generalizing found s with
  | nil => exact h
  | cons reference references ih =>
    have first := h.loadReferenced provided reference.1 reference.2
    rw [← List.append_assoc] at first
    exact ih _ first

/-- When a document is added, the ones that it refers to are obtained. -/
theorem insertOne (h : Sourced P (s.markLoaded d.location) ds) :
    Sourced P (s.insertOne source d) (newReferences source d s ++ ds) := by
  have referred := loadReferences provided (references d) [] h
  exact ⟨referred.obtained, referred.marked, referred.distinct⟩

/-- The documents that are added from a stack were obtained from the source if those on the stack
were. -/
theorem insertAll (fuel : Nat) {stack : List SchemaDocument} (h : Sourced P s (ds ++ stack)) :
    ∃ added, (insertAll source fuel stack s).documents.toList = s.documents.toList ++ added ∧
      Sourced P (insertAll source fuel stack s) (ds ++ added) := by
  induction fuel generalizing stack s ds with
  | zero =>
    refine ⟨[], (List.append_nil _).symm, h.sublist ?_⟩
    rw [List.append_nil]
    exact List.sublist_append_left ds stack
  | succ fuel ih =>
    cases stack with
    | nil => exact ⟨[], (List.append_nil _).symm, h⟩
    | cons d stack =>
      have next := (h.mono (t := s.markLoaded d.location)
        fun p hp => isLoaded_markLoaded.2 (.inl hp)).insertOne provided
      -- the document leaves the stack, and those that it refers to are put there
      have moved : (newReferences source d s ++ (ds ++ d :: stack)).Perm
          ((ds ++ [d]) ++ (newReferences source d s ++ stack)) := by
        rw [List.append_cons ds]
        exact List.perm_append_comm_assoc _ _ _
      obtain ⟨added, documents_eq, sourced⟩ := ih (next.perm moved)
      rw [insertAll_cons]
      refine ⟨d :: added, ?_, ?_⟩
      · refine documents_eq.trans ?_
        rw [documents_insertOne, Array.toList_push, List.append_assoc, List.singleton_append]
      · rwa [List.append_assoc] at sourced

theorem insert (h : Sourced P (s.markLoaded d.location) ds) :
    ∃ added, (s.insert source d).documents.toList = s.documents.toList ++ d :: added ∧
      Sourced P (s.insert source d) (ds ++ added) := by
  obtain ⟨added, documents_eq, sourced⟩ :=
    insertAll provided source.support.length ((h.insertOne provided).perm List.perm_append_comm)
  have first : s.insert source d = SchemaSet.insertAll source source.support.length
      (newReferences source d s) (s.insertOne source d) :=
    (insertAll_cons source.support.length []).trans (by rw [List.append_nil]; rfl)
  rw [first]
  refine ⟨added, documents_eq.trans ?_, sourced⟩
  rw [documents_insertOne, Array.toList_push, List.append_assoc, List.singleton_append]

end Loading

end Sourced

/-! ## Loading and adding -/

/-- Loading a binding asks for a file at most; only if that file was not met before and has a
document, this is added. -/
theorem loadBinding_cases (s : SchemaSet) (source : SchemaSource) (b : Binding) :
    (∃ requests, (s.loadBinding source b).2 = { s with requests }) ∨
      ∃ d, s.isLoaded b.location = false ∧ source.document? b.location = some d ∧
        s.loadBinding source b = (.ok (), (s.request source b.location).2.insert source d) := by
  unfold loadBinding
  dsimp only
  split
  · split <;> exact .inl ⟨s.requests, rfl⟩
  · rename_i unmet
    split
    · exact .inl ⟨_, rfl⟩
    · rename_i d hd
      split
      · exact .inl ⟨_, rfl⟩
      · exact .inr ⟨d, by simpa using unmet, request_eq_ok_iff.1 hd, rfl⟩

theorem addInline_cases (s : SchemaSet) (source : SchemaSource) (text : String) :
    (∃ e, s.addInline source text = (.error e, { s with inlineCount := s.inlineCount + 1 })) ∨
      ∃ d, (∃ path, SchemaDocument.readAs (.inline (s.inlineCount + 1)) text path = .ok d) ∧
        s.addInline source text =
          (.ok (), insert { s with inlineCount := s.inlineCount + 1 } source d) := by
  unfold addInline
  dsimp only
  split
  · exact .inl ⟨_, rfl⟩
  · rename_i d hd
    exact .inr ⟨d, ⟨_, hd⟩, rfl⟩

namespace Sourced

variable (provided : ∀ d, Provides source d → P d)

include provided

theorem loadBinding (h : Sourced P s ds) (b : Binding) :
    ∃ added, (s.loadBinding source b).2.documents.toList = s.documents.toList ++ added ∧
      Sourced P (s.loadBinding source b).2 (ds ++ added) := by
  rcases loadBinding_cases s source b with ⟨requests, same⟩ | ⟨d, new, found, loaded⟩
  · rw [same]
    refine ⟨[], (List.append_nil _).symm, ?_⟩
    rw [List.append_nil]
    exact { h with }
  · have location := SchemaSource.location_of_document? found
    rw [← location] at new found
    have asked : Sourced P (s.request source b.location).2 ds := { h with }
    -- the document of the binding is marked only when it is added
    have first := asked.cons (t := (s.request source b.location).2.markLoaded d.location) new
      (provided d found) (isLoaded_markLoaded.2 (.inr (.refl _)))
      fun p hp => isLoaded_markLoaded.2 (.inl hp)
    obtain ⟨added, documents_eq, sourced⟩ := first.insert provided
    rw [loaded]
    exact ⟨d :: added, documents_eq, sourced.perm List.perm_middle.symm⟩

theorem loadBindings (h : Sourced P s ds) (bs : List Binding) :
    ∃ added, (loadBindings source bs s).2.documents.toList = s.documents.toList ++ added ∧
      Sourced P (loadBindings source bs s).2 (ds ++ added) := by
  induction bs generalizing s ds with
  | nil => exact ⟨[], (List.append_nil _).symm, by rwa [List.append_nil]⟩
  | cons b bs ih =>
    obtain ⟨first, first_eq, sourced⟩ := h.loadBinding provided b
    obtain ⟨rest, rest_eq, sourced⟩ := ih sourced
    rw [loadBindings_cons]
    refine ⟨first ++ rest, ?_, ?_⟩
    · rw [rest_eq, first_eq, List.append_assoc]
    · rwa [← List.append_assoc]

theorem compile (h : Sourced P s ds) :
    ∃ added, (s.compile source).2.documents.toList = s.documents.toList ++ added ∧
      Sourced P (s.compile source).2 (ds ++ added) := by
  have taken : Sourced P { s with pending := [] } ds := { h with }
  exact taken.loadBindings provided s.pending

/-- The document from the instance document comes first, and then those that it refers to. -/
theorem addInline (h : Sourced P s ds) (text : String) :
    ∃ inline added,
      (s.addInline source text).2.documents.toList = s.documents.toList ++ (inline ++ added) ∧
      (∀ d ∈ inline,
        ∃ path, SchemaDocument.readAs (.inline (s.inlineCount + 1)) text path = .ok d) ∧
      inline.length ≤ 1 ∧ (inline = [] → added = []) ∧
      Sourced P (s.addInline source text).2 (ds ++ added) := by
  have counted : Sourced P { s with inlineCount := s.inlineCount + 1 } ds := { h with }
  rcases addInline_cases s source text with ⟨e, refused⟩ | ⟨d, hd, accepted⟩
  · rw [refused]
    refine ⟨[], [], (List.append_nil _).symm, by simp, by simp, fun _ => rfl, ?_⟩
    rwa [List.append_nil]
  · have marked := counted.mono
      (t := SchemaSet.markLoaded { s with inlineCount := s.inlineCount + 1 } d.location)
      fun p hp => isLoaded_markLoaded.2 (.inl hp)
    obtain ⟨added, documents_eq, sourced⟩ := marked.insert provided
    rw [accepted]
    exact ⟨[d], added, documents_eq, List.forall_mem_singleton.2 hd, by simp, by simp, sourced⟩

end Sourced

/-! ## Identities -/

theorem inlineCount_insertOne (s : SchemaSet) (source : SchemaSource) (d : SchemaDocument) :
    (s.insertOne source d).inlineCount = s.inlineCount := by
  have same := congrArg inlineCount (sameDocuments_insertOne s source d)
  exact same

theorem inlineCount_compile (s : SchemaSet) (source : SchemaSource) :
    (s.compile source).2.inlineCount = s.inlineCount :=
  loadBindings_induction (P := fun t => t.inlineCount = s.inlineCount) (fun _ _ h => h)
    (fun t d h => (inlineCount_insertOne t source d).trans h) s.pending rfl

theorem inlineCount_addInline (s : SchemaSet) (source : SchemaSource) (text : String) :
    (s.addInline source text).2.inlineCount = s.inlineCount + 1 := by
  rcases addInline_cases s source text with ⟨e, refused⟩ | ⟨d, -, accepted⟩
  · rw [refused]
  · rw [accepted]
    exact insertAll_induction (P := fun t => t.inlineCount = s.inlineCount + 1)
      (fun t d h => (inlineCount_insertOne t source d).trans h) _ _ _ rfl

/-- The document has been read from a file. -/
def FromFile (d : SchemaDocument) : Prop := ∃ text, SchemaDocument.read text d.location = .ok d

theorem fromFile_of_provides (source : SchemaSource) (d : SchemaDocument)
    (h : Provides source d) : FromFile d := by
  obtain ⟨text, -, read⟩ := SchemaSource.document?_eq_some_iff.1 h
  exact ⟨text, read⟩

/-- The document stood inside an instance document, as one of the first `count` schemas. -/
def Numbered (count : Nat) (d : SchemaDocument) : Prop :=
  ∃ text path number, number ≤ count ∧ SchemaDocument.readAs (.inline number) text path = .ok d

/-- The documents of the set are those from files and those that stood inside instance documents,
which have different numbers. -/
structure Identified (s : SchemaSet) (files inline : List SchemaDocument) : Prop where
  sourced : Sourced FromFile s files
  numbered : ∀ d ∈ inline, Numbered s.inlineCount d
  distinct : inline.Pairwise fun d e => d.identity ≠ e.identity
  documents : (files ++ inline).Perm s.documents.toList

theorem Identified.compile {files inline : List SchemaDocument} (h : s.Identified files inline)
    (source : SchemaSource) : ∃ files, (s.compile source).2.Identified files inline := by
  obtain ⟨added, documents_eq, sourced⟩ := h.sourced.compile (fromFile_of_provides source)
  refine ⟨files ++ added, sourced, ?_, h.distinct, ?_⟩
  · rw [inlineCount_compile]
    exact h.numbered
  · rw [documents_eq, List.append_assoc]
    refine (List.perm_append_comm.append_left files).trans ?_
    rw [← List.append_assoc]
    exact h.documents.append_right added

theorem Identified.addInline {files inline : List SchemaDocument} (h : s.Identified files inline)
    (source : SchemaSource) (text : String) :
    ∃ files inline, (s.addInline source text).2.Identified files inline := by
  obtain ⟨new, added, documents_eq, read, short, -, sourced⟩ :=
    h.sourced.addInline (fromFile_of_provides source) text
  refine ⟨files ++ added, inline ++ new, sourced, ?_, ?_, ?_⟩
  · rw [inlineCount_addInline]
    refine List.forall_mem_append.2 ⟨fun d hd => ?_, fun d hd => ?_⟩
    · obtain ⟨text, path, number, le, read⟩ := h.numbered d hd
      exact ⟨text, path, number, Nat.le_succ_of_le le, read⟩
    · obtain ⟨path, read⟩ := read d hd
      exact ⟨text, path, _, Nat.le_refl _, read⟩
  · -- the number of the new document is above all others
    have single : new.Pairwise fun d e => d.identity ≠ e.identity := by
      rcases new with _ | ⟨d, _ | ⟨e, rest⟩⟩
      · exact .nil
      · exact List.pairwise_singleton _ _
      · simp at short
    refine List.pairwise_append.2 ⟨h.distinct, single, fun d hd e he same => ?_⟩
    obtain ⟨text, path, number, le, readd⟩ := h.numbered d hd
    obtain ⟨path', reade⟩ := read e he
    rw [SchemaDocument.identity_of_readAs readd, SchemaDocument.identity_of_readAs reade] at same
    cases same
    omega
  · rw [documents_eq, List.append_assoc]
    have swapped : (added ++ (inline ++ new)).Perm (inline ++ (new ++ added)) :=
      (List.perm_append_comm_assoc _ _ _).trans (List.perm_append_comm.append_left inline)
    refine (swapped.append_left files).trans ?_
    rw [← List.append_assoc]
    exact h.documents.append_right (new ++ added)

theorem Reachable.identified (h : s.Reachable) : ∃ files inline, s.Identified files inline := by
  induction h with
  | new => exact ⟨[], [], ⟨by simp, by simp, .nil⟩, by simp, .nil, .nil⟩
  | add _ b ih =>
    obtain ⟨files, inline, sourced, numbered, distinct, documents⟩ := ih
    refine ⟨files, inline, ?_⟩
    unfold SchemaSet.add
    split <;> exact ⟨{ sourced with }, numbered, distinct, documents⟩
  | compile _ source ih =>
    obtain ⟨files, inline, identified⟩ := ih
    obtain ⟨files, identified⟩ := identified.compile source
    exact ⟨files, inline, identified⟩
  | addInline _ source text ih =>
    obtain ⟨files, inline, identified⟩ := ih
    exact identified.addInline source text
  | effectiveType _ held ih =>
    obtain ⟨files, inline, sourced, numbered, distinct, documents⟩ := ih
    refine ⟨files, inline, ?_⟩
    unfold SchemaSet.effectiveType
    split <;> exact ⟨{ sourced with }, numbered, distinct, documents⟩

theorem Identified.exists_readAs {files inline : List SchemaDocument}
    (h : s.Identified files inline) (hd : d ∈ s.documents) :
    ∃ text path, SchemaDocument.readAs d.identity text path = .ok d := by
  rcases List.mem_append.1 (h.documents.mem_iff.2 (Array.mem_toList_iff.2 hd)) with hd | hd
  · obtain ⟨text, read⟩ := h.sourced.obtained d hd
    exact ⟨text, d.location, SchemaDocument.identity_of_readAs read ▸ read⟩
  · obtain ⟨text, path, number, -, read⟩ := h.numbered d hd
    exact ⟨text, path, SchemaDocument.identity_of_readAs read ▸ read⟩

theorem Identified.eq_of_identity_eq {files inline : List SchemaDocument}
    (h : s.Identified files inline) (hd : d ∈ s.documents) {e : SchemaDocument}
    (he : e ∈ s.documents) (same : d.identity = e.identity) : d = e := by
  have fromFile {d : SchemaDocument} (hd : d ∈ files) :
      d.identity = .file d.location.components := by
    obtain ⟨text, read⟩ := h.sourced.obtained d hd
    exact SchemaDocument.identity_of_readAs read
  have numbered {d : SchemaDocument} (hd : d ∈ inline) : ∃ number, d.identity = .inline number := by
    obtain ⟨text, path, number, -, read⟩ := h.numbered d hd
    exact ⟨number, SchemaDocument.identity_of_readAs read⟩
  have distinct : (files ++ inline).Pairwise fun d e => d.identity ≠ e.identity := by
    refine List.pairwise_append.2 ⟨h.sourced.distinct.imp_of_mem ?_, h.distinct, ?_⟩
    · intro d e hd he not_same same
      rw [fromFile hd, fromFile he] at same
      exact not_same (DocumentId.file.inj same)
    · intro d hd e he same
      obtain ⟨number, he⟩ := numbered he
      rw [fromFile hd, he] at same
      cases same
  have : Std.Symm fun d e : SchemaDocument => d.identity ≠ e.identity :=
    ⟨fun _ _ ne same => ne same.symm⟩
  have mem {d : SchemaDocument} (hd : d ∈ s.documents) : d ∈ files ++ inline :=
    h.documents.mem_iff.2 (Array.mem_toList_iff.2 hd)
  exact Classical.byContradiction fun different =>
    distinct.forall (mem hd) (mem he) different same

/-- The complex types that a set holds, named or not, are told apart by their identities. -/
theorem Reachable.eq_of_identity_eq (h : s.Reachable) {t t' : ComplexType} (ht : s.Holds t)
    (ht' : s.Holds t') (same : t.identity = t'.identity) : t = t' := by
  obtain ⟨files, inline, identified⟩ := h.identified
  have defined {d : SchemaDocument} {t : ComplexType} (hd : d ∈ s.documents)
      (contains : d.Contains (.complexType t)) :
      ∃ place, t.identity = .definedAt d.identity place := by
    obtain ⟨text, path, read⟩ := identified.exists_readAs hd
    exact SchemaDocument.exists_identity_of_contains read contains
  cases ht with
  | anyType =>
    cases ht' with
    | anyType => rfl
    | inDocument hd contains =>
      obtain ⟨place, identity_eq⟩ := defined hd contains
      rw [identity_eq] at same
      cases same
  | inDocument hd contains =>
    obtain ⟨place, identity_eq⟩ := defined hd contains
    cases ht' with
    | anyType =>
      rw [identity_eq] at same
      cases same
    | inDocument hd' contains' =>
      obtain ⟨place', identity_eq'⟩ := defined hd' contains'
      have documents := same
      rw [identity_eq, identity_eq'] at documents
      obtain rfl := identified.eq_of_identity_eq hd hd' (TypeId.definedAt.inj documents).1
      obtain ⟨text, path, read⟩ := identified.exists_readAs hd
      exact SchemaDocument.eq_of_identity_eq read contains contains' same

end SchemaSet

end XmlSchema
