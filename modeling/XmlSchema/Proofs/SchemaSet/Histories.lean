import XmlSchema.Proofs.SchemaSet.Index

/-!
# Histories of a set

What can happen to a set is a sequence of operations (`SchemaSet.Operation`), some of which fail.  A
`SchemaSet.History` is a set together with a record of what has happened to it: which bindings it
tried to load, which of them failed, and where its documents came from.  The main statement says how
the parts of a set fit together after any sequence of operations
(`SchemaSet.History.after_consistent`).
-/

namespace XmlSchema

namespace SchemaSet

variable {source : SchemaSource} {s : SchemaSet} {ds es : List SchemaDocument} {d : SchemaDocument}

/-! ## Operations -/

/-- What can be done with a set. -/
inductive Operation where
  | add (b : Binding)
  | compile
  | addInline (text : String)
  /-- Asks for the effective form of a type that the set holds, whichever is chosen. -/
  | effectiveType (choose : (s : SchemaSet) → { type : ComplexType // s.Holds type })

/-- The set behind an operation. -/
def perform (source : SchemaSource) (s : SchemaSet) : Operation → SchemaSet
  | .add b => (s.add b).2
  | .compile => (s.compile source).2
  | .addInline text => (s.addInline source text).2
  | .effectiveType choose => (s.effectiveType (choose s).1).2

/-- The set behind operations. -/
def performAll (source : SchemaSource) (s : SchemaSet) (operations : List Operation) : SchemaSet :=
  operations.foldl (perform source) s

theorem performAll_append (source : SchemaSource) (s : SchemaSet) (before later : List Operation) :
    s.performAll source (before ++ later) =
      (s.performAll source before).performAll source later :=
  List.foldl_append

theorem Reachable.perform (h : s.Reachable) (source : SchemaSource) (operation : Operation) :
    (s.perform source operation).Reachable := by
  cases operation with
  | add b => exact h.add b
  | compile => exact h.compile source
  | addInline text => exact h.addInline source text
  | effectiveType choose => exact h.effectiveType (choose s).2

theorem Reachable.performAll (h : s.Reachable) (source : SchemaSource)
    (operations : List Operation) : (s.performAll source operations).Reachable := by
  induction operations generalizing s with
  | nil => exact h
  | cons operation operations ih => exact ih (h.perform source operation)

/-! ## What the operations change -/

/-- The sets answer alike: they have the same documents, and look up the same components. -/
structure SameAnswers (s t : SchemaSet) : Prop where
  documents : t.documents = s.documents
  hasNamespace : t.hasNamespace = s.hasNamespace
  find : ∀ {α : Type} (namespaceName : String) (pick : SchemaDocument → Option α),
    t.find namespaceName pick = s.find namespaceName pick

theorem SameComponents.sameAnswers {t : SchemaSet} (h : SameComponents s t) : SameAnswers s t where
  documents := h.documents
  hasNamespace := by
    unfold SchemaSet.hasNamespace indices?
    rw [h.byNamespace]
  find := h.find_eq

/-- A binding that fails adds no document and changes no lookup. -/
theorem sameAnswers_loadBinding {b : Binding} {e : SchemaError}
    (failed : (s.loadBinding source b).1 = .error e) :
    SameAnswers s (s.loadBinding source b).2 := by
  rcases loadBinding_cases s source b with ⟨requests, same⟩ | ⟨d, -, -, loaded⟩
  · rw [same]
    exact SameComponents.sameAnswers ⟨rfl, rfl⟩
  · rw [loaded] at failed
    cases failed

/-- A schema in an instance document that fails adds no document and changes no lookup. -/
theorem sameAnswers_addInline {text : String} {e : SchemaError}
    (failed : (s.addInline source text).1 = .error e) :
    SameAnswers s (s.addInline source text).2 := by
  rcases addInline_cases s source text with ⟨e, refused⟩ | ⟨d, -, added⟩
  · rw [refused]
    exact SameComponents.sameAnswers ⟨rfl, rfl⟩
  · rw [added] at failed
    cases failed

theorem sublist_loadBindings (source : SchemaSource) (bs : List Binding) (s : SchemaSet) :
    ((loadBindings source bs s).1.map Prod.fst).Sublist bs := by
  induction bs generalizing s with
  | nil => exact .slnil
  | cons b bs ih =>
    have rest := ih (s.loadBinding source b).2
    rw [loadBindings_cons, List.map_append]
    cases (s.loadBinding source b).1 with
    | ok _ => exact rest.cons b
    | error e => exact rest.cons_cons b

/-! ## Records -/

/-- A set, and what has happened to it. -/
structure History where
  set : SchemaSet := {}
  /-- The bindings that the set has tried to load, in order. -/
  attempted : List Binding := []
  /-- The bindings that could not be loaded, with the reasons that were given. -/
  failures : List (Binding × SchemaError) := []
  /-- The documents that were obtained from the source. -/
  sourced : List SchemaDocument := []
  /-- The documents that stood inside instance documents. -/
  inline : List SchemaDocument := []

namespace History

/-- The history with one more operation.  The first document that `addInline` adds is the one that
it was given. -/
def perform (source : SchemaSource) (h : History) (operation : Operation) : History :=
  let set := h.set.perform source operation
  let added := set.documents.toList.drop h.set.documents.size
  match operation with
  | .add _ | .effectiveType _ => { h with set }
  | .compile =>
    { h with
      set
      attempted := h.attempted ++ h.set.pending
      failures := h.failures ++ (h.set.compile source).1
      sourced := h.sourced ++ added }
  | .addInline _ =>
    { h with
      set
      sourced := h.sourced ++ added.drop 1
      inline := h.inline ++ added.take 1 }

/-- The history of a new set to which the operations have been applied. -/
def after (source : SchemaSource) (operations : List Operation) : History :=
  operations.foldl (perform source) {}

theorem set_perform (source : SchemaSource) (h : History) (operation : Operation) :
    (h.perform source operation).set = h.set.perform source operation := by
  cases operation <;> rfl

theorem set_after (source : SchemaSource) (operations : List Operation) :
    (after source operations).set = performAll source {} operations := by
  have run (h : History) : (operations.foldl (perform source) h).set =
      h.set.performAll source operations := by
    induction operations generalizing h with
    | nil => rfl
    | cons operation operations ih =>
      rw [List.foldl_cons, ih, set_perform]
      rfl
  exact run {}

/-- The record fits the set: a binding that was ever added has been tried or waits, no two of them
are the same, and every document came from the source or stood in an instance document. -/
structure Fits (source : SchemaSource) (h : History) : Prop where
  registered : h.set.registered = h.attempted ++ h.set.pending
  once : h.set.registered.Pairwise fun a b => ¬ a.Same b
  failed : (h.failures.map Prod.fst).Sublist h.attempted
  sourced : Sourced (Provides source) h.set h.sourced
  inline : ∀ d ∈ h.inline,
    ∃ text path number, SchemaDocument.readAs (.inline number) text path = .ok d
  origin : (h.sourced ++ h.inline).Perm h.set.documents.toList

variable {h : History}

theorem drop_size {t : SchemaSet} {added : List SchemaDocument}
    (documents_eq : t.documents.toList = s.documents.toList ++ added) :
    t.documents.toList.drop s.documents.size = added := by
  rw [documents_eq]
  exact List.drop_left' rfl

theorem Fits.add (fits : h.Fits source) (b : Binding) : (h.perform source (.add b)).Fits source := by
  unfold perform SchemaSet.perform SchemaSet.add
  dsimp only
  split
  · exact fits
  · rename_i new
    refine ⟨?_, ?_, fits.failed, { fits.sourced with }, fits.inline, fits.origin⟩
    · dsimp only
      rw [fits.registered, List.append_assoc]
    · refine List.pairwise_append.2
        ⟨fits.once, List.pairwise_singleton _ _, fun a ha c hc same => ?_⟩
      obtain rfl := List.mem_singleton.1 hc
      exact new (List.any_eq_true.2 ⟨a, ha, decide_eq_true same⟩)

theorem Fits.compile (fits : h.Fits source) : (h.perform source .compile).Fits source := by
  obtain ⟨added, documents_eq, sourced⟩ := fits.sourced.compile fun _ provided => provided
  have registered := registered_compile h.set source
  unfold perform SchemaSet.perform
  dsimp only
  rw [drop_size documents_eq]
  refine ⟨?_, ?_, ?_, sourced, fits.inline, ?_⟩
  · dsimp only
    rw [registered, pending_compile, List.append_nil, fits.registered]
  · dsimp only
    rw [registered]
    exact fits.once
  · rw [List.map_append]
    exact fits.failed.append (sublist_loadBindings source h.set.pending _)
  · dsimp only
    rw [documents_eq, List.append_assoc]
    refine (List.perm_append_comm.append_left h.sourced).trans ?_
    rw [← List.append_assoc]
    exact fits.origin.append_right added

theorem Fits.addInline (fits : h.Fits source) (text : String) :
    (h.perform source (.addInline text)).Fits source := by
  obtain ⟨inline, added, documents_eq, read, short, none_added, sourced⟩ :=
    fits.sourced.addInline (fun _ provided => provided) text
  obtain ⟨registered, pending⟩ := bindings_addInline h.set source text
  -- the record tells the document that was given by its place
  have split : (inline ++ added).take 1 = inline ∧ (inline ++ added).drop 1 = added := by
    rcases inline with _ | ⟨d, _ | ⟨e, rest⟩⟩
    · simp [none_added rfl]
    · simp
    · simp at short
  unfold perform SchemaSet.perform
  dsimp only
  rw [drop_size documents_eq, split.1, split.2]
  refine ⟨?_, ?_, fits.failed, sourced, ?_, ?_⟩
  · dsimp only
    rw [registered, pending, fits.registered]
  · dsimp only
    rw [registered]
    exact fits.once
  · refine List.forall_mem_append.2 ⟨fits.inline, fun d hd => ?_⟩
    obtain ⟨path, read⟩ := read d hd
    exact ⟨text, path, _, read⟩
  · dsimp only
    rw [documents_eq, List.append_assoc]
    have swapped : (added ++ (h.inline ++ inline)).Perm (h.inline ++ (inline ++ added)) :=
      (List.perm_append_comm_assoc _ _ _).trans (List.perm_append_comm.append_left h.inline)
    refine (swapped.append_left h.sourced).trans ?_
    rw [← List.append_assoc]
    exact fits.origin.append_right (inline ++ added)

theorem Fits.perform (fits : h.Fits source) (operation : Operation) :
    (h.perform source operation).Fits source := by
  cases operation with
  | add b => exact fits.add b
  | compile => exact fits.compile
  | addInline text => exact fits.addInline text
  | effectiveType choose =>
    obtain ⟨types, asked⟩ := exists_effectiveType h.set (choose h.set).1
    unfold History.perform SchemaSet.perform
    dsimp only
    rw [asked]
    exact ⟨fits.registered, fits.once, fits.failed, { fits.sourced with }, fits.inline, fits.origin⟩

theorem fits_after (source : SchemaSource) (operations : List Operation) :
    (after source operations).Fits source := by
  have run (h : History) (fits : h.Fits source) :
      (operations.foldl (History.perform source) h).Fits source := by
    induction operations generalizing h with
    | nil => exact fits
    | cons operation operations ih => exact ih _ (fits.perform operation)
  exact run {} ⟨rfl, .nil, .slnil, ⟨by simp, by simp, .nil⟩, by simp, .nil⟩

/-- Every document of the set has been read from a text. -/
theorem Fits.exists_read (fits : h.Fits source) (hd : d ∈ h.set.documents) :
    ∃ identity text path, SchemaDocument.readAs identity text path = .ok d := by
  rcases List.mem_append.1 (fits.origin.mem_iff.2 (Array.mem_toList_iff.2 hd)) with hd | hd
  · obtain ⟨text, -, hread⟩ := SchemaSource.document?_eq_some_iff.1 (fits.sourced.obtained d hd)
    exact ⟨_, text, d.location, hread⟩
  · obtain ⟨text, path, number, hread⟩ := fits.inline d hd
    exact ⟨_, text, path, hread⟩

/-- The parts of the set fit together. -/
structure Consistent (source : SchemaSource) (h : History) : Prop where
  /-- What the index has for a namespace are the places of its documents, in ascending order. -/
  indices_eq : ∀ name indices, h.set.indices? name = some indices →
    indices ≠ [] ∧ indices.Pairwise (· < ·) ∧
      ∀ i, i ∈ indices ↔ ∃ d, h.set.documents[i]? = some d ∧ d.targetNamespace = name
  /-- A namespace without documents is not in the index. -/
  indices_eq_none : ∀ name, h.set.indices? name = none ↔
    ∀ d ∈ h.set.documents, d.targetNamespace ≠ name
  hasNamespace : ∀ name, h.set.hasNamespace name = true ↔
    ∃ d ∈ h.set.documents, d.targetNamespace = name
  loaded : ∀ d ∈ h.set.documents, h.set.isLoaded d.location = true
  /-- Every document was obtained from the source or stood inside an instance document. -/
  origin : (h.sourced ++ h.inline).Perm h.set.documents.toList
  obtained : ∀ d ∈ h.sourced, source.document? d.location = some d
  inlined : ∀ d ∈ h.inline,
    ∃ text path number, SchemaDocument.readAs (.inline number) text path = .ok d
  /-- No two documents were obtained from the same file. -/
  distinct : h.sourced.Pairwise fun d e => ¬ d.location.Same e.location
  pending_once : h.set.pending.Pairwise fun a b => ¬ a.Same b
  pending_registered : ∀ b ∈ h.set.pending, b ∈ h.set.registered
  pending_compile : (h.set.compile source).2.pending = []
  /-- No binding is tried twice, and none that was tried waits. -/
  attempted_once : (h.attempted ++ h.set.pending).Pairwise fun a b => ¬ a.Same b
  /-- No binding is reported twice. -/
  failed_once : (h.failures.map Prod.fst).Pairwise fun a b => ¬ a.Same b
  failed_attempted : ∀ failure ∈ h.failures, failure.1 ∈ h.attempted
  /-- At whichever point a binding fails, nothing is added and no lookup changes. -/
  binding_failed : ∀ s b e, (loadBinding s source b).1 = .error e →
    SameAnswers s (loadBinding s source b).2
  inline_failed : ∀ text e, (h.set.addInline source text).1 = .error e →
    SameAnswers h.set (h.set.addInline source text).2

/-- After any operations, the parts of a set fit together. -/
theorem after_consistent (source : SchemaSource) (operations : List Operation) :
    (after source operations).Consistent source := by
  have reachable : (after source operations).set.Reachable := by
    rw [set_after]
    exact Reachable.new.performAll source operations
  have fits := fits_after source operations
  have indexed := reachable.indexed
  have once := fits.once
  rw [fits.registered] at once
  have pending_registered : ∀ b ∈ (after source operations).set.pending,
      b ∈ (after source operations).set.registered := fun b hb => by
    rw [fits.registered]
    exact List.mem_append_right _ hb
  exact {
    indices_eq := indexed.indices_spec
    indices_eq_none := indexed.indices?_eq_none_iff
    hasNamespace := indexed.hasNamespace_iff
    loaded := fun d hd => (reachable.tracked d.location).2 (.inl ⟨d, hd, .refl _⟩)
    origin := fits.origin
    obtained := fits.sourced.obtained
    inlined := fits.inline
    distinct := fits.sourced.distinct
    pending_once := (List.pairwise_append.1 once).2.1
    pending_registered
    pending_compile := SchemaSet.pending_compile _ source
    attempted_once := once
    failed_once := (List.pairwise_append.1 once).1.sublist fits.failed
    failed_attempted := fun failure hfailure => fits.failed.subset (List.mem_map_of_mem hfailure)
    binding_failed := fun _ _ _ failed => sameAnswers_loadBinding failed
    inline_failed := fun _ _ failed => sameAnswers_addInline failed }

end History

end SchemaSet

end XmlSchema
