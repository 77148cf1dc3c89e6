import XmlSchema.Proofs.Component.Naming
import XmlSchema.Proofs.Component.Parts
import XmlSchema.SchemaSet.Effective
import XmlSchema.SchemaSet.Loading

/-!
# Loading bindings

A set is changed in few ways, and what all of them preserve holds of every set that comes about
(`SchemaSet.Reachable.preserves`); loading bindings comes down to requests for files and to adding
one document at a time (`SchemaSet.insertOne`, `SchemaSet.loadBindings_induction`).

In such a set, the marked files are those that documents lie at or refer to (`SchemaSet.Tracked`).
A file that a document refers to is marked before it is read, so that a mark does not mean that
there is a document: a binding to a file that could not be read for an earlier document is neither
loaded nor reported.  `SchemaSet.compile_reports_or_loads_iff` says that this is the only way for a
binding to get lost.
-/

namespace XmlSchema

/-! ## Documents -/

namespace SchemaDocument

variable {path : Path} {d : SchemaDocument}

theorem ensures_addComponent_location (c : SchemaContext) (depth : Nat) (e : Xml.Element)
    (h : d.location = path) :
    Ensures (fun d => d.location = path) (c.addComponent depth d e) := by
  unfold SchemaContext.addComponent
  split
  case h_5 =>
    refine ensures_bind fun _ => ?_
    split <;> exact ensures_bind fun _ => ensures_ok h
  case h_1 | h_2 => exact ensures_bind fun _ => ensures_ok h
  case h_3 | h_4 | h_6 => exact ensures_bind fun _ => ensures_bind fun _ => ensures_ok h
  all_goals exact ensures_ok h

theorem location_of_readAs {identity : DocumentId} {text : String}
    (h : readAs identity text path = .ok d) : d.location = path := by
  obtain ⟨root, -, hroot⟩ := exists_root_of_readAs h
  unfold ofElement at hroot
  split at hroot
  · exact ensures_foldlM (fun d e => ensures_addComponent_location _ _ e) _ _ rfl d hroot
  · cases hroot

/-- The document includes or imports the file. -/
def RefersTo (d : SchemaDocument) (path : Path) : Prop :=
  ∃ reference ∈ SchemaSet.references d, reference.1.Same path

instance (d : SchemaDocument) (path : Path) : Decidable (d.RefersTo path) :=
  inferInstanceAs (Decidable (∃ reference ∈ _, _))

end SchemaDocument

namespace SchemaSet

variable {source : SchemaSource} {s : SchemaSet} {path other : Path} {d : SchemaDocument}

/-! ## Marks -/

/-- Some document lies at the path. -/
def HasDocument (s : SchemaSet) (path : Path) : Prop := ∃ d ∈ s.documents, d.location.Same path

theorem isLoaded_of_same (h : s.isLoaded path = true) (same : path.Same other) :
    s.isLoaded other = true := by
  simp only [isLoaded, List.any_eq_true, decide_eq_true_eq] at h ⊢
  obtain ⟨p, hp, hsame⟩ := h
  exact ⟨p, hp, hsame.trans same⟩

theorem isLoaded_markLoaded :
    (s.markLoaded path).isLoaded other = true ↔ s.isLoaded other = true ∨ path.Same other := by
  unfold markLoaded
  split
  case isTrue h => exact ⟨.inl, fun hother => hother.elim id (isLoaded_of_same h)⟩
  case isFalse => simp [isLoaded]

/-- The second set differs from the first at most in the files that were loaded and asked for. -/
def SameDocuments (s t : SchemaSet) : Prop :=
  t = { s with loaded := t.loaded, requests := t.requests }

theorem SameDocuments.refl (s : SchemaSet) : s.SameDocuments s := rfl

theorem SameDocuments.trans {s t u : SchemaSet} (hst : s.SameDocuments t)
    (htu : t.SameDocuments u) : s.SameDocuments u := by
  unfold SameDocuments at hst htu ⊢
  rw [htu, hst]

theorem sameDocuments_markLoaded (s : SchemaSet) (path : Path) :
    s.SameDocuments (s.markLoaded path) := by
  unfold markLoaded
  split <;> rfl

theorem sameDocuments_request (s : SchemaSet) (source : SchemaSource) (path : Path) :
    s.SameDocuments (s.request source path).2 := rfl

theorem location_of_request (h : (s.request source path).1 = .ok d) : d.location = path := by
  unfold request at h
  dsimp only at h
  split at h
  · exact SchemaDocument.location_of_readAs h
  · simp at h

/-- Loading a document that another refers to marks its file; the document is new. -/
theorem loadReferenced_spec (s : SchemaSet) (source : SchemaSource) (path : Path)
    (includedBy : Option String) :
    s.SameDocuments (s.loadReferenced source path includedBy).2 ∧
      (∀ other, (s.loadReferenced source path includedBy).2.isLoaded other = true ↔
        s.isLoaded other = true ∨ path.Same other) ∧
      ∀ d ∈ (s.loadReferenced source path includedBy).1,
        d.location = path ∧ s.isLoaded path = false := by
  unfold loadReferenced
  split
  case isTrue h =>
    exact ⟨.refl s, fun other => ⟨.inl, fun hother => hother.elim id (isLoaded_of_same h)⟩, by simp⟩
  case isFalse h =>
    have same : s.SameDocuments ((s.markLoaded path).request source path).2 :=
      (sameDocuments_markLoaded s path).trans (sameDocuments_request _ source path)
    have marks : ∀ other, ((s.markLoaded path).request source path).2.isLoaded other = true ↔
        s.isLoaded other = true ∨ path.Same other := fun other => isLoaded_markLoaded
    dsimp only
    split
    · exact ⟨same, marks, by simp⟩
    · rename_i d hd
      split
      · exact ⟨same, marks, by simp⟩
      · refine ⟨same, marks, ?_⟩
        rintro _ ⟨⟩
        exact ⟨location_of_request hd, by simpa using h⟩

/-- Loading references marks their files; the documents found are new. -/
theorem loadReferences_spec (source : SchemaSource) (references : List (Path × Option String))
    (found : List SchemaDocument) (s : SchemaSet) :
    s.SameDocuments (loadReferences source references found s).2 ∧
      (∀ other, (loadReferences source references found s).2.isLoaded other = true ↔
        s.isLoaded other = true ∨ ∃ reference ∈ references, reference.1.Same other) ∧
      ∀ d ∈ (loadReferences source references found s).1,
        d ∈ found ∨ s.isLoaded d.location = false := by
  induction references generalizing found s with
  | nil => exact ⟨.refl s, by simp [loadReferences], fun d hd => .inl hd⟩
  | cons reference references ih =>
    obtain ⟨path, includedBy⟩ := reference
    obtain ⟨same, marks, new⟩ := loadReferenced_spec s source path includedBy
    rw [loadReferences]
    dsimp only
    generalize s.loadReferenced source path includedBy = result at same marks new ⊢
    obtain ⟨same', marks', new'⟩ := ih (result.1.toList ++ found) result.2
    refine ⟨same.trans same', fun other => ?_, fun d hd => ?_⟩
    · rw [marks', marks]
      simp [or_assoc]
    · rcases new' d hd with hd | hd
      · rcases List.mem_append.1 hd with hd | hd
        · obtain ⟨rfl, hnew⟩ := new d (by simpa using hd)
          exact .inr hnew
        · exact .inl hd
      · refine .inr (Bool.eq_false_iff.2 fun loaded => ?_)
        rw [(marks d.location).2 (.inl loaded)] at hd
        exact absurd hd (by decide)

/-! ## Insertion -/

/-- Adds a document, with marks for the files that it refers to. -/
def insertOne (source : SchemaSource) (d : SchemaDocument) (s : SchemaSet) : SchemaSet :=
  (loadReferences source (references d) [] (s.markLoaded d.location)).2.addDocument d

theorem sameDocuments_insertOne (s : SchemaSet) (source : SchemaSource) (d : SchemaDocument) :
    (s.addDocument d).SameDocuments (s.insertOne source d) := by
  obtain ⟨same, -, -⟩ := loadReferences_spec source (references d) []
    (s.markLoaded d.location)
  have same := (sameDocuments_markLoaded s d.location).trans same
  unfold SameDocuments at same ⊢
  unfold insertOne addDocument
  rw [same]

theorem documents_insertOne : (s.insertOne source d).documents = s.documents.push d :=
  congrArg documents (sameDocuments_insertOne s source d)

theorem isLoaded_insertOne :
    (s.insertOne source d).isLoaded path = true ↔
      s.isLoaded path = true ∨ d.location.Same path ∨ d.RefersTo path := by
  obtain ⟨-, marks, -⟩ := loadReferences_spec source (references d) []
    (s.markLoaded d.location)
  have marks := marks path
  rw [isLoaded_markLoaded, or_assoc] at marks
  exact marks

theorem insertAll_cons (fuel : Nat) (stack : List SchemaDocument) :
    insertAll source (fuel + 1) (d :: stack) s =
      insertAll source fuel
        ((loadReferences source (references d) [] (s.markLoaded d.location)).1 ++ stack)
        (s.insertOne source d) := rfl

/-- What adding one document preserves, adding many preserves. -/
theorem insertAll_induction {P : SchemaSet → Prop} (step : ∀ s d, P s → P (insertOne source d s))
    (fuel : Nat) (stack : List SchemaDocument) (s : SchemaSet) (h : P s) :
    P (insertAll source fuel stack s) := by
  induction fuel generalizing stack s with
  | zero => exact h
  | succ fuel ih =>
    cases stack with
    | nil => exact h
    | cons d stack =>
      rw [insertAll_cons]
      exact ih _ _ (step s d h)

theorem hasDocument_insertOne :
    (s.insertOne source d).HasDocument path ↔ s.HasDocument path ∨ d.location.Same path := by
  simp only [HasDocument, documents_insertOne, Array.mem_push]
  constructor
  · rintro ⟨d', hd' | rfl, same⟩
    · exact .inl ⟨d', hd', same⟩
    · exact .inr same
  · rintro (⟨d', hd', same⟩ | same)
    · exact ⟨d', .inl hd', same⟩
    · exact ⟨d, .inr rfl, same⟩

/-- Where a file is marked but there is no document, adding documents from elsewhere adds none. -/
theorem not_hasDocument_insertAll (fuel : Nat) (stack : List SchemaDocument) (s : SchemaSet)
    (loaded : s.isLoaded path = true) (absent : ¬ s.HasDocument path)
    (elsewhere : ∀ d ∈ stack, ¬ d.location.Same path) :
    ¬ (insertAll source fuel stack s).HasDocument path := by
  induction fuel generalizing stack s with
  | zero => exact absent
  | succ fuel ih =>
    cases stack with
    | nil => exact absent
    | cons d stack =>
      rw [insertAll_cons]
      refine ih _ _ (isLoaded_insertOne.2 (.inl loaded)) ?_ fun d' hd' => ?_
      · rw [hasDocument_insertOne, not_or]
        exact ⟨absent, elsewhere d (by simp)⟩
      · rcases List.mem_append.1 hd' with hd' | hd'
        · -- references to marked files are not followed
          obtain ⟨-, -, new⟩ := loadReferences_spec source (references d) []
            (s.markLoaded d.location)
          intro same
          have hnew := (new d' hd').resolve_left (by simp)
          have hmarked : (s.markLoaded d.location).isLoaded path = true :=
            isLoaded_markLoaded.2 (.inl loaded)
          rw [isLoaded_of_same hmarked same.symm] at hnew
          exact absurd hnew (by decide)
        · exact elsewhere d' (by simp [hd'])

/-! ## Bindings -/

/-- The document of a binding: it lies at the location and has the namespace. -/
def HasBinding (s : SchemaSet) (b : Binding) : Prop :=
  ∃ d ∈ s.documents, d.location.Same b.location ∧ d.targetNamespace = b.namespaceName

/-- The location of a binding is marked, though there is no document. -/
def Skips (s : SchemaSet) (b : Binding) : Prop :=
  s.isLoaded b.location = true ∧ ¬ s.HasDocument b.location

variable {b c : Binding}

/-- What requests and adding one document preserve, loading a binding preserves. -/
theorem loadBinding_induction {P : SchemaSet → Prop}
    (request : ∀ s path, P s → P (s.request source path).2)
    (step : ∀ s d, P s → P (insertOne source d s)) (b : Binding) (h : P s) :
    P (s.loadBinding source b).2 := by
  unfold loadBinding
  dsimp only
  split
  · split <;> exact h
  · split
    · exact request s b.location h
    · split
      · exact request s b.location h
      · exact insertAll_induction step _ _ _ (request s b.location h)

theorem loadBindings_induction {P : SchemaSet → Prop}
    (request : ∀ s path, P s → P (s.request source path).2)
    (step : ∀ s d, P s → P (insertOne source d s)) (bs : List Binding) (h : P s) :
    P (loadBindings source bs s).2 := by
  induction bs generalizing s with
  | nil => exact h
  | cons b bs ih =>
    have := ih (loadBinding_induction request step b h)
    rw [loadBindings]
    dsimp only
    split <;> exact this

theorem pending_compile (s : SchemaSet) (source : SchemaSource) :
    (s.compile source).2.pending = [] :=
  loadBindings_induction (P := fun t => t.pending = []) (fun _ _ h => h)
    (fun t d h => (congrArg pending (sameDocuments_insertOne t source d)).trans h) s.pending rfl

theorem registered_compile (s : SchemaSet) (source : SchemaSource) :
    (s.compile source).2.registered = s.registered :=
  loadBindings_induction (P := fun t => t.registered = s.registered) (fun _ _ h => h)
    (fun t d h => (congrArg registered (sameDocuments_insertOne t source d)).trans h) s.pending rfl

/-- A schema inside an instance document does not change the bindings. -/
theorem bindings_addInline (s : SchemaSet) (source : SchemaSource) (text : String) :
    (s.addInline source text).2.registered = s.registered ∧
      (s.addInline source text).2.pending = s.pending := by
  unfold addInline
  dsimp only
  split
  · exact ⟨rfl, rfl⟩
  · refine insertAll_induction
      (P := fun t => t.registered = s.registered ∧ t.pending = s.pending) (fun t d h => ?_) _ _ _
      ⟨rfl, rfl⟩
    have same := sameDocuments_insertOne t source d
    exact ⟨(congrArg registered same).trans h.1, (congrArg pending same).trans h.2⟩

theorem compile_eq_of_pending_eq_nil (h : s.pending = []) (source : SchemaSource) :
    s.compile source = ([], s) := by
  obtain ⟨_, _, _, _, pending, _, _, _⟩ := s
  obtain rfl : pending = [] := h
  rfl

theorem HasBinding.insertOne (h : s.HasBinding b) : (s.insertOne source d).HasBinding b := by
  obtain ⟨d', hd', same, hname⟩ := h
  refine ⟨d', ?_, same, hname⟩
  rw [documents_insertOne]
  exact Array.mem_push_of_mem d hd'

theorem HasBinding.loadBindings (h : s.HasBinding b) (bs : List Binding) :
    (loadBindings source bs s).2.HasBinding b :=
  loadBindings_induction (P := (HasBinding · b)) (fun _ _ h => h) (fun _ _ h => h.insertOne) bs h

theorem find?_eq_none_of_skips (h : s.Skips b) :
    s.documents.find? (·.location.Same b.location) = none := by
  rw [Array.find?_eq_none]
  intro d hd same
  exact h.2 ⟨d, hd, of_decide_eq_true same⟩

theorem loadBinding_of_skips (h : s.Skips b) : s.loadBinding source b = (.ok (), s) := by
  unfold loadBinding
  dsimp only
  rw [if_pos h.1, find?_eq_none_of_skips h]

/-- Unless its location is marked without a document, a binding fails or gets its document. -/
theorem loadBinding_spec (source : SchemaSource) (h : ¬ s.Skips b) :
    (∃ e, (s.loadBinding source b).1 = .error e) ∨ (s.loadBinding source b).2.HasBinding b := by
  unfold loadBinding
  dsimp only
  split
  case isTrue loaded =>
    split
    · rename_i d found
      by_cases hname : d.targetNamespace = b.namespaceName
      · have same := Array.find?_some found
        exact .inr ⟨d, Array.mem_of_find?_eq_some found, of_decide_eq_true same, hname⟩
      · rw [if_neg hname]
        exact .inl ⟨_, rfl⟩
    · rename_i found
      refine absurd ⟨loaded, ?_⟩ h
      rintro ⟨d, hd, same⟩
      exact Array.find?_eq_none.1 found d hd (decide_eq_true same)
  case isFalse =>
    split
    · exact .inl ⟨_, rfl⟩
    · rename_i d hd
      split
      · exact .inl ⟨_, rfl⟩
      · rename_i hname
        have hname : d.targetNamespace = b.namespaceName := by
          refine Decidable.byContradiction fun hne => ?_
          rw [if_neg hne] at hname
          cases hname
        -- the document itself is added first, and stays
        have first : ((s.request source b.location).2.insertOne source d).HasBinding b := by
          refine ⟨d, ?_, location_of_request hd ▸ .refl _, hname⟩
          rw [documents_insertOne]
          exact Array.mem_push_self
        refine .inr ?_
        unfold insert
        rw [insertAll_cons]
        exact insertAll_induction (P := (HasBinding · b)) (fun _ _ h => h.insertOne) _ _ _ first

theorem Skips.loadBinding (h : s.Skips b) (c : Binding) : (s.loadBinding source c).2.Skips b := by
  refine ⟨?_, ?_⟩
  · exact loadBinding_induction (P := fun t => t.isLoaded b.location = true) (fun _ _ h => h)
      (fun _ _ h => isLoaded_insertOne.2 (.inl h)) c h.1
  · unfold SchemaSet.loadBinding
    dsimp only
    split
    · split <;> exact h.2
    · rename_i unloaded
      split
      · exact h.2
      · rename_i d hd
        split
        · exact h.2
        · refine not_hasDocument_insertAll _ _ _ h.1 h.2 fun d' hd' same => ?_
          obtain rfl := List.mem_singleton.1 hd'
          rw [location_of_request hd] at same
          exact unloaded (isLoaded_of_same h.1 same.symm)

/-- What is reported about a binding. -/
def failureOf (b : Binding) : Except SchemaError Unit → List (Binding × SchemaError)
  | .ok () => []
  | .error e => [(b, e)]

theorem loadBindings_cons (bs : List Binding) :
    loadBindings source (b :: bs) s =
      (failureOf b (s.loadBinding source b).1 ++
          (loadBindings source bs (s.loadBinding source b).2).1,
        (loadBindings source bs (s.loadBinding source b).2).2) := by
  rw [loadBindings]
  dsimp only
  cases (s.loadBinding source b).1 <;> rfl

theorem loadBindings_append (bs cs : List Binding) (s : SchemaSet) :
    loadBindings source (bs ++ cs) s =
      ((loadBindings source bs s).1 ++ (loadBindings source cs (loadBindings source bs s).2).1,
        (loadBindings source cs (loadBindings source bs s).2).2) := by
  induction bs generalizing s with
  | nil => rfl
  | cons b bs ih =>
    rw [List.cons_append, loadBindings_cons, loadBindings_cons, ih, List.append_assoc]

theorem mem_of_mem_loadBindings {e : SchemaError} (bs : List Binding) (s : SchemaSet)
    (h : (b, e) ∈ (loadBindings source bs s).1) : b ∈ bs := by
  induction bs generalizing s with
  | nil => simp [loadBindings] at h
  | cons c bs ih =>
    rw [loadBindings_cons] at h
    rcases List.mem_append.1 h with h | h
    · cases hresult : (s.loadBinding source c).1 with
      | ok _ => simp [hresult, failureOf] at h
      | error e =>
        obtain ⟨rfl, -⟩ : b = c ∧ _ := by simpa [hresult, failureOf] using h
        exact List.mem_cons_self
    · exact List.mem_cons_of_mem _ (ih _ h)

theorem Skips.loadBindings (h : s.Skips b) (bs : List Binding) :
    (loadBindings source bs s).2.Skips b := by
  induction bs generalizing s with
  | nil => exact h
  | cons c bs ih =>
    rw [loadBindings_cons]
    exact ih (h.loadBinding c)

/-- Of bindings that are loaded in turn, one fails or gets its document exactly if its location is
not marked without a document when its turn comes. -/
theorem loadBindings_spec (source : SchemaSource) (s : SchemaSet) {before after : List Binding}
    (hbefore : b ∉ before) (hafter : b ∉ after) :
    ((∃ e, (b, e) ∈ (loadBindings source (before ++ b :: after) s).1) ∨
        (loadBindings source (before ++ b :: after) s).2.HasBinding b) ↔
      ¬ (loadBindings source before s).2.Skips b := by
  rw [loadBindings_append, loadBindings_cons]
  generalize hearlier : (loadBindings source before s).2 = earlier
  constructor
  · intro h skips
    rw [loadBinding_of_skips skips, failureOf, List.nil_append] at h
    rcases h with ⟨e, he⟩ | ⟨d, hd, same, -⟩
    · rcases List.mem_append.1 he with he | he
      · exact hbefore (mem_of_mem_loadBindings before s he)
      · exact hafter (mem_of_mem_loadBindings after earlier he)
    · exact (skips.loadBindings after).2 ⟨d, hd, same⟩
  · intro h
    rcases loadBinding_spec source h with ⟨e, he⟩ | loaded
    · refine .inl ⟨e, List.mem_append_right _ ?_⟩
      simp [he, failureOf]
    · exact .inr (loaded.loadBindings after)

/-! ## Reachable sets -/

/-- Asking for an effective type changes nothing in a set but what it remembers. -/
theorem exists_effectiveType (s : SchemaSet) (type : ComplexType) :
    ∃ types, (s.effectiveType type).2 = { s with effectiveTypes := types } := by
  unfold SchemaSet.effectiveType
  split <;> exact ⟨_, rfl⟩

/-- The set holds the type: one of its documents does, at whatever depth, or the type comes without a
document. -/
inductive Holds (s : SchemaSet) : ComplexType → Prop where
  | anyType : Holds s .anyType
  | inDocument {d : SchemaDocument} {type : ComplexType} (mem : d ∈ s.documents)
    (contains : d.Contains (.complexType type)) : Holds s type

/-- The sets that come about from a new one. -/
inductive Reachable : SchemaSet → Prop where
  | new : Reachable {}
  | add {s : SchemaSet} (h : Reachable s) (b : Binding) : Reachable (s.add b).2
  | compile {s : SchemaSet} (h : Reachable s) (source : SchemaSource) :
    Reachable (s.compile source).2
  | addInline {s : SchemaSet} (h : Reachable s) (source : SchemaSource) (text : String) :
    Reachable (s.addInline source text).2
  | effectiveType {s : SchemaSet} (h : Reachable s) {type : ComplexType} (held : s.Holds type) :
    Reachable (s.effectiveType type).2

/-- The files that are not to be loaded again are those that documents lie at or refer to. -/
def Tracked (s : SchemaSet) : Prop :=
  ∀ path, s.isLoaded path = true ↔
    s.HasDocument path ∨ ∃ d ∈ s.documents, d.RefersTo path

theorem Tracked.insertOne (h : s.Tracked) (source : SchemaSource) (d : SchemaDocument) :
    (s.insertOne source d).Tracked := by
  intro path
  rw [isLoaded_insertOne, h path, hasDocument_insertOne, documents_insertOne]
  simp only [Array.mem_push, or_and_right, exists_or, exists_eq_left]
  simp only [or_assoc, or_left_comm]

/-- What holds of a new set and is preserved by every change of a set holds of reachable sets. -/
theorem Reachable.preserves {P : SchemaSet → Prop} (h : s.Reachable) (new : P {})
    (add : ∀ s b, P s → P (s.add b).2) (take : ∀ s, P s → P { s with pending := [] })
    (count : ∀ s n, P s → P { s with inlineCount := n })
    (request : ∀ s source path, P s → P (s.request source path).2)
    (insertOne : ∀ s source d, P s → P (s.insertOne source d))
    (effectiveType : ∀ s type, s.Holds type → P s → P (s.effectiveType type).2) : P s := by
  induction h with
  | new => exact new
  | add _ b ih => exact add _ b ih
  | @compile s _ source ih =>
    exact loadBindings_induction (fun s => request s source) (fun s => insertOne s source) s.pending
      (take s ih)
  | @addInline s _ source text ih =>
    unfold SchemaSet.addInline
    dsimp only
    split
    · exact count s _ ih
    · exact insertAll_induction (fun s => insertOne s source) _ _ _ (count s _ ih)
  | effectiveType _ held ih => exact effectiveType _ _ held ih

theorem Reachable.tracked (h : s.Reachable) : s.Tracked := by
  refine h.preserves (P := Tracked) ?_ (fun s b h => ?_) (fun _ h => h) (fun _ _ h => h)
    (fun _ _ _ h => h) (fun _ source d h => h.insertOne source d) (fun s type _ h => ?_)
  · intro path
    simp [isLoaded, HasDocument]
  · unfold SchemaSet.add
    split <;> exact h
  · unfold SchemaSet.effectiveType
    split <;> exact h

/-- Every binding that waits was added, and waits once. -/
def PendingOnce (s : SchemaSet) : Prop :=
  s.pending.Nodup ∧ ∀ b ∈ s.pending, b ∈ s.registered

theorem PendingOnce.add (h : s.PendingOnce) (b : Binding) : (s.add b).2.PendingOnce := by
  unfold SchemaSet.add
  split
  · exact h
  · rename_i new
    refine ⟨?_, fun c hc => ?_⟩
    · refine List.nodup_append.2 ⟨h.1, by simp, ?_⟩
      rintro c hc _ hb rfl
      obtain rfl := List.mem_singleton.1 hb
      refine new (List.any_eq_true.2 ⟨c, h.2 c hc, ?_⟩)
      exact decide_eq_true ⟨rfl, .refl _⟩
    · rcases List.mem_append.1 hc with hc | hc
      · exact List.mem_append_left _ (h.2 c hc)
      · exact List.mem_append_right _ hc

theorem Reachable.pendingOnce (h : s.Reachable) : s.PendingOnce := by
  refine h.preserves (P := PendingOnce) ⟨by simp, by simp⟩ (fun _ b h => h.add b)
    (fun _ _ => ⟨by simp, by simp⟩) (fun _ _ h => h) (fun _ _ _ h => h) (fun s source d h => ?_)
    (fun s type _ h => ?_)
  · have same := sameDocuments_insertOne s source d
    unfold PendingOnce
    rw [congrArg pending same, congrArg registered same]
    exact h
  · unfold SchemaSet.effectiveType
    split <;> exact h

theorem skips_iff (h : s.Tracked) (b : Binding) :
    s.Skips b ↔ (∃ d ∈ s.documents, d.RefersTo b.location) ∧ ¬ s.HasDocument b.location := by
  unfold Skips
  rw [h b.location]
  constructor
  · rintro ⟨present | refers, absent⟩
    · exact absurd present absent
    · exact ⟨refers, absent⟩
  · rintro ⟨refers, absent⟩
    exact ⟨.inr refers, absent⟩

/-- When the pending bindings are loaded, a binding is reported as failed, or there is a document
with its location and namespace, unless a document that was there before its turn refers to its
location and no document lies there: then the binding is passed over. -/
theorem compile_reports_or_loads_iff (source : SchemaSource) (s : SchemaSet) (h : s.Reachable)
    (before : List Binding) (b : Binding) (after : List Binding)
    (pending : s.pending = before ++ b :: after) :
    ((∃ e, (b, e) ∈ (s.compile source).1) ∨
        ∃ d ∈ (s.compile source).2.documents,
          d.location.Same b.location ∧ d.targetNamespace = b.namespaceName) ↔
      ¬ ((∃ d ∈ (loadBindings source before { s with pending := [] }).2.documents,
            d.RefersTo b.location) ∧
          ∀ d ∈ (loadBindings source before { s with pending := [] }).2.documents,
            ¬ d.location.Same b.location) := by
  have nodup := h.pendingOnce.1
  rw [pending, List.nodup_append, List.nodup_cons] at nodup
  obtain ⟨-, ⟨hafter, -⟩, disjoint⟩ := nodup
  have hbefore : b ∉ before := fun hb => disjoint b hb b List.mem_cons_self rfl
  have tracked : (loadBindings source before { s with pending := [] }).2.Tracked :=
    loadBindings_induction (P := Tracked) (fun _ _ h => h) (fun _ d h => h.insertOne source d)
      before h.tracked
  have spec := loadBindings_spec source { s with pending := [] } hbefore hafter
  rw [skips_iff tracked b] at spec
  unfold compile
  rw [pending]
  simpa only [HasDocument, HasBinding, not_exists, not_and] using spec

/-- A document includes a file that does not exist; a binding to that file is neither reported nor
loaded. -/
theorem compile_passes_over_included :
    let text := "<schema xmlns='http://www.w3.org/2001/XMLSchema'>" ++
      "<include schemaLocation='b.xsd'/></schema>"
    let source := SchemaSource.ofFiles [(.ofText "a.xsd", .ok text)]
    let a : Binding := ⟨"", .ofText "a.xsd"⟩
    let b : Binding := ⟨"", .ofText "b.xsd"⟩
    let s : SchemaSet := (((({} : SchemaSet).add a).2).add b).2
    s.Reachable ∧ s.pending = [a] ++ b :: [] ∧
      ¬ ((∃ e, (b, e) ∈ (s.compile source).1) ∨
        ∃ d ∈ (s.compile source).2.documents,
          d.location.Same b.location ∧ d.targetNamespace = b.namespaceName) := by
  intro text source a b s
  have reachable : s.Reachable := (Reachable.new.add a).add b
  have pending : s.pending = [a] ++ b :: [] := by decide
  refine ⟨reachable, pending, ?_⟩
  rw [compile_reports_or_loads_iff source s reachable [a] b [] pending]
  decide +kernel

end SchemaSet

end XmlSchema
