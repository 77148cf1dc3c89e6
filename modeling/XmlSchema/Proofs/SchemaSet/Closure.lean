import XmlSchema.Proofs.SchemaSet.Spelling

/-!
# Documents that a binding brings in

A document is reached from another by including and importing (`SchemaSource.Reaches`).  The work
list of `SchemaSet.insert` runs empty (`SchemaSet.inserts_insertAll`), and all along the documents
in the set and on the list are those met so far, each once (`SchemaSet.Gathers`).  So loading a
binding adds the documents that are reached from its own, each once, and asks for no file twice
(`SchemaSet.compile_adds_reached`).
-/

namespace XmlSchema

/-! ## Reached documents -/

namespace SchemaSource

variable (source : SchemaSource)

/-- The document at a path, if the file can be loaded and compiled. -/
def document? (path : Path) : Option SchemaDocument :=
  (source.load path >>= (SchemaDocument.read · path)).toOption

/-- What the source gives for a file does not depend on how its path is written. -/
def Respects : Prop :=
  ∀ p q text, p.Same q → source.load p = .ok text → source.load q = .ok text

/-- The documents that can be got at from a document by including and importing. -/
inductive Reaches (root : SchemaDocument) : SchemaDocument → Prop where
  | root : Reaches root root
  | step {d e : SchemaDocument} {path : Path} (h : Reaches root d) (names : d.Names path)
    (found : source.document? path = some e) : Reaches root e

/-- Included documents have the target namespace of the document that includes them. -/
def IncludesAgree (root : SchemaDocument) : Prop :=
  ∀ d e path, source.Reaches root d → path ∈ d.includes → source.document? path = some e →
    e.targetNamespace = d.targetNamespace

variable {source} {d root : SchemaDocument} {p q path : Path}

theorem document?_eq_some_iff :
    source.document? path = some d ↔
      ∃ text, source.load path = .ok text ∧ SchemaDocument.read text path = .ok d := by
  unfold document?
  cases source.load path with
  | error e => simp [bind, Except.bind, Except.toOption]
  | ok text =>
    cases hread : SchemaDocument.read text path <;>
      simp [bind, Except.bind, Except.toOption, hread]

theorem location_of_document? (h : source.document? path = some d) : d.location = path := by
  obtain ⟨text, -, hread⟩ := document?_eq_some_iff.1 h
  exact SchemaDocument.location_of_readAs hread

theorem Respects.exists_document? (h : source.Respects) (same : p.Same q)
    (hd : source.document? p = some d) : ∃ e, source.document? q = some e ∧ d.Same e := by
  obtain ⟨text, hload, hread⟩ := document?_eq_some_iff.1 hd
  obtain ⟨e, hread', hsame⟩ := SchemaDocument.exists_read_same same hread
  exact ⟨e, document?_eq_some_iff.2 ⟨text, h p q text same hload, hread'⟩, hsame⟩

theorem Reaches.document? (h : source.Reaches root d)
    (hroot : source.document? root.location = some root) :
    source.document? d.location = some d := by
  cases h with
  | root => exact hroot
  | step _ _ found => rwa [location_of_document? found]

/-- Where all documents of the source have one target namespace, those that are included do. -/
theorem Respects.includesAgree (h : source.Respects) (name : String)
    (one : ∀ q ∈ source.support, ∀ d, source.document? q = some d → d.targetNamespace = name)
    (hroot : source.document? root.location = some root) : source.IncludesAgree root := by
  have named {path : Path} {d : SchemaDocument} (hd : source.document? path = some d) :
      d.targetNamespace = name := by
    obtain ⟨text, hload, -⟩ := document?_eq_some_iff.1 hd
    obtain ⟨q, hq, same⟩ := source.mem_support path text hload
    obtain ⟨e, he, hsame⟩ := h.exists_document? same.symm hd
    exact hsame.targetNamespace.trans (one q hq e he)
  intro d e path reached _ found
  rw [named found, named (reached.document? hroot)]

/-- A source of files gives the same text for all spellings of a path. -/
theorem respects_ofFiles (files : List (Path × FileEntry)) : (ofFiles files).Respects := by
  intro p q text same h
  have entry : fileEntry? files p = fileEntry? files q := by
    unfold fileEntry?
    congr 2
    funext file
    exact decide_eq_decide.2 ⟨fun h => h.trans same, fun h => h.trans same.symm⟩
  unfold ofFiles at h ⊢
  dsimp only at h ⊢
  rw [← entry]
  split at h
  · cases h
  · exact h
  · cases h

end SchemaSource

namespace SchemaSet

variable {source : SchemaSource} {s t : SchemaSet} {root d : SchemaDocument} {path : Path}

theorem request_eq_ok_iff :
    (s.request source path).1 = .ok d ↔ source.document? path = some d := by
  rw [SchemaSource.document?_eq_some_iff]
  unfold request
  dsimp only
  cases source.load path with
  | error e => simp
  | ok text => simp

/-! ## Files met on the way -/

/-- A file that was not met before has been marked and asked for. -/
structure Visits (s : SchemaSet) (path : Path) (t : SchemaSet) : Prop where
  new : s.isLoaded path = false
  marks : ∀ other, t.isLoaded other = true ↔ s.isLoaded other = true ∨ path.Same other
  requests : t.requests = s.requests ++ [path]

theorem requests_markLoaded (s : SchemaSet) (path : Path) :
    (s.markLoaded path).requests = s.requests := by
  unfold markLoaded
  split <;> rfl

/-- A reference is passed over when its file was met before; otherwise the document is looked for,
and left out when it is included with another target namespace. -/
theorem loadReferenced_cases (s : SchemaSet) (source : SchemaSource) (path : Path)
    (includedBy : Option String) :
    (s.isLoaded path = true ∧ s.loadReferenced source path includedBy = (none, s)) ∨
      (s.Visits path (s.loadReferenced source path includedBy).2 ∧
        ∀ d, (s.loadReferenced source path includedBy).1 = some d ↔
          source.document? path = some d ∧
            includedBy.any (d.targetNamespace != ·) = false) := by
  unfold loadReferenced
  split
  · rename_i loaded
    exact .inl ⟨loaded, rfl⟩
  · rename_i new
    have visits : s.Visits path ((s.markLoaded path).request source path).2 := by
      refine ⟨by simpa using new, fun other => isLoaded_markLoaded, ?_⟩
      exact congrArg (· ++ [path]) (requests_markLoaded s path)
    refine .inr ?_
    simp only [← request_eq_ok_iff (s := s.markLoaded path)]
    generalize (s.markLoaded path).request source path = result at visits ⊢
    obtain ⟨result, t⟩ := result
    cases result with
    | error e => exact ⟨visits, by simp⟩
    | ok document =>
      dsimp only
      split
      · rename_i left_out
        refine ⟨visits, fun d => iff_of_false (by simp) ?_⟩
        rintro ⟨⟨⟩, taken⟩
        rw [left_out] at taken
        cases taken
      · rename_i taken
        refine ⟨visits, fun d => ⟨?_, ?_⟩⟩
        · rintro ⟨⟩
          exact ⟨rfl, by simpa using taken⟩
        · rintro ⟨⟨⟩, -⟩
          rfl

/-! ## The end of the work -/

/-- The files of the source that were not met yet. -/
def unmet (source : SchemaSource) (s : SchemaSet) : List Path :=
  source.support.filter fun q => !s.isLoaded q

theorem unmet_eq_filter (h : ∀ q, s.isLoaded q = true → t.isLoaded q = true) :
    unmet source t = (unmet source s).filter fun q => !t.isLoaded q := by
  unfold unmet
  rw [List.filter_filter]
  refine List.filter_congr fun q _ => ?_
  cases hs : s.isLoaded q with
  | false => simp
  | true => simp [h q hs]

/-- Each document found uses up a file of the source. -/
theorem length_loadReferenced (s : SchemaSet) (source : SchemaSource) (path : Path)
    (includedBy : Option String) :
    (s.loadReferenced source path includedBy).1.toList.length +
        (unmet source (s.loadReferenced source path includedBy).2).length ≤
      (unmet source s).length := by
  rcases loadReferenced_cases s source path includedBy with ⟨-, h⟩ | ⟨visits, finds⟩
  · rw [h]
    simp
  · generalize s.loadReferenced source path includedBy = result at visits finds ⊢
    obtain ⟨found, t⟩ := result
    dsimp only at visits ⊢
    rw [unmet_eq_filter fun q hq => (visits.marks q).2 (.inl hq)]
    cases found with
    | none => simpa using List.length_filter_le _ _
    | some d =>
      obtain ⟨text, hload, -⟩ := SchemaSource.document?_eq_some_iff.1 ((finds d).1 rfl).1
      obtain ⟨q, hq, same⟩ := source.mem_support path text hload
      have used : ((unmet source s).filter fun q => !t.isLoaded q).length <
          (unmet source s).length := by
        rw [List.length_filter_lt_length_iff_exists]
        refine ⟨q, List.mem_filter.2 ⟨hq, ?_⟩, by simp [(visits.marks q).2 (.inr same.symm)]⟩
        cases met : s.isLoaded q with
        | false => rfl
        | true => exact absurd (isLoaded_of_same met same) (by simp [visits.new])
      rw [Option.toList_some, List.length_singleton]
      omega

theorem length_loadReferences (source : SchemaSource) (references : List (Path × Option String))
    (found : List SchemaDocument) (s : SchemaSet) :
    (loadReferences source references found s).1.length +
        (unmet source (loadReferences source references found s).2).length ≤
      found.length + (unmet source s).length := by
  induction references generalizing found s with
  | nil => exact Nat.le_refl _
  | cons reference references ih =>
    have first := length_loadReferenced s source reference.1 reference.2
    have rest := ih ((s.loadReferenced source reference.1 reference.2).1.toList ++ found)
      (s.loadReferenced source reference.1 reference.2).2
    rw [List.length_append] at rest
    rw [loadReferences]
    dsimp only
    omega

/-- The documents that a document refers to and that were not met before, last first. -/
def newReferences (source : SchemaSource) (d : SchemaDocument) (s : SchemaSet) :
    List SchemaDocument :=
  (loadReferences source (references d) [] (s.markLoaded d.location)).1

theorem length_newReferences (s : SchemaSet) (source : SchemaSource) (d : SchemaDocument) :
    (newReferences source d s).length + (unmet source (s.insertOne source d)).length ≤
      (unmet source s).length := by
  have marked : (unmet source (s.markLoaded d.location)).length ≤ (unmet source s).length := by
    rw [unmet_eq_filter fun q hq => isLoaded_markLoaded.2 (.inl hq)]
    exact List.length_filter_le _ _
  have used := length_loadReferences source (references d) [] (s.markLoaded d.location)
  rw [List.length_nil, Nat.zero_add] at used
  exact Nat.le_trans used marked

/-- Working off a stack of documents, for as long as it takes, leads from one set to another. -/
inductive Inserts (source : SchemaSource) : List SchemaDocument → SchemaSet → SchemaSet → Prop where
  | done {s : SchemaSet} : Inserts source [] s s
  | next {d : SchemaDocument} {stack : List SchemaDocument} {s t : SchemaSet}
    (rest : Inserts source (newReferences source d s ++ stack) (s.insertOne source d) t) :
    Inserts source (d :: stack) s t

/-- The stack is worked off before the steps are used up. -/
theorem inserts_insertAll {fuel : Nat} {stack : List SchemaDocument} {s : SchemaSet}
    (enough : stack.length + (unmet source s).length ≤ fuel) :
    Inserts source stack s (insertAll source fuel stack s) := by
  induction fuel generalizing stack s with
  | zero =>
    obtain rfl : stack = [] := List.eq_nil_of_length_eq_zero (by omega)
    exact .done
  | succ fuel ih =>
    cases stack with
    | nil => exact .done
    | cons d stack =>
      rw [insertAll_cons]
      refine .next (ih ?_)
      have used := length_newReferences s source d
      rw [List.length_cons] at enough
      rw [List.length_append]
      omega

/-! ## What has been gathered -/

/-- The documents that are known so far, in the set or on the stack: they are reached from the first
one, and there is one for each file met that has a document. -/
structure Gathers (source : SchemaSource) (root : SchemaDocument) (known : List SchemaDocument)
    (s : SchemaSet) : Prop where
  root_mem : root ∈ known
  reached : ∀ d ∈ known, source.Reaches root d
  marked : ∀ d ∈ known, s.isLoaded d.location = true
  distinct : known.Pairwise fun d e => ¬ d.location.Same e.location
  requested : ∀ p ∈ s.requests, s.isLoaded p = true
  once : s.requests.Pairwise fun p q => ¬ p.Same q
  complete : source.IncludesAgree root → ∀ p e, s.isLoaded p = true → source.document? p = some e →
    ∃ d ∈ known, d.location.Same p

namespace Gathers

variable {known known' : List SchemaDocument}

theorem perm (h : Gathers source root known s) (same : known.Perm known') :
    Gathers source root known' s where
  root_mem := same.mem_iff.1 h.root_mem
  reached d hd := h.reached d (same.mem_iff.2 hd)
  marked d hd := h.marked d (same.mem_iff.2 hd)
  distinct := (same.pairwise_iff fun not_same same => not_same same.symm).1 h.distinct
  requested := h.requested
  once := h.once
  complete agree p e met found := by
    obtain ⟨d, hd, hsame⟩ := h.complete agree p e met found
    exact ⟨d, same.mem_iff.1 hd, hsame⟩

/-- A file that was not met before brings in its document, if it has one. -/
theorem visit (respects : source.Respects) (h : Gathers source root known s)
    (visits : s.Visits path t) {found : Option SchemaDocument}
    (finds : ∀ d, found = some d → source.Reaches root d ∧ d.location = path)
    (missed : source.IncludesAgree root → ∀ d, source.document? path = some d → found ≠ none) :
    Gathers source root (found.toList ++ known) t := by
  have kept {p : Path} (hp : s.isLoaded p = true) : t.isLoaded p = true :=
    (visits.marks p).2 (.inl hp)
  have met : t.isLoaded path = true := (visits.marks path).2 (.inr (.refl path))
  have new {p : Path} (hp : s.isLoaded p = true) : ¬ path.Same p := fun same =>
    absurd (isLoaded_of_same hp same.symm) (by simp [visits.new])
  constructor
  case root_mem => exact List.mem_append_right _ h.root_mem
  case reached =>
    refine List.forall_mem_append.2 ⟨fun d hd => ?_, h.reached⟩
    exact (finds d (Option.mem_toList.1 hd)).1
  case marked =>
    refine List.forall_mem_append.2 ⟨fun d hd => ?_, fun d hd => kept (h.marked d hd)⟩
    rwa [(finds d (Option.mem_toList.1 hd)).2]
  case distinct =>
    refine List.pairwise_append.2 ⟨?_, h.distinct, fun d hd e he => ?_⟩
    · cases found <;> simp
    · rw [(finds d (Option.mem_toList.1 hd)).2]
      exact new (h.marked e he)
  case requested =>
    rw [visits.requests]
    exact List.forall_mem_append.2
      ⟨fun p hp => kept (h.requested p hp), List.forall_mem_singleton.2 met⟩
  case once =>
    rw [visits.requests]
    refine List.pairwise_append.2 ⟨h.once, List.pairwise_singleton _ _, fun p hp q hq same => ?_⟩
    obtain rfl := List.mem_singleton.1 hq
    exact new (h.requested p hp) same.symm
  case complete =>
    intro agree p e hp hdocument
    rcases (visits.marks p).1 hp with hp | same
    · obtain ⟨d, hd, hsame⟩ := h.complete agree p e hp hdocument
      exact ⟨d, List.mem_append_right _ hd, hsame⟩
    · -- the file has a document under the path by which it was asked for, too
      obtain ⟨e', hdocument', -⟩ := respects.exists_document? same.symm hdocument
      obtain ⟨d, hd⟩ := Option.ne_none_iff_exists'.1 (missed agree e' hdocument')
      refine ⟨d, List.mem_append_left _ (Option.mem_toList.2 hd), ?_⟩
      rwa [(finds d hd).2]

theorem loadReferenced (respects : source.Respects) (h : Gathers source root known s)
    (reached : source.Reaches root d) {includedBy : Option String}
    (refers : (path, includedBy) ∈ references d) :
    Gathers source root ((s.loadReferenced source path includedBy).1.toList ++ known)
      (s.loadReferenced source path includedBy).2 := by
  rcases loadReferenced_cases s source path includedBy with ⟨-, same⟩ | ⟨visits, finds⟩
  · rwa [same]
  · refine h.visit respects visits (fun e he => ?_) fun agree e found left_out => ?_
    · have found := ((finds e).1 he).1
      refine ⟨reached.step ?_ found, SchemaSource.location_of_document? found⟩
      exact (SchemaDocument.mem_references.1 refers).imp And.left And.left
    · have taken : includedBy.any (e.targetNamespace != ·) = false := by
        rcases SchemaDocument.mem_references.1 refers with ⟨included, rfl⟩ | ⟨-, rfl⟩
        · simp [agree d e path reached included found]
        · rfl
      rw [(finds e).2 ⟨found, taken⟩] at left_out
      cases left_out

theorem loadReferences (respects : source.Respects) (reached : source.Reaches root d)
    {refs : List (Path × Option String)} (refer : ∀ r ∈ refs, r ∈ references d)
    {found : List SchemaDocument} (h : Gathers source root (found ++ known) s) :
    Gathers source root ((loadReferences source refs found s).1 ++ known)
      (loadReferences source refs found s).2 := by
  induction refs generalizing found s with
  | nil => exact h
  | cons r refs ih =>
    obtain ⟨first, rest⟩ := List.forall_mem_cons.1 refer
    have gathered := h.loadReferenced respects reached first
    rw [← List.append_assoc] at gathered
    exact ih rest gathered

/-- Adding a document of the stack moves it into the set, and puts those it refers to on the
stack. -/
theorem insertOne (respects : source.Respects) {stack : List SchemaDocument}
    (h : Gathers source root (s.documents.toList ++ d :: stack) s) :
    Gathers source root
      ((s.insertOne source d).documents.toList ++ (newReferences source d s ++ stack))
      (s.insertOne source d) := by
  have hd : d ∈ s.documents.toList ++ d :: stack := List.mem_append_right _ List.mem_cons_self
  have marked : s.markLoaded d.location = s := if_pos (h.marked d hd)
  have gathered := loadReferences respects (h.reached d hd) (fun r hr => hr)
    (show Gathers source root ([] ++ (s.documents.toList ++ d :: stack)) s from h)
  have added : Gathers source root (newReferences source d s ++ (s.documents.toList ++ d :: stack))
      (s.insertOne source d) := by
    unfold newReferences SchemaSet.insertOne
    rw [marked]
    exact { gathered with }
  refine added.perm ?_
  rw [documents_insertOne, Array.toList_push, List.append_cons s.documents.toList]
  exact List.perm_append_comm_assoc _ _ _

end Gathers

/-- The files that the documents name have been met. -/
def Followed (s : SchemaSet) : Prop :=
  ∀ d ∈ s.documents, ∀ path, d.Names path → s.isLoaded path = true

theorem Followed.insertOne (h : s.Followed) (source : SchemaSource) (d : SchemaDocument) :
    (s.insertOne source d).Followed := by
  intro e he path names
  rw [documents_insertOne, Array.mem_push] at he
  rw [isLoaded_insertOne]
  rcases he with he | rfl
  · exact .inl (h e he path names)
  · exact .inr (.inr names.refersTo)

/-- When the stack has been worked off, the set has what was gathered, and all references have been
followed. -/
theorem Inserts.gathers {stack : List SchemaDocument} (inserts : Inserts source stack s t)
    (respects : source.Respects) (h : Gathers source root (s.documents.toList ++ stack) s)
    (followed : s.Followed) : Gathers source root t.documents.toList t ∧ t.Followed := by
  induction inserts with
  | done =>
    rw [List.append_nil] at h
    exact ⟨h, followed⟩
  | @next d _ _ _ _ ih => exact ih (h.insertOne respects) (followed.insertOne source d)

/-- Where all references have been followed, every document that is reached is there. -/
theorem Gathers.exists_same (respects : source.Respects)
    (hroot : source.document? root.location = some root)
    (agree : source.IncludesAgree root) (h : Gathers source root t.documents.toList t)
    (followed : t.Followed) {e : SchemaDocument} (reached : source.Reaches root e) :
    ∃ d ∈ t.documents, d.Same e := by
  induction reached with
  | root => exact ⟨root, Array.mem_toList_iff.1 h.root_mem, ⟨rfl, rfl, rfl, rfl⟩⟩
  | step reached names found ih =>
    obtain ⟨d, hd, same⟩ := ih
    -- the document in the set names the file as well, possibly by another path
    obtain ⟨path', names', same_path⟩ := same.symm.exists_names names
    obtain ⟨e', found', same'⟩ := respects.exists_document? same_path found
    obtain ⟨f, hf, at_path⟩ := h.complete agree path' e' (followed d hd path' names') found'
    have found_f := (h.reached f hf).document? hroot
    obtain ⟨e'', found'', same''⟩ := respects.exists_document? at_path found_f
    obtain rfl := Option.some.inj (found'.symm.trans found'')
    exact ⟨f, Array.mem_toList_iff.1 hf, same''.trans same'.symm⟩

/-! ## A new set with one binding -/

theorem markLoaded_markLoaded (s : SchemaSet) (path : Path) :
    (s.markLoaded path).markLoaded path = s.markLoaded path :=
  if_pos (isLoaded_markLoaded.2 (.inr (.refl path)))

theorem Inserts.markLoaded {stack : List SchemaDocument} (h : Inserts source (d :: stack) s t) :
    Inserts source (d :: stack) (s.markLoaded d.location) t := by
  cases h with
  | next rest =>
    refine .next ?_
    unfold newReferences SchemaSet.insertOne at rest ⊢
    rwa [markLoaded_markLoaded]

/-- The set with one binding, when the document of the binding has been asked for. -/
def asked (b : Binding) : SchemaSet := { registered := [b], requests := [b.location] }

theorem compile_add {b : Binding} (loads : source.document? b.location = some root)
    (named : root.targetNamespace = b.namespaceName) :
    (({} : SchemaSet).add b).2.compile source = ([], (asked b).insert source root) := by
  have start : ({ registered := [b] } : SchemaSet).request source b.location =
      (.ok root, asked b) := Prod.ext (request_eq_ok_iff.2 loads) rfl
  have loaded : ({ registered := [b] } : SchemaSet).loadBinding source b =
      (.ok (), (asked b).insert source root) := by
    unfold loadBinding
    dsimp only
    rw [if_neg (by simp [isLoaded]), start]
    dsimp only
    rw [if_pos named]
  have added : ({} : SchemaSet).add b = (true, { registered := [b], pending := [b] }) := rfl
  rw [added]
  unfold compile
  dsimp only
  rw [loadBindings_cons, loaded]
  rfl

theorem gathers_asked {b : Binding} (loads : source.document? b.location = some root) :
    Gathers source root [root] ((asked b).markLoaded root.location) := by
  have location := SchemaSource.location_of_document? loads
  have met (p : Path) : ((asked b).markLoaded root.location).isLoaded p = true ↔
      root.location.Same p := by
    rw [isLoaded_markLoaded]
    simp [asked, isLoaded]
  constructor
  case root_mem => exact List.mem_singleton_self root
  case reached => exact List.forall_mem_singleton.2 .root
  case marked => exact List.forall_mem_singleton.2 ((met _).2 (.refl _))
  case distinct => exact List.pairwise_singleton _ _
  case requested =>
    rw [requests_markLoaded]
    exact List.forall_mem_singleton.2 ((met _).2 (location ▸ .refl _))
  case once =>
    rw [requests_markLoaded]
    exact List.pairwise_singleton _ _
  case complete =>
    intro _ p _ hp _
    exact ⟨root, List.mem_singleton_self root, (met p).1 hp⟩

/-- When a new set loads a binding whose document can be loaded and has the right namespace, nothing
fails, the work comes to an end, and no file is asked for twice.  The set then has documents that
are reached from the first one, each once.  If included documents have the target namespace of the
documents that include them, then it has all of these, up to the spelling of paths. -/
theorem compile_adds_reached (source : SchemaSource) (respects : source.Respects) (b : Binding)
    (root : SchemaDocument) (loads : source.document? b.location = some root)
    (named : root.targetNamespace = b.namespaceName) :
    let result := (({} : SchemaSet).add b).2.compile source
    result.1 = [] ∧
    Inserts source [root] (asked b) result.2 ∧
    result.2.requests.Pairwise (fun p q => ¬ p.Same q) ∧
    root ∈ result.2.documents ∧
    (∀ d ∈ result.2.documents, source.Reaches root d ∧ source.document? d.location = some d) ∧
    result.2.documents.toList.Pairwise (fun d e => ¬ d.location.Same e.location) ∧
    (source.IncludesAgree root →
      ∀ e, source.Reaches root e → ∃ d ∈ result.2.documents, d.Same e) := by
  intro result
  have compiled : result = ([], (asked b).insert source root) := compile_add loads named
  have hroot : source.document? root.location = some root := by
    rwa [SchemaSource.location_of_document? loads]
  have inserts : Inserts source [root] (asked b) ((asked b).insert source root) := by
    refine inserts_insertAll ?_
    have few : (unmet source (asked b)).length ≤ source.support.length := List.length_filter_le _ _
    rw [List.length_singleton]
    omega
  have empty : ((asked b).markLoaded root.location).documents = #[] :=
    congrArg documents (sameDocuments_markLoaded (asked b) root.location)
  obtain ⟨gathers, followed⟩ := inserts.markLoaded.gathers respects
    (by rw [empty]; exact gathers_asked loads) (by simp [Followed, empty])
  rw [compiled]
  refine ⟨rfl, inserts, gathers.once, Array.mem_toList_iff.1 gathers.root_mem, fun d hd => ?_,
    gathers.distinct, fun agree e he => gathers.exists_same respects hroot agree followed he⟩
  have reached := gathers.reached d (Array.mem_toList_iff.2 hd)
  exact ⟨reached, reached.document? hroot⟩

/-- Two documents that refer to each other, and one to itself, under several spellings. -/
def sampleSource : SchemaSource :=
  let schema (content : String) :=
    "<schema xmlns='http://www.w3.org/2001/XMLSchema'>" ++ content ++ "</schema>"
  SchemaSource.ofFiles
    [(.ofText "/a", .ok (schema "<include schemaLocation='b'/>")),
      (.ofText "/b", .ok (schema "<include schemaLocation='.//a'/><import schemaLocation='b'/>"))]

/-- A binding to the first document. -/
def sampleBinding : Binding := ⟨"", .ofText "/a"⟩

/-- The documents are found in a cycle, and each is added once. -/
theorem compile_adds_reached_cycle :
    ∃ root, sampleSource.document? sampleBinding.location = some root ∧
      root.targetNamespace = sampleBinding.namespaceName ∧ sampleSource.IncludesAgree root ∧
      ((({} : SchemaSet).add sampleBinding).2.compile sampleSource).2.documents.size = 2 ∧
      ∀ e, sampleSource.Reaches root e →
        ∃ d ∈ ((({} : SchemaSet).add sampleBinding).2.compile sampleSource).2.documents,
          d.Same e := by
  have respects : sampleSource.Respects := SchemaSource.respects_ofFiles _
  have found : ∀ q ∈ sampleSource.support,
      (sampleSource.document? q).map (·.targetNamespace) = some sampleBinding.namespaceName := by
    decide +kernel
  obtain ⟨root, loads, unnamed⟩ :=
    Option.map_eq_some_iff.1 (found sampleBinding.location (by decide))
  have hroot : sampleSource.document? root.location = some root := by
    rw [SchemaSource.location_of_document? loads]
    exact loads
  have agree : sampleSource.IncludesAgree root := by
    refine respects.includesAgree sampleBinding.namespaceName (fun q hq d hd => ?_) hroot
    have named := found q hq
    rw [hd] at named
    exact Option.some.inj named
  obtain ⟨-, -, -, -, -, -, complete⟩ :=
    compile_adds_reached sampleSource respects sampleBinding root loads unnamed
  exact ⟨root, loads, unnamed, agree, by decide +kernel, complete agree⟩

end SchemaSet

end XmlSchema
