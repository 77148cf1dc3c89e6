import XmlSchema.Proofs.SchemaSet.Loading
import XmlSchema.Proofs.Validation.Issues

/-!
# Effects of the operations of a run

What each operation of a run changes, as an equation: behind the operation, the run is the one
before it with some fields replaced and with remarks reported (`Run.exists_closeFrame_eq`,
`Run.exists_opened_eq`, `Run.exists_closeSchema_eq`, `Run.exists_startTag_eq`).  None of these
remarks says that the document is not well-formed (`Ordinary`); those about elements do not concern
the schemas that the document names either (`AboutContent`).
-/

namespace XmlSchema

/-! ## Ordinary remarks -/

/-- Whether the finding is that the document is not well-formed. -/
def Finding.isFault : Finding → Bool
  | .malformed _ _ | .missingRoot => true
  | _ => false

/-- None of the remarks says that the document is not well-formed. -/
def Ordinary (rs : List Remark) : Prop := ∀ r ∈ rs, r.finding.isFault = false

/-- Whether the finding is about the content of the document: neither about its form nor about the
schemas that it names. -/
def Finding.aboutContent : Finding → Bool
  | .malformed _ _ | .missingRoot | .schemaUnavailable _ _ => false
  | _ => true

/-- All the remarks are about the content of the document. -/
def AboutContent (rs : List Remark) : Prop := ∀ r ∈ rs, r.finding.aboutContent = true

theorem AboutContent.ordinary {rs : List Remark} (h : AboutContent rs) : Ordinary rs := by
  intro r hr
  have about := h r hr
  cases hfinding : r.finding <;> rw [hfinding] at about <;> first | rfl | cases about

theorem ordinary_nil : Ordinary [] := by simp [Ordinary]

theorem ordinary_one {r : Remark} (h : r.finding.isFault = false) : Ordinary [r] := by
  simpa [Ordinary] using h

theorem ordinary_append {rs rs' : List Remark} :
    Ordinary (rs ++ rs') ↔ Ordinary rs ∧ Ordinary rs' := List.forall_mem_append

theorem aboutContent_nil : AboutContent [] := by simp [AboutContent]

theorem aboutContent_one {r : Remark} (h : r.finding.aboutContent = true) : AboutContent [r] := by
  simpa [AboutContent] using h

theorem aboutContent_append {rs rs' : List Remark} :
    AboutContent (rs ++ rs') ↔ AboutContent rs ∧ AboutContent rs' := List.forall_mem_append

theorem aboutContent_map {α : Type} {f : α → Remark} (h : ∀ a, (f a).finding.aboutContent = true)
    (as : List α) : AboutContent (as.map f) :=
  List.forall_mem_map.2 fun a _ => h a

theorem aboutContent_flatMap {α : Type} {f : α → List Remark} (h : ∀ a, AboutContent (f a))
    (as : List α) : AboutContent (as.flatMap f) := by
  intro r hr
  obtain ⟨a, -, hr⟩ := List.mem_flatMap.1 hr
  exact h a r hr

theorem aboutContent_ite {c : Prop} [Decidable c] {rs rs' : List Remark} (h : AboutContent rs)
    (h' : AboutContent rs') : AboutContent (if c then rs else rs') := by
  split
  · exact h
  · exact h'

theorem aboutContent_danglingRemarks (a : NamedAttribute) : AboutContent a.danglingRemarks :=
  aboutContent_ite (aboutContent_map (fun _ => rfl) _) aboutContent_nil

theorem aboutContent_attributeValueRemarks (set : SchemaSet) (name : QName)
    (declaration : AttributeDecl) (a : NamedAttribute) :
    AboutContent (attributeValueRemarks set name declaration a) := by
  unfold attributeValueRemarks
  dsimp only
  split
  · exact aboutContent_one rfl
  · exact aboutContent_ite (aboutContent_one rfl) aboutContent_nil

theorem aboutContent_attributeRemarks (set : SchemaSet) (type : EffectiveType) (name : QName)
    (a : NamedAttribute) : AboutContent (attributeRemarks set type name a) := by
  unfold attributeRemarks
  split
  · exact aboutContent_attributeValueRemarks _ _ _ _
  · unfold wildcardAttributeRemarks
    split
    · exact aboutContent_one rfl
    · refine aboutContent_ite aboutContent_nil ?_
      split
      · exact aboutContent_attributeValueRemarks _ _ _ _
      · exact aboutContent_ite (aboutContent_one rfl) aboutContent_nil

theorem aboutContent_attributesRemarks (set : SchemaSet) (type : EffectiveType)
    (attributes : List NamedAttribute) (nameOffset : Nat) :
    AboutContent (attributesRemarks set type attributes nameOffset) :=
  aboutContent_append.2 ⟨aboutContent_flatMap (fun _ => aboutContent_attributeRemarks _ _ _ _) _,
    aboutContent_map (fun _ => rfl) _⟩

theorem aboutContent_childContext {parent child : QName} {mode : Mode} {finding : Finding}
    (h : childContext parent mode child = .error finding) : finding.aboutContent = true := by
  unfold childContext at h
  split at h
  · cases h
  · cases h
  · split at h
    · cases h
      rfl
    · split at h
      · cases h
        rfl
      · cases h
        rfl
      · split at h <;> cases h
        rfl

namespace OpeningElement

variable (set : SchemaSet) (e : OpeningElement)

theorem aboutContent_governingType (declaration : ElementDecl) :
    AboutContent (e.governingType set declaration).2 := by
  unfold governingType
  dsimp only
  split
  · exact aboutContent_nil
  · split
    · exact aboutContent_nil
    · exact aboutContent_one rfl

theorem aboutContent_isNil (declaration : ElementDecl) : AboutContent (e.isNil declaration).2 := by
  unfold isNil
  split
  · exact aboutContent_nil
  · split
    · split
      · exact aboutContent_nil
      · exact aboutContent_one rfl
    · exact aboutContent_nil

theorem aboutContent_judgeDeclared (declaration : ElementDecl) :
    AboutContent (e.judgeDeclared set declaration).1.2 := by
  have first := aboutContent_append.2
    ⟨e.aboutContent_governingType set declaration, e.aboutContent_isNil declaration⟩
  unfold judgeDeclared
  split
  · exact aboutContent_one rfl
  · dsimp only
    split
    · exact first
    · split
      · exact aboutContent_append.2 ⟨first, aboutContent_one rfl⟩
      · exact aboutContent_append.2 ⟨first, aboutContent_attributesRemarks _ _ _ _⟩
    · exact aboutContent_append.2 ⟨first, aboutContent_map (fun _ => rfl) _⟩

theorem aboutContent_judgeUndeclared : AboutContent (e.judgeUndeclared set).2 := by
  unfold judgeUndeclared
  split
  · exact aboutContent_nil
  · split
    · exact aboutContent_one rfl
    · exact aboutContent_append.2 ⟨aboutContent_one rfl, aboutContent_map (fun _ => rfl) _⟩

theorem aboutContent_judge (context : Context) : AboutContent (e.judge set context).1.2 := by
  unfold judge
  split
  · exact aboutContent_nil
  · exact e.aboutContent_judgeDeclared set _
  · split
    · exact e.aboutContent_judgeDeclared set _
    · exact e.aboutContent_judgeUndeclared set
  · split
    · exact e.aboutContent_judgeDeclared set _
    · exact aboutContent_one rfl
  · split
    · exact e.aboutContent_judgeDeclared set _
    · exact aboutContent_nil

/-- Judging changes nothing in a set but what it remembers. -/
theorem exists_judge_set (context : Context) :
    ∃ types, (e.judge set context).2 = { set with effectiveTypes := types } := by
  have declared (declaration : ElementDecl) : ∃ types,
      (e.judgeDeclared set declaration).2 = { set with effectiveTypes := types } := by
    unfold judgeDeclared
    split
    · exact ⟨_, rfl⟩
    · dsimp only
      split
      · exact ⟨_, rfl⟩
      · rename_i definition _
        split <;> exact set.exists_effectiveType definition
      · exact ⟨_, rfl⟩
  unfold judge
  split
  · exact ⟨_, rfl⟩
  · exact declared _
  · split
    · exact declared _
    · exact ⟨_, rfl⟩
  · split
    · exact declared _
    · exact ⟨_, rfl⟩
  · split
    · exact declared _
    · exact ⟨_, rfl⟩

end OpeningElement

namespace TypedElement

theorem aboutContent_addText (element : TypedElement) (name : QName) (value : String)
    (offset : Nat) : AboutContent (element.addText name value offset).2 := by
  unfold addText
  dsimp only
  split
  · exact aboutContent_ite aboutContent_nil (aboutContent_one rfl)
  · split
    · exact aboutContent_nil
    · exact aboutContent_ite aboutContent_nil (aboutContent_one rfl)
    · exact aboutContent_ite aboutContent_nil (aboutContent_one rfl)

theorem aboutContent_closingRemarks (set : SchemaSet) (name : QName) (element : TypedElement)
    (offset : Nat) : AboutContent (element.closingRemarks set name offset) := by
  unfold closingRemarks
  refine aboutContent_ite aboutContent_nil ?_
  split
  · exact aboutContent_nil
  · unfold simpleContentRemarks
    dsimp only
    split
    · exact aboutContent_one rfl
    · exact aboutContent_ite (aboutContent_one rfl) aboutContent_nil
  · exact aboutContent_ite aboutContent_nil (aboutContent_one rfl)

end TypedElement

/-! ## Reports -/

/-- The remarks that are reported, as issues: all of them, or all but the warnings. -/
def reported (o : Options) (text : List Char) (rs : List Remark) : List Issue :=
  (rs.filter fun r => r.finding.severity = .error || o.reportWarnings).map (·.toIssue text)

/-- What an open element keeps as long as it is open: its name as written, and where the name
stands. -/
def Frame.header (frame : Frame) : String × Nat := (frame.rawName, frame.nameOffset)

namespace Run

variable (o : Options) (text : List Char) (run : Run)

theorem reported_append (rs rs' : List Remark) :
    reported o text (rs ++ rs') = reported o text rs ++ reported o text rs' := by
  simp [reported]

theorem remark_eq (r : Remark) :
    run.remark o text r = { run with issues := run.issues ++ (reported o text [r]).toArray } := by
  unfold remark reported
  cases hseverity : r.finding.severity <;> cases hwarnings : o.reportWarnings <;> simp [hseverity]

/-- Remarks change nothing but the issues. -/
theorem remarkAll_eq (rs : List Remark) :
    run.remarkAll o text rs =
      { run with issues := run.issues ++ (reported o text rs).toArray } := by
  induction rs generalizing run with
  | nil => simp [remarkAll, reported]
  | cons r rs ih =>
    have split : (reported o text (r :: rs)).toArray =
        (reported o text [r]).toArray ++ (reported o text rs).toArray := by
      rw [← List.singleton_append, reported_append, List.append_toArray]
    calc run.remarkAll o text (r :: rs) = (run.remark o text r).remarkAll o text rs := rfl
      _ = { run with issues := run.issues ++ (reported o text (r :: rs)).toArray } := by
        rw [ih, remark_eq, split, Array.append_assoc]

theorem remarkAll_append (rs rs' : List Remark) :
    run.remarkAll o text (rs ++ rs') = (run.remarkAll o text rs).remarkAll o text rs' :=
  List.foldl_append

/-! ## Elements -/

theorem noteRootEnd_eq :
    run.noteRootEnd = { run with rootClosed := run.rootClosed || run.frames.isEmpty } := by
  unfold noteRootEnd
  cases hframes : run.frames.isEmpty <;> simp

/-- The end of an element takes away its frame and its scope. -/
theorem exists_closeFrame_eq {frame : Frame} {frames : List Frame}
    (h : run.frames = frame :: frames) (offset : Nat) :
    ∃ rs, AboutContent rs ∧ run.closeFrame o text offset =
      remarkAll o text { run with
        frames
        scopes := run.scopes.tail
        rootClosed := run.rootClosed || frames.isEmpty } rs := by
  unfold closeFrame
  rw [h]
  dsimp only
  rw [noteRootEnd_eq]
  split
  · exact ⟨_, TypedElement.aboutContent_closingRemarks _ _ _ _, rfl⟩
  · exact ⟨[], aboutContent_nil, rfl⟩

theorem closeFrame_of_untyped {frame : Frame} {frames : List Frame}
    (h : run.frames = frame :: frames) (untyped : ∀ element, frame.mode ≠ .typed element)
    (offset : Nat) :
    run.closeFrame o text offset =
      { run with
        frames
        scopes := run.scopes.tail
        rootClosed := run.rootClosed || frames.isEmpty } := by
  unfold closeFrame
  rw [h]
  dsimp only
  rw [noteRootEnd_eq]
  cases hmode : frame.mode with
  | typed element => exact absurd hmode (untyped element)
  | lax | skip => rfl

theorem contextOf_spec (child : QName) :
    (∀ finding, run.contextOf child = .error finding → finding.aboutContent = true) ∧
      ∀ context next, run.contextOf child = .ok (context, next) →
        ∃ frames, frames.map Frame.header = run.frames.map Frame.header ∧
          next = { run with frames } := by
  unfold contextOf
  split
  · constructor
    · rintro finding ⟨⟩
    · rintro context next ⟨⟩
      exact ⟨run.frames, rfl, rfl⟩
  · rename_i frame frames hframes
    cases hchild : childContext frame.name frame.mode child with
    | error finding =>
      constructor
      · rintro _ ⟨⟩
        exact aboutContent_childContext hchild
      · rintro context next ⟨⟩
    | ok result =>
      constructor
      · rintro finding ⟨⟩
      · rintro context next ⟨⟩
        exact ⟨{ frame with mode := result.2 } :: frames, by rw [hframes]; rfl, rfl⟩

/-- An element that opens has a frame on those of its parents, which may have moved on. -/
theorem exists_opened_eq (tag : Xml.StartTag) (name : QName) (attributes : List NamedAttribute) :
    ∃ rs mode parents types, AboutContent rs ∧
      parents.map Frame.header = run.frames.map Frame.header ∧
      run.opened o text tag name attributes =
        remarkAll o text { run with
          set := { run.set with effectiveTypes := types }
          frames := ⟨tag.rawName, name, tag.offset + 1, mode⟩ :: parents } rs := by
  obtain ⟨refused, admitted⟩ := contextOf_spec run name
  unfold opened
  cases hcontext : run.contextOf name with
  | error finding =>
    refine ⟨[⟨finding, tag.offset + 1⟩], .skip, run.frames, run.set.effectiveTypes,
      aboutContent_one (refused finding hcontext), rfl, ?_⟩
    dsimp only
    rw [remark_eq, remarkAll_eq]
  | ok next =>
    obtain ⟨context, run'⟩ := next
    obtain ⟨parents, headers, rfl⟩ := admitted context run' hcontext
    let e : OpeningElement := ⟨name, attributes, run.scopes, tag.offset + 1⟩
    obtain ⟨types, htypes⟩ := e.exists_judge_set run.set context
    refine ⟨(e.judge run.set context).1.2, (e.judge run.set context).1.1, parents, types,
      e.aboutContent_judge run.set context, headers, ?_⟩
    rw [← htypes, remarkAll_eq]
    dsimp only
    rw [remarkAll_eq]

/-- An empty-element tag opens an element and ends it. -/
theorem exists_openElement_eq (tag : Xml.StartTag) (name : QName)
    (attributes : List NamedAttribute) :
    ∃ rs mode parents types, AboutContent rs ∧
      parents.map Frame.header = run.frames.map Frame.header ∧
      run.openElement o text tag name attributes =
        remarkAll o text (if tag.selfClosing then
          { run with
            set := { run.set with effectiveTypes := types }
            frames := parents
            scopes := run.scopes.tail
            rootClosed := run.rootClosed || parents.isEmpty }
        else
          { run with
            set := { run.set with effectiveTypes := types }
            frames := ⟨tag.rawName, name, tag.offset + 1, mode⟩ :: parents }) rs := by
  obtain ⟨rs, mode, parents, types, about, headers, opened_eq⟩ :=
    run.exists_opened_eq o text tag name attributes
  rw [openElement_eq, opened_eq]
  split
  · obtain ⟨rs', about', closed_eq⟩ := exists_closeFrame_eq o text
      (remarkAll o text { run with
        set := { run.set with effectiveTypes := types }
        frames := ⟨tag.rawName, name, tag.offset + 1, mode⟩ :: parents } rs)
      (by rw [remarkAll_eq]) (tag.offset + 1)
    refine ⟨rs ++ rs', mode, parents, types, aboutContent_append.2 ⟨about, about'⟩, headers, ?_⟩
    rw [closed_eq, remarkAll_append, remarkAll_eq o text _ rs, remarkAll_eq o text _ rs]
  · exact ⟨rs, mode, parents, types, about, headers, rfl⟩

/-- Text in an element changes nothing but the mode of the element. -/
theorem exists_textContent_eq {frame : Frame} {frames : List Frame}
    (h : run.frames = frame :: frames) (value : String) (offset : Nat) :
    ∃ rs frames', AboutContent rs ∧ frames'.map Frame.header = run.frames.map Frame.header ∧
      run.textContent o text value offset = remarkAll o text { run with frames := frames' } rs := by
  unfold textContent
  rw [h]
  dsimp only
  split
  · rename_i element _
    exact ⟨_, { frame with mode := .typed (element.addText frame.name value offset).1 } :: frames,
      TypedElement.aboutContent_addText _ _ _ _, rfl, rfl⟩
  · exact ⟨[], run.frames, aboutContent_nil, by rw [h], rfl⟩

/-! ## Schemas -/

/-- The end of a schema inside the document takes away its scope. -/
theorem exists_closeSchema_eq (tag : Xml.StartTag) (stop : Nat) :
    ∃ rs set, AboutContent rs ∧ set.registered = run.set.registered ∧
      set.pending = run.set.pending ∧
      run.closeSchema o text tag stop =
        remarkAll o text { run with
          set
          scopes := run.scopes.tail
          rootClosed := run.rootClosed || run.frames.isEmpty
          openSchema := none } rs := by
  unfold closeSchema
  dsimp only
  have bindings := run.set.bindings_addInline o.source (String.ofList (Scope.redeclare run.scopes
    tag.rawName ((Text.sliceBytes? tag.offset stop text).getD [])))
  generalize run.set.addInline o.source _ = added at bindings ⊢
  obtain ⟨result, set⟩ := added
  rw [noteRootEnd_eq]
  cases result with
  | ok _ => exact ⟨[], set, aboutContent_nil, bindings.1, bindings.2, rfl⟩
  | error e =>
    refine ⟨[⟨.inlineSchema e, tag.offset + 1⟩], set, aboutContent_one rfl, bindings.1, bindings.2,
      ?_⟩
    dsimp only
    rw [remark_eq, remarkAll_eq]

/-- For every binding that was ever added, it is recorded where it was met. -/
def Recorded : Prop := ∀ b ∈ run.set.registered, ∃ offset, (b, offset) ∈ run.bindingOffsets

/-- The second run is the first one with bindings added or loaded, and with remarks. -/
def Binds (before after : Run) : Prop :=
  ∃ rs set bindingOffsets, Ordinary rs ∧
    after = remarkAll o text { before with set, bindingOffsets } rs ∧
      (before.Recorded → after.Recorded)

variable {o text run}

theorem Binds.trans {a b c : Run} (hab : Binds o text a b) (hbc : Binds o text b c) :
    Binds o text a c := by
  obtain ⟨rs, set, offsets, ordinary, hb, recorded⟩ := hab
  obtain ⟨rs', set', offsets', ordinary', hc, recorded'⟩ := hbc
  refine ⟨rs ++ rs', set', offsets', ordinary_append.2 ⟨ordinary, ordinary'⟩, ?_,
    recorded' ∘ recorded⟩
  rw [hc, hb, remarkAll_append, remarkAll_eq o text _ rs, remarkAll_eq o text _ rs]

theorem recorded_remarkAll {rs : List Remark} :
    (run.remarkAll o text rs).Recorded ↔ run.Recorded := by
  rw [remarkAll_eq]
  rfl

variable (o text run)

theorem binds_remarkAll (rs : List Remark) (h : Ordinary rs) :
    Binds o text run (run.remarkAll o text rs) :=
  ⟨rs, run.set, run.bindingOffsets, h, rfl, recorded_remarkAll.2⟩

theorem binds_compilePending : Binds o text run (run.compilePending o text) := by
  refine ⟨_, (run.set.compile o.source).2, run.bindingOffsets,
    List.forall_mem_map.2 fun _ _ => rfl, rfl, fun recorded => ?_⟩
  unfold compilePending
  dsimp only
  rw [recorded_remarkAll]
  intro b hb
  exact recorded b (by rwa [← run.set.registered_compile o.source])

theorem binds_addHint (hint : SchemaHint) : Binds o text run (run.addHint o text hint) := by
  unfold addHint
  split
  · rename_i address _
    exact binds_remarkAll o text run
      [⟨.schemaUnavailable hint.namespaceName (.unsupportedLocation address), hint.offset⟩]
      (ordinary_one rfl)
  · rename_i path _
    dsimp only
    unfold SchemaSet.add
    split
    · exact ⟨[], run.set, run.bindingOffsets, ordinary_nil, rfl, id⟩
    · refine ⟨[], _, _, ordinary_nil, rfl, fun recorded b hb => ?_⟩
      -- the new binding is recorded together with its offset
      rcases List.mem_append.1 hb with hb | hb
      · obtain ⟨offset, hoffset⟩ := recorded b hb
        exact ⟨offset, List.mem_append_left _ hoffset⟩
      · obtain rfl := List.mem_singleton.1 hb
        exact ⟨hint.offset, List.mem_append_right _ (List.mem_singleton.2 rfl)⟩

theorem binds_addHints (hints : List SchemaHint) :
    Binds o text run (hints.foldl (addHint o text) run) := by
  induction hints generalizing run with
  | nil => exact binds_remarkAll o text run [] ordinary_nil
  | cons hint hints ih =>
    rw [List.foldl_cons]
    exact (binds_addHint o text run hint).trans (ih (run.addHint o text hint))

/-- Behind a start tag, no binding waits. -/
theorem binds_harvest (attributes : List NamedAttribute) :
    Binds o text run (run.harvest o text attributes) ∧
      (run.harvest o text attributes).set.pending = [] := by
  have added := (binds_remarkAll o text run _
    (aboutContent_flatMap aboutContent_danglingRemarks attributes).ordinary).trans
      (binds_addHints o text _ (attributes.flatMap (·.hints)))
  unfold harvest
  dsimp only
  generalize (attributes.flatMap (·.hints)).foldl _ _ = hinted at added ⊢
  split
  · refine ⟨added.trans (binds_compilePending o text hinted), ?_⟩
    unfold compilePending
    dsimp only
    rw [remarkAll_eq]
    exact hinted.set.pending_compile o.source
  · rename_i none_pending
    exact ⟨added, by simpa [SchemaSet.hasPending] using none_pending⟩

/-! ## Start tags -/

variable {run} in
/-- A start tag opens an element, or a schema; an empty-element tag leaves nothing open. -/
theorem exists_startTag_eq {tag : Xml.StartTag} {attributes : List Xml.Attribute} {name : QName}
    {named : List NamedAttribute} (outside : run.openSchema = none)
    (first : ¬ (run.frames.isEmpty && run.rootClosed) = true)
    (decoded : tag.attributes = .ok attributes)
    (resolved : resolveTag (Scope.ofAttributes attributes :: run.scopes) tag attributes =
      .ok (name, named)) :
    ∃ rs set bindingOffsets frames, Ordinary rs ∧ set.pending = [] ∧
      (run.Recorded → ∀ b ∈ set.registered, ∃ offset, (b, offset) ∈ bindingOffsets) ∧
      frames.map Frame.header =
        (if tag.selfClosing = true ∨ name = .schema "schema" then run.frames.map Frame.header
        else (tag.rawName, tag.offset + 1) :: run.frames.map Frame.header) ∧
      run.startTag o text tag = remarkAll o text { run with
        set
        bindingOffsets
        frames
        scopes := if tag.selfClosing then run.scopes
          else Scope.ofAttributes attributes :: run.scopes
        rootClosed := run.rootClosed || (tag.selfClosing && run.frames.isEmpty)
        openSchema := if tag.selfClosing = false ∧ name = .schema "schema" then some ⟨tag, 0⟩
          else none } rs := by
  obtain ⟨⟨rs, set, offsets, ordinary, harvested, recorded⟩, settled⟩ := binds_harvest o text
    { run with scopes := Scope.ofAttributes attributes :: run.scopes } named
  rw [harvested, remarkAll_eq] at settled recorded
  unfold startTag
  rw [if_neg first, decoded]
  dsimp only
  rw [resolved]
  dsimp only
  rw [harvested]
  by_cases hname : name = .schema "schema"
  · rw [if_pos hname]
    cases hclosing : tag.selfClosing with
    | false =>
      refine ⟨rs, set, offsets, run.frames, ordinary, settled, recorded, by simp [hname], ?_⟩
      simp [hname, remarkAll_eq]
    | true =>
      rw [if_pos rfl]
      obtain ⟨rs', set', about, registered, pending, closed⟩ := exists_closeSchema_eq o text
        (remarkAll o text { run with
          set, bindingOffsets := offsets,
          scopes := Scope.ofAttributes attributes :: run.scopes } rs) tag tag.stop
      rw [remarkAll_eq] at registered pending
      refine ⟨rs ++ rs', set', offsets, run.frames, ordinary_append.2 ⟨ordinary, about.ordinary⟩,
        pending.trans settled, ?_, by simp, ?_⟩
      · rw [registered]
        exact recorded
      · rw [closed, remarkAll_append]
        simp [remarkAll_eq]
  · rw [if_neg hname]
    obtain ⟨rs', mode, parents, types, about, headers, opened⟩ := exists_openElement_eq o text
      (remarkAll o text { run with
        set, bindingOffsets := offsets,
        scopes := Scope.ofAttributes attributes :: run.scopes } rs) tag name named
    rw [remarkAll_eq] at headers opened
    have none_open : parents.isEmpty = run.frames.isEmpty := by
      rw [← List.isEmpty_map (f := Frame.header), headers, List.isEmpty_map]
    rw [remarkAll_eq, opened]
    cases hclosing : tag.selfClosing with
    | false =>
      refine ⟨rs ++ rs', { set with effectiveTypes := types }, offsets,
        ⟨tag.rawName, name, tag.offset + 1, mode⟩ :: parents,
        ordinary_append.2 ⟨ordinary, about.ordinary⟩, settled, recorded, ?_, ?_⟩
      · simpa [hname, Frame.header] using headers
      · rw [remarkAll_append, remarkAll_eq o text _ rs]
        simp [hname, outside]
    | true =>
      refine ⟨rs ++ rs', { set with effectiveTypes := types }, offsets, parents,
        ordinary_append.2 ⟨ordinary, about.ordinary⟩, settled, recorded, by simpa using headers, ?_⟩
      rw [remarkAll_append, remarkAll_eq o text _ rs]
      simp [none_open, outside]

end Run

end XmlSchema
