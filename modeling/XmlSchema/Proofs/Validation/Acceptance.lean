import XmlSchema.Proofs.Validation.Faults
import XmlSchema.Proofs.Validation.Nesting
import XmlSchema.Proofs.Validation.Streaming

/-!
# Acceptance of well-formed documents

A run follows a reader of well-formed documents: it has a frame and a scope for each open element
(`Run.IsAt`), an event with which the reader moves on is no fault (`Run.step_of_moves`), and all
other events are (`Run.exists_moves`).  So a run meets no fault exactly when the document is
well-formed (`accepts_iff_isDocument`).
-/

namespace XmlSchema

open XmlSchema.Text

/-! ## Prefixes -/

theorem splitRaw_eq_some_iff {raw pre : List Char} :
    (QName.splitRaw raw).1 = some pre ↔ ∃ rest, raw = pre ++ ':' :: rest ∧ ':' ∉ pre := by
  unfold QName.splitRaw
  constructor
  · intro h
    split at h
    · rename_i c rest dropped
      cases h
      have colon := List.head_dropWhile_not (· != ':') (l := raw) (by simp [dropped])
      simp only [dropped, List.head_cons, bne_eq_false_iff_eq] at colon
      subst colon
      refine ⟨rest, ?_, fun inside => ?_⟩
      · rw [← dropped, List.takeWhile_append_dropWhile]
      · simpa using List.all_eq_true.1 (List.all_takeWhile (p := (· != ':'))) ':' inside
    · cases h
  · rintro ⟨rest, rfl, colonless⟩
    have passes : ∀ c ∈ pre, (c != ':') = true := fun c hc => by
      rw [bne_iff_ne]
      rintro rfl
      exact colonless hc
    rw [List.dropWhile_append_of_pos passes, List.takeWhile_append_of_pos passes]
    simp

theorem hasPrefix_iff {raw pre : String} :
    HasPrefix raw pre ↔ (QName.splitPrefix raw).1 = some pre := by
  unfold HasPrefix QName.splitPrefix
  rw [← splitRaw_eq_some_iff]
  dsimp only
  constructor
  · intro h
    rw [h]
    simp
  · intro h
    obtain ⟨_, split, rfl⟩ := Option.map_eq_some_iff.1 h
    simpa using split

theorem declaredPrefix?_eq_some_iff {raw pre : String} :
    Scope.declaredPrefix? raw = some pre ↔ raw = "xmlns:" ++ pre ∨ pre = "" ∧ raw = "xmlns" := by
  unfold Scope.declaredPrefix?
  constructor
  · intro h
    split at h
    · rename_i default
      cases h
      exact .inr ⟨rfl, default⟩
    · split at h
      · rename_i starts
        cases h
        obtain ⟨rest, hrest⟩ := List.isPrefixOf_iff_prefix.1 starts
        refine .inl (String.toList_injective ?_)
        rw [String.toList_append, ← hrest]
        simp
      · cases h
  · rintro (rfl | ⟨rfl, rfl⟩)
    · have prefixed : "xmlns:" ++ pre ≠ "xmlns" := fun h => by
        simpa using congrArg String.toList h
      rw [if_neg prefixed, String.toList_append,
        if_pos (List.isPrefixOf_iff_prefix.2 (List.prefix_append _ _))]
      exact congrArg some (String.toList_injective (by simp))
    · rfl

theorem declaredPrefix?_isSome_iff {raw : String} :
    (Scope.declaredPrefix? raw).isSome ↔ raw = "xmlns" ∨ "xmlns:".toList <+: raw.toList := by
  unfold Scope.declaredPrefix?
  rw [← List.isPrefixOf_iff_prefix]
  split
  · rename_i default
    exact iff_of_true rfl (.inl default)
  · rename_i prefixed
    split
    · rename_i starts
      exact iff_of_true rfl (.inr starts)
    · rename_i other
      exact iff_of_false (by simp) (not_or.2 ⟨prefixed, other⟩)

theorem mem_scope_iff {tag : ElementTag} {pre : String} :
    (∃ d ∈ tag.scope, d.1 = pre) ↔ tag.Declares pre := by
  unfold ElementTag.scope Scope.ofAttributes ElementTag.Declares
  simp only [List.mem_filterMap, Option.map_eq_some_iff, ← declaredPrefix?_eq_some_iff]
  constructor
  · rintro ⟨_, ⟨a, ha, _, declared, rfl⟩, rfl⟩
    exact ⟨a, ha, declared⟩
  · rintro ⟨a, ha, declared⟩
    exact ⟨_, ⟨a, ha, pre, declared, rfl⟩, rfl⟩

theorem lookup_isSome_iff {tags : List ElementTag} {pre : String} :
    (Scope.lookup (tags.map ElementTag.scope) pre).isSome ↔ ElementTag.PrefixKnown tags pre := by
  have declared : ((tags.map ElementTag.scope).flatMap List.reverse).any (·.1 == pre) = true ↔
      ∃ tag ∈ tags, tag.Declares pre := by
    simp only [← mem_scope_iff, List.any_eq_true, List.mem_flatMap, List.mem_map, List.mem_reverse,
      beq_iff_eq]
    constructor
    · rintro ⟨d, ⟨_, ⟨tag, htag, rfl⟩, hd⟩, hpre⟩
      exact ⟨tag, htag, d, hd, hpre⟩
    · rintro ⟨tag, htag, d, hd, hpre⟩
      exact ⟨d, ⟨_, ⟨tag, htag, rfl⟩, hd⟩, hpre⟩
  unfold Scope.lookup ElementTag.PrefixKnown
  by_cases hxml : pre = "xml"
  · simp [hxml]
  · by_cases hxmlns : pre = "xmlns"
    · simp [hxmlns]
    · rw [if_neg hxml, if_neg hxmlns, Option.isSome_map, List.find?_isSome, ← List.any_eq_true,
        declared]
      simp [hxml, hxmlns]

theorem elementName?_isSome_iff {scopes : List Scope} {raw : String} :
    (Scope.elementName? scopes raw).isSome ↔
      ∀ pre, HasPrefix raw pre → (Scope.lookup scopes pre).isSome := by
  simp only [hasPrefix_iff]
  unfold Scope.elementName?
  split <;> rename_i split <;> simp [split]

theorem attributeName?_isSome_iff {scopes : List Scope} {raw : String} :
    (Scope.attributeName? scopes raw).isSome ↔
      ∀ pre, HasPrefix raw pre → (Scope.lookup scopes pre).isSome := by
  simp only [hasPrefix_iff]
  unfold Scope.attributeName?
  split <;> rename_i split <;> simp [split]

namespace ElementTag

theorem wellFormed_iff {tag : ElementTag} {outer : List ElementTag} :
    tag.WellFormed (outer.map scope) ↔ tag.PrefixesKnown outer := by
  have inner_eq : tag.inner (outer.map scope) = (tag :: outer).map scope := rfl
  unfold WellFormed PrefixesKnown
  simp only [inner_eq, elementName?_isSome_iff, attributeName?_isSome_iff,
    declaredPrefix?_isSome_iff, lookup_isSome_iff, ← or_iff_not_imp_left, ← or_assoc]

/-- The name as written, and where it stands. -/
def header (tag : ElementTag) : String × Nat := (tag.rawName, tag.offset + 1)

end ElementTag

theorem exists_of_bind_eq_ok {α β ε : Type} {x : Except ε α} {f : α → Except ε β} {b : β}
    (h : x >>= f = .ok b) : ∃ a, x = .ok a ∧ f a = .ok b := by
  cases x with
  | error => cases h
  | ok a => exact ⟨a, rfl, h⟩

theorem exists_of_mapM_eq_ok {α β ε : Type} {f : α → Except ε β} {xs : List α} {ys : List β}
    (h : xs.mapM f = .ok ys) : ∀ x ∈ xs, ∃ y, f x = .ok y := by
  induction xs generalizing ys with
  | nil => simp
  | cons x xs ih =>
    rw [List.mapM_cons] at h
    obtain ⟨y, hx, h⟩ := exists_of_bind_eq_ok h
    obtain ⟨ys, hxs, -⟩ := exists_of_bind_eq_ok h
    exact List.forall_mem_cons.2 ⟨⟨y, hx⟩, ih hxs⟩

/-- A tag is resolved exactly when its prefixes are declared. -/
theorem exists_resolveTag_eq_iff {tag : ElementTag} {scopes : List Scope} (selfClosing : Bool) :
    (∃ r, resolveTag (tag.inner scopes) (tag.toStartTag selfClosing) tag.attributes = .ok r) ↔
      tag.WellFormed scopes := by
  refine ⟨?_, fun h => ⟨_, Run.resolveTag_eq h selfClosing⟩⟩
  rintro ⟨r, h⟩
  unfold resolveTag at h
  dsimp only at h
  split at h
  · rename_i name found
    obtain ⟨_, -, h⟩ := exists_of_bind_eq_ok h
    obtain ⟨named, hnamed, -⟩ := exists_of_bind_eq_ok h
    refine ⟨Option.isSome_of_eq_some found, fun a ha => ?_⟩
    obtain ⟨_, resolved⟩ := exists_of_mapM_eq_ok hnamed a ha
    split at resolved
    · rename_i declaration
      exact .inl declaration
    · split at resolved
      · rename_i found
        exact .inr (Option.isSome_of_eq_some found)
      · cases resolved
  · cases h

/-! ## Places of a run -/

namespace Place

/-- The tags of the open elements. -/
def tags : Place → List ElementTag
  | inside tags _ | inSchema tags _ _ _ => tags

/-- Whether the root element has ended. -/
def closed : Place → Bool
  | inside _ closed | inSchema _ closed _ _ => closed

/-- The tags whose scopes are open. -/
def scopeTags : Place → List ElementTag
  | inside tags _ => tags
  | inSchema tags _ tag _ => tag :: tags

/-- The schema that is being passed over. -/
def openSchema? : Place → Option OpenSchema
  | inside _ _ => none
  | inSchema _ _ tag depth => some ⟨tag.toStartTag false, depth⟩

end Place

namespace Run

/-- The run goes on and stands at a place: there is a frame and a scope for each open element. -/
structure IsAt (run : Run) (place : Place) : Prop where
  running : run.finished = false
  closed : run.rootClosed = place.closed
  frames : run.frames.map Frame.header = place.tags.map ElementTag.header
  scopes : run.scopes = place.scopeTags.map ElementTag.scope
  openSchema : run.openSchema = place.openSchema?

theorem isAt_start : IsAt {} (.inside [] false) := ⟨rfl, rfl, rfl, rfl, rfl⟩

variable (o : Options) (text : List Char) {run : Run}

theorem isAt_remarkAll {place : Place} {rs : List Remark} :
    (run.remarkAll o text rs).IsAt place ↔ run.IsAt place := by
  rw [remarkAll_eq]
  exact ⟨fun h => ⟨h.1, h.2, h.3, h.4, h.5⟩, fun h => ⟨h.1, h.2, h.3, h.4, h.5⟩⟩

theorem IsAt.frames_isEmpty {place : Place} (h : run.IsAt place) :
    run.frames.isEmpty = place.tags.isEmpty := by
  rw [← List.isEmpty_map (f := Frame.header), h.frames, List.isEmpty_map]

section Inside

variable {tags : List ElementTag} {closed : Bool} {tag : ElementTag}
  (h : run.IsAt (.inside tags closed))

include h

theorem IsAt.inner_eq : Scope.ofAttributes tag.attributes :: run.scopes =
    tag.inner (tags.map ElementTag.scope) := by
  rw [h.scopes]
  rfl

theorem IsAt.first_iff :
    ¬ (run.frames.isEmpty && run.rootClosed) = true ↔ (tags = [] → closed = false) := by
  rw [h.frames_isEmpty, h.closed]
  cases tags <;> cases closed <;> simp [Place.tags, Place.closed]

theorem tagFault?_eq_none_iff_prefixesKnown (selfClosing : Bool) :
    run.tagFault? (tag.toStartTag selfClosing) = none ↔
      (tags = [] → closed = false) ∧ tag.PrefixesKnown tags := by
  rw [tagFault?_eq_none_iff, h.first_iff, ← ElementTag.wellFormed_iff,
    ← exists_resolveTag_eq_iff selfClosing, ← h.inner_eq]
  refine and_congr_right fun _ => ⟨?_, ?_⟩
  · rintro ⟨attributes, name, named, decoded, resolved⟩
    cases decoded
    exact ⟨_, resolved⟩
  · rintro ⟨r, resolved⟩
    exact ⟨tag.attributes, r.1, r.2, rfl, resolved⟩

theorem isAt_startTag (selfClosing : Bool) (first : tags = [] → closed = false)
    (known : tag.PrefixesKnown tags) :
    run.fault? text (.startTag (tag.toStartTag selfClosing)) = none ∧
      (run.step o text (.startTag (tag.toStartTag selfClosing))).IsAt
        (if selfClosing then .inside tags (closed || tags.isEmpty)
        else if tag.IsSchema tags then .inSchema tags closed tag 0
        else .inside (tag :: tags) closed) := by
  unfold fault?
  rw [h.openSchema, step_eq o text h.running h.openSchema]
  refine ⟨(tagFault?_eq_none_iff_prefixesKnown h selfClosing).2 ⟨first, known⟩, ?_⟩
  have resolved := resolveTag_eq (ElementTag.wellFormed_iff.2 known) selfClosing
  rw [← h.inner_eq] at resolved
  obtain ⟨rs, set, offsets, frames, -, -, -, headers, started⟩ :=
    exists_startTag_eq o text h.openSchema (h.first_iff.2 first) rfl resolved
  dsimp only
  rw [started, isAt_remarkAll]
  rw [h.frames] at headers
  cases selfClosing with
  | true =>
    refine ⟨h.running, ?_, headers, h.scopes, rfl⟩
    dsimp only
    rw [h.frames_isEmpty, h.closed]
    rfl
  | false =>
    by_cases schema : tag.IsSchema tags
    · rw [if_pos schema]
      refine ⟨h.running, ?_, headers.trans (if_pos (.inr schema)), h.inner_eq, if_pos ⟨rfl, schema⟩⟩
      exact (Bool.or_false _).trans h.closed
    · rw [if_neg schema]
      refine ⟨h.running, ?_, headers.trans (if_neg ?_), h.inner_eq,
        if_neg fun both => schema both.2⟩
      · exact (Bool.or_false _).trans h.closed
      · exact not_or.2 ⟨Bool.false_ne_true, schema⟩

end Inside

theorem exists_frames_eq_cons {tags : List ElementTag} {closed : Bool} {tag : ElementTag}
    (h : run.IsAt (.inside (tag :: tags) closed)) : ∃ frame frames, run.frames = frame :: frames ∧
      frame.rawName = tag.rawName ∧ frames.map Frame.header = tags.map ElementTag.header := by
  obtain ⟨frame, frames, hframes, hheader, hheaders⟩ := List.map_eq_cons_iff.1 h.frames
  exact ⟨frame, frames, hframes, congrArg Prod.fst hheader, hheaders⟩

theorem isAt_endTag {tags : List ElementTag} {closed : Bool} {tag : ElementTag}
    (h : run.IsAt (.inside (tag :: tags) closed)) (offset stop : Nat) :
    run.fault? text (.endTag tag.rawName offset stop) = none ∧
      (run.step o text (.endTag tag.rawName offset stop)).IsAt
        (.inside tags (closed || tags.isEmpty)) := by
  unfold fault?
  rw [h.openSchema, step_eq o text h.running h.openSchema]
  obtain ⟨frame, frames, hframes, hname, headers⟩ := exists_frames_eq_cons h
  refine ⟨(endTagFault?_eq_none_iff text).2 ⟨frame, frames, hframes, hname⟩, ?_⟩
  obtain ⟨rs, -, closed_frame⟩ := exists_closeFrame_eq o text run hframes offset
  dsimp only
  unfold endTag
  rw [hframes]
  dsimp only
  rw [if_pos hname, closed_frame, isAt_remarkAll]
  refine ⟨h.running, ?_, headers, ?_, h.openSchema⟩
  · dsimp only
    rw [h.closed, ← List.isEmpty_map (f := Frame.header), headers, List.isEmpty_map]
    rfl
  · dsimp only
    rw [h.scopes]
    rfl

theorem isAt_textContent {tags : List ElementTag} {closed : Bool}
    (h : run.IsAt (.inside tags closed)) {value : String}
    (blank : tags = [] → isBlankText value.toList = true) (offset : Nat) :
    run.fault? text (.text (.ok value) offset) = none ∧
      (run.step o text (.text (.ok value) offset)).IsAt (.inside tags closed) := by
  unfold fault?
  rw [h.openSchema, step_eq o text h.running h.openSchema]
  cases tags with
  | nil =>
    have hframes : run.frames = [] := List.map_eq_nil_iff.1 h.frames
    refine ⟨textFault?_eq_none_iff.2 (.inr (blank rfl)), ?_⟩
    dsimp only
    unfold textContent
    rw [hframes]
    dsimp only
    rwa [if_pos (blank rfl)]
  | cons tag tags =>
    obtain ⟨frame, frames, hframes, -, -⟩ := exists_frames_eq_cons h
    refine ⟨textFault?_eq_none_iff.2 (.inl (by simp [hframes])), ?_⟩
    obtain ⟨rs, frames', -, headers, stands⟩ :=
      exists_textContent_eq o text run hframes value offset
    dsimp only
    rw [stands, isAt_remarkAll]
    exact ⟨h.running, h.closed, headers.trans h.frames, h.scopes, h.openSchema⟩

section InSchema

variable {tags : List ElementTag} {closed : Bool} {tag : ElementTag} {depth : Nat}
  (h : run.IsAt (.inSchema tags closed tag depth))

include h

theorem isAt_depth (depth' : Nat) :
    IsAt { run with openSchema := some ⟨tag.toStartTag false, depth'⟩ }
      (.inSchema tags closed tag depth') :=
  ⟨h.running, h.closed, h.frames, h.scopes, rfl⟩

theorem isAt_closeSchema (start : Xml.StartTag) (stop : Nat) :
    (run.closeSchema o text start stop).IsAt (.inside tags (closed || tags.isEmpty)) := by
  obtain ⟨rs, set, -, -, -, schema_closed⟩ := exists_closeSchema_eq o text run start stop
  rw [schema_closed, isAt_remarkAll]
  refine ⟨h.running, ?_, h.frames, ?_, rfl⟩
  · dsimp only
    rw [h.closed, h.frames_isEmpty]
    rfl
  · dsimp only
    rw [h.scopes]
    rfl

theorem isAt_passed {event : Xml.Event} (passed : event.IsPassed tag.rawName) :
    run.fault? text event = none ∧
      (run.step o text event).IsAt (.inSchema tags closed tag depth) := by
  unfold fault?
  rw [step_of_openSchema o text h.running h.openSchema, h.openSchema]
  cases event with
  | startTag inner =>
    refine ⟨rfl, ?_⟩
    unfold schemaEvent
    dsimp only
    rwa [if_neg]
    rintro ⟨name, opens⟩
    exact passed.elim (· name) fun closing => by simp [closing] at opens
  | endTag rawName offset stop =>
    refine ⟨rfl, ?_⟩
    unfold schemaEvent
    dsimp only
    rwa [if_neg]
    exact passed
  | text content offset => exact ⟨rfl, h⟩
  | other => exact ⟨rfl, h⟩
  | malformed fault => cases passed
  | endOfInput => cases passed

/-- An end tag with the name of the schema ends the schema, or an element in it. -/
theorem step_endTag_inSchema (offset stop : Nat) :
    run.fault? text (.endTag tag.rawName offset stop) = none ∧
      run.step o text (.endTag tag.rawName offset stop) =
        if depth = 0 then run.closeSchema o text (tag.toStartTag false) stop
        else { run with openSchema := some ⟨tag.toStartTag false, depth - 1⟩ } := by
  unfold fault?
  rw [step_of_openSchema o text h.running h.openSchema, h.openSchema]
  refine ⟨rfl, ?_⟩
  unfold schemaEvent
  dsimp only
  rw [if_pos (show tag.rawName = (tag.toStartTag false).rawName from rfl)]
  cases depth <;> rfl

end InSchema

/-- A run follows a reader that moves on. -/
theorem step_of_moves {place place' : Place} {event : Xml.Event} (h : run.IsAt place)
    (moved : place.Moves event place') :
    run.fault? text event = none ∧ (run.step o text event).IsAt place' := by
  cases moved with
  | start first known plain =>
    have started := isAt_startTag o text h false first known
    rwa [if_neg Bool.false_ne_true, if_neg plain] at started
  | empty first known => exact isAt_startTag o text h true first known
  | schema first known schema =>
    have started := isAt_startTag o text h false first known
    rwa [if_neg Bool.false_ne_true, if_pos schema] at started
  | finish offset stop => exact isAt_endTag o text h offset stop
  | text blank offset => exact isAt_textContent o text h blank offset
  | other =>
    unfold fault?
    rw [h.openSchema, step_eq o text h.running h.openSchema]
    exact ⟨rfl, h⟩
  | passed passed => exact isAt_passed o text h passed
  | deeper name opens =>
    unfold fault?
    rw [h.openSchema, step_of_openSchema o text h.running h.openSchema]
    refine ⟨rfl, ?_⟩
    unfold schemaEvent
    dsimp only
    rw [if_pos ⟨name, by rw [opens]; rfl⟩]
    exact isAt_depth h _
  | shallower offset stop =>
    obtain ⟨faultless, stepped⟩ := step_endTag_inSchema o text h offset stop
    rw [if_neg (Nat.succ_ne_zero _)] at stepped
    rw [stepped]
    exact ⟨faultless, isAt_depth h _⟩
  | leave offset stop =>
    obtain ⟨faultless, stepped⟩ := step_endTag_inSchema o text h offset stop
    rw [if_pos rfl] at stepped
    rw [stepped]
    exact ⟨faultless, isAt_closeSchema o text h _ stop⟩

/-- Where an event is no fault, a reader moves on. -/
theorem exists_moves {place : Place} {event : Xml.Event} (h : run.IsAt place)
    (faultless : run.fault? text event = none) (inside : event ≠ .endOfInput) :
    ∃ place', place.Moves event place' := by
  unfold fault? at faultless
  rw [h.openSchema] at faultless
  cases place with
  | inside tags closed =>
    cases event with
    | startTag start =>
      obtain ⟨rawName, attributes, selfClosing, offset, stop⟩ := start
      obtain ⟨-, attributes, -, -, ⟨⟩, -⟩ := tagFault?_eq_none_iff.1 faultless
      let tag : ElementTag := ⟨rawName, attributes, offset, stop⟩
      have known : (tags = [] → closed = false) ∧ tag.PrefixesKnown tags :=
        (tagFault?_eq_none_iff_prefixesKnown h selfClosing).1 faultless
      cases selfClosing with
      | true => exact ⟨_, .empty known.1 known.2⟩
      | false =>
        by_cases schema : tag.IsSchema tags
        · exact ⟨_, .schema known.1 known.2 schema⟩
        · exact ⟨_, .start known.1 known.2 schema⟩
    | endTag rawName offset stop =>
      obtain ⟨frame, frames, hframes, rfl⟩ := (endTagFault?_eq_none_iff text).1 faultless
      have headers := h.frames
      rw [hframes] at headers
      cases tags with
      | nil => cases headers
      | cons tag tags =>
        have name : frame.rawName = tag.rawName := congrArg Prod.fst (List.cons.inj headers).1
        rw [name]
        exact ⟨_, .finish offset stop⟩
    | text content offset =>
      cases content with
      | ok value =>
        refine ⟨_, .text (fun htags => ?_) offset⟩
        subst htags
        have hframes : run.frames = [] := List.map_eq_nil_iff.1 h.frames
        exact (textFault?_eq_none_iff.1 faultless).resolve_left (· hframes)
      | error fault => cases faultless
    | other => exact ⟨_, .other⟩
    | malformed fault => cases faultless
    | endOfInput => exact absurd rfl inside
  | inSchema tags closed tag depth =>
    by_cases passed : event.IsPassed tag.rawName
    · exact ⟨_, .passed passed⟩
    · cases event with
      | startTag inner =>
        obtain ⟨name, opens⟩ := not_or.1 passed
        exact ⟨_, .deeper (not_not.1 name) (by simpa using opens)⟩
      | endTag rawName offset stop =>
        obtain rfl : rawName = tag.rawName := not_not.1 passed
        cases depth with
        | zero => exact ⟨_, .leave offset stop⟩
        | succ depth => exact ⟨_, .shallower offset stop⟩
      | text content offset => exact absurd trivial passed
      | other => exact absurd trivial passed
      | malformed fault => cases faultless
      | endOfInput => exact absurd rfl inside

/-! ## Whole runs -/

theorem faultRemark?_eq_none_iff {event : Xml.Event} (running : run.finished = false)
    (inside : event ≠ .endOfInput) :
    run.faultRemark? text event = none ↔ run.fault? text event = none := by
  unfold faultRemark?
  rw [if_neg (by simp [running])]
  cases run.fault? text event with
  | some fault => simp
  | none =>
    refine iff_of_true ?_ rfl
    split
    · cases ‹none = some _›
    · exact absurd rfl inside
    · rfl

theorem faultRemark?_endOfInput_eq_none_iff {place : Place} (h : run.IsAt place) :
    run.faultRemark? text .endOfInput = none ↔ place = .inside [] true := by
  have silent_iff : run.faultRemark? text .endOfInput = none ↔
      run.fault? text .endOfInput = none ∧ run.rootClosed = true := by
    unfold faultRemark?
    rw [if_neg (by simp [h.running])]
    cases run.fault? text .endOfInput <;> simp
  rw [silent_iff, fault?_endOfInput_eq_none_iff, h.openSchema, h.closed, ← List.isEmpty_iff,
    h.frames_isEmpty]
  cases place <;> simp [Place.openSchema?, Place.tags, Place.closed]

theorem faultRemarks_append (run : Run) (events more : List Xml.Event) :
    run.faultRemarks o text (events ++ more) =
      run.faultRemarks o text events ++ (run.steps o text events).faultRemarks o text more := by
  induction events generalizing run with
  | nil => rfl
  | cons event events ih =>
    rw [List.cons_append, faultRemarks, faultRemarks, steps_cons, ih, List.append_assoc]

theorem steps_of_reads {place place' : Place} {events : List Xml.Event} (h : run.IsAt place)
    (read : place.Reads events place') :
    run.faultRemarks o text events = [] ∧ (run.steps o text events).IsAt place' := by
  induction read generalizing run with
  | nil => exact ⟨rfl, h⟩
  | cons first _ ih =>
    obtain ⟨faultless, stepped⟩ := step_of_moves o text h first
    obtain ⟨silent, read⟩ := ih stepped
    rw [faultRemarks, steps_cons, silent,
      (faultRemark?_eq_none_iff text h.running first.ne_endOfInput).2 faultless]
    exact ⟨rfl, read⟩

theorem exists_reads {place : Place} {events : List Xml.Event} (h : run.IsAt place)
    (inside : .endOfInput ∉ events) (silent : run.faultRemarks o text events = []) :
    ∃ place', place.Reads events place' := by
  induction events generalizing run place with
  | nil => exact ⟨place, .nil⟩
  | cons event events ih =>
    rw [List.mem_cons, not_or] at inside
    obtain ⟨first_inside, rest_inside⟩ := inside
    rw [faultRemarks, List.append_eq_nil_iff, Option.toList_eq_nil_iff,
      faultRemark?_eq_none_iff text h.running (Ne.symm first_inside)] at silent
    obtain ⟨next, first⟩ := exists_moves text h silent.1 (Ne.symm first_inside)
    obtain ⟨place', read⟩ := ih (step_of_moves o text h first).2 rest_inside silent.2
    exact ⟨place', .cons first read⟩

theorem finished_step_endOfInput (settled : run.Settled) :
    (run.step o text .endOfInput).finished = true := by
  cases hfinished : run.finished with
  | true => rw [step_of_finished o text hfinished, hfinished]
  | false =>
    cases hfault : run.fault? text .endOfInput with
    | some fault =>
      obtain ⟨scopes, failed⟩ := exists_step_eq_fail text hfinished hfault
      rw [failed, fail_eq o text { run with scopes } settled.1]
    | none =>
      rw [step_endOfInput o text hfinished settled hfault]
      split <;> rfl

theorem settled_start : Settled {} := ⟨rfl, fun _ hb => nomatch hb⟩

end Run

theorem faultRemarks_eq_nil_iff (o : Options) (text : List Char) {body : List Xml.Event}
    (inside : .endOfInput ∉ body) :
    Run.faultRemarks o text {} (body ++ [.endOfInput]) = [] ↔ IsDocument body := by
  rw [isDocument_iff_reads, Run.faultRemarks_append, List.append_eq_nil_iff]
  constructor
  · rintro ⟨silent, ending⟩
    obtain ⟨place, read⟩ := Run.exists_reads o text Run.isAt_start inside silent
    have stands := (Run.steps_of_reads o text Run.isAt_start read).2
    rw [Run.faultRemarks, List.append_eq_nil_iff, Option.toList_eq_nil_iff,
      Run.faultRemark?_endOfInput_eq_none_iff text stands] at ending
    rwa [← ending.1]
  · intro read
    obtain ⟨silent, stands⟩ := Run.steps_of_reads o text Run.isAt_start read
    refine ⟨silent, ?_⟩
    rw [Run.faultRemarks, (Run.faultRemark?_endOfInput_eq_none_iff text stands).2 rfl]
    rfl

/-- A run over the events of a document finishes, and says something about well-formedness unless
the document is well-formed.  Until it does, and outside of schemas, there is a frame and a scope
for each open element: the scope has the declarations on the tag of the element. -/
theorem accepts_iff_isDocument (o : Options) (text : List Char) (body : List Xml.Event)
    (inside : .endOfInput ∉ body) :
    let run := Run.steps o text {} (body ++ [.endOfInput])
    let faults := Run.faultRemarks o text {} (body ++ [.endOfInput])
    run.finished = true ∧
    (∃ rs, Ordinary rs ∧ run.issues.toList = reported o text (rs ++ faults)) ∧
    (faults = [] ↔ IsDocument body) ∧
    ∀ before, before <+: body → Run.faultRemarks o text {} before = [] →
      let run := Run.steps o text {} before
      run.openSchema = none → run.scopes.length = run.frames.length ∧
        ∃ tags closed, (Place.inside [] false).Reads before (.inside tags closed) ∧
          run.frames.map Frame.header = tags.map ElementTag.header ∧
          run.scopes = tags.map ElementTag.scope := by
  intro run faults
  refine ⟨?_, ?_, faultRemarks_eq_nil_iff o text inside, ?_⟩
  · have settled := (Run.steps_spec o text Run.settled_start body).1
    unfold run
    rw [Run.steps_append]
    exact Run.finished_step_endOfInput o text settled
  · obtain ⟨-, -, -, rs, ordinary, issues⟩ :=
      Run.steps_spec o text Run.settled_start (body ++ [.endOfInput])
    exact ⟨rs, ordinary, (congrArg Array.toList issues).trans (by simp [faults])⟩
  · intro before hbefore silent between outside
    obtain ⟨place, read⟩ :=
      Run.exists_reads o text Run.isAt_start (fun h => inside (hbefore.subset h)) silent
    have stands : between.IsAt place := (Run.steps_of_reads o text Run.isAt_start read).2
    cases place with
    | inSchema tags closed tag depth => cases outside.symm.trans stands.openSchema
    | inside tags closed =>
      refine ⟨?_, tags, closed, read, stands.frames, stands.scopes⟩
      have frames_length := congrArg List.length stands.frames
      rw [List.length_map, List.length_map] at frames_length
      rw [stands.scopes, List.length_map, frames_length]
      rfl

/-- An element that declares the prefix `p`, with `inner` in it and `later` behind it, then a schema
with an element of its name in it. -/
def sampleEvents (inner later : List Xml.Event) : List Xml.Event :=
  [.other, .startTag ⟨"r", .ok [], false, 0, 3⟩,
    .startTag ⟨"a", .ok [⟨"xmlns:p", "urn:p", 6⟩], false, 3, 22⟩] ++ inner ++
  [.endTag "a" 44 46] ++ later ++
  [.startTag ⟨"schema", .ok [⟨"xmlns", schemaNamespace, 76⟩], false, 68, 120⟩,
    .startTag ⟨"schema", .ok [], false, 120, 128⟩, .startTag ⟨"q:c", .ok [], true, 128, 134⟩,
    .endTag "schema" 136 143, .endTag "schema" 145 152, .endTag "r" 154 156]

/-- An element with the prefix `p`. -/
def sampleChild : Xml.Event := .startTag ⟨"p:b", .ok [⟨"xml:lang", "en", 28⟩], true, 22, 42⟩

/-- A prefix can be used within the element that declares it and not behind it. -/
theorem accepts_iff_isDocument_sample :
    IsDocument (sampleEvents [sampleChild] []) ∧ ¬ IsDocument (sampleEvents [] [sampleChild]) := by
  let o : Options := ⟨⟨[]⟩, true, SchemaSource.ofFiles []⟩
  rw [← (accepts_iff_isDocument o [] (sampleEvents [sampleChild] [])
      (by simp [sampleEvents, sampleChild])).2.2.1,
    ← (accepts_iff_isDocument o [] (sampleEvents [] [sampleChild])
      (by simp [sampleEvents, sampleChild])).2.2.1, ← List.isEmpty_iff, ← List.isEmpty_iff]
  exact ⟨by decide +kernel, by decide +kernel⟩

end XmlSchema
