import XmlSchema.Proofs.Validation.Issues
import XmlSchema.Proofs.Validation.Judgement

/-!
# Streaming validation

A run over the events of an element tree reports nothing exactly if the tree conforms to the schemas
(`Run.steps_issues_eq_empty_iff`).

The proof follows the tree.  While nothing has been reported, a run is described by its frames and
scopes and by a set that differs from the first one only in what it remembers (`Run.Stands`).  The
frames lead to no types but those of the set, and so what it remembers can be relied on.
Behind the events of an element, the run stands as before, except that the mode of the parent has
moved on; behind the events of some content, the innermost frame has the mode that
`ElementContent.read` gives (`treeRuns`, `contentRuns`).  Otherwise something has been reported, and
that does not go away.
-/

namespace XmlSchema

namespace Run

variable (o : Options) (text : List Char)

/-! ## States -/

/-- The run has reported nothing, and has the given open elements and scopes.  The set holds the
types of all children that the open elements can have. -/
structure Stands (set : SchemaSet) (frames : List Frame) (scopes : List Scope) (run : Run) :
    Prop where
  held : ∀ frame ∈ frames, frame.mode.HeldBy set
  issues : run.issues = #[]
  frames : run.frames = frames
  scopes : run.scopes = scopes
  openSchema : run.openSchema = none
  finished : run.finished = false
  asked : set.Asked run.set

/-- The run stands as described if the condition holds, and else has reported something. -/
structure Settles (condition : Prop) (set : SchemaSet) (frames : List Frame) (scopes : List Scope)
    (run : Run) : Prop where
  stands : condition → run.Stands set frames scopes
  reports : ¬ condition → run.issues ≠ #[]

theorem Settles.congr {p q : Prop} {set : SchemaSet} {frames : List Frame} {scopes : List Scope}
    {run : Run} (h : Settles p set frames scopes run) (hpq : p ↔ q) :
    Settles q set frames scopes run :=
  ⟨fun hq => h.stands (hpq.2 hq), fun hq => h.reports (hq ∘ hpq.1)⟩

theorem Settles.push {p : Prop} {set : SchemaSet} {frames : List Frame} {scopes : List Scope}
    {run : Run} (h : Settles p set frames scopes run) {frame : Frame}
    (held : frame.mode.HeldBy set) :
    Settles p set (frame :: frames) scopes { run with frames := frame :: run.frames } := by
  refine ⟨fun hp => ?_, h.reports⟩
  obtain ⟨others, issues, rfl, scopes, openSchema, finished, asked⟩ := h.stands hp
  exact ⟨List.forall_mem_cons.2 ⟨held, others⟩, issues, rfl, scopes, openSchema, finished, asked⟩

variable {o} in
theorem issues_remark_ne (warnings : o.reportWarnings = true) (run : Run) (r : Remark) :
    (run.remark o text r).issues ≠ #[] := by
  unfold remark
  rw [if_neg (by simp [warnings])]
  simp

variable {o} in
/-- Remarks leave a trace. -/
theorem settles_remarkAll (warnings : o.reportWarnings = true) {set : SchemaSet}
    {frames : List Frame} {scopes : List Scope} {run : Run} (h : run.Stands set frames scopes)
    (rs : List Remark) : Settles (rs = []) set frames scopes (run.remarkAll o text rs) := by
  refine ⟨fun hrs => hrs ▸ h, fun hrs => ?_⟩
  obtain ⟨r, rs, rfl⟩ := List.exists_cons_of_ne_nil hrs
  exact (extends_remarkAll o text _ rs).ne_empty (issues_remark_ne text warnings run r)

/-! ## Start tags -/

/-- The prefixes on a tag are declared, and the element neither is a schema nor points to one. -/
structure Plain (tag : ElementTag) (scopes : List Scope) : Prop where
  wellFormed : tag.WellFormed scopes
  no_hints : ∀ a ∈ (tag.opening scopes).attributes,
    a.isInstance "schemaLocation" = false ∧ a.isInstance "noNamespaceSchemaLocation" = false
  no_schema : tag.name scopes ≠ .schema "schema"

theorem mapM_eq_ok {α β ε : Type} {f : α → Except ε β} {g : α → β} (xs : List α)
    (h : ∀ x ∈ xs, f x = .ok (g x)) : xs.mapM f = .ok (xs.map g) := by
  induction xs with
  | nil => rfl
  | cons x xs ih =>
    rw [List.mapM_cons, h x (by simp), ih fun y hy => h y (by simp [hy])]
    rfl

theorem resolveTag_eq {tag : ElementTag} {scopes : List Scope} (h : tag.WellFormed scopes)
    (selfClosing : Bool) :
    resolveTag (tag.inner scopes) (tag.toStartTag selfClosing) tag.attributes =
      .ok (tag.name scopes, (tag.opening scopes).attributes) := by
  obtain ⟨name, hname⟩ := Option.isSome_iff_exists.1 h.1
  unfold resolveTag ElementTag.opening ElementTag.name
  dsimp only [ElementTag.toStartTag]
  rw [hname]
  dsimp only
  rw [mapM_eq_ok (g := ElementTag.named (tag.inner scopes)) tag.attributes fun a ha => ?_]
  · rfl
  · unfold ElementTag.named
    split
    · rfl
    · rename_i undeclared
      obtain ⟨name, hname⟩ := Option.isSome_iff_exists.1 ((h.2 a ha).resolve_left undeclared)
      rw [hname]
      rfl

/-- Where no attribute points to a schema, only the bindings that wait are loaded. -/
theorem harvest_eq (run : Run) {attributes : List NamedAttribute}
    (no_hints : ∀ a ∈ attributes, a.isInstance "schemaLocation" = false ∧
      a.isInstance "noNamespaceSchemaLocation" = false) :
    run.harvest o text attributes =
      if run.set.hasPending then run.compilePending o text else run := by
  have dangling : attributes.flatMap (·.danglingRemarks) = [] := by
    refine List.flatMap_eq_nil_iff.2 fun a ha => ?_
    simp [NamedAttribute.danglingRemarks, no_hints a ha]
  have hints : attributes.flatMap (·.hints) = [] := by
    refine List.flatMap_eq_nil_iff.2 fun a ha => ?_
    simp [NamedAttribute.hints, no_hints a ha]
  unfold harvest
  rw [dangling, hints]
  rfl

/-- A start tag opens an element, once the bindings that wait have been loaded. -/
theorem step_startTag {run : Run} (finished : run.finished = false)
    (openSchema : run.openSchema = none) (root : run.frames = [] → run.rootClosed = false)
    {tag : ElementTag} (plain : Plain tag run.scopes) (selfClosing : Bool) :
    run.step o text (.startTag (tag.toStartTag selfClosing)) =
      openElement o text
        (if run.set.hasPending then
          compilePending o text { run with scopes := tag.inner run.scopes }
        else { run with scopes := tag.inner run.scopes })
        (tag.toStartTag selfClosing) (tag.name run.scopes) (tag.opening run.scopes).attributes := by
  have inside : (run.frames.isEmpty && run.rootClosed) = false := by
    cases hframes : run.frames with
    | nil => simp [root hframes]
    | cons _ _ => rfl
  have inner_eq : Scope.ofAttributes tag.attributes :: run.scopes = tag.inner run.scopes := rfl
  have resolved := resolveTag_eq plain.wellFormed selfClosing
  have harvested := harvest_eq o text { run with scopes := tag.inner run.scopes } plain.no_hints
  rw [step_eq o text finished openSchema]
  dsimp only [ElementTag.toStartTag] at resolved harvested ⊢
  unfold startTag
  rw [inside, if_neg (by decide)]
  dsimp only
  rw [inner_eq, resolved]
  dsimp only
  rw [if_neg plain.no_schema, harvested]

theorem step_startTag_of_settled {set : SchemaSet} {frames : List Frame} {scopes : List Scope}
    {run : Run} (h : run.Stands set frames scopes) (settled : set.pending = [])
    (root : frames = [] → run.rootClosed = false) {tag : ElementTag} (plain : Plain tag scopes)
    (selfClosing : Bool) :
    run.step o text (.startTag (tag.toStartTag selfClosing)) =
      openElement o text { run with scopes := tag.inner scopes } (tag.toStartTag selfClosing)
        (tag.name scopes) (tag.opening scopes).attributes := by
  have pending : run.set.hasPending = false := by
    simp [SchemaSet.hasPending, h.asked.pending_eq, settled]
  obtain rfl := h.frames
  obtain rfl := h.scopes
  rw [step_startTag o text h.finished h.openSchema root plain, pending, if_neg (by decide)]

/-! ## Open elements -/

/-- What governs a child of the innermost open element, and the open elements behind the child. -/
def nextFrames (frames : List Frame) (child : QName) : Except Finding (Context × List Frame) :=
  match frames with
  | [] => .ok (.lax, [])
  | frame :: frames =>
    match childContext frame.name frame.mode child with
    | .error finding => .error finding
    | .ok (context, mode) => .ok (context, { frame with mode } :: frames)

theorem heldBy_nextFrames {set : SchemaSet} {frames frames' : List Frame} {child : QName}
    {context : Context} (held : ∀ frame ∈ frames, frame.mode.HeldBy set)
    (next : nextFrames frames child = .ok (context, frames')) :
    context.HeldBy set ∧ ∀ frame ∈ frames', frame.mode.HeldBy set := by
  unfold nextFrames at next
  cases frames with
  | nil =>
    cases next
    exact ⟨trivial, by simp⟩
  | cons frame frames =>
    obtain ⟨first, others⟩ := List.forall_mem_cons.1 held
    dsimp only at next
    split at next
    · cases next
    · rename_i context mode moved
      cases next
      obtain ⟨governed, behind⟩ := first.childContext moved
      exact ⟨governed, List.forall_mem_cons.2 ⟨behind, others⟩⟩

theorem contextOf_eq (run : Run) (child : QName) :
    run.contextOf child =
      match nextFrames run.frames child with
      | .error finding => .error finding
      | .ok (context, frames) => .ok (context, { run with frames }) := by
  obtain ⟨set, issues, frames, scopes, offsets, rootClosed, openSchema, finished⟩ := run
  unfold contextOf nextFrames
  cases frames with
  | nil => rfl
  | cons frame frames =>
    dsimp only
    cases childContext frame.name frame.mode child <;> rfl

variable {o} in
/-- When an element opens, its frame has the mode that it is judged to have. -/
theorem settles_opened (warnings : o.reportWarnings = true) {set : SchemaSet}
    {frames frames' : List Frame} {scopes : List Scope} {run : Run} {name : QName}
    {context : Context} (h : run.Stands set frames scopes)
    (next : nextFrames frames name = .ok (context, frames')) (tag : Xml.StartTag)
    (attributes : List NamedAttribute) :
    let judged := (OpeningElement.mk name attributes scopes (tag.offset + 1)).judge run.set context
    Settles (judged.1.2 = []) set (⟨tag.rawName, name, tag.offset + 1, judged.1.1⟩ :: frames')
      scopes (run.opened o text tag name attributes) := by
  intro judged
  obtain rfl := h.scopes
  have context_eq := contextOf_eq run name
  rw [h.frames, next] at context_eq
  obtain ⟨governed, held⟩ := heldBy_nextFrames h.held next
  obtain ⟨asked, opened_held⟩ := OpeningElement.asked_judge h.asked.same h.asked.remembers governed
    ⟨name, attributes, run.scopes, tag.offset + 1⟩
  have moved : Stands set frames' run.scopes { run with frames := frames', set := judged.2 } :=
    ⟨held, h.issues, rfl, rfl, h.openSchema, h.finished, h.asked.trans asked⟩
  have remarked := settles_remarkAll text warnings moved judged.1.2
  unfold opened
  rw [context_eq]
  exact remarked.push opened_held

variable {o} in
theorem issues_opened_ne (warnings : o.reportWarnings = true) {run : Run} {tag : Xml.StartTag}
    {name : QName} {attributes : List NamedAttribute} {finding : Finding}
    (next : nextFrames run.frames name = .error finding) :
    (run.opened o text tag name attributes).issues ≠ #[] := by
  unfold opened
  rw [contextOf_eq, next]
  exact issues_remark_ne text warnings run _

theorem closingRemarks_eq {s t : SchemaSet} (same : SchemaSet.SameComponents s t) (mode : Mode)
    (name : QName) (offset : Nat) :
    mode.closingRemarks t name offset = mode.closingRemarks s name offset := by
  cases mode with
  | typed element =>
    unfold Mode.closingRemarks TypedElement.closingRemarks simpleContentRemarks
    rw [same.resolve_eq]
  | lax | skip => rfl

variable {o} in
/-- When an element closes, its frame and scope go, and what is missing is remarked. -/
theorem settles_closeFrame (warnings : o.reportWarnings = true) {set : SchemaSet} {frame : Frame}
    {frames : List Frame} {scope : Scope} {scopes : List Scope} {run : Run}
    (h : run.Stands set (frame :: frames) (scope :: scopes)) (offset : Nat) :
    Settles (frame.mode.closingRemarks set frame.name offset = []) set frames scopes
      (run.closeFrame o text offset) := by
  have others := (List.forall_mem_cons.1 h.held).2
  have popped : Stands set frames scopes
      (noteRootEnd { run with frames, scopes := run.scopes.tail }) := by
    unfold noteRootEnd
    split <;>
      exact ⟨others, h.issues, rfl, by rw [h.scopes]; rfl, h.openSchema, h.finished, h.asked⟩
  unfold closeFrame
  rw [h.frames]
  dsimp only
  generalize noteRootEnd { run with frames, scopes := run.scopes.tail } = after at popped ⊢
  cases frame.mode with
  | typed element =>
    rw [← closingRemarks_eq popped.asked.same]
    exact settles_remarkAll text warnings popped _
  | lax | skip => exact ⟨fun _ => popped, fun h => absurd rfl h⟩

variable {o} in
/-- Text stands in the innermost open element. -/
theorem textContent_spec (warnings : o.reportWarnings = true) {set : SchemaSet} {frame : Frame}
    {frames : List Frame} {scopes : List Scope} {run : Run}
    (h : run.Stands set (frame :: frames) scopes) (value : String) (offset : Nat) :
    match frame.mode.addText? frame.name value offset with
    | none => (run.textContent o text value offset).issues ≠ #[]
    | some mode => (run.textContent o text value offset).Stands set ({ frame with mode } :: frames)
        scopes := by
  unfold textContent
  rw [h.frames]
  dsimp only
  cases hmode : frame.mode with
  | typed element =>
    dsimp only [Mode.addText?]
    obtain ⟨first, others⟩ := List.forall_mem_cons.1 h.held
    rw [hmode] at first
    have held := first.addText frame.name value offset
    generalize element.addText frame.name value offset = added at held
    obtain ⟨element', remarks⟩ := added
    have moved : Stands set ({ frame with mode := .typed element' } :: frames) scopes
        { run with frames := { frame with mode := .typed element' } :: frames } :=
      ⟨List.forall_mem_cons.2 ⟨held, others⟩, h.issues, rfl, h.scopes, h.openSchema, h.finished,
        h.asked⟩
    have remarked := settles_remarkAll text warnings moved remarks
    cases remarks with
    | nil => exact remarked.stands rfl
    | cons r rs => exact remarked.reports (by simp)
  | lax | skip =>
    dsimp only [Mode.addText?]
    rw [← hmode]
    exact h

/-! ## Trees -/

/-- Running over the events of an element that a run meets anywhere. -/
def TreeRuns (set : SchemaSet) (tree : ElementTree) : Prop :=
  ∀ (frames : List Frame) (scopes : List Scope) (run : Run),
    (∀ tag outer, (tag, outer) ∈ tree.tags scopes → Plain tag outer) →
    run.Stands set frames scopes → (frames = [] → run.rootClosed = false) →
    (∀ finding, nextFrames frames (tree.name scopes) = .error finding →
      (run.steps o text tree.events).issues ≠ #[]) ∧
    ∀ context frames', nextFrames frames (tree.name scopes) = .ok (context, frames') →
      Settles (tree.Conforms set context scopes) set frames' scopes (run.steps o text tree.events)

/-- Running over the events of the content of the innermost open element. -/
def ContentRuns (set : SchemaSet) (content : ElementContent) : Prop :=
  ∀ (frame : Frame) (frames : List Frame) (scopes : List Scope) (run : Run),
    (∀ tag outer, (tag, outer) ∈ content.tags scopes → Plain tag outer) →
    run.Stands set (frame :: frames) scopes →
    (content.read scopes frame.name frame.mode = none →
      (run.steps o text content.events).issues ≠ #[]) ∧
    ∀ contexts mode, content.read scopes frame.name frame.mode = some (contexts, mode) →
      Settles (content.Conforms set contexts scopes) set ({ frame with mode } :: frames) scopes
        (run.steps o text content.events)

variable {o} {text}

section Elements

variable (warnings : o.reportWarnings = true) {set : SchemaSet} {tag : ElementTag}
  {content : ElementContent} {frames : List Frame} {scopes : List Scope} {run : Run}

include warnings

/-- Running over the content and the end of an element that is open. -/
theorem settles_close (inside : ContentRuns o text set content) {frame : Frame}
    (h : run.Stands set (frame :: frames) (tag.inner scopes))
    (plain : ∀ inner outer, (inner, outer) ∈ content.tags (tag.inner scopes) → Plain inner outer)
    {close : Run → Run} (extends_close : ∀ run, Extends run.issues (close run).issues)
    {offset : Nat} (close_eq : ∀ run mode,
      run.Stands set ({ frame with mode } :: frames) (tag.inner scopes) →
        close run = run.closeFrame o text offset) :
    Settles (content.Passes set (tag.inner scopes) frame.name offset frame.mode) set frames scopes
      (close (run.steps o text content.events)) := by
  obtain ⟨fails, settles⟩ := inside frame frames (tag.inner scopes) run plain h
  cases hread : content.read (tag.inner scopes) frame.name frame.mode with
  | none =>
    refine ⟨?_, fun _ => (extends_close _).ne_empty (fails hread)⟩
    rintro ⟨contexts, last, hread', -⟩
    rw [hread] at hread'
    cases hread'
  | some result =>
    obtain ⟨contexts, mode⟩ := result
    have settles := settles contexts mode hread
    have passes_iff : content.Passes set (tag.inner scopes) frame.name offset frame.mode ↔
        content.Conforms set contexts (tag.inner scopes) ∧
          mode.closingRemarks set frame.name offset = [] := by
      constructor
      · rintro ⟨contexts', last, hread', conform, closing⟩
        rw [hread] at hread'
        cases hread'
        exact ⟨conform, closing⟩
      · rintro ⟨conform, closing⟩
        exact ⟨contexts, mode, hread, conform, closing⟩
    by_cases conform : content.Conforms set contexts (tag.inner scopes)
    · have stands := settles.stands conform
      rw [close_eq _ mode stands]
      refine (settles_closeFrame text warnings stands offset).congr ?_
      rw [passes_iff, and_iff_right conform]
    · refine ⟨fun hpasses => absurd (passes_iff.1 hpasses).1 conform, fun _ => ?_⟩
      exact (extends_close _).ne_empty (settles.reports conform)

/-- Running over an element: its start tag, its content and its end. -/
theorem element_runs (inside : ContentRuns o text set content) (h : run.Stands set frames scopes)
    (plain : ∀ inner outer, (inner, outer) ∈ content.tags (tag.inner scopes) → Plain inner outer)
    (selfClosing : Bool) (close : Run → Run)
    (extends_close : ∀ run, Extends run.issues (close run).issues) {offset : Nat}
    (close_eq : ∀ run frame frames, frame.rawName = tag.rawName →
      run.Stands set (frame :: frames) (tag.inner scopes) →
        close run = run.closeFrame o text offset)
    {last : Run}
    (hlast : last = close ((opened o text { run with scopes := tag.inner scopes }
      (tag.toStartTag selfClosing) (tag.name scopes) (tag.opening scopes).attributes).steps o text
        content.events)) :
    (∀ finding, nextFrames frames (tag.name scopes) = .error finding → last.issues ≠ #[]) ∧
      ∀ context frames', nextFrames frames (tag.name scopes) = .ok (context, frames') →
        Settles
          ((tag.opening scopes).ConformsIn set (content.interior set (tag.inner scopes)) context)
          set frames' scopes last := by
  subst hlast
  have stands : Stands set frames (tag.inner scopes) { run with scopes := tag.inner scopes } :=
    ⟨h.held, h.issues, h.frames, rfl, h.openSchema, h.finished, h.asked⟩
  have reported {between : Run} (hbetween : between.issues ≠ #[]) :
      (close (between.steps o text content.events)).issues ≠ #[] :=
    (extends_close _).ne_empty ((extends_steps o text between content.events).ne_empty hbetween)
  constructor
  · intro finding next
    have next' : nextFrames { run with scopes := tag.inner scopes }.frames (tag.name scopes) =
      .error finding := by rw [stands.frames, next]
    exact reported (issues_opened_ne text warnings next')
  · intro context frames' next
    have conforms := OpeningElement.conformsIn_iff h.asked.same h.asked.remembers
      (heldBy_nextFrames h.held next).1 (tag.opening scopes) offset content
    have opening := settles_opened text warnings stands next (tag.toStartTag selfClosing)
      (tag.opening scopes).attributes
    refine Settles.congr ?_ conforms.symm
    -- remarks about the start tag stay; without them the content is passed over in the mode judged
    by_cases remarks : ((tag.opening scopes).judge run.set context).1.2 = []
    · have closing := settles_close warnings inside (opening.stands remarks) plain extends_close
        (fun run mode => close_eq run _ frames' rfl)
      refine closing.congr ?_
      rw [and_iff_right remarks]
      rfl
    · exact ⟨fun hp => absurd hp.1 remarks, fun _ => reported (opening.reports remarks)⟩

end Elements

/-! ## One case for each constructor -/

section Cases

variable {set : SchemaSet} {tree : ElementTree} {content rest : ElementContent}

theorem ContentRuns.nil : ContentRuns o text set .nil := by
  intro frame frames scopes run _ h
  refine ⟨fun hread => ?_, fun contexts mode hread => ?_⟩
  · cases hread
  · cases hread
    refine ⟨fun _ => h, fun hnot => absurd ?_ hnot⟩
    rw [ElementContent.Conforms]
    trivial

theorem ContentRuns.other (later : ContentRuns o text set rest) :
    ContentRuns o text set (.other rest) := by
  intro frame frames scopes run plain h
  rw [ElementContent.tags] at plain
  have stepped : run.step o text .other = run := step_eq o text h.finished h.openSchema _
  rw [ElementContent.events, steps_cons, stepped]
  simp only [ElementContent.read, ElementContent.Conforms]
  exact later frame frames scopes run plain h

/-- A child moves the mode of the frame on, and the rest of the content starts from there. -/
theorem ContentRuns.element (first : TreeRuns o text set tree)
    (later : ContentRuns o text set rest) : ContentRuns o text set (.element tree rest) := by
  intro frame frames scopes run plain h
  rw [ElementContent.tags] at plain
  obtain ⟨refused, settles⟩ := first (frame :: frames) scopes run
    (fun tag outer hmem => plain tag outer (List.mem_append_left _ hmem)) h (by simp)
  rw [ElementContent.events, steps_append, ElementContent.read]
  have reported (hissues : (run.steps o text tree.events).issues ≠ #[]) :=
    (extends_steps o text _ rest.events).ne_empty hissues
  cases hchild : childContext frame.name frame.mode (tree.name scopes) with
  | error finding =>
    refine ⟨fun _ => reported (refused finding ?_), fun _ _ hread => by cases hread⟩
    simp only [nextFrames, hchild]
  | ok next =>
    obtain ⟨context, moved⟩ := next
    have settles := settles context ({ frame with mode := moved } :: frames)
      (by simp only [nextFrames, hchild])
    dsimp only
    by_cases conform : tree.Conforms set context scopes
    · obtain ⟨fails, runs⟩ := later { frame with mode := moved } frames scopes _
        (fun tag outer hmem => plain tag outer (List.mem_append_right _ hmem))
        (settles.stands conform)
      refine ⟨fun hread => fails (Option.map_eq_none_iff.1 hread), fun contexts mode hread => ?_⟩
      obtain ⟨⟨contexts', last⟩, hrest, heq⟩ := Option.map_eq_some_iff.1 hread
      cases heq
      refine (runs contexts' last hrest).congr ?_
      rw [ElementContent.Conforms, and_iff_right conform]
    · -- whatever the rest is, the report about the child stays
      refine ⟨fun _ => reported (settles.reports conform), fun contexts mode hread => ?_⟩
      obtain ⟨⟨contexts', last⟩, hrest, heq⟩ := Option.map_eq_some_iff.1 hread
      cases heq
      refine ⟨fun hall => ?_, fun _ => reported (settles.reports conform)⟩
      rw [ElementContent.Conforms] at hall
      exact absurd hall.1 conform

variable (warnings : o.reportWarnings = true)

include warnings

theorem ContentRuns.withText (value : String) (offset : Nat) (later : ContentRuns o text set rest) :
    ContentRuns o text set (.text value offset rest) := by
  intro frame frames scopes run plain h
  rw [ElementContent.tags] at plain
  have stepped : run.step o text (.text (.ok value) offset) =
      run.textContent o text value offset := step_eq o text h.finished h.openSchema _
  have spec := textContent_spec text warnings h value offset
  rw [← stepped] at spec
  rw [ElementContent.events, steps_cons, ElementContent.read]
  simp only [ElementContent.Conforms]
  cases hmode : frame.mode.addText? frame.name value offset with
  | none =>
    rw [hmode] at spec
    exact ⟨fun _ => (extends_steps o text _ rest.events).ne_empty spec,
      fun _ _ hread => by cases hread⟩
  | some mode =>
    rw [hmode] at spec
    exact later { frame with mode } frames scopes _ plain spec

variable (settled : set.pending = [])

include settled

/-- An empty-element tag opens and closes an element without content. -/
theorem TreeRuns.empty (tag : ElementTag) : TreeRuns o text set (.empty tag) := by
  intro frames scopes run plain h root
  rw [ElementTree.tags] at plain
  have opens := step_startTag_of_settled o text h settled root
    (plain tag scopes List.mem_cons_self) true
  have last_eq : run.steps o text (ElementTree.empty tag).events =
      closeFrame o text (steps o text (opened o text { run with scopes := tag.inner scopes }
        (tag.toStartTag true) (tag.name scopes) (tag.opening scopes).attributes)
          ElementContent.nil.events) (tag.offset + 1) := by
    rw [ElementTree.events, ElementContent.events]
    exact opens
  have runs := element_runs warnings ContentRuns.nil h
    (fun _ _ hmem => by rw [ElementContent.tags] at hmem; cases hmem) true
    (closeFrame o text · (tag.offset + 1)) (fun run => extends_closeFrame o text run _)
    (fun _ _ _ _ _ => rfl) last_eq
  have interior_eq : ElementContent.nil.interior set (tag.inner scopes) =
      ⟨[], [], fun _ => True⟩ := by
    unfold ElementContent.interior
    simp only [ElementContent.Conforms]
    rfl
  rw [interior_eq] at runs
  simp only [ElementTree.Conforms]
  exact runs

/-- An element with tags around its content is closed by its end tag, which has the name of the
start tag. -/
theorem TreeRuns.node (tag : ElementTag) (inside : ContentRuns o text set content)
    (offset stop : Nat) : TreeRuns o text set (.node tag content offset stop) := by
  intro frames scopes run plain h root
  rw [ElementTree.tags] at plain
  have opens := step_startTag_of_settled o text h settled root
    (plain tag scopes List.mem_cons_self) false
  have last_eq : run.steps o text (ElementTree.node tag content offset stop).events =
      step o text (steps o text (opened o text { run with scopes := tag.inner scopes }
        (tag.toStartTag false) (tag.name scopes) (tag.opening scopes).attributes)
          content.events) (.endTag tag.rawName offset stop) := by
    rw [ElementTree.events, steps_cons, opens, steps_append]
    rfl
  have closes (run : Run) (frame : Frame) (frames : List Frame)
      (hname : frame.rawName = tag.rawName)
      (stands : run.Stands set (frame :: frames) (tag.inner scopes)) :
      run.step o text (.endTag tag.rawName offset stop) = run.closeFrame o text offset := by
    rw [step_eq o text stands.finished stands.openSchema]
    dsimp only
    unfold endTag
    rw [stands.frames]
    exact if_pos hname
  simp only [ElementTree.Conforms]
  exact element_runs warnings inside h
    (fun inner outer hmem => plain inner outer (List.mem_cons_of_mem _ hmem)) false
    (step o text · (.endTag tag.rawName offset stop)) (fun run => extends_step o text run _)
    closes last_eq

end Cases

section Runs

variable (warnings : o.reportWarnings = true) {set : SchemaSet}

include warnings

mutual

/-- Behind an element, a run stands as before it, the mode of the parent having moved on, or it has
reported something, since the element does not conform. -/
theorem treeRuns (settled : set.pending = []) : ∀ tree : ElementTree, TreeRuns o text set tree
  | .empty tag => .empty warnings settled tag
  | .node tag content offset stop =>
    .node warnings settled tag (contentRuns settled content) offset stop

/-- Behind the content of an element, the mode of the element has moved on, or something has been
reported. -/
theorem contentRuns (settled : set.pending = []) :
    ∀ content : ElementContent, ContentRuns o text set content
  | .nil => .nil
  | .element tree rest => .element (treeRuns settled tree) (contentRuns settled rest)
  | .text value offset rest => .withText warnings value offset (contentRuns settled rest)
  | .other rest => .other (contentRuns settled rest)

end

end Runs

section Documents

/-! ## Documents -/

theorem events_eq_cons (tree : ElementTree) : ∃ selfClosing events,
    tree.events = .startTag (tree.tag.toStartTag selfClosing) :: events := by
  cases tree with
  | empty tag => exact ⟨true, [], by rw [ElementTree.events]; rfl⟩
  | node tag content offset stop => exact ⟨false, _, by rw [ElementTree.events]; rfl⟩

theorem tag_mem_tags (tree : ElementTree) (scopes : List Scope) :
    (tree.tag, scopes) ∈ tree.tags scopes := by
  cases tree <;> rw [ElementTree.tags] <;> exact List.mem_cons_self

theorem stands_start {set : SchemaSet} (h : set.Reachable) (scopes : List Scope) :
    Stands set [] scopes { set, scopes } :=
  ⟨by simp, rfl, rfl, rfl, rfl, rfl, .refl h.remembers⟩

variable (text) (warnings : o.reportWarnings = true) {set : SchemaSet} (reachable : set.Reachable)

include warnings reachable

theorem settles_compilePending (scopes : List Scope) :
    Settles ((set.compile o.source).1 = []) (set.compile o.source).2 [] scopes
      (compilePending o text { set, scopes }) :=
  (settles_remarkAll text warnings (stands_start (reachable.compile o.source) scopes) _).congr
    List.map_eq_nil_iff

variable {tree : ElementTree}
  (plain : ∀ tag outer, (tag, outer) ∈ tree.tags [] → Plain tag outer)

include plain

/-- With nothing left to load, a document is reported on exactly if it does not conform. -/
theorem issues_eq_empty_iff_of_settled (settled : set.pending = []) :
    (steps o text { set } tree.events).issues = #[] ↔ tree.Conforms set .lax [] := by
  obtain ⟨-, runs⟩ := treeRuns warnings settled tree [] [] { set } plain
    (stands_start reachable []) fun _ => rfl
  have settles := runs .lax [] rfl
  exact ⟨not_imp_not.1 settles.reports, fun conforms => (settles.stands conforms).issues⟩

/-- The bindings that wait are loaded when the root element opens, and a failure is reported. -/
theorem steps_events_of_pending (pending : set.hasPending = true) :
    ((set.compile o.source).1 ≠ [] → (steps o text { set } tree.events).issues ≠ #[]) ∧
      ((set.compile o.source).1 = [] → steps o text { set } tree.events =
        steps o text { set := (set.compile o.source).2 } tree.events) := by
  obtain ⟨selfClosing, events, hevents⟩ := events_eq_cons tree
  have root := plain tree.tag [] (tag_mem_tags tree [])
  have stands := stands_start reachable []
  have opens := step_startTag o text stands.finished stands.openSchema (fun _ => rfl) root
    selfClosing
  rw [if_pos pending] at opens
  rw [hevents, steps_cons, steps_cons, opens]
  constructor
  · intro failures
    have reported := (settles_compilePending text warnings reachable (tree.tag.inner [])).reports
      failures
    exact (extends_steps o text _ events).ne_empty
      ((extends_openElement o text _ _ _ _).ne_empty reported)
  · intro failures
    rw [step_startTag_of_settled o text (stands_start (reachable.compile o.source) [])
      (set.pending_compile o.source) (fun _ => rfl) root selfClosing]
    unfold compilePending
    dsimp only
    rw [failures]
    rfl

end Documents

/-- A run over a document that neither contains nor points to schemas reports nothing, warnings
included, exactly if the document conforms to the set.  If bindings wait in the set, then they are
loaded first: all of them must load, and the document must conform to the set with their
documents. -/
theorem steps_issues_eq_empty_iff (o : Options) (text : List Char)
    (warnings : o.reportWarnings = true) (S : SchemaSet) (reachable : S.Reachable)
    (t : ElementTree) (wellFormed : t.WellFormed) (no_hints : t.NoHints)
    (no_schemas : t.NoSchemas) :
    (S.pending = [] → ((steps o text { set := S } t.events).issues = #[] ↔ t.Conforms S .lax [])) ∧
      ((steps o text { set := S } t.events).issues = #[] ↔
        (S.compile o.source).1 = [] ∧ t.Conforms (S.compile o.source).2 .lax []) := by
  have plain : ∀ tag outer, (tag, outer) ∈ t.tags [] → Plain tag outer := fun tag outer hmem =>
    ⟨wellFormed (tag, outer) hmem, no_hints (tag, outer) hmem, no_schemas (tag, outer) hmem⟩
  have whole := issues_eq_empty_iff_of_settled text warnings reachable plain
  refine ⟨whole, ?_⟩
  cases pending : S.hasPending with
  | false =>
    have settled : S.pending = [] := by simpa [SchemaSet.hasPending] using pending
    rw [SchemaSet.compile_eq_of_pending_eq_nil settled, whole settled, and_iff_right rfl]
  | true =>
    obtain ⟨fails, loads⟩ := steps_events_of_pending text warnings reachable plain pending
    by_cases failures : (S.compile o.source).1 = []
    · rw [loads failures, and_iff_right failures]
      exact issues_eq_empty_iff_of_settled text warnings (reachable.compile o.source) plain
        (S.pending_compile o.source)
    · exact ⟨fun silent => absurd silent (fails failures), fun h => absurd h.1 failures⟩

/-- A set with an element without type and one with an integer type. -/
def sampleSet : SchemaSet :=
  (({} : SchemaSet).addInline (SchemaSource.ofFiles [])
    ("<schema xmlns='http://www.w3.org/2001/XMLSchema'>" ++
      "<element name='a'/><element name='b' type='int'/></schema>")).2

/-- The first element of `sampleSet`, with the second one in it. -/
def sampleTree (value : String) : ElementTree :=
  .node ⟨"a", [], 0, 3⟩ (.element (.node ⟨"b", [], 3, 6⟩ (.text value 6 .nil) 8 11) .nil) 13 15

/-- The run over `sampleTree` against `sampleSet`. -/
def sampleRun (value : String) : Run :=
  steps ⟨⟨[]⟩, true, SchemaSource.ofFiles []⟩ [] { set := sampleSet } (sampleTree value).events

/-- A child with an integer in it conforms, and a child with something else does not. -/
theorem steps_issues_eq_empty_iff_child :
    sampleSet.Reachable ∧ sampleSet.pending = [] ∧
      (∀ value ∈ ["7", "x"], (sampleTree value).WellFormed ∧ (sampleTree value).NoHints ∧
        (sampleTree value).NoSchemas) ∧
      (sampleTree "7").Conforms sampleSet .lax [] ∧
      ¬ (sampleTree "x").Conforms sampleSet .lax [] := by
  have reachable : sampleSet.Reachable := SchemaSet.Reachable.new.addInline _ _
  have settled : sampleSet.pending = [] := by decide +kernel
  have plain : ∀ value ∈ ["7", "x"], (sampleTree value).WellFormed ∧ (sampleTree value).NoHints ∧
      (sampleTree value).NoSchemas := by decide +kernel
  have conforms_iff (value : String) (hvalue : value ∈ ["7", "x"]) :
      (sampleRun value).issues.size = 0 ↔ (sampleTree value).Conforms sampleSet .lax [] := by
    obtain ⟨wellFormed, no_hints, no_schemas⟩ := plain value hvalue
    rw [Array.size_eq_zero_iff]
    exact (steps_issues_eq_empty_iff _ [] rfl sampleSet reachable (sampleTree value) wellFormed
      no_hints no_schemas).1 settled
  rw [← conforms_iff "7" (by decide), ← conforms_iff "x" (by decide)]
  exact ⟨reachable, settled, plain, by decide +kernel, by decide +kernel⟩

end Run

end XmlSchema
