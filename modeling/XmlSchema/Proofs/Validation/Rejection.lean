import XmlSchema.Proofs.Validation.Acceptance

/-!
# Rejected children

An element that its parent cannot have is reported once and passed over with all that is in it
(`Run.steps_of_rejected`): behind its last event the run is what it was before its first one, with
one issue more.

The element is opened with the mode `skip`, and under such a frame nothing that a subtree brings
leaves a trace (`Run.treePasses`, `Run.contentPasses`): children are skipped in turn, text is not
looked at, and each end tag takes away what the start tag has put there.
-/

namespace XmlSchema

namespace Run

/-! ## Single events -/

/-- The run goes on with the next event.  It stands outside of schemas, and no binding waits to be
loaded. -/
structure Ready (run : Run) : Prop where
  running : run.finished = false
  outside : run.openSchema = none
  settled : run.set.pending = []

variable (o : Options) (text : List Char) {run : Run}

theorem Ready.step_startTag (h : run.Ready) (nested : run.frames ≠ []) {tag : ElementTag}
    (plain : Plain tag run.scopes) (selfClosing : Bool) :
    run.step o text (.startTag (tag.toStartTag selfClosing)) =
      openElement o text { run with scopes := tag.inner run.scopes } (tag.toStartTag selfClosing)
        (tag.name run.scopes) (tag.opening run.scopes).attributes := by
  have pending : run.set.hasPending = false := by simp [SchemaSet.hasPending, h.settled]
  have root : run.frames = [] → run.rootClosed = false := fun none => absurd none nested
  rw [Run.step_startTag o text h.running h.outside root plain, pending, if_neg (by decide)]

/-- Inside an element that is skipped, an element is skipped. -/
theorem opened_of_skip (run : Run) {frame : Frame} {frames : List Frame}
    (hframes : run.frames = frame :: frames) (skip : frame.mode = .skip) (tag : Xml.StartTag)
    (name : QName) (attributes : List NamedAttribute) :
    run.opened o text tag name attributes =
      { run with frames := ⟨tag.rawName, name, tag.offset + 1, .skip⟩ :: run.frames } := by
  have next : nextFrames run.frames name = .ok (.skip, run.frames) := by
    obtain ⟨rawName, frameName, nameOffset, mode⟩ := frame
    obtain rfl : mode = .skip := skip
    rw [hframes]
    rfl
  unfold opened
  rw [contextOf_eq, next]
  rfl

/-- If the start tag of an element puts a frame to be skipped on top and does not touch what is
below, then the end of the element brings back what was there. -/
def TreePasses (tree : ElementTree) : Prop :=
  ∀ (run : Run) (issues : Array Issue), run.Ready → run.frames ≠ [] →
    (∀ tag outer, (tag, outer) ∈ tree.tags run.scopes → Plain tag outer) →
    (∀ selfClosing,
      opened o text { run with scopes := tree.tag.inner run.scopes }
          (tree.tag.toStartTag selfClosing) (tree.name run.scopes)
          (tree.tag.opening run.scopes).attributes =
        { run with
          issues
          scopes := tree.tag.inner run.scopes
          frames := ⟨tree.tag.rawName, tree.name run.scopes, tree.tag.offset + 1, .skip⟩ ::
            run.frames }) →
    run.steps o text tree.events = { run with issues }

/-- The content of an element that is skipped leaves no trace. -/
def ContentPasses (content : ElementContent) : Prop :=
  ∀ (run : Run) (frame : Frame) (frames : List Frame), run.Ready →
    run.frames = frame :: frames → frame.mode = .skip →
    (∀ tag outer, (tag, outer) ∈ content.tags run.scopes → Plain tag outer) →
    run.steps o text content.events = run

variable {o text}

theorem closeFrame_of_skip (run : Run) (nested : run.frames ≠ []) {frame : Frame}
    (skip : frame.mode = .skip) (scope : Scope) (offset : Nat) :
    closeFrame o text
        { run with frames := frame :: run.frames, scopes := scope :: run.scopes } offset = run := by
  have inside : run.frames.isEmpty = false := by simpa using nested
  rw [closeFrame_of_untyped o text _ rfl (by simp [skip])]
  simp [inside]

theorem TreePasses.empty (tag : ElementTag) : TreePasses o text (.empty tag) := by
  intro run issues ready nested plain opens
  have first : Plain tag run.scopes := plain tag run.scopes (by simp [ElementTree.tags])
  let frame : Frame := ⟨tag.rawName, tag.name run.scopes, tag.offset + 1, .skip⟩
  calc run.steps o text (ElementTree.empty tag).events
      = run.step o text (.startTag (tag.toStartTag true)) := by rw [ElementTree.events]; rfl
    _ = closeFrame o text { run with
          issues
          scopes := tag.inner run.scopes
          frames := frame :: run.frames } (tag.offset + 1) := by
        rw [ready.step_startTag o text nested first, openElement_eq]
        exact congrArg (closeFrame o text · (tag.offset + 1)) (opens true)
    _ = { run with issues } := closeFrame_of_skip { run with issues } nested rfl _ _

theorem TreePasses.node (tag : ElementTag) {content : ElementContent}
    (inside : ContentPasses o text content) (offset stop : Nat) :
    TreePasses o text (.node tag content offset stop) := by
  intro run issues ready nested plain opens
  rw [ElementTree.tags] at plain
  have first : Plain tag run.scopes := plain tag run.scopes List.mem_cons_self
  let frame : Frame := ⟨tag.rawName, tag.name run.scopes, tag.offset + 1, .skip⟩
  let within : Run :=
    { run with issues, scopes := tag.inner run.scopes, frames := frame :: run.frames }
  have started : run.step o text (.startTag (tag.toStartTag false)) = within := by
    rw [ready.step_startTag o text nested first, openElement_eq]
    exact opens false
  have within_ready : within.Ready := ⟨ready.running, ready.outside, ready.settled⟩
  have passed : within.steps o text content.events = within :=
    inside within frame run.frames within_ready rfl rfl
      fun inner outer hmem => plain inner outer (List.mem_cons_of_mem _ hmem)
  have ended : within.step o text (.endTag tag.rawName offset stop) = { run with issues } := by
    have same : frame.rawName = tag.rawName := rfl
    rw [step_eq o text within_ready.running within_ready.outside]
    dsimp only [endTag, within]
    rw [if_pos same]
    exact closeFrame_of_skip { run with issues } nested rfl _ _
  rw [ElementTree.events, steps_cons, started, steps_append, passed, steps_cons, ended]
  rfl

/-! ## Content -/

theorem ContentPasses.nil : ContentPasses o text .nil := by
  intro run frame frames ready hframes skip plain
  rfl

theorem ContentPasses.element {tree : ElementTree} {rest : ElementContent}
    (first : TreePasses o text tree) (later : ContentPasses o text rest) :
    ContentPasses o text (.element tree rest) := by
  intro run frame frames ready hframes skip plain
  rw [ElementContent.tags] at plain
  have nested : run.frames ≠ [] := by simp [hframes]
  have passed : run.steps o text tree.events = run :=
    first run run.issues ready nested
      (fun tag outer hmem => plain tag outer (List.mem_append_left _ hmem))
      fun selfClosing => opened_of_skip o text { run with scopes := tree.tag.inner run.scopes }
        hframes skip _ _ _
  rw [ElementContent.events, steps_append, passed]
  exact later run frame frames ready hframes skip
    fun tag outer hmem => plain tag outer (List.mem_append_right _ hmem)

theorem ContentPasses.withText (value : String) (offset : Nat) {rest : ElementContent}
    (later : ContentPasses o text rest) : ContentPasses o text (.text value offset rest) := by
  intro run frame frames ready hframes skip plain
  rw [ElementContent.tags] at plain
  have ignored : run.step o text (.text (.ok value) offset) = run := by
    rw [step_eq o text ready.running ready.outside]
    dsimp only
    unfold textContent
    rw [hframes]
    dsimp only
    rw [skip]
  rw [ElementContent.events, steps_cons, ignored]
  exact later run frame frames ready hframes skip plain

theorem ContentPasses.other {rest : ElementContent} (later : ContentPasses o text rest) :
    ContentPasses o text (.other rest) := by
  intro run frame frames ready hframes skip plain
  rw [ElementContent.tags] at plain
  have ignored : run.step o text .other = run := step_eq o text ready.running ready.outside _
  rw [ElementContent.events, steps_cons, ignored]
  exact later run frame frames ready hframes skip plain

variable (o text)

mutual

theorem treePasses : ∀ tree, TreePasses o text tree
  | .empty tag => .empty tag
  | .node tag content offset stop => .node tag (contentPasses content) offset stop

theorem contentPasses : ∀ content, ContentPasses o text content
  | .nil => .nil
  | .element tree rest => .element (treePasses tree) (contentPasses rest)
  | .text value offset rest => .withText value offset (contentPasses rest)
  | .other rest => .other (contentPasses rest)

end

/-! ## Runs -/

end Run

end XmlSchema
