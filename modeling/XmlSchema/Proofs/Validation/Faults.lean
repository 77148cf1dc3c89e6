import XmlSchema.Proofs.Validation.Effects

/-!
# Faults

Which fault an event is depends on the open elements, their scopes and the schema that is being
passed over (`Run.fault?`); the run ends with that fault (`Run.exists_step_eq_fail`), and goes on if
there is none.  Between two events no binding waits and every binding is recorded (`Run.Settled`),
so that nothing is reported behind a fault: the issues of a report are ordinary remarks and, at the
end, at most one fault (`validate_ends_with_fault`).
-/

namespace XmlSchema

open XmlSchema.Text

namespace Run

/-! ## Events that are faults -/

/-- The fault that a start tag is. -/
def tagFault? (run : Run) (tag : Xml.StartTag) : Option Xml.Fault :=
  if run.frames.isEmpty && run.rootClosed then some ⟨.multipleRoots, tag.offset + 1⟩
  else
    match tag.attributes with
    | .error fault => some fault
    | .ok attributes =>
      match resolveTag (Scope.ofAttributes attributes :: run.scopes) tag attributes with
      | .error fault => some fault
      | .ok _ => none

/-- The fault that an end tag is. -/
def endTagFault? (text : List Char) (run : Run) (rawName : String) (nameOffset : Nat) :
    Option Xml.Fault :=
  match run.frames with
  | [] => some ⟨.unexpectedEndTag, nameOffset⟩
  | frame :: _ =>
    if frame.rawName = rawName then none
    else
      let place := position text frame.nameOffset
      some ⟨.mismatchedEndTag frame.rawName place.line place.column rawName, nameOffset⟩

/-- The fault that a text is. -/
def textFault? (run : Run) (value : String) (offset : Nat) : Option Xml.Fault :=
  if run.frames.isEmpty && !isBlankText value.toList then some ⟨.rootLevelText, offset⟩ else none

/-- The fault that an event is in a state of a run.  Inside a schema, only the end of the document
matters. -/
def fault? (text : List Char) (run : Run) (event : Xml.Event) : Option Xml.Fault :=
  match run.openSchema, event with
  | some _, .malformed _ | some _, .endOfInput => some (run.unclosed text)
  | some _, _ => none
  | none, .startTag tag => run.tagFault? tag
  | none, .endTag rawName offset _ => run.endTagFault? text rawName offset
  | none, .text (.ok value) offset => run.textFault? value offset
  | none, .text (.error fault) _ => some fault
  | none, .other => none
  | none, .malformed fault => some fault
  | none, .endOfInput => if run.frames.isEmpty then none else some (run.unclosed text)

variable (o : Options) (text : List Char) {run : Run}

theorem step_of_openSchema {schema : OpenSchema} (running : run.finished = false)
    (h : run.openSchema = some schema) (event : Xml.Event) :
    run.step o text event = run.schemaEvent o text schema event := by
  unfold step
  rw [running, if_neg (by decide), h]

theorem exists_startTag_eq_fail {tag : Xml.StartTag} {fault : Xml.Fault}
    (h : run.tagFault? tag = some fault) :
    ∃ scopes, ∀ o, run.startTag o text tag = fail o text { run with scopes } fault := by
  unfold tagFault? at h
  split at h
  · rename_i second
    cases h
    refine ⟨run.scopes, fun o => ?_⟩
    unfold startTag
    exact if_pos second
  · rename_i first
    cases hattributes : tag.attributes with
    | error _ =>
      rw [hattributes] at h
      cases h
      refine ⟨run.scopes, fun o => ?_⟩
      unfold startTag
      rw [if_neg first, hattributes]
    | ok attributes =>
      rw [hattributes] at h
      dsimp only at h
      split at h
      · rename_i unresolved
        cases h
        refine ⟨Scope.ofAttributes attributes :: run.scopes, fun o => ?_⟩
        unfold startTag
        rw [if_neg first, hattributes]
        dsimp only
        rw [unresolved]
      · cases h

theorem endTag_eq_fail {rawName : String} {offset : Nat} {fault : Xml.Fault}
    (h : run.endTagFault? text rawName offset = some fault) :
    run.endTag o text rawName offset = run.fail o text fault := by
  unfold endTagFault? at h
  unfold endTag
  cases hframes : run.frames with
  | nil =>
    rw [hframes] at h
    cases h
    rfl
  | cons frame frames =>
    rw [hframes] at h
    dsimp only at h ⊢
    split at h
    · cases h
    · rename_i mismatch
      cases h
      exact if_neg mismatch

theorem textContent_eq_fail {value : String} {offset : Nat} {fault : Xml.Fault}
    (h : run.textFault? value offset = some fault) :
    run.textContent o text value offset = run.fail o text fault := by
  unfold textFault? at h
  split at h
  · rename_i outside
    cases h
    rw [Bool.and_eq_true, List.isEmpty_iff] at outside
    unfold textContent
    rw [outside.1]
    exact if_neg (by simpa using outside.2)
  · cases h

/-- A fault ends the run, possibly with the scope of its tag being open. -/
theorem exists_step_eq_fail {event : Xml.Event} {fault : Xml.Fault} (running : run.finished = false)
    (h : run.fault? text event = some fault) :
    ∃ scopes, ∀ o, run.step o text event = fail o text { run with scopes } fault := by
  have here {event : Xml.Event} (hr : ∀ o, run.step o text event = run.fail o text fault) :
      ∃ scopes, ∀ o, run.step o text event = fail o text { run with scopes } fault :=
    ⟨run.scopes, hr⟩
  unfold fault? at h
  split at h
  · rename_i hschema
    cases h
    exact here fun o => step_of_openSchema o text running hschema _
  · rename_i hschema
    cases h
    exact here fun o => step_of_openSchema o text running hschema _
  · cases h
  all_goals
    rename_i hschema
    have stepped (o : Options) := step_eq o text running hschema
  · obtain ⟨scopes, started⟩ := exists_startTag_eq_fail text h
    exact ⟨scopes, fun o => (stepped o _).trans (started o)⟩
  · exact here fun o => (stepped o _).trans (endTag_eq_fail o text h)
  · exact here fun o => (stepped o _).trans (textContent_eq_fail o text h)
  · cases h
    exact here fun o => stepped o _
  · cases h
  · cases h
    exact here fun o => stepped o _
  · split at h
    · cases h
    · rename_i inside
      cases h
      exact here fun o => (stepped o _).trans (if_pos (by simpa using inside))

theorem tagFault?_eq_none_iff {tag : Xml.StartTag} :
    run.tagFault? tag = none ↔
      ¬ (run.frames.isEmpty && run.rootClosed) = true ∧
        ∃ attributes name named, tag.attributes = .ok attributes ∧
          resolveTag (Scope.ofAttributes attributes :: run.scopes) tag attributes =
            .ok (name, named) := by
  unfold tagFault?
  constructor
  · intro h
    split at h
    · cases h
    · rename_i first
      refine ⟨first, ?_⟩
      split at h
      · cases h
      · rename_i attributes decoded
        split at h
        · cases h
        · rename_i resolved hresolved
          exact ⟨attributes, resolved.1, resolved.2, decoded, hresolved⟩
  · rintro ⟨first, attributes, name, named, decoded, resolved⟩
    rw [if_neg first, decoded]
    dsimp only
    rw [resolved]

theorem endTagFault?_eq_none_iff {rawName : String} {offset : Nat} :
    run.endTagFault? text rawName offset = none ↔
      ∃ frame frames, run.frames = frame :: frames ∧ frame.rawName = rawName := by
  unfold endTagFault?
  constructor
  · intro h
    split at h
    · cases h
    · rename_i frame frames hframes
      refine ⟨frame, frames, hframes, Decidable.byContradiction fun mismatch => ?_⟩
      rw [if_neg mismatch] at h
      cases h
  · rintro ⟨frame, frames, hframes, hname⟩
    rw [hframes]
    exact if_pos hname

theorem textFault?_eq_none_iff {value : String} {offset : Nat} :
    run.textFault? value offset = none ↔
      run.frames ≠ [] ∨ isBlankText value.toList = true := by
  unfold textFault?
  cases hframes : run.frames <;> cases hblank : isBlankText value.toList <;> simp

/-! ## What a step reports -/

/-- The remark with which a fault is reported. -/
def faultRemark (fault : Xml.Fault) : Remark :=
  ⟨.malformed fault.cause (position text fault.offset), fault.offset⟩

/-- No binding waits, and every binding is recorded. -/
def Settled (run : Run) : Prop := run.set.pending = [] ∧ run.Recorded

theorem compilePending_eq (h : run.set.pending = []) : run.compilePending o text = run := by
  unfold compilePending
  rw [SchemaSet.compile_eq_of_pending_eq_nil h]
  rfl

/-- Where no binding waits, a fault is the last thing reported. -/
theorem fail_eq (run : Run) (h : run.set.pending = []) (fault : Xml.Fault) :
    run.fail o text fault = { run with
      issues := run.issues ++ (reported o text [faultRemark text fault]).toArray
      finished := true } := by
  unfold fail
  dsimp only
  rw [remark_eq, compilePending_eq]
  · rfl
  · exact h

/-- The run has gone on: there are ordinary remarks only. -/
structure GoesOn (before after : Run) : Prop where
  issues : ∃ rs, Ordinary rs ∧ after.issues = before.issues ++ (reported o text rs).toArray
  settled : after.Settled
  finished : after.finished = false

/-- The second run has the bindings of the first, and what it reports besides is about the content
of the document. -/
structure Keeps (before after : Run) : Prop where
  issues : ∃ rs, AboutContent rs ∧ after.issues = before.issues ++ (reported o text rs).toArray
  registered : after.set.registered = before.set.registered
  pending : after.set.pending = before.set.pending
  bindingOffsets : after.bindingOffsets = before.bindingOffsets
  finished : after.finished = before.finished

variable {o text} in
theorem keeps_of_eq {before next after : Run} {rs : List Remark}
    (h : after = next.remarkAll o text rs) (about : AboutContent rs)
    (issues : next.issues = before.issues)
    (registered : next.set.registered = before.set.registered)
    (pending : next.set.pending = before.set.pending)
    (bindingOffsets : next.bindingOffsets = before.bindingOffsets)
    (finished : next.finished = before.finished) : Keeps o text before after := by
  rw [h, remarkAll_eq]
  exact ⟨⟨rs, about, by rw [issues]⟩, registered, pending, bindingOffsets, finished⟩

variable {o text} in
theorem Keeps.goesOn {before after : Run} (h : Keeps o text before after) (settled : before.Settled)
    (running : before.finished = false) : GoesOn o text before after where
  issues := by
    obtain ⟨rs, about, issues⟩ := h.issues
    exact ⟨rs, about.ordinary, issues⟩
  settled := by
    refine ⟨h.pending.trans settled.1, fun b hb => ?_⟩
    rw [h.registered] at hb
    rw [h.bindingOffsets]
    exact settled.2 b hb
  finished := h.finished.trans running

variable (run) in
theorem keeps_self : Keeps o text run run :=
  keeps_of_eq (show run = run.remarkAll o text [] from rfl) aboutContent_nil rfl rfl rfl rfl rfl

variable (run) in
theorem keeps_closeSchema (tag : Xml.StartTag) (stop : Nat) :
    Keeps o text run (run.closeSchema o text tag stop) := by
  obtain ⟨rs, set, about, registered, pending, closed⟩ := exists_closeSchema_eq o text run tag stop
  exact keeps_of_eq closed about rfl registered pending rfl rfl

theorem keeps_schemaEvent (schema : OpenSchema) {event : Xml.Event}
    (h : run.openSchema = some schema) (faultless : run.fault? text event = none) :
    Keeps o text run (run.schemaEvent o text schema event) := by
  have moved (openSchema : Option OpenSchema) :
      Keeps o text run (remarkAll o text { run with openSchema } []) :=
    keeps_of_eq rfl aboutContent_nil rfl rfl rfl rfl rfl
  unfold schemaEvent
  split
  · split
    · exact moved _
    · exact keeps_self o text run
  · split
    · split
      · exact keeps_closeSchema o text run schema.tag _
      · exact moved _
    · exact keeps_self o text run
  · simp [fault?, h] at faultless
  · simp [fault?, h] at faultless
  · exact keeps_self o text run
  · exact keeps_self o text run

theorem keeps_endTag {rawName : String} {offset : Nat}
    (faultless : run.endTagFault? text rawName offset = none) :
    Keeps o text run (run.endTag o text rawName offset) := by
  obtain ⟨frame, frames, hframes, hname⟩ := (endTagFault?_eq_none_iff text).1 faultless
  obtain ⟨rs, about, closed⟩ := exists_closeFrame_eq o text run hframes offset
  unfold endTag
  rw [hframes]
  dsimp only
  rw [if_pos hname]
  exact keeps_of_eq closed about rfl rfl rfl rfl rfl

theorem keeps_textContent {value : String} {offset : Nat}
    (faultless : run.textFault? value offset = none) :
    Keeps o text run (run.textContent o text value offset) := by
  cases hframes : run.frames with
  | nil =>
    have blank := (textFault?_eq_none_iff.1 faultless).resolve_left (· hframes)
    unfold textContent
    rw [hframes]
    dsimp only
    rw [if_pos blank]
    exact keeps_self o text run
  | cons frame frames =>
    obtain ⟨rs, frames', about, -, stands⟩ :=
      exists_textContent_eq o text run hframes value offset
    exact keeps_of_eq stands about rfl rfl rfl rfl rfl

/-- An event that is no fault leaves the bindings as they are, unless it is a start tag outside
schemas or the end of the document. -/
theorem keeps_step (running : run.finished = false) {event : Xml.Event}
    (faultless : run.fault? text event = none) (inside : event ≠ .endOfInput)
    (passed : run.openSchema = none → ∀ tag, event ≠ .startTag tag) :
    Keeps o text run (run.step o text event) := by
  cases hschema : run.openSchema with
  | some schema =>
    rw [step_of_openSchema o text running hschema]
    exact keeps_schemaEvent o text schema hschema faultless
  | none =>
    unfold fault? at faultless
    rw [hschema] at faultless
    rw [step_eq o text running hschema]
    cases event with
    | startTag tag => exact absurd rfl (passed hschema tag)
    | endTag rawName offset stop => exact keeps_endTag o text faultless
    | text content offset =>
      cases content with
      | ok value => exact keeps_textContent o text faultless
      | error fault => cases faultless
    | other => exact keeps_self o text run
    | malformed fault => cases faultless
    | endOfInput => exact absurd rfl inside

variable (running : run.finished = false) (settled : run.Settled)

include running settled

theorem goesOn_startTag {tag : Xml.StartTag} (outside : run.openSchema = none)
    (faultless : run.tagFault? tag = none) : GoesOn o text run (run.startTag o text tag) := by
  obtain ⟨first, attributes, name, named, decoded, resolved⟩ := tagFault?_eq_none_iff.1 faultless
  obtain ⟨rs, set, offsets, frames, ordinary, pending, recorded, -, started⟩ :=
    exists_startTag_eq o text outside first decoded resolved
  rw [started, remarkAll_eq]
  exact ⟨⟨rs, ordinary, rfl⟩, ⟨pending, recorded settled.2⟩, running⟩

/-- An event that is no fault and not the end of the document lets the run go on. -/
theorem goesOn_step {event : Xml.Event} (faultless : run.fault? text event = none)
    (inside : event ≠ .endOfInput) : GoesOn o text run (run.step o text event) := by
  by_cases tags : ∃ tag, run.openSchema = none ∧ event = .startTag tag
  · obtain ⟨tag, outside, rfl⟩ := tags
    rw [step_eq o text running outside]
    unfold fault? at faultless
    rw [outside] at faultless
    exact goesOn_startTag o text running settled outside faultless
  · refine (keeps_step o text running faultless inside ?_).goesOn settled running
    exact fun outside tag htag => tags ⟨tag, outside, htag⟩

omit running settled

/-- What an event says about well-formedness: which fault it is or, at the end of the document, that
there was no root element.  Nothing is said once the run has finished. -/
def faultRemark? (run : Run) (event : Xml.Event) : Option Remark :=
  if run.finished then none
  else
    match run.fault? text event, event with
    | some fault, _ => some (faultRemark text fault)
    | none, .endOfInput => if run.rootClosed then none else some ⟨.missingRoot, 0⟩
    | none, _ => none

variable {text} in
theorem faultRemark?_spec {event : Xml.Event} {r : Remark}
    (h : run.faultRemark? text event = some r) :
    r = ⟨.missingRoot, 0⟩ ∨ ∃ fault, r = faultRemark text fault := by
  unfold faultRemark? at h
  split at h
  · cases h
  · split at h
    · cases h
      exact .inr ⟨_, rfl⟩
    · split at h <;> cases h
      exact .inl rfl
    · cases h

theorem step_of_finished (h : run.finished = true) (event : Xml.Event) :
    run.step o text event = run := by
  unfold step
  rw [if_pos h]

theorem fault?_endOfInput_eq_none_iff :
    run.fault? text .endOfInput = none ↔ run.openSchema = none ∧ run.frames = [] := by
  unfold fault?
  cases hschema : run.openSchema <;> cases hframes : run.frames <;> simp

theorem step_endOfInput (running : run.finished = false) (settled : run.Settled)
    (faultless : run.fault? text .endOfInput = none) :
    run.step o text .endOfInput =
      if run.rootClosed then { run with finished := true }
      else
        { run with
          issues := run.issues ++ (reported o text [⟨.missingRoot, 0⟩]).toArray
          finished := true } := by
  obtain ⟨hschema, hframes⟩ := (fault?_endOfInput_eq_none_iff text).1 faultless
  rw [step_eq o text running hschema]
  dsimp only
  unfold endOfInput
  rw [if_neg (by simp [hframes]), remark_eq, compilePending_eq]
  exact settled.1

/-- What an event says about well-formedness is all that is reported then, and ends the run. -/
theorem exists_step_of_faultRemark? (settled : run.Settled) {event : Xml.Event} {r : Remark}
    (h : run.faultRemark? text event = some r) :
    ∃ scopes, ∀ o, run.step o text event = { run with
      scopes
      issues := run.issues ++ (reported o text [r]).toArray
      finished := true } := by
  unfold faultRemark? at h
  split at h
  · cases h
  · rename_i running
    have running : run.finished = false := by simpa using running
    split at h
    · rename_i fault hfault
      cases h
      obtain ⟨scopes, failed⟩ := exists_step_eq_fail text running hfault
      exact ⟨scopes, fun o => (failed o).trans (fail_eq o text { run with scopes } settled.1 fault)⟩
    · rename_i faultless
      split at h
      · cases h
      · rename_i rootless
        cases h
        refine ⟨run.scopes, fun o => ?_⟩
        exact (step_endOfInput o text running settled faultless).trans (if_neg rootless)
    · cases h

/-- Other events add ordinary remarks. -/
theorem step_of_faultRemark?_eq_none (settled : run.Settled) {event : Xml.Event}
    (h : run.faultRemark? text event = none) :
    (run.step o text event).Settled ∧ ∃ rs, Ordinary rs ∧
      (run.step o text event).issues = run.issues ++ (reported o text rs).toArray := by
  unfold faultRemark? at h
  split at h
  · rename_i finished
    rw [step_of_finished o text finished]
    exact ⟨settled, [], ordinary_nil, by simp [reported]⟩
  · rename_i running
    have running : run.finished = false := by simpa using running
    split at h
    · cases h
    · rename_i faultless
      split at h
      · rename_i closed
        rw [step_endOfInput o text running settled faultless, if_pos closed]
        exact ⟨settled, [], ordinary_nil, by simp [reported]⟩
      · cases h
    · rename_i inside faultless
      have goesOn := goesOn_step o text running settled faultless inside
      exact ⟨goesOn.settled, goesOn.issues⟩

/-! ## Runs -/

/-- What events say about well-formedness, in order. -/
def faultRemarks (run : Run) : List Xml.Event → List Remark
  | [] => []
  | event :: events =>
    (run.faultRemark? text event).toList ++ (run.step o text event).faultRemarks events

theorem steps_of_finished (h : run.finished = true) (events : List Xml.Event) :
    run.steps o text events = run ∧ run.faultRemarks o text events = [] := by
  induction events with
  | nil => exact ⟨rfl, rfl⟩
  | cons event events ih =>
    have silent : run.faultRemark? text event = none := if_pos h
    rw [steps_cons, faultRemarks, step_of_finished o text h, silent]
    exact ih

/-- Behind a remark about well-formedness, a run reports nothing. -/
theorem steps_spec (settled : run.Settled) (events : List Xml.Event) :
    (run.steps o text events).Settled ∧ (run.faultRemarks o text events).length ≤ 1 ∧
      (∀ r ∈ run.faultRemarks o text events,
        r = ⟨.missingRoot, 0⟩ ∨ ∃ fault, r = faultRemark text fault) ∧
      ∃ rs, Ordinary rs ∧ (run.steps o text events).issues = run.issues ++
        (reported o text (rs ++ run.faultRemarks o text events)).toArray := by
  induction events generalizing run with
  | nil => exact ⟨settled, by simp [faultRemarks], by simp [faultRemarks], [], ordinary_nil,
      by simp [reported, faultRemarks, steps]⟩
  | cons event events ih =>
    rw [steps_cons, faultRemarks]
    cases hremark : run.faultRemark? text event with
    | some r =>
      obtain ⟨scopes, stepped⟩ := exists_step_of_faultRemark? text settled hremark
      obtain ⟨stopped, silent⟩ := steps_of_finished o text
        (show (run.step o text event).finished = true by rw [stepped]) events
      rw [stopped, silent, stepped]
      refine ⟨settled, by simp, ?_, [], ordinary_nil, by simp⟩
      simpa using faultRemark?_spec hremark
    | none =>
      obtain ⟨settled', rs, ordinary, stepped⟩ :=
        step_of_faultRemark?_eq_none o text settled hremark
      obtain ⟨settled'', once, kinds, rs', ordinary', rest⟩ := ih settled'
      refine ⟨settled'', once, kinds, rs ++ rs', ordinary_append.2 ⟨ordinary, ordinary'⟩, ?_⟩
      rw [rest, stepped]
      simp [reported_append]

end Run

/-- Between two events of a document, no binding waits, and every binding is recorded, so that its
place is known whenever it is loaded, whichever hints have been added by then.  The issues of a
report are ordinary remarks and, at the end, at most one about well-formedness.  That one is an
error, and unless it is about a missing root element its message ends with the place of the
issue. -/
theorem validate_ends_with_fault (o : Options) (text : String) :
    let cs := Xml.dropByteOrderMark text.toList
    let faults := Run.faultRemarks o cs {} (Xml.events cs)
    (∀ before, before <+: Xml.events cs →
      (Run.steps o cs {} before).set.pending = [] ∧
      ∀ hints : List SchemaHint, ∀ hinted,
        hinted = hints.foldl (Run.addHint o cs) (Run.steps o cs {} before) →
        ∀ b ∈ hinted.set.registered, (hinted.bindingOffsets.find? (·.1.Same b)).isSome) ∧
    (∃ rs, Ordinary rs ∧
      (validate o text).issues = reported o cs rs ++ faults.map (·.toIssue cs)) ∧
    faults.length ≤ 1 ∧
    ∀ r ∈ faults, (r.toIssue cs).severity = .error ∧
      ((r.toIssue cs).message = "Root element is missing." ∨
        ∃ fault sentence, r = Run.faultRemark cs fault ∧ (r.toIssue cs).message = sentence ++
          s!" Line {(r.toIssue cs).line}, position {(r.toIssue cs).column}.") := by
  intro cs faults
  have start : Run.Settled {} := ⟨rfl, fun b hb => nomatch hb⟩
  obtain ⟨-, once, kinds, rs, ordinary, issues⟩ := Run.steps_spec o cs start (Xml.events cs)
  refine ⟨fun before _ => ?_, ⟨rs, ordinary, ?_⟩, once, fun r hr => ?_⟩
  · obtain ⟨pending, recorded⟩ := (Run.steps_spec o cs start before).1
    refine ⟨pending, ?_⟩
    rintro hints _ rfl b hb
    obtain ⟨_, _, _, -, -, keeps⟩ := Run.binds_addHints o cs (Run.steps o cs {} before) hints
    obtain ⟨offset, hoffset⟩ := keeps recorded b hb
    rw [List.find?_isSome]
    exact ⟨(b, offset), hoffset, decide_eq_true ⟨rfl, .refl _⟩⟩
  · have faults_reported : reported o cs faults = faults.map (·.toIssue cs) := by
      unfold reported
      rw [List.filter_eq_self.2]
      intro r hr
      obtain rfl | ⟨fault, rfl⟩ := kinds r hr <;> rfl
    have listed := congrArg Array.toList issues
    rw [Run.reported_append, faults_reported] at listed
    exact listed.trans (by simp)
  · obtain rfl | ⟨fault, rfl⟩ := kinds r hr
    · exact ⟨rfl, .inl rfl⟩
    · exact ⟨rfl, .inr ⟨fault, _, rfl, rfl⟩⟩

end XmlSchema
