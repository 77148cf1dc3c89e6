import XmlSchema.Proofs.Validation.Acceptance

/-!
# Documents without schemas

Where there is no schema, there is nothing to validate against.  The main statement is about
documents in which no element is a schema or points to one (`SchemaFree`): only their
well-formedness matters, and neither the options nor the files at hand do
(`validate_of_schemaFree`).

A run over such a document is bare throughout (`Run.Bare`): its set is empty, every open element is
lax, and as long as the run goes on, nothing has been reported.
-/

namespace XmlSchema

open XmlSchema.Text

/-! ## Tags and scopes -/

namespace Xml.Event

/-- The tag that an event is, if its attributes can be read. -/
def tag? : Event → Option ElementTag
  | .startTag ⟨rawName, .ok attributes, _, offset, stop⟩ => some ⟨rawName, attributes, offset, stop⟩
  | _ => none

/-- The scopes behind an event. -/
def scopesBehind (scopes : List Scope) : Event → List Scope
  | .startTag ⟨_, .ok attributes, false, _, _⟩ => Scope.ofAttributes attributes :: scopes
  | .endTag _ _ _ => scopes.tail
  | _ => scopes

end Xml.Event

/-- The tags among the events, each with the scopes it stands in. -/
def placedTags (scopes : List Scope) : List Xml.Event → List (ElementTag × List Scope)
  | [] => []
  | event :: events =>
    (event.tag?.map (·, scopes)).toList ++ placedTags (event.scopesBehind scopes) events

/-- The element neither is a schema nor points to one. -/
def ElementTag.SchemaFree (tag : ElementTag) (scopes : List Scope) : Prop :=
  tag.name scopes ≠ .schema "schema" ∧ ∀ a ∈ (tag.opening scopes).attributes,
    a.isInstance "schemaLocation" = false ∧ a.isInstance "noNamespaceSchemaLocation" = false

/-- No element is a schema or points to one. -/
def SchemaFree (scopes : List Scope) (events : List Xml.Event) : Prop :=
  ∀ place ∈ placedTags scopes events, place.1.SchemaFree place.2

instance (tag : ElementTag) (scopes : List Scope) : Decidable (tag.SchemaFree scopes) :=
  inferInstanceAs (Decidable (_ ∧ _))

instance (scopes : List Scope) (events : List Xml.Event) : Decidable (SchemaFree scopes events) :=
  inferInstanceAs (Decidable (∀ _ ∈ _, _))

theorem schemaFree_cons {scopes : List Scope} {event : Xml.Event} {events : List Xml.Event} :
    SchemaFree scopes (event :: events) ↔
      (∀ tag, event.tag? = some tag → tag.SchemaFree scopes) ∧
        SchemaFree (event.scopesBehind scopes) events := by
  unfold SchemaFree
  rw [placedTags, List.forall_mem_append]
  refine and_congr_left fun _ => ?_
  cases event.tag? <;> simp

theorem SchemaFree.of_append {scopes : List Scope} {before rest : List Xml.Event}
    (h : SchemaFree scopes (before ++ rest)) : SchemaFree scopes before := by
  induction before generalizing scopes with
  | nil => simp [SchemaFree, placedTags]
  | cons event before ih =>
    rw [List.cons_append, schemaFree_cons] at h
    exact schemaFree_cons.2 ⟨h.1, ih h.2⟩

/-! ## Bare runs -/

namespace Run

/-- There are no schemas, and no element is validated.  As long as the run goes on, it stands in the
given scopes. -/
structure Bare (scopes : List Scope) (run : Run) : Prop where
  set : run.set = {}
  lax : ∀ frame ∈ run.frames, frame.mode = .lax
  stands : run.finished = false → run.Stands {} run.frames scopes

theorem bare_start : Bare [] {} :=
  ⟨rfl, by simp, fun _ => stands_start .new []⟩

variable (o : Options) (text : List Char) {scopes : List Scope} {run : Run}

theorem Bare.settled (h : run.Bare scopes) : run.Settled := by
  unfold Settled Recorded
  rw [h.set]
  exact ⟨rfl, by simp⟩

theorem Bare.finish (h : run.Bare scopes) (scopes' inner : List Scope) (issues : Array Issue) :
    Bare scopes' { run with scopes := inner, issues, finished := true } :=
  ⟨h.set, h.lax, nofun⟩

/-! ## Open elements -/

theorem nextFrames_of_lax {frames : List Frame} (lax : ∀ frame ∈ frames, frame.mode = .lax)
    (child : QName) : nextFrames frames child = .ok (.lax, frames) := by
  cases frames with
  | nil => rfl
  | cons frame frames =>
    obtain ⟨rawName, name, nameOffset, mode⟩ := frame
    obtain rfl : mode = .lax := lax _ List.mem_cons_self
    rfl

/-- With nothing to go by, an element is lax. -/
theorem opened_of_lax (run : Run) (set : run.set = {}) (lax : ∀ frame ∈ run.frames, frame.mode = .lax)
    (tag : Xml.StartTag) (name : QName) (attributes : List NamedAttribute) :
    run.opened o text tag name attributes =
      { run with frames := ⟨tag.rawName, name, tag.offset + 1, .lax⟩ :: run.frames } := by
  unfold opened
  rw [contextOf_eq, nextFrames_of_lax lax]
  obtain ⟨_, _, _, _, _, _, _, _⟩ := run
  obtain rfl := set
  rfl

/-! ## Steps -/

section GoesOn

variable (h : run.Bare scopes) (running : run.finished = false)

include h running

theorem Bare.move {frames : List Frame} (lax : ∀ frame ∈ frames, frame.mode = .lax)
    (scopes' : List Scope) (closed : Bool) :
    Bare scopes' { run with frames, scopes := scopes', rootClosed := closed } := by
  have stands := h.stands running
  have held : ∀ frame ∈ frames, frame.mode.HeldBy {} := by
    intro frame mem
    rw [lax frame mem]
    trivial
  exact ⟨h.set, lax,
    fun _ => ⟨held, stands.issues, rfl, rfl, stands.openSchema, running, stands.asked⟩⟩

theorem Bare.exists_startTag_eq {tag : ElementTag} (plain : Plain tag scopes)
    (root : run.frames = [] → run.rootClosed = false) (selfClosing : Bool) :
    ∃ frames closed, (∀ frame ∈ frames, frame.mode = .lax) ∧
      ∀ o, run.step o text (.startTag (tag.toStartTag selfClosing)) =
        { run with
          frames
          scopes := if selfClosing then scopes else tag.inner scopes
          rootClosed := closed } := by
  let frame : Frame := ⟨tag.rawName, tag.name scopes, tag.offset + 1, .lax⟩
  have opened (o : Options) := opened_of_lax o text { run with scopes := tag.inner scopes } h.set
    h.lax (tag.toStartTag selfClosing) (tag.name scopes) (tag.opening scopes).attributes
  have stepped (o : Options) :=
    step_startTag_of_settled o text (h.stands running) rfl root plain selfClosing
  cases selfClosing with
  | true =>
    refine ⟨run.frames, run.rootClosed || run.frames.isEmpty, h.lax, fun o => ?_⟩
    rw [stepped, openElement_eq, opened]
    exact closeFrame_of_untyped o text
      { run with frames := frame :: run.frames, scopes := tag.inner scopes } rfl (by simp [frame])
      (tag.offset + 1)
  | false =>
    refine ⟨frame :: run.frames, run.rootClosed, List.forall_mem_cons.2 ⟨rfl, h.lax⟩, fun o => ?_⟩
    rw [stepped, openElement_eq, opened]
    rfl

/-- A bare run goes on with an event in the same way whatever the options are. -/
theorem Bare.exists_step_eq {event : Xml.Event} (faultless : run.fault? text event = none)
    (inside : event ≠ .endOfInput)
    (free : ∀ tag, event.tag? = some tag → tag.SchemaFree scopes) :
    ∃ frames closed, (∀ frame ∈ frames, frame.mode = .lax) ∧
      ∀ o, run.step o text event =
        { run with frames, scopes := event.scopesBehind scopes, rootClosed := closed } := by
  have stands := h.stands running
  obtain rfl := stands.scopes
  have stepped (o : Options) := step_eq o text running stands.openSchema
  unfold fault? at faultless
  rw [stands.openSchema] at faultless
  cases event with
  | startTag start =>
    obtain ⟨rawName, decoded, selfClosing, offset, stop⟩ := start
    obtain ⟨first, attributes, name, named, rfl, resolved⟩ := tagFault?_eq_none_iff.1 faultless
    let tag : ElementTag := ⟨rawName, attributes, offset, stop⟩
    obtain ⟨no_schema, no_hints⟩ := free tag rfl
    have known : tag.WellFormed run.scopes :=
      (exists_resolveTag_eq_iff selfClosing).1 ⟨_, resolved⟩
    have root : run.frames = [] → run.rootClosed = false := by simpa using first
    obtain ⟨frames, closed, lax, started⟩ :=
      h.exists_startTag_eq text running ⟨known, no_hints, no_schema⟩ root selfClosing
    refine ⟨frames, closed, lax, fun o => (started o).trans ?_⟩
    cases selfClosing <;> rfl
  | endTag rawName offset stop =>
    obtain ⟨frame, frames, hframes, name⟩ := (endTagFault?_eq_none_iff text).1 faultless
    have lax := h.lax
    rw [hframes, List.forall_mem_cons] at lax
    refine ⟨frames, run.rootClosed || frames.isEmpty, lax.2, fun o => ?_⟩
    rw [stepped]
    dsimp only
    unfold endTag
    rw [hframes]
    dsimp only
    rw [if_pos name]
    exact closeFrame_of_untyped o text run hframes (by simp [lax.1]) offset
  | text content offset =>
    cases content with
    | error fault => cases faultless
    | ok value =>
      refine ⟨run.frames, run.rootClosed, h.lax, fun o => ?_⟩
      rw [stepped]
      dsimp only
      unfold textContent
      cases hframes : run.frames with
      | nil =>
        have blank := (textFault?_eq_none_iff.1 faultless).resolve_left (· hframes)
        dsimp only
        rw [if_pos blank, ← hframes]
        rfl
      | cons frame frames =>
        have lax := h.lax frame (by simp [hframes])
        dsimp only
        rw [lax, ← hframes]
        rfl
  | other => exact ⟨run.frames, run.rootClosed, h.lax, fun o => stepped o _⟩
  | malformed fault => cases faultless
  | endOfInput => exact absurd rfl inside

end GoesOn

/-- A step of a bare run leads to a bare run, whatever the options are, and reports what the event
says about well-formedness. -/
theorem Bare.exists_step (h : run.Bare scopes) {event : Xml.Event}
    (free : ∀ tag, event.tag? = some tag → tag.SchemaFree scopes) :
    ∃ next : Run, (∀ o, run.step o text event = next) ∧ next.Bare (event.scopesBehind scopes) ∧
      next.issues =
        run.issues ++ ((run.faultRemark? text event).toList.map (·.toIssue text)).toArray := by
  cases hremark : run.faultRemark? text event with
  | some r =>
    -- faults are errors, and so are reported under all options
    obtain ⟨inner, stepped⟩ := exists_step_of_faultRemark? text h.settled hremark
    have reported_eq (o : Options) : reported o text [r] = [r.toIssue text] := by
      obtain rfl | ⟨fault, rfl⟩ := faultRemark?_spec hremark <;> rfl
    refine ⟨_, fun o => ?_, h.finish _ inner (run.issues ++ #[r.toIssue text]), rfl⟩
    rw [stepped, reported_eq]
  | none =>
    -- the run is over already, or ends with the document, or goes on
    unfold faultRemark? at hremark
    split at hremark
    · rename_i finished
      refine ⟨run, fun o => step_of_finished o text finished event, ?_, by simp⟩
      exact ⟨h.set, h.lax, fun running => by simp [running] at finished⟩
    · rename_i running
      have running : run.finished = false := by simpa using running
      split at hremark
      · cases hremark
      · rename_i faultless
        split at hremark
        · rename_i closed
          refine ⟨_, fun o => ?_, h.finish _ run.scopes run.issues, by simp⟩
          rw [step_endOfInput o text running h.settled faultless, if_pos closed]
        · cases hremark
      · rename_i inside faultless
        obtain ⟨frames, closed, lax, stepped⟩ :=
          h.exists_step_eq text running faultless inside free
        exact ⟨_, stepped, h.move running lax _ closed, by simp⟩

/-- A run that is bare stays bare and reports faults only. -/
theorem Bare.steps (h : run.Bare scopes) {events : List Xml.Event} (free : SchemaFree scopes events) :
    (∃ scopes', (run.steps o text events).Bare scopes') ∧
      (run.steps o text events).issues = run.issues ++
        ((run.faultRemarks o text events).map (·.toIssue text)).toArray ∧
      ∀ o', run.steps o' text events = run.steps o text events := by
  induction events generalizing run scopes with
  | nil =>
    have still (o : Options) : run.steps o text [] = run := rfl
    simp only [still, faultRemarks]
    exact ⟨⟨scopes, h⟩, by simp, fun _ => trivial⟩
  | cons event events ih =>
    rw [schemaFree_cons] at free
    obtain ⟨next, stepped, bare, issues⟩ := h.exists_step text free.1
    obtain ⟨bare', issues', same⟩ := ih bare free.2
    simp only [steps_cons, faultRemarks, stepped]
    refine ⟨bare', ?_, same⟩
    rw [issues', issues]
    simp

end Run

/-! ## The events of a text -/

namespace Xml

theorem textEvent_ne_endOfInput (offset : Nat) (raw : List Char) :
    textEvent offset raw ≠ .endOfInput := by
  unfold textEvent
  dsimp only
  split <;> nofun

theorem ne_endOfInput_of_readMarkup {text cs rest : List Char} {start stop : Nat} {event : Event}
    (h : readMarkup text start cs = .ok (event, stop, rest)) : event ≠ .endOfInput := by
  rintro rfl
  unfold readMarkup readDeclaration startTagEvent at h
  dsimp only at h
  repeat' split at h
  all_goals cases h

/-- The events end with the end of the input, which is only there, or with what cannot be read. -/
def Ended (events : List Event) : Prop :=
  ∃ body last, events = body ++ [last] ∧ .endOfInput ∉ body ∧
    (last = .endOfInput ∨ ∃ fault, last = .malformed fault)

theorem ended_endOfInput : Ended [.endOfInput] := ⟨[], _, rfl, by simp, .inl rfl⟩

theorem ended_malformed (fault : Fault) : Ended [.malformed fault] :=
  ⟨[], _, rfl, by simp, .inr ⟨fault, rfl⟩⟩

theorem Ended.cons {event : Event} {events : List Event} (h : Ended events)
    (inside : event ≠ .endOfInput) : Ended (event :: events) := by
  obtain ⟨body, last, rfl, inside', ends⟩ := h
  exact ⟨event :: body, last, rfl, by simp [inside.symm, inside'], ends⟩

theorem Ended.behindText {events : List Event} (h : Ended events) (offset : Nat) (raw : List Char) :
    Ended (if raw.isEmpty then events else textEvent offset raw :: events) := by
  split
  · exact h
  · exact h.cons (textEvent_ne_endOfInput offset raw)

theorem ended_eventsFrom (text : List Char) (fuel offset : Nat) (cs : List Char) :
    Ended (eventsFrom text fuel offset cs) := by
  induction fuel generalizing offset cs with
  | zero => exact ended_endOfInput
  | succ fuel ih =>
    unfold eventsFrom
    dsimp only
    split
    · exact ended_endOfInput
    · exact ended_endOfInput.cons (textEvent_ne_endOfInput _ _)
    · refine Ended.behindText ?_ _ _
      split
      · exact ended_malformed _
      · rename_i hread
        exact (ih _ _).cons (ne_endOfInput_of_readMarkup hread)

end Xml

/-- There is something to say about the well-formedness of a text unless it is the text of a
well-formed document. -/
theorem faultRemarks_events_eq_nil_iff (o : Options) (cs : List Char) :
    Run.faultRemarks o cs {} (Xml.events cs) = [] ↔
      ∃ body, Xml.events cs = body ++ [.endOfInput] ∧ IsDocument body := by
  obtain ⟨body, last, events_eq, inside, ends⟩ := Xml.ended_eventsFrom cs (cs.length + 1) 0
    (Xml.dropByteOrderMark cs)
  have events_eq : Xml.events cs = body ++ [last] := events_eq
  rw [events_eq]
  rcases ends with rfl | ⟨fault, rfl⟩
  · rw [faultRemarks_eq_nil_iff o cs inside]
    simp
  · -- a run that has said nothing yet goes on until it meets what cannot be read
    refine iff_of_false (fun silent => ?_) (by simp)
    rw [Run.faultRemarks_append, List.append_eq_nil_iff] at silent
    obtain ⟨place, read⟩ := Run.exists_reads o cs Run.isAt_start inside silent.1
    have stands := (Run.steps_of_reads o cs Run.isAt_start read).2
    have faultless := silent.2
    rw [Run.faultRemarks, List.append_eq_nil_iff, Option.toList_eq_nil_iff,
      Run.faultRemark?_eq_none_iff cs stands.running (by simp)] at faultless
    unfold Run.fault? at faultless
    cases hschema : (Run.steps o cs {} body).openSchema <;> simp [hschema] at faultless

/-- For a document in which no element is a schema or points to one, the set is empty between any two
events, also of requests, and every open element is lax.  The run is the same whatever the options
and the files are.  Nothing is reported but that the document is not well-formed, if it is not. -/
theorem validate_of_schemaFree (o : Options) (text : String)
    (free : SchemaFree [] (Xml.events (Xml.dropByteOrderMark text.toList))) :
    let cs := Xml.dropByteOrderMark text.toList
    let faults := Run.faultRemarks o cs {} (Xml.events cs)
    (∀ before, before <+: Xml.events cs →
      let run := Run.steps o cs {} before
      run.set = {} ∧ (∀ frame ∈ run.frames, frame.mode = .lax) ∧
        ∀ o', Run.steps o' cs {} before = run) ∧
    validate o text = ⟨faults.map (·.toIssue cs), []⟩ ∧
    faults.length ≤ 1 ∧
    (∀ r ∈ faults, r = ⟨.missingRoot, 0⟩ ∨ ∃ fault, r = Run.faultRemark cs fault) ∧
    (faults = [] ↔ ∃ body, Xml.events cs = body ++ [.endOfInput] ∧ IsDocument body) := by
  intro cs faults
  obtain ⟨-, once, kinds, -⟩ := Run.steps_spec o cs Run.settled_start (Xml.events cs)
  refine ⟨?_, ?_, once, kinds, faultRemarks_events_eq_nil_iff o cs⟩
  · rintro before ⟨rest, events_eq⟩
    rw [← events_eq] at free
    obtain ⟨⟨scopes, bare⟩, -, same⟩ := Run.bare_start.steps o cs free.of_append
    exact ⟨bare.set, bare.lax, same⟩
  · obtain ⟨-, issues, -⟩ := Run.bare_start.steps o cs free
    have listed : (validate o text).issues = faults.map (·.toIssue cs) :=
      (congrArg Array.toList issues).trans (by simp [faults, cs])
    exact congrArg (Report.mk · []) listed

/-- An element that has a type and says that it is nil, in a document that may lack its end. -/
def sampleText (ending : String) : String :=
  "<a xmlns:i='http://www.w3.org/2001/XMLSchema-instance'>" ++
    "<b i:type='t' i:nil='1' c=''>?</b>" ++ ending

theorem validate_of_schemaFree_sample :
    let o : Options := ⟨⟨[]⟩, true, SchemaSource.ofFiles []⟩
    let events (ending : String) := Xml.events (Xml.dropByteOrderMark (sampleText ending).toList)
    (SchemaFree [] (events "</a>") ∧ validate o (sampleText "</a>") = {}) ∧
      SchemaFree [] (events "") ∧ (validate o (sampleText "")).issues.length = 1 := by
  intro o events
  have free : SchemaFree [] (events "</a>") ∧ SchemaFree [] (events "") := by decide +kernel
  obtain ⟨-, clean, -⟩ := validate_of_schemaFree o (sampleText "</a>") free.1
  obtain ⟨-, broken, -⟩ := validate_of_schemaFree o (sampleText "") free.2
  refine ⟨⟨free.1, ?_⟩, free.2, ?_⟩
  · have silent : (Run.faultRemarks o (Xml.dropByteOrderMark (sampleText "</a>").toList) {}
        (events "</a>")).isEmpty := by decide +kernel
    rw [clean, List.isEmpty_iff.1 silent]
    rfl
  · rw [broken, List.length_map]
    decide +kernel

end XmlSchema
