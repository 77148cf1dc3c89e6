import XmlSchema.Proofs.Validation.Issues

/-!
# Runs without warnings

Whether warnings are wanted decides about nothing but the warnings: taking the warnings out of a run
(`Run.muted`) commutes with every operation of a run, so that a run without warnings is the run
with warnings, muted (`Run.muted_steps`).
-/

namespace XmlSchema

namespace Options

variable (o : Options)

/-- The same options, with warnings. -/
def loud : Options := { o with reportWarnings := true }

/-- The same options, without warnings. -/
def quiet : Options := { o with reportWarnings := false }

end Options

namespace Run

/-- The run without the warnings that it has reported. -/
def muted (run : Run) : Run :=
  { run with issues := run.issues.filter (·.severity ≠ .warning) }

variable (o : Options) (text : List Char) (run : Run)

theorem muted_set : run.muted.set = run.set := rfl

theorem muted_frames : run.muted.frames = run.frames := rfl

theorem muted_scopes : run.muted.scopes = run.scopes := rfl

theorem muted_rootClosed : run.muted.rootClosed = run.rootClosed := rfl

theorem muted_openSchema : run.muted.openSchema = run.openSchema := rfl

theorem muted_finished : run.muted.finished = run.finished := rfl

/-! ## Reports -/

theorem muted_remark (r : Remark) :
    (run.remark o.loud text r).muted = run.muted.remark o.quiet text r := by
  have loud : run.remark o.loud text r = { run with issues := run.issues.push (r.toIssue text) } :=
    if_neg (by simp [Options.loud])
  rw [loud]
  unfold muted remark
  by_cases warns : r.finding.severity = .warning
  · rw [if_pos ⟨warns, rfl⟩]
    simp [Remark.toIssue, warns]
  · rw [if_neg fun h => warns h.1]
    simp [Remark.toIssue, warns]

theorem muted_remarkAll (rs : List Remark) :
    (run.remarkAll o.loud text rs).muted = run.muted.remarkAll o.quiet text rs := by
  induction rs generalizing run with
  | nil => rfl
  | cons r rs ih =>
    have rest := ih (run.remark o.loud text r)
    rw [muted_remark] at rest
    exact rest

theorem muted_compilePending :
    (run.compilePending o.loud text).muted = run.muted.compilePending o.quiet text :=
  muted_remarkAll o text { run with set := (run.set.compile o.source).2 } _

theorem muted_fail (fault : Xml.Fault) :
    (run.fail o.loud text fault).muted = run.muted.fail o.quiet text fault := by
  unfold fail
  dsimp only
  rw [← muted_remark, ← muted_compilePending]
  rfl

/-! ## Schema hints -/

theorem muted_addHint (hint : SchemaHint) :
    (run.addHint o.loud text hint).muted = run.muted.addHint o.quiet text hint := by
  unfold addHint
  dsimp only [Options.loud, Options.quiet]
  cases SchemaLocation.ofText hint.location o.baseDir with
  | remote address => exact muted_remark o text run _
  | file path => exact apply_ite muted _ _ _

theorem muted_addHints (hints : List SchemaHint) :
    (hints.foldl (addHint o.loud text) run).muted =
      hints.foldl (addHint o.quiet text) run.muted := by
  induction hints generalizing run with
  | nil => rfl
  | cons hint hints ih => rw [List.foldl_cons, List.foldl_cons, ih, muted_addHint]

theorem muted_harvest (attributes : List NamedAttribute) :
    (run.harvest o.loud text attributes).muted = run.muted.harvest o.quiet text attributes := by
  unfold harvest
  dsimp only
  rw [← muted_remarkAll, ← muted_addHints]
  generalize (attributes.flatMap (·.hints)).foldl _ _ = added
  rw [muted_set]
  split
  · exact muted_compilePending o text added
  · rfl

/-! ## Elements -/

theorem muted_noteRootEnd : run.noteRootEnd.muted = run.muted.noteRootEnd := by
  unfold noteRootEnd
  rw [muted_frames]
  split <;> rfl

theorem muted_closeFrame (offset : Nat) :
    (run.closeFrame o.loud text offset).muted = run.muted.closeFrame o.quiet text offset := by
  unfold closeFrame
  rw [muted_frames]
  cases run.frames with
  | nil => rfl
  | cons frame frames =>
    have noted : (noteRootEnd { run with frames, scopes := run.scopes.tail }).muted =
      noteRootEnd { run.muted with frames, scopes := run.muted.scopes.tail } := muted_noteRootEnd _
    dsimp only
    rw [← noted]
    generalize noteRootEnd { run with frames, scopes := run.scopes.tail } = after
    cases frame.mode with
    | typed element => exact muted_remarkAll o text after _
    | lax | skip => rfl

theorem muted_contextOf (child : QName) :
    run.muted.contextOf child = (run.contextOf child).map fun next => (next.1, next.2.muted) := by
  unfold contextOf
  rw [muted_frames]
  cases run.frames with
  | nil => rfl
  | cons frame frames =>
    dsimp only
    cases childContext frame.name frame.mode child <;> rfl

theorem muted_opened (tag : Xml.StartTag) (name : QName) (attributes : List NamedAttribute) :
    (run.opened o.loud text tag name attributes).muted =
      run.muted.opened o.quiet text tag name attributes := by
  -- the frame goes onto whatever run stands there, muted or not
  have pushed (mode : Mode) (before : Run) :
      muted { before with frames := ⟨tag.rawName, name, tag.offset + 1, mode⟩ :: before.frames } =
        { before.muted with
          frames := ⟨tag.rawName, name, tag.offset + 1, mode⟩ :: before.muted.frames } := rfl
  unfold opened
  rw [muted_contextOf]
  cases run.contextOf name with
  | error finding =>
    dsimp only [Except.map]
    rw [pushed, muted_remark]
  | ok next =>
    dsimp only [Except.map]
    rw [pushed, muted_remarkAll]
    rfl

theorem muted_openElement (tag : Xml.StartTag) (name : QName) (attributes : List NamedAttribute) :
    (run.openElement o.loud text tag name attributes).muted =
      run.muted.openElement o.quiet text tag name attributes := by
  rw [openElement_eq, openElement_eq, ← muted_opened]
  split
  · exact muted_closeFrame o text _ _
  · rfl

/-! ## Events -/

theorem muted_closeSchema (tag : Xml.StartTag) (stop : Nat) :
    (run.closeSchema o.loud text tag stop).muted = run.muted.closeSchema o.quiet text tag stop := by
  unfold closeSchema
  dsimp only
  rw [muted_noteRootEnd]
  dsimp only [Options.loud, Options.quiet]
  rw [muted_set, muted_scopes]
  generalize run.set.addInline o.source _ = added
  obtain ⟨result, set⟩ := added
  cases result with
  | ok _ => rfl
  | error e =>
    have remarked := muted_remark o text { run with set, openSchema := none }
      ⟨.inlineSchema e, tag.offset + 1⟩
    exact congrArg (fun run : Run => noteRootEnd { run with scopes := run.scopes.tail }) remarked

theorem muted_schemaEvent (schema : OpenSchema) (event : Xml.Event) :
    (run.schemaEvent o.loud text schema event).muted =
      run.muted.schemaEvent o.quiet text schema event := by
  unfold schemaEvent
  split
  · split <;> rfl
  · split
    · split
      · exact muted_closeSchema o text run _ _
      · rfl
    · rfl
  · exact muted_fail o text run _
  · exact muted_fail o text run _
  · rfl
  · rfl

theorem muted_startTag (tag : Xml.StartTag) :
    (run.startTag o.loud text tag).muted = run.muted.startTag o.quiet text tag := by
  unfold startTag
  by_cases second : (run.frames.isEmpty && run.rootClosed) = true
  · rw [if_pos second]
    exact (muted_fail o text run _).trans (if_pos second).symm
  · rw [if_neg second]
    refine Eq.trans ?_ (if_neg second).symm
    cases tag.attributes with
    | error fault => exact muted_fail o text run _
    | ok attributes =>
      dsimp only
      rw [muted_scopes]
      generalize Scope.ofAttributes attributes :: run.scopes = scopes
      cases resolveTag scopes tag attributes with
      | error fault => exact muted_fail o text { run with scopes } _
      | ok resolved =>
        have harvested : (harvest o.loud text { run with scopes } resolved.2).muted =
          harvest o.quiet text { run.muted with scopes } resolved.2 := muted_harvest o text _ _
        dsimp only
        rw [← harvested]
        generalize harvest o.loud text { run with scopes } resolved.2 = after
        split
        · split
          · exact muted_closeSchema o text after _ _
          · rfl
        · exact muted_openElement o text after _ _ _

theorem muted_endTag (rawName : String) (nameOffset : Nat) :
    (run.endTag o.loud text rawName nameOffset).muted =
      run.muted.endTag o.quiet text rawName nameOffset := by
  unfold endTag
  rw [muted_frames]
  split
  · exact muted_fail o text run _
  · split
    · exact muted_closeFrame o text run _
    · exact muted_fail o text run _

theorem muted_textContent (value : String) (offset : Nat) :
    (run.textContent o.loud text value offset).muted =
      run.muted.textContent o.quiet text value offset := by
  unfold textContent
  rw [muted_frames]
  split
  · split
    · rfl
    · exact muted_fail o text run _
  · split
    · exact muted_remarkAll o text { run with frames := _ } _
    · rfl

theorem muted_endOfInput :
    (run.endOfInput o.loud text).muted = run.muted.endOfInput o.quiet text := by
  unfold endOfInput
  rw [muted_frames, muted_rootClosed]
  split
  · exact muted_fail o text run _
  · split
    · rfl
    · rw [← muted_remark, ← muted_compilePending]
      rfl

theorem muted_step (event : Xml.Event) :
    (run.step o.loud text event).muted = run.muted.step o.quiet text event := by
  unfold step
  rw [muted_finished, muted_openSchema]
  split
  · rfl
  · split
    · exact muted_schemaEvent o text run _ _
    · split
      · exact muted_startTag o text run _
      · exact muted_endTag o text run _ _
      · exact muted_textContent o text run _ _
      · exact muted_fail o text run _
      · rfl
      · exact muted_fail o text run _
      · exact muted_endOfInput o text run

/-- A run without warnings is the run with warnings, muted. -/
theorem muted_steps (events : List Xml.Event) :
    (run.steps o.loud text events).muted = run.muted.steps o.quiet text events := by
  induction events generalizing run with
  | nil => rfl
  | cons event events ih =>
    have rest := ih (run.step o.loud text event)
    rw [muted_step] at rest
    exact rest

end Run

/-- A validation without warnings reports what the validation with warnings reports, except for the
warnings, and asks for the same schema files in the same order. -/
theorem validate_quiet (o : Options) (text : String) :
    (validate { o with reportWarnings := false } text).issues =
        (validate { o with reportWarnings := true } text).issues.filter
          (·.severity ≠ .warning) ∧
      (runDocument { o with reportWarnings := false }
          (Xml.dropByteOrderMark text.toList)).set.requests =
        (runDocument { o with reportWarnings := true }
          (Xml.dropByteOrderMark text.toList)).set.requests := by
  have same := Run.muted_steps o (Xml.dropByteOrderMark text.toList) {}
    (Xml.events (Xml.dropByteOrderMark text.toList))
  constructor
  · have issues := congrArg (fun run => run.issues.toList) same
    exact issues.symm.trans Array.toList_filter
  · exact congrArg (fun run => run.set.requests) same.symm

end XmlSchema
