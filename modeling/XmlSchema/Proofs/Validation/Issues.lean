import XmlSchema.Validation.Run

/-!
# Issues of a run

What a run has reported stays reported: every operation adds issues behind those that are there
(`Run.extends_steps`).
-/

namespace XmlSchema

/-- The second list of issues has those of the first, and perhaps more behind them. -/
def Extends (before after : Array Issue) : Prop := ∃ more, after = before ++ more

theorem Extends.refl (issues : Array Issue) : Extends issues issues := ⟨#[], by simp⟩

theorem Extends.trans {a b c : Array Issue} (hab : Extends a b) (hbc : Extends b c) :
    Extends a c := by
  obtain ⟨more, rfl⟩ := hab
  obtain ⟨more', rfl⟩ := hbc
  exact ⟨more ++ more', Array.append_assoc⟩

theorem Extends.ne_empty {a b : Array Issue} (h : Extends a b) (ha : a ≠ #[]) : b ≠ #[] := by
  obtain ⟨more, rfl⟩ := h
  intro heq
  exact ha (Array.append_eq_empty_iff.1 heq).1

namespace Run

variable (o : Options) (text : List Char) (run : Run)

/-! ## Reports -/

theorem extends_remark (r : Remark) : Extends run.issues (run.remark o text r).issues := by
  unfold remark
  split
  · exact .refl _
  · exact ⟨#[r.toIssue text], by simp⟩

theorem extends_remarkAll (rs : List Remark) :
    Extends run.issues (run.remarkAll o text rs).issues := by
  induction rs generalizing run with
  | nil => exact .refl _
  | cons r rs ih => exact (extends_remark o text run r).trans (ih _)

theorem extends_compilePending : Extends run.issues (run.compilePending o text).issues :=
  extends_remarkAll o text { run with set := (run.set.compile o.source).2 } _

theorem extends_fail (fault : Xml.Fault) : Extends run.issues (run.fail o text fault).issues :=
  (extends_remark o text run _).trans (extends_compilePending o text _)

/-! ## Schema hints -/

theorem extends_addHint (hint : SchemaHint) :
    Extends run.issues (run.addHint o text hint).issues := by
  unfold addHint
  split
  · exact extends_remark o text run _
  · dsimp only
    split <;> exact .refl _

theorem extends_addHints (hints : List SchemaHint) :
    Extends run.issues (hints.foldl (addHint o text) run).issues := by
  induction hints generalizing run with
  | nil => exact .refl _
  | cons hint hints ih =>
    rw [List.foldl_cons]
    exact (extends_addHint o text run hint).trans (ih (run.addHint o text hint))

theorem extends_harvest (attributes : List NamedAttribute) :
    Extends run.issues (run.harvest o text attributes).issues := by
  unfold harvest
  dsimp only
  have added := (extends_remarkAll o text run (attributes.flatMap (·.danglingRemarks))).trans
    (extends_addHints o text _ (attributes.flatMap (·.hints)))
  split
  · exact added.trans (extends_compilePending o text _)
  · exact added

/-! ## Elements -/

theorem issues_noteRootEnd : run.noteRootEnd.issues = run.issues := by
  unfold noteRootEnd
  split <;> rfl

theorem extends_closeFrame (offset : Nat) :
    Extends run.issues (run.closeFrame o text offset).issues := by
  unfold closeFrame
  split
  · exact .refl _
  · rename_i frame frames _
    have noted := issues_noteRootEnd { run with frames, scopes := run.scopes.tail }
    dsimp only
    split
    · have remarked := extends_remarkAll o text
        (noteRootEnd { run with frames, scopes := run.scopes.tail })
      rw [noted] at remarked
      exact remarked _
    · rw [noted]
      exact .refl _

/-- The run behind a start tag, its element being open. -/
def opened (tag : Xml.StartTag) (name : QName) (attributes : List NamedAttribute) : Run :=
  let (mode, run) := match run.contextOf name with
    | .error finding => (Mode.skip, remark o text run ⟨finding, tag.offset + 1⟩)
    | .ok (context, run) =>
      let e : OpeningElement := ⟨name, attributes, run.scopes, tag.offset + 1⟩
      let ((mode, remarks), set) := e.judge run.set context
      (mode, remarkAll o text { run with set } remarks)
  { run with frames := ⟨tag.rawName, name, tag.offset + 1, mode⟩ :: run.frames }

theorem openElement_eq (tag : Xml.StartTag) (name : QName) (attributes : List NamedAttribute) :
    run.openElement o text tag name attributes =
      if tag.selfClosing then
        (run.opened o text tag name attributes).closeFrame o text (tag.offset + 1)
      else run.opened o text tag name attributes := rfl

theorem issues_contextOf {run run' : Run} {child : QName} {context : Context}
    (h : run.contextOf child = .ok (context, run')) : run'.issues = run.issues := by
  unfold contextOf at h
  split at h
  · cases h
    rfl
  · rename_i frame frames hframes
    cases hchild : childContext frame.name frame.mode child with
    | error finding =>
      rw [hchild] at h
      cases h
    | ok result =>
      rw [hchild] at h
      cases h
      rfl

theorem extends_opened (tag : Xml.StartTag) (name : QName) (attributes : List NamedAttribute) :
    Extends run.issues (run.opened o text tag name attributes).issues := by
  unfold opened
  cases hcontext : run.contextOf name with
  | error finding => exact extends_remark o text run _
  | ok result =>
    obtain ⟨context, run₁⟩ := result
    rw [← issues_contextOf hcontext]
    exact extends_remarkAll o text { run₁ with set := _ } _

theorem extends_openElement (tag : Xml.StartTag) (name : QName)
    (attributes : List NamedAttribute) :
    Extends run.issues (run.openElement o text tag name attributes).issues := by
  rw [openElement_eq]
  split
  · exact (extends_opened o text run tag name attributes).trans (extends_closeFrame o text _ _)
  · exact extends_opened o text run tag name attributes

/-! ## Events -/

theorem extends_closeSchema (tag : Xml.StartTag) (stop : Nat) :
    Extends run.issues (run.closeSchema o text tag stop).issues := by
  unfold closeSchema
  dsimp only
  rw [issues_noteRootEnd]
  generalize run.set.addInline o.source _ = added
  obtain ⟨result, set⟩ := added
  cases result with
  | ok _ => exact .refl _
  | error e => exact extends_remark o text { run with set, openSchema := none } _

theorem extends_schemaEvent (schema : OpenSchema) (event : Xml.Event) :
    Extends run.issues (run.schemaEvent o text schema event).issues := by
  unfold schemaEvent
  split
  · split <;> exact .refl _
  · split
    · split
      · exact extends_closeSchema o text run _ _
      · exact .refl _
    · exact .refl _
  · exact extends_fail o text run _
  · exact extends_fail o text run _
  · exact .refl _
  · exact .refl _

theorem extends_startTag (tag : Xml.StartTag) :
    Extends run.issues (run.startTag o text tag).issues := by
  unfold startTag
  split
  · exact extends_fail o text run _
  · split
    · exact extends_fail o text run _
    · rename_i attributes _
      dsimp only
      split
      · exact extends_fail o text { run with scopes := _ :: run.scopes } _
      · rename_i name named _
        have harvested := extends_harvest o text
          { run with scopes := Scope.ofAttributes attributes :: run.scopes } named
        split
        · split
          · exact harvested.trans (extends_closeSchema o text _ _ _)
          · exact harvested
        · exact harvested.trans (extends_openElement o text _ _ _ _)

theorem extends_endTag (rawName : String) (nameOffset : Nat) :
    Extends run.issues (run.endTag o text rawName nameOffset).issues := by
  unfold endTag
  split
  · exact extends_fail o text run _
  · split
    · exact extends_closeFrame o text run _
    · exact extends_fail o text run _

theorem extends_textContent (value : String) (offset : Nat) :
    Extends run.issues (run.textContent o text value offset).issues := by
  unfold textContent
  split
  · split
    · exact .refl _
    · exact extends_fail o text run _
  · split
    · exact extends_remarkAll o text { run with frames := _ } _
    · exact .refl _

theorem extends_endOfInput : Extends run.issues (run.endOfInput o text).issues := by
  unfold endOfInput
  split
  · exact extends_fail o text run _
  · split
    · exact .refl _
    · exact (extends_remark o text run _).trans (extends_compilePending o text _)

theorem extends_step (event : Xml.Event) : Extends run.issues (run.step o text event).issues := by
  unfold step
  split
  · exact .refl _
  · split
    · exact extends_schemaEvent o text run _ _
    · split
      · exact extends_startTag o text run _
      · exact extends_endTag o text run _ _
      · exact extends_textContent o text run _ _
      · exact extends_fail o text run _
      · exact .refl _
      · exact extends_fail o text run _
      · exact extends_endOfInput o text run

variable {run} in
theorem step_eq (finished : run.finished = false) (openSchema : run.openSchema = none)
    (event : Xml.Event) :
    run.step o text event =
      match event with
      | .startTag tag => startTag o text run tag
      | .endTag rawName offset _ => endTag o text run rawName offset
      | .text (.ok value) offset => textContent o text run value offset
      | .text (.error fault) _ => fail o text run fault
      | .other => run
      | .malformed fault => fail o text run fault
      | .endOfInput => endOfInput o text run := by
  obtain ⟨_, _, _, _, _, _, schema, stopped⟩ := run
  obtain rfl : schema = none := openSchema
  obtain rfl : stopped = false := finished
  rfl

theorem steps_cons (event : Xml.Event) (events : List Xml.Event) :
    run.steps o text (event :: events) = (run.step o text event).steps o text events :=
  rfl

theorem steps_append (before after : List Xml.Event) :
    run.steps o text (before ++ after) = (run.steps o text before).steps o text after :=
  List.foldl_append

/-- Events only add issues. -/
theorem extends_steps (events : List Xml.Event) :
    Extends run.issues (run.steps o text events).issues := by
  induction events generalizing run with
  | nil => exact .refl _
  | cons event events ih => exact (extends_step o text run event).trans (ih _)

end Run

end XmlSchema
