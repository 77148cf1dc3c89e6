import XmlSchema.SchemaSet.Loading
import XmlSchema.Validation.Element
import XmlSchema.Xml.Reader

/-!
# Validation runs

`validate` reads a document once, event by event, and reports what it finds.  The state of a run
(`Run`) holds the open elements with their scopes and the schemas met so far.  Schemas that a start
tag points to are loaded before its element is judged; schemas that stand in the document itself
are cut out and compiled when they end.  A document that is not well-formed is validated up to the
place of the fault.
-/

namespace XmlSchema

open XmlSchema.Text

/-- What a validation depends on besides the document. -/
structure Options where
  /-- The directory that schema locations are relative to. -/
  baseDir : Path
  reportWarnings : Bool := true
  source : SchemaSource

/-- An open element. -/
structure Frame where
  rawName : String
  name : QName
  nameOffset : Nat
  mode : Mode

/-- A schema inside the document whose end tag has not been met, and the number of open elements
inside it that have the same raw name. -/
structure OpenSchema where
  tag : Xml.StartTag
  depth : Nat

/-- The state of a run. -/
structure Run where
  set : SchemaSet := {}
  /-- What has been found, in order. -/
  issues : Array Issue := #[]
  /-- The open elements, innermost first. -/
  frames : List Frame := []
  /-- The scopes of the open elements, innermost first. -/
  scopes : List Scope := []
  /-- Where each binding was first met. -/
  bindingOffsets : List (Binding × Nat) := []
  /-- The end of the root element has been met. -/
  rootClosed : Bool := false
  /-- The schema that is being passed over. -/
  openSchema : Option OpenSchema := none
  /-- Nothing more is to be read. -/
  finished : Bool := false

/-- A schema that an element points to: its namespace and location, and the offset of the
attribute. -/
structure SchemaHint where
  namespaceName : String
  location : String
  offset : Nat
  deriving DecidableEq, Repr

/-- The schemas that an attribute points to. -/
def NamedAttribute.hints (a : NamedAttribute) : List SchemaHint :=
  if a.isInstance "schemaLocation" then
    (schemaLocationPairs a.value).1.map fun (name, location) => ⟨name, location, a.offset⟩
  else if a.isInstance "noNamespaceSchemaLocation" then [⟨"", trimString a.value, a.offset⟩]
  else []

/-- The namespace that an attribute leaves without a location. -/
def NamedAttribute.danglingRemarks (a : NamedAttribute) : List Remark :=
  if a.isInstance "schemaLocation" then
    (schemaLocationPairs a.value).2.toList.map fun name => ⟨.danglingNamespace name, a.offset⟩
  else []

/-- Resolves the names of an element and of its attributes; a prefix that is not declared is a
fault. -/
def resolveTag (scopes : List Scope) (tag : Xml.StartTag) (attributes : List Xml.Attribute) :
    Except Xml.Fault (QName × List NamedAttribute) := do
  let undeclared (raw : String) (offset : Nat) : Xml.Fault :=
    ⟨.undeclaredPrefix ((QName.splitPrefix raw).1.getD ""), offset⟩
  let name ← match Scope.elementName? scopes tag.rawName with
    | some name => pure name
    | none => throw (undeclared tag.rawName (tag.offset + 1))
  let named ← attributes.mapM fun a =>
    if (Scope.declaredPrefix? a.rawName).isSome then pure ⟨none, a.value, a.offset⟩
    else
      match Scope.attributeName? scopes a.rawName with
      | some name => pure (NamedAttribute.mk (some name) a.value a.offset)
      | none => throw (undeclared a.rawName a.offset)
  return (name, named)

namespace Run

section

variable (o : Options) (text : List Char)

/-! ## Reporting -/

/-- Reports a remark, unless it is a warning and warnings are not wanted. -/
def remark (run : Run) (r : Remark) : Run :=
  if r.finding.severity = .warning ∧ !o.reportWarnings then run
  else { run with issues := run.issues.push (r.toIssue text) }

/-- Reports remarks in order. -/
def remarkAll (run : Run) (rs : List Remark) : Run := rs.foldl (remark o text) run

/-- The offset at which a binding was first met. -/
def bindingOffset (run : Run) (b : Binding) : Nat :=
  ((run.bindingOffsets.find? (·.1.Same b)).map Prod.snd).getD 0

/-- Loads the pending bindings and reports those that fail. -/
def compilePending (run : Run) : Run :=
  let (failures, set) := run.set.compile o.source
  remarkAll o text { run with set } <| failures.map fun (b, e) =>
    ⟨.schemaUnavailable b.namespaceName e, run.bindingOffset b⟩

/-- Ends the run with a fault. -/
def fail (run : Run) (fault : Xml.Fault) : Run :=
  let finding := Finding.malformed fault.cause (position text fault.offset)
  { compilePending o text (remark o text run ⟨finding, fault.offset⟩) with finished := true }

/-! ## Schema hints -/

/-- Adds the binding that a hint stands for; a location that cannot be loaded is reported. -/
def addHint (run : Run) (hint : SchemaHint) : Run :=
  match SchemaLocation.ofText hint.location o.baseDir with
  | .remote address =>
    remark o text run
      ⟨.schemaUnavailable hint.namespaceName (.unsupportedLocation address), hint.offset⟩
  | .file path =>
    let binding : Binding := ⟨hint.namespaceName, path⟩
    let (isNew, set) := run.set.add binding
    let run := { run with set }
    if isNew then { run with bindingOffsets := run.bindingOffsets ++ [(binding, hint.offset)] }
    else run

/-- Loads the schemas that the attributes of an element point to. -/
def harvest (run : Run) (attributes : List NamedAttribute) : Run :=
  let run := remarkAll o text run (attributes.flatMap (·.danglingRemarks))
  let run := (attributes.flatMap (·.hints)).foldl (addHint o text) run
  if run.set.hasPending then compilePending o text run else run

/-! ## Elements -/

/-- Notes the end of the root element when no element is open. -/
def noteRootEnd (run : Run) : Run :=
  if run.frames.isEmpty then { run with rootClosed := true } else run

/-- Ends the innermost open element; what is wrong with it is reported at `offset`. -/
def closeFrame (run : Run) (offset : Nat) : Run :=
  match run.frames with
  | [] => run
  | frame :: frames =>
    let run := noteRootEnd { run with frames, scopes := run.scopes.tail }
    match frame.mode with
    | .typed element =>
      remarkAll o text run (element.closingRemarks run.set frame.name offset)
    | _ => run

/-- What governs a child of the innermost open element, with the run behind that child. -/
def contextOf (run : Run) (child : QName) : Except Finding (Context × Run) :=
  match run.frames with
  | [] => .ok (.lax, run)
  | frame :: frames => do
    let (context, mode) ← childContext frame.name frame.mode child
    return (context, { run with frames := { frame with mode } :: frames })

/-- Opens an element. -/
def openElement (run : Run) (tag : Xml.StartTag) (name : QName)
    (attributes : List NamedAttribute) : Run :=
  let nameOffset := tag.offset + 1
  let (mode, run) := match run.contextOf name with
    | .error finding => (Mode.skip, remark o text run ⟨finding, nameOffset⟩)
    | .ok (context, run) =>
      let e : OpeningElement := ⟨name, attributes, run.scopes, nameOffset⟩
      let ((mode, remarks), set) := e.judge run.set context
      (mode, remarkAll o text { run with set } remarks)
  let run := { run with frames := ⟨tag.rawName, name, nameOffset, mode⟩ :: run.frames }
  if tag.selfClosing then closeFrame o text run nameOffset else run

/-! ## Schemas inside the document -/

/-- Compiles the schema that starts with the given tag and ends before byte `stop`. -/
def closeSchema (run : Run) (tag : Xml.StartTag) (stop : Nat) : Run :=
  let source := (sliceBytes? tag.offset stop text).getD []
  let schema := String.ofList (Scope.redeclare run.scopes tag.rawName source)
  let (result, set) := run.set.addInline o.source schema
  let run := { run with set, openSchema := none }
  let run := match result with
    | .ok () => run
    | .error e => remark o text run ⟨.inlineSchema e, tag.offset + 1⟩
  noteRootEnd { run with scopes := run.scopes.tail }

/-- The fault of a document that ends inside an element. -/
def unclosed (run : Run) : Xml.Fault :=
  let inner := (run.openSchema.map fun schema => schema.tag.rawName).toList
  ⟨.unclosedElements (inner ++ run.frames.map (·.rawName)), byteLength text⟩

/-- Passes over an event inside a schema. -/
def schemaEvent (run : Run) (schema : OpenSchema) (event : Xml.Event) : Run :=
  match event with
  | .startTag tag =>
    if tag.rawName = schema.tag.rawName ∧ !tag.selfClosing then
      { run with openSchema := some { schema with depth := schema.depth + 1 } }
    else run
  | .endTag rawName _ stop =>
    if rawName = schema.tag.rawName then
      match schema.depth with
      | 0 => closeSchema o text run schema.tag stop
      | depth + 1 => { run with openSchema := some { schema with depth } }
    else run
  | .malformed _ | .endOfInput => fail o text run (run.unclosed text)
  | .text _ _ | .other => run

/-! ## Events -/

/-- Takes in a start tag. -/
def startTag (run : Run) (tag : Xml.StartTag) : Run :=
  if run.frames.isEmpty && run.rootClosed then
    fail o text run ⟨.multipleRoots, tag.offset + 1⟩
  else
    match tag.attributes with
    | .error fault => fail o text run fault
    | .ok attributes =>
      let run := { run with scopes := Scope.ofAttributes attributes :: run.scopes }
      match resolveTag run.scopes tag attributes with
      | .error fault => fail o text run fault
      | .ok (name, attributes) =>
        let run := harvest o text run attributes
        if name = .schema "schema" then
          if tag.selfClosing then closeSchema o text run tag tag.stop
          else { run with openSchema := some ⟨tag, 0⟩ }
        else openElement o text run tag name attributes

/-- Takes in an end tag. -/
def endTag (run : Run) (rawName : String) (nameOffset : Nat) : Run :=
  match run.frames with
  | [] => fail o text run ⟨.unexpectedEndTag, nameOffset⟩
  | frame :: _ =>
    if frame.rawName = rawName then closeFrame o text run nameOffset
    else
      let place := position text frame.nameOffset
      fail o text run
        ⟨.mismatchedEndTag frame.rawName place.line place.column rawName, nameOffset⟩

/-- Takes in text. -/
def textContent (run : Run) (value : String) (offset : Nat) : Run :=
  match run.frames with
  | [] =>
    if isBlankText value.toList then run else fail o text run ⟨.rootLevelText, offset⟩
  | frame :: frames =>
    match frame.mode with
    | .typed element =>
      let (element, remarks) := element.addText frame.name value offset
      remarkAll o text { run with frames := { frame with mode := .typed element } :: frames }
        remarks
    | _ => run

/-- Takes in the end of the document. -/
def endOfInput (run : Run) : Run :=
  if !run.frames.isEmpty then fail o text run (run.unclosed text)
  else if run.rootClosed then { run with finished := true }
  else
    { compilePending o text (remark o text run ⟨.missingRoot, 0⟩) with finished := true }

/-- Takes in an event. -/
def step (run : Run) (event : Xml.Event) : Run :=
  if run.finished then run
  else
    match run.openSchema with
    | some schema => schemaEvent o text run schema event
    | none =>
      match event with
      | .startTag tag => startTag o text run tag
      | .endTag rawName offset _ => endTag o text run rawName offset
      | .text (.ok value) offset => textContent o text run value offset
      | .text (.error fault) _ => fail o text run fault
      | .other => run
      | .malformed fault => fail o text run fault
      | .endOfInput => endOfInput o text run

/-- Takes in events in order. -/
def steps (run : Run) (events : List Xml.Event) : Run := events.foldl (step o text) run

end

end Run

/-- The state at the end of validating a document without byte order mark. -/
def runDocument (o : Options) (text : List Char) : Run :=
  Run.steps o text {} (Xml.events text)

/-- Validates a document.  A byte order mark at its start does not count. -/
def validate (o : Options) (text : String) : Report :=
  ⟨(runDocument o (Xml.dropByteOrderMark text.toList)).issues.toList, []⟩

end XmlSchema
