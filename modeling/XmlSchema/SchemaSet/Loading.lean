import XmlSchema.SchemaSet.Basic

/-!
# Loading schemas

Bindings are first added and later compiled: `SchemaSet.compile` loads the document of each
pending binding with all documents that it includes or imports.  `SchemaSet.addInline` takes in a
schema that stands inside an instance document.  A file is asked for at most once.
-/

namespace XmlSchema

/-- Where the texts of schema documents come from.  Only the files listed in `support` can be
loaded, so that following references comes to an end. -/
structure SchemaSource where
  load : Path → Except SchemaError String
  support : List Path
  mem_support : ∀ p text, load p = .ok text → ∃ q ∈ support, q.Same p

/-- The source without files. -/
def SchemaSource.none : SchemaSource where
  load path := .error (.notFound path)
  support := []
  mem_support _ _ h := nomatch h

/-- What can be said about a file: its text, or why it cannot be read. -/
abbrev FileEntry := Except String String

/-- The entry for a file. -/
def fileEntry? (files : List (Path × FileEntry)) (path : Path) : Option FileEntry :=
  (files.find? fun file => file.1.Same path).map Prod.snd

/-- The source with the given files.  Of two entries for one file the first counts. -/
def SchemaSource.ofFiles (files : List (Path × FileEntry)) : SchemaSource where
  load path :=
    match fileEntry? files path with
    | .none => .error (.notFound path)
    | some (.ok text) => .ok text
    | some (.error reason) => .error (.unreadable path reason)
  support := files.map Prod.fst
  mem_support p text h := by
    unfold fileEntry? at h
    cases found : files.find? fun file => file.1.Same p with
    | none => simp [found] at h
    | some file =>
      refine ⟨file.1, List.mem_map_of_mem (List.mem_of_find?_eq_some found), ?_⟩
      simpa using List.find?_some found

namespace SchemaSet

/-- Adds a binding, and says whether it is new. -/
def add (s : SchemaSet) (b : Binding) : Bool × SchemaSet :=
  if s.registered.any (·.Same b) then (false, s)
  else (true, { s with registered := s.registered ++ [b], pending := s.pending ++ [b] })

/-- Whether a file is not to be loaded again. -/
def isLoaded (s : SchemaSet) (path : Path) : Bool := s.loaded.any (·.Same path)

/-- Notes that a file is not to be loaded again. -/
def markLoaded (s : SchemaSet) (path : Path) : SchemaSet :=
  if s.isLoaded path then s else { s with loaded := s.loaded ++ [path] }

/-- Asks for a file and compiles it. -/
def request (s : SchemaSet) (source : SchemaSource) (path : Path) :
    Except SchemaError SchemaDocument × SchemaSet :=
  let result := match source.load path with
    | .ok text => SchemaDocument.read text path
    | .error e => .error e
  (result, { s with requests := s.requests ++ [path] })

/-- Loads a document that another refers to.  Files met before are passed over, and so are files
that cannot be loaded and included documents with another target namespace. -/
def loadReferenced (s : SchemaSet) (source : SchemaSource) (path : Path)
    (includedBy : Option String) : Option SchemaDocument × SchemaSet :=
  if s.isLoaded path then (none, s)
  else
    let (result, s) := (s.markLoaded path).request source path
    match result with
    | .error _ => (none, s)
    | .ok document =>
      if includedBy.any (document.targetNamespace != ·) then (none, s) else (some document, s)

/-- The files that a document refers to, in the order in which they are loaded: included ones with
the target namespace they must have, then imported ones. -/
def references (d : SchemaDocument) : List (Path × Option String) :=
  d.includes.map (·, some d.targetNamespace) ++ d.imports.map fun (_, path) => (path, none)

/-- Loads documents that another refers to.  The documents are given last first. -/
def loadReferences (source : SchemaSource) :
    List (Path × Option String) → List SchemaDocument → SchemaSet →
      List SchemaDocument × SchemaSet
  | [], found, s => (found, s)
  | (path, includedBy) :: rest, found, s =>
    let (document, s) := s.loadReferenced source path includedBy
    loadReferences source rest (document.toList ++ found) s

/-- Adds an index to those of a namespace. -/
def addIndex (namespaceName : String) (index : Nat) :
    List (String × List Nat) → List (String × List Nat)
  | [] => [(namespaceName, [index])]
  | (name, indices) :: rest =>
    if name = namespaceName then (name, indices ++ [index]) :: rest
    else (name, indices) :: addIndex namespaceName index rest

/-- Adds a document.  What was computed for the documents before is forgotten. -/
def addDocument (s : SchemaSet) (d : SchemaDocument) : SchemaSet :=
  { s with
    documents := s.documents.push d
    byNamespace := addIndex d.targetNamespace s.documents.size s.byNamespace
    effectiveTypes := [] }

/-- Adds the documents on the stack, each with the documents that it refers to.  A document's
references are added before the documents below it on the stack, the last one first. -/
def insertAll (source : SchemaSource) : Nat → List SchemaDocument → SchemaSet → SchemaSet
  | 0, _, s => s
  | _, [], s => s
  | fuel + 1, d :: stack, s =>
    let (found, s) := loadReferences source (references d) [] (s.markLoaded d.location)
    insertAll source fuel (found ++ stack) (s.addDocument d)

/-- Adds a document with all documents that it refers to, directly or through others.  Apart from
the document itself, every document added was loaded from a file of the source that had not been
loaded before; this bounds their number. -/
def insert (s : SchemaSet) (source : SchemaSource) (d : SchemaDocument) : SchemaSet :=
  insertAll source (source.support.length + 1) [d] s

/-- Loads the document of a binding. -/
def loadBinding (s : SchemaSet) (source : SchemaSource) (b : Binding) :
    Except SchemaError Unit × SchemaSet :=
  let checkNamespace (actual : String) : Except SchemaError Unit :=
    if actual = b.namespaceName then .ok ()
    else .error (.namespaceMismatch b.namespaceName actual)
  if s.isLoaded b.location then
    match s.documents.find? (·.location.Same b.location) with
    | some d => (checkNamespace d.targetNamespace, s)
    | none => (.ok (), s)
  else
    let (result, s) := s.request source b.location
    match result with
    | .error e => (.error e, s)
    | .ok d =>
      match checkNamespace d.targetNamespace with
      | .error e => (.error e, s)
      | .ok () => (.ok (), s.insert source d)

/-- Loads bindings in order; gives those that failed, with the reasons. -/
def loadBindings (source : SchemaSource) :
    List Binding → SchemaSet → List (Binding × SchemaError) × SchemaSet
  | [], s => ([], s)
  | b :: rest, s =>
    let (result, s) := s.loadBinding source b
    let (failures, s) := loadBindings source rest s
    match result with
    | .ok () => (failures, s)
    | .error e => ((b, e) :: failures, s)

/-- Loads all pending bindings; gives those that failed, with the reasons. -/
def compile (s : SchemaSet) (source : SchemaSource) : List (Binding × SchemaError) × SchemaSet :=
  loadBindings source s.pending { s with pending := [] }

/-- Compiles a schema that stands inside an instance document. -/
def addInline (s : SchemaSet) (source : SchemaSource) (text : String) :
    Except SchemaError Unit × SchemaSet :=
  let count := s.inlineCount + 1
  let s := { s with inlineCount := count }
  match SchemaDocument.readAs (.inline count) text (.ofText s!"inline-schema-{count}") with
  | .error e => (.error e, s)
  | .ok d => (.ok (), s.insert source d)

end SchemaSet

end XmlSchema
