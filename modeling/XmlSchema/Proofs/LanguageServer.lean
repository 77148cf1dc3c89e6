import XmlSchema.Files.Tree
import XmlSchema.LanguageServer.Session

/-!
# What an editor is shown

A `Transcript` is a session of a language server together with all that it has published.  A message
either says nothing about a document, and then the documents and the publications stay as they are
(`Transcript.receive_of_silent`), or it is an event of one document (`Transcript.receive_of_event`).
The main statement says that what an editor was shown last follows the stored documents
(`Transcript.after_follows`).
-/

namespace XmlSchema

/-! ## Documents -/

namespace Documents

variable {docs : Documents} {uri other : Uri}

@[simp]
theorem get?_erase_self (docs : Documents) (uri : Uri) : (docs.erase uri).get? uri = none := by
  have absent : (docs.erase uri).find? (·.1 = uri) = none :=
    List.find?_eq_none.2 fun entry member => by
      have different := (List.mem_filter.1 member).2
      simpa using different
  rw [get?, absent, Option.map_none]

theorem get?_erase_of_ne (docs : Documents) (different : other ≠ uri) :
    (docs.erase uri).get? other = docs.get? other := by
  have same : (docs.erase uri).find? (·.1 = other) = docs.find? (·.1 = other) := by
    rw [erase, List.find?_filter]
    congr 1
    funext entry
    by_cases h : entry.1 = other
    · simp [h, different]
    · simp [h]
  rw [get?, get?, same]

theorem get?_set (docs : Documents) (uri other : Uri) (document : OpenDocument) :
    (docs.set uri document).get? other =
      ((docs.erase uri).get? other).or (if uri = other then some document else none) := by
  unfold set get?
  rw [List.find?_append]
  by_cases h : uri = other
  · cases (docs.erase uri).find? (·.1 = other) <;> simp [h]
  · cases (docs.erase uri).find? (·.1 = other) <;> simp [h]

@[simp]
theorem get?_set_self (docs : Documents) (uri : Uri) (document : OpenDocument) :
    (docs.set uri document).get? uri = some document := by
  rw [get?_set, get?_erase_self, if_pos rfl, Option.none_or]

theorem get?_set_of_ne (docs : Documents) (document : OpenDocument) (different : other ≠ uri) :
    (docs.set uri document).get? other = docs.get? other := by
  rw [get?_set, get?_erase_of_ne docs different, if_neg different.symm, Option.or_none]

end Documents

/-! ## Events -/

namespace DocumentEvent

/-- The document that an event is about. -/
def uri : DocumentEvent → Uri
  | .opened uri _ _ => uri
  | .changed uri _ _ => uri
  | .closed uri => uri

/-- What is stored for the document of an event behind it, if `before` is what was stored. -/
def stored (before : Option OpenDocument) : DocumentEvent → Option OpenDocument
  | .opened _ version text => some ⟨text, version⟩
  | .changed _ version texts =>
    match texts.getLast? with
    | some text => some ⟨text, version⟩
    | none => before
  | .closed _ => none

/-- Only three methods speak of documents. -/
theorem method_of_ofMessage? {method : String} {params : Json} {e : DocumentEvent}
    (h : ofMessage? method params = some e) :
    method = "textDocument/didOpen" ∨ method = "textDocument/didChange" ∨
      method = "textDocument/didClose" := by
  by_cases opens : method = "textDocument/didOpen"
  · exact .inl opens
  by_cases changes : method = "textDocument/didChange"
  · exact .inr (.inl changes)
  by_cases closes : method = "textDocument/didClose"
  · exact .inr (.inr closes)
  simp [ofMessage?] at h

end DocumentEvent

namespace Server

variable (s : Server) (docs : Documents)

theorem store_eq (uri : Uri) (document : OpenDocument) :
    s.store docs uri document = (docs.set uri document,
      if s.settings.validation.skips uri then []
      else [⟨uri, s.diagnose uri document.text, some document.version⟩]) := by
  unfold store publish
  simp only [Documents.get?_set_self, Option.map_some, if_true]

/-- An event writes its document and publishes its diagnostics, or it changes nothing, or it removes
its document and takes the diagnostics back. -/
theorem handle_cases (e : DocumentEvent) :
    (∃ document, (∀ before, e.stored before = some document) ∧
      e.subject? s.settings.validation =
        (if s.settings.validation.skips e.uri then none else some (e.uri, document.text)) ∧
      s.handle docs e = (docs.set e.uri document,
        if s.settings.validation.skips e.uri then []
        else [⟨e.uri, s.diagnose e.uri document.text, some document.version⟩])) ∨
    ((∀ before, e.stored before = before) ∧ s.handle docs e = (docs, [])) ∨
    ((∀ before, e.stored before = none) ∧
      s.handle docs e = (docs.erase e.uri, [⟨e.uri, [], none⟩])) := by
  have subject (uri : Uri) (text : String) :
      (some (uri, text)).filter (fun subject => !s.settings.validation.skips subject.1) =
        if s.settings.validation.skips uri then none else some (uri, text) := by
    cases h : s.settings.validation.skips uri <;> simp [Option.filter, h]
  cases e with
  | opened uri version text =>
    exact .inl ⟨⟨text, version⟩, fun _ => rfl, subject uri text, s.store_eq docs uri _⟩
  | changed uri version texts =>
    cases last : texts.getLast? with
    | some text =>
      refine .inl ⟨⟨text, version⟩, fun _ => by rw [DocumentEvent.stored, last], ?_, ?_⟩
      · rw [DocumentEvent.subject?, last]
        exact subject uri text
      · rw [handle, last]
        exact s.store_eq docs uri _
    | none =>
      exact .inr (.inl ⟨fun _ => by rw [DocumentEvent.stored, last], by rw [handle, last]⟩)
  | closed uri => exact .inr (.inr ⟨fun _ => rfl, rfl⟩)

end Server

/-! ## Sessions -/

namespace Session

variable {s : Session} {message : ClientMessage} {e : DocumentEvent}

/-- The documents and what is published after an event. -/
def afterEvent (server : Server) (s : Session) (e : DocumentEvent) : Session × Reaction :=
  let (documents, publications) := server.handle s.documents e
  ({ s with documents }, { notifications := publications.map .publish })

theorem receive_of_event (server : Server) (h : s.documentEvent? message = some e) :
    s.receive server message = s.afterEvent server e := by
  have event := h
  unfold documentEvent? at h
  split at h
  · rename_i counts
    obtain ⟨params, -, read⟩ := Option.bind_eq_some_iff.1 h
    have taken : s.notification server message = s.afterEvent server e := by
      simp only [notification, event, counts.1, ne_eq, not_true_eq_false, if_false, afterEvent]
    rw [← taken]
    rcases DocumentEvent.method_of_ofMessage? read with method | method | method <;>
      simp [receive, counts.1, method, knownRequests, knownNotifications]
  · cases h

/-- A message that says nothing about a document leaves the documents alone and publishes
nothing. -/
theorem receive_of_silent (server : Server) (h : s.documentEvent? message = none) :
    (s.receive server message).1.documents = s.documents ∧
      ∀ p, .publish p ∉ (s.receive server message).2.notifications := by
  unfold receive start shutdown notification
  rw [h]
  grind [refuse, unanswered]

end Session

/-! ## Transcripts -/

/-- What a notification publishes. -/
def Notification.publication? : Notification → Option Publication
  | .ready => none
  | .publish p => some p

/-- A session with all that it has published, in order. -/
structure Transcript where
  session : Session := {}
  sent : List Publication := []

namespace Transcript

/-- The stored document with a URI. -/
def stored? (t : Transcript) (uri : Uri) : Option OpenDocument := t.session.documents.get? uri

/-- What was published for a document, in order. -/
def sentFor (t : Transcript) (uri : Uri) : List Publication := t.sent.filter (·.uri = uri)

variable (files : FileAccess Id) (settings : Settings) (workingDirectory : Path)

/-- Takes in a message. -/
def receive (t : Transcript) (message : ClientMessage) : Transcript :=
  let (session, reaction) :=
    Id.run (t.session.receiveWith files settings workingDirectory message)
  { session, sent := t.sent ++ reaction.notifications.filterMap Notification.publication? }

/-- A session from its start over some messages. -/
def after (messages : List ClientMessage) : Transcript :=
  messages.foldl (receive files settings workingDirectory) {}

/-- The diagnostics of a document, by a validation of its own. -/
def diagnosis (uri : Uri) (text : String) : List Diagnostic :=
  let baseDir := settings.validation.baseDirFor workingDirectory uri
  let report := Id.run (validateWith files baseDir settings.validation.reportWarnings text)
  report.diagnostics text settings.server.diagnosticSource

/-- What an editor was shown last for a document follows what is stored for it. -/
structure Follows (t : Transcript) (uri : Uri) : Prop where
  /-- A stored document is shown with its diagnostics and its version. -/
  stored : settings.validation.skips uri = false → ∀ document, t.stored? uri = some document →
    (t.sentFor uri).getLast? =
      some ⟨uri, diagnosis files settings workingDirectory uri document.text, some document.version⟩
  /-- One that is not stored was not shown, or its diagnostics were taken back. -/
  absent : settings.validation.skips uri = false → t.stored? uri = none →
    ∀ p, (t.sentFor uri).getLast? = some p → p.diagnostics = []
  /-- One that is not validated was never shown with diagnostics. -/
  skipped : settings.validation.skips uri = true → ∀ p ∈ t.sentFor uri, p.diagnostics = []

/-- The server that an event meets: it knows the schema files that the event makes it read. -/
def serverFor (e : DocumentEvent) : Server where
  settings := settings
  workingDirectory := workingDirectory
  source := (e.subject? settings.validation).elim .none fun subject =>
    Id.run (schemaSource files
      (settings.validation.baseDirFor workingDirectory subject.1) subject.2)

variable {t next : Transcript} {message : ClientMessage} {e : DocumentEvent}

@[simp]
theorem serverFor_settings (e : DocumentEvent) :
    (serverFor files settings workingDirectory e).settings = settings :=
  rfl

theorem serverFor_diagnose {uri : Uri} {text : String}
    (h : e.subject? settings.validation = some (uri, text)) :
    (serverFor files settings workingDirectory e).diagnose uri text =
      diagnosis files settings workingDirectory uri text := by
  unfold serverFor
  rw [h]
  rfl

/-! ### One message -/

theorem receive_of_silent (h : t.session.documentEvent? message = none) :
    (t.receive files settings workingDirectory message).session.documents = t.session.documents ∧
      (t.receive files settings workingDirectory message).sent = t.sent := by
  have reads : Id.run (t.session.receiveWith files settings workingDirectory message) =
      t.session.receive ⟨settings, workingDirectory, .none⟩ message := by
    unfold Session.receiveWith
    rw [h]
    rfl
  obtain ⟨documents, quiet⟩ :=
    Session.receive_of_silent ⟨settings, workingDirectory, .none⟩ h
  have nothing : (t.session.receive ⟨settings, workingDirectory, .none⟩
      message).2.notifications.filterMap Notification.publication? = [] := by
    refine List.filterMap_eq_nil_iff.2 fun n member => ?_
    cases n with
    | ready => rfl
    | publish p => exact absurd member (quiet p)
  unfold receive
  rw [reads]
  exact ⟨documents, by simp only [nothing, List.append_nil]⟩

theorem receive_of_event (h : t.session.documentEvent? message = some e) :
    t.receive files settings workingDirectory message =
      ⟨{ t.session with documents :=
          ((serverFor files settings workingDirectory e).handle t.session.documents e).1 },
        t.sent ++
          ((serverFor files settings workingDirectory e).handle t.session.documents e).2⟩ := by
  have reads : Id.run (t.session.receiveWith files settings workingDirectory message) =
      t.session.receive (serverFor files settings workingDirectory e) message := by
    unfold Session.receiveWith serverFor
    rw [h]
    cases hs : e.subject? settings.validation <;> simp [hs]
  have published (ps : List Publication) :
      (ps.map Notification.publish).filterMap Notification.publication? = ps := by
    rw [List.filterMap_map]
    exact List.filterMap_some
  unfold receive
  rw [reads, Session.receive_of_event _ h]
  simp only [Session.afterEvent, published]

/-- An event writes its document and shows its diagnostics, or it changes nothing, or it removes its
document and takes the diagnostics back. -/
theorem receive_cases (h : t.session.documentEvent? message = some e)
    (step : t.receive files settings workingDirectory message = next) :
    (∃ document, (∀ before, e.stored before = some document) ∧
      next.session.documents = t.session.documents.set e.uri document ∧
      next.sent = t.sent ++ if settings.validation.skips e.uri then [] else
        [⟨e.uri, diagnosis files settings workingDirectory e.uri document.text,
          some document.version⟩]) ∨
    ((∀ before, e.stored before = before) ∧ next.session.documents = t.session.documents ∧
      next.sent = t.sent) ∨
    ((∀ before, e.stored before = none) ∧
      next.session.documents = t.session.documents.erase e.uri ∧
      next.sent = t.sent ++ [⟨e.uri, [], none⟩]) := by
  rw [receive_of_event files settings workingDirectory h] at step
  subst step
  rcases (serverFor files settings workingDirectory e).handle_cases t.session.documents e with
    ⟨document, stores, subject, handles⟩ | ⟨stores, handles⟩ | ⟨stores, handles⟩
  · refine .inl ⟨document, stores, by rw [handles], ?_⟩
    rw [handles, serverFor_settings]
    rw [serverFor_settings] at subject
    cases skipped : settings.validation.skips e.uri with
    | true => simp only [if_true]
    | false =>
      rw [skipped] at subject
      simp only [Bool.false_eq_true, if_false] at subject ⊢
      rw [serverFor_diagnose files settings workingDirectory subject]
  · exact .inr (.inl ⟨stores, by rw [handles], by rw [handles, List.append_nil]⟩)
  · exact .inr (.inr ⟨stores, by rw [handles], by rw [handles]⟩)

variable {files settings workingDirectory}

theorem stored?_receive (h : t.session.documentEvent? message = some e)
    (step : t.receive files settings workingDirectory message = next) :
    next.stored? e.uri = e.stored (t.stored? e.uri) := by
  unfold stored?
  rcases receive_cases files settings workingDirectory h step with
    ⟨document, stores, documents, -⟩ | ⟨stores, documents, -⟩ | ⟨stores, documents, -⟩
  · rw [documents, Documents.get?_set_self, stores]
  · rw [documents, stores]
  · rw [documents, Documents.get?_erase_self, stores]

/-- An event of one document leaves all others alone. -/
theorem receive_other (h : t.session.documentEvent? message = some e)
    (step : t.receive files settings workingDirectory message = next) {uri : Uri}
    (other : uri ≠ e.uri) :
    next.stored? uri = t.stored? uri ∧ next.sentFor uri = t.sentFor uri := by
  have unseen (diagnostics : List Diagnostic) (version : Option Int) :
      [(⟨e.uri, diagnostics, version⟩ : Publication)].filter (·.uri = uri) = [] := by
    simp [other.symm]
  unfold stored? sentFor
  rcases receive_cases files settings workingDirectory h step with
    ⟨document, -, documents, sent⟩ | ⟨-, documents, sent⟩ | ⟨-, documents, sent⟩
  · refine ⟨by rw [documents, Documents.get?_set_of_ne _ _ other], ?_⟩
    rw [sent, List.filter_append]
    split
    · simp only [List.filter_nil, List.append_nil]
    · rw [unseen, List.append_nil]
  · exact ⟨by rw [documents], by rw [sent]⟩
  · refine ⟨by rw [documents, Documents.get?_erase_of_ne _ other], ?_⟩
    rw [sent, List.filter_append, unseen, List.append_nil]

/-- Of several changes only the last counts. -/
theorem receive_last_change {uri : Uri} {version : Int} {earlier : List String} {text : String}
    {single : ClientMessage}
    (h : t.session.documentEvent? message = some (.changed uri version (earlier ++ [text])))
    (hsingle : t.session.documentEvent? single = some (.changed uri version [text])) :
    t.receive files settings workingDirectory message =
      t.receive files settings workingDirectory single := by
  have subject : (DocumentEvent.changed uri version (earlier ++ [text])).subject? =
      (DocumentEvent.changed uri version [text]).subject? := by
    funext s
    simp only [DocumentEvent.subject?, List.getLast?_concat, List.getLast?_singleton]
  have server :
      serverFor files settings workingDirectory (.changed uri version (earlier ++ [text])) =
      serverFor files settings workingDirectory (.changed uri version [text]) := by
    unfold serverFor
    rw [subject]
  have handle (s : Server) (docs : Documents) :
      s.handle docs (.changed uri version (earlier ++ [text])) =
      s.handle docs (.changed uri version [text]) := by
    simp only [Server.handle, List.getLast?_concat, List.getLast?_singleton]
  rw [receive_of_event files settings workingDirectory h,
    receive_of_event files settings workingDirectory hsingle, server, handle]

/-! ### Many messages -/

theorem Follows.congr {uri : Uri} (h : t.Follows files settings workingDirectory uri)
    (stored : next.stored? uri = t.stored? uri) (sent : next.sentFor uri = t.sentFor uri) :
    next.Follows files settings workingDirectory uri where
  stored validated := by
    rw [stored, sent]
    exact h.stored validated
  absent validated := by
    rw [stored, sent]
    exact h.absent validated
  skipped skips := by
    rw [sent]
    exact h.skipped skips

theorem Follows.receive_event (h : t.Follows files settings workingDirectory e.uri)
    (event : t.session.documentEvent? message = some e)
    (step : t.receive files settings workingDirectory message = next) :
    next.Follows files settings workingDirectory e.uri := by
  have now := stored?_receive event step
  have own (diagnostics : List Diagnostic) (version : Option Int) :
      [(⟨e.uri, diagnostics, version⟩ : Publication)].filter (·.uri = e.uri) =
        [⟨e.uri, diagnostics, version⟩] := by
    simp
  rcases receive_cases files settings workingDirectory event step with
    ⟨document, stores, -, sent⟩ | ⟨stores, -, sent⟩ | ⟨stores, -, sent⟩
  · rw [stores] at now
    cases skips : settings.validation.skips e.uri with
    | true =>
      rw [skips, if_pos rfl, List.append_nil] at sent
      have same : next.sentFor e.uri = t.sentFor e.uri := by rw [sentFor, sent, sentFor]
      refine ⟨fun validated => ?_, fun validated => ?_, fun _ => ?_⟩
      · simp [skips] at validated
      · simp [skips] at validated
      · rw [same]
        exact h.skipped skips
    | false =>
      rw [skips, if_neg Bool.false_ne_true] at sent
      have shown : (next.sentFor e.uri).getLast? = some ⟨e.uri,
          diagnosis files settings workingDirectory e.uri document.text, some document.version⟩ := by
        rw [sentFor, sent, List.filter_append, own, List.getLast?_concat]
      refine ⟨fun _ found hfound => ?_, fun _ hnone => ?_, fun skipped => ?_⟩
      · rw [now, Option.some.injEq] at hfound
        rw [← hfound]
        exact shown
      · simp [now] at hnone
      · simp [skips] at skipped
  · rw [stores] at now
    exact h.congr now (by rw [sentFor, sent, sentFor])
  · rw [stores] at now
    have sent_eq : next.sentFor e.uri = t.sentFor e.uri ++ [⟨e.uri, [], none⟩] := by
      rw [sentFor, sent, List.filter_append, own, sentFor]
    refine ⟨fun _ found hfound => ?_, fun _ _ p last => ?_, fun skips p member => ?_⟩
    · simp [now] at hfound
    · rw [sent_eq, List.getLast?_concat, Option.some.injEq] at last
      rw [← last]
    · rw [sent_eq, List.mem_append, List.mem_singleton] at member
      rcases member with member | rfl
      · exact h.skipped skips p member
      · rfl

theorem Follows.receive (h : ∀ uri, t.Follows files settings workingDirectory uri)
    (message : ClientMessage) (uri : Uri) :
    (t.receive files settings workingDirectory message).Follows
      files settings workingDirectory uri := by
  cases event : t.session.documentEvent? message with
  | none =>
    obtain ⟨documents, sent⟩ := receive_of_silent files settings workingDirectory event
    exact (h uri).congr (by rw [stored?, documents, stored?]) (by rw [sentFor, sent, sentFor])
  | some e =>
    by_cases own : uri = e.uri
    · rw [own]
      exact (h e.uri).receive_event event rfl
    · obtain ⟨stored, sent⟩ := receive_other event rfl own
      exact (h uri).congr stored sent

theorem follows_after (messages : List ClientMessage) (uri : Uri) :
    (after files settings workingDirectory messages).Follows
      files settings workingDirectory uri := by
  have run (t : Transcript) (h : ∀ uri, t.Follows files settings workingDirectory uri) :
      ∀ uri, (messages.foldl (Transcript.receive files settings workingDirectory) t).Follows
        files settings workingDirectory uri := by
    induction messages generalizing t with
    | nil => exact h
    | cons message messages ih => exact ih _ (Follows.receive h message)
  refine run {} (fun uri => ⟨fun _ _ found => ?_, fun _ _ p last => ?_, fun _ p member => ?_⟩) uri
  · cases found
  · cases last
  · cases member

/-- In every session, what an editor was shown last follows the stored documents.  An event of a
document stores what it says and changes nothing for other documents, and of several changes only
the last counts. -/
theorem after_follows (files : FileAccess Id) (settings : Settings) (workingDirectory : Path)
    (messages : List ClientMessage) :
    let t := after files settings workingDirectory messages
    (∀ uri, t.Follows files settings workingDirectory uri) ∧
    ∀ message e, t.session.phase = .initialized → message.id = none →
      message.params.bind (DocumentEvent.ofMessage? message.method) = some e →
      let next := t.receive files settings workingDirectory message
      next.stored? e.uri = e.stored (t.stored? e.uri) ∧
      (∀ uri ≠ e.uri, next.stored? uri = t.stored? uri ∧ next.sentFor uri = t.sentFor uri) ∧
      ∀ uri version earlier text single, e = .changed uri version (earlier ++ [text]) →
        single.id = none → single.params.bind (DocumentEvent.ofMessage? single.method) =
          some (.changed uri version [text]) →
        next = t.receive files settings workingDirectory single := by
  intro t
  refine ⟨follows_after messages, fun message e initialized notifies reads => ?_⟩
  have counts {m : ClientMessage} {e : DocumentEvent} (notifies : m.id = none)
      (reads : m.params.bind (DocumentEvent.ofMessage? m.method) = some e) :
      t.session.documentEvent? m = some e := by
    rw [Session.documentEvent?, if_pos ⟨initialized, by rw [notifies, Option.isNone_none]⟩, reads]
  have event := counts notifies reads
  refine ⟨stored?_receive event rfl, fun uri other => receive_other event rfl other, ?_⟩
  intro uri version earlier text single e_eq single_notifies single_reads
  exact receive_last_change (e_eq ▸ event) (counts single_notifies single_reads)

/-- A document is opened and then changed twice in one message: the editor is shown the diagnostics
of its last text. -/
theorem after_follows_changed :
    let files := (FileTree.directory []).access (.ofText "/")
    let uri : Uri := { scheme := "file", authority := some {}, path := "/a.xml" }
    let document (members : List (String × Json)) : Json :=
      .object [("textDocument", .object (("uri", .string "file:///a.xml") :: members))]
    let text (text : String) : Json := .object [("text", .string text)]
    let change : Json := .object [
      ("textDocument", .object [("uri", .string "file:///a.xml"), ("version", .int 2)]),
      ("contentChanges", .array [text "<b>", text "<b/>"])]
    let messages : List ClientMessage := [
      ⟨"initialize", some (.int 1), some (.object [("capabilities", .object [])])⟩,
      ⟨"textDocument/didOpen", none, some (document
        [("languageId", .string "xml"), ("version", .int 1), ("text", .string "<a/>")])⟩,
      ⟨"textDocument/didChange", none, some change⟩]
    let t := after files {} (.ofText "/") messages
    t.session.phase = .initialized ∧ t.stored? uri = some ⟨"<b/>", 2⟩ ∧
      (t.sentFor uri).getLast? =
        some ⟨uri, diagnosis files {} (.ofText "/") uri "<b/>", some 2⟩ := by
  intro files uri document text change messages t
  have found : t.stored? uri = some ⟨"<b/>", 2⟩ := by decide +kernel
  have shown :=
    ((after_follows files {} (.ofText "/") messages).1 uri).stored (by decide +kernel) _ found
  exact ⟨by decide +kernel, found, shown⟩

end Transcript

end XmlSchema
