import XmlSchema.Proofs.Validation.Conformity

/-!
# Well-formed sequences of events

When the events of a document are those of a well-formed one (`IsDocument`): there is one root
element, start and end tags nest with equal names, and every prefix is declared where it is used.
A schema inside the document counts as an empty element, whatever stands in it.

A reader that takes in one event after another knows the open tags (`Place`, `Place.Moves`); it gets
to the end of exactly the well-formed sequences (`isDocument_iff_reads`).
-/

namespace XmlSchema

open XmlSchema.Text

/-! ## Prefixes -/

/-- The name has the prefix: this is what stands before its first colon. -/
def HasPrefix (raw pre : String) : Prop :=
  ∃ rest, raw.toList = pre.toList ++ ':' :: rest ∧ ':' ∉ pre.toList

namespace ElementTag

/-- The tag declares the prefix; the default namespace has the empty one. -/
def Declares (tag : ElementTag) (pre : String) : Prop :=
  ∃ a ∈ tag.attributes, a.rawName = "xmlns:" ++ pre ∨ pre = "" ∧ a.rawName = "xmlns"

/-- The prefix can be used in an element, when these are the tags of the element and of its
ancestors. -/
def PrefixKnown (tags : List ElementTag) (pre : String) : Prop :=
  pre = "xml" ∨ pre ≠ "xmlns" ∧ ∃ tag ∈ tags, tag.Declares pre

/-- The prefixes of the element and of its attributes can be used in an element with the given
ancestors.  Declarations are not attributes. -/
def PrefixesKnown (tag : ElementTag) (outer : List ElementTag) : Prop :=
  (∀ pre, HasPrefix tag.rawName pre → PrefixKnown (tag :: outer) pre) ∧
    ∀ a ∈ tag.attributes, a.rawName ≠ "xmlns" → ¬ "xmlns:".toList <+: a.rawName.toList →
      ∀ pre, HasPrefix a.rawName pre → PrefixKnown (tag :: outer) pre

/-- The scope of an element. -/
def scope (tag : ElementTag) : Scope := Scope.ofAttributes tag.attributes

/-- An element with the given ancestors is a schema. -/
def IsSchema (tag : ElementTag) (outer : List ElementTag) : Prop :=
  tag.name (outer.map scope) = .schema "schema"

instance (tag : ElementTag) (outer : List ElementTag) : Decidable (tag.IsSchema outer) :=
  inferInstanceAs (Decidable (_ = _))

end ElementTag

/-! ## The grammar -/

/-- The event stands in a schema called `rawName` and neither opens nor closes an element of that
name. -/
def Xml.Event.IsPassed (rawName : String) : Xml.Event → Prop
  | .startTag tag => tag.rawName ≠ rawName ∨ tag.selfClosing = true
  | .endTag name _ _ => name ≠ rawName
  | .text _ _ | .other => True
  | .malformed _ | .endOfInput => False

/-- The events can stand in a schema called `rawName`: the tags of that name nest. -/
inductive PassedOver (rawName : String) : List Xml.Event → Prop where
  | nil : PassedOver rawName []
  | cons {event : Xml.Event} {rest : List Xml.Event} (passed : event.IsPassed rawName)
    (later : PassedOver rawName rest) : PassedOver rawName (event :: rest)
  | nested {tag : Xml.StartTag} {inner rest : List Xml.Event} (name : tag.rawName = rawName)
    (opens : tag.selfClosing = false) (inside : PassedOver rawName inner) (offset stop : Nat)
    (later : PassedOver rawName rest) :
    PassedOver rawName (.startTag tag :: (inner ++ .endTag rawName offset stop :: rest))

mutual

/-- The events are those of an element with the given ancestors. -/
inductive IsElement : List ElementTag → List Xml.Event → Prop where
  | empty {outer : List ElementTag} {tag : ElementTag} (known : tag.PrefixesKnown outer) :
    IsElement outer [.startTag (tag.toStartTag true)]
  | node {outer : List ElementTag} {tag : ElementTag} {inner : List Xml.Event}
    (known : tag.PrefixesKnown outer) (plain : ¬ tag.IsSchema outer)
    (content : IsContent (tag :: outer) inner) (offset stop : Nat) :
    IsElement outer
      (.startTag (tag.toStartTag false) :: (inner ++ [.endTag tag.rawName offset stop]))
  | schema {outer : List ElementTag} {tag : ElementTag} {inner : List Xml.Event}
    (known : tag.PrefixesKnown outer) (schema : tag.IsSchema outer)
    (content : PassedOver tag.rawName inner) (offset stop : Nat) :
    IsElement outer
      (.startTag (tag.toStartTag false) :: (inner ++ [.endTag tag.rawName offset stop]))

/-- The events are those between the tags of an element; `outer` has the tag of that element and
those of its ancestors. -/
inductive IsContent : List ElementTag → List Xml.Event → Prop where
  | nil {outer : List ElementTag} : IsContent outer []
  | element {outer : List ElementTag} {first rest : List Xml.Event}
    (element : IsElement outer first) (later : IsContent outer rest) : IsContent outer (first ++ rest)
  | text {outer : List ElementTag} {rest : List Xml.Event} (value : String) (offset : Nat)
    (later : IsContent outer rest) : IsContent outer (.text (.ok value) offset :: rest)
  | other {outer : List ElementTag} {rest : List Xml.Event} (later : IsContent outer rest) :
    IsContent outer (.other :: rest)

end

/-- The event can stand outside the root element. -/
inductive Xml.Event.IsMisc : Xml.Event → Prop where
  | text {value : String} (blank : isBlankText value.toList = true) (offset : Nat) :
    IsMisc (.text (.ok value) offset)
  | other : IsMisc .other

/-- The events, without the end of the input, are those of a well-formed document. -/
def IsDocument (events : List Xml.Event) : Prop :=
  ∃ before root after, events = before ++ root ++ after ∧ IsElement [] root ∧
    (∀ event ∈ before, event.IsMisc) ∧ ∀ event ∈ after, event.IsMisc

/-! ## Reading -/

/-- Where a reader stands between two events: the tags of the open elements, innermost first, and
whether the root element has ended.  In a schema also the tag of the schema and how many inner
elements of its name are open. -/
inductive Place where
  | inside (tags : List ElementTag) (closed : Bool)
  | inSchema (tags : List ElementTag) (closed : Bool) (tag : ElementTag) (depth : Nat)

namespace Place

/-- How a reader moves on with an event. -/
inductive Moves : Place → Xml.Event → Place → Prop where
  | start {tags : List ElementTag} {closed : Bool} {tag : ElementTag}
    (first : tags = [] → closed = false) (known : tag.PrefixesKnown tags)
    (plain : ¬ tag.IsSchema tags) :
    Moves (inside tags closed) (.startTag (tag.toStartTag false)) (inside (tag :: tags) closed)
  | empty {tags : List ElementTag} {closed : Bool} {tag : ElementTag}
    (first : tags = [] → closed = false) (known : tag.PrefixesKnown tags) :
    Moves (inside tags closed) (.startTag (tag.toStartTag true))
      (inside tags (closed || tags.isEmpty))
  | schema {tags : List ElementTag} {closed : Bool} {tag : ElementTag}
    (first : tags = [] → closed = false) (known : tag.PrefixesKnown tags)
    (schema : tag.IsSchema tags) :
    Moves (inside tags closed) (.startTag (tag.toStartTag false)) (inSchema tags closed tag 0)
  | finish {tags : List ElementTag} {closed : Bool} {tag : ElementTag} (offset stop : Nat) :
    Moves (inside (tag :: tags) closed) (.endTag tag.rawName offset stop)
      (inside tags (closed || tags.isEmpty))
  | text {tags : List ElementTag} {closed : Bool} {value : String}
    (blank : tags = [] → isBlankText value.toList = true) (offset : Nat) :
    Moves (inside tags closed) (.text (.ok value) offset) (inside tags closed)
  | other {tags : List ElementTag} {closed : Bool} :
    Moves (inside tags closed) .other (inside tags closed)
  | passed {tags : List ElementTag} {closed : Bool} {tag : ElementTag} {depth : Nat}
    {event : Xml.Event} (passed : event.IsPassed tag.rawName) :
    Moves (inSchema tags closed tag depth) event (inSchema tags closed tag depth)
  | deeper {tags : List ElementTag} {closed : Bool} {tag : ElementTag} {depth : Nat}
    {inner : Xml.StartTag} (name : inner.rawName = tag.rawName)
    (opens : inner.selfClosing = false) :
    Moves (inSchema tags closed tag depth) (.startTag inner) (inSchema tags closed tag (depth + 1))
  | shallower {tags : List ElementTag} {closed : Bool} {tag : ElementTag} {depth : Nat}
    (offset stop : Nat) :
    Moves (inSchema tags closed tag (depth + 1)) (.endTag tag.rawName offset stop)
      (inSchema tags closed tag depth)
  | leave {tags : List ElementTag} {closed : Bool} {tag : ElementTag} (offset stop : Nat) :
    Moves (inSchema tags closed tag 0) (.endTag tag.rawName offset stop)
      (inside tags (closed || tags.isEmpty))

theorem Moves.ne_endOfInput {a b : Place} {event : Xml.Event} (h : a.Moves event b) :
    event ≠ .endOfInput := by
  rintro rfl
  cases h with
  | passed passed => exact passed

/-- How a reader moves on with events. -/
inductive Reads : Place → List Xml.Event → Place → Prop where
  | nil {place : Place} : Reads place [] place
  | cons {a b c : Place} {event : Xml.Event} {events : List Xml.Event} (first : a.Moves event b)
    (later : Reads b events c) : Reads a (event :: events) c

theorem Reads.single {a b : Place} {event : Xml.Event} (h : a.Moves event b) : Reads a [event] b :=
  .cons h .nil

theorem Reads.append {a b c : Place} {events more : List Xml.Event} (h : Reads a events b)
    (h' : Reads b more c) : Reads a (events ++ more) c := by
  induction h with
  | nil => exact h'
  | cons first _ ih => exact .cons first (ih h')

/-! ## Reading what is well-formed -/

theorem reads_passedOver {tags : List ElementTag} {closed : Bool} {tag : ElementTag}
    {events : List Xml.Event} (h : PassedOver tag.rawName events) (depth : Nat) :
    Reads (inSchema tags closed tag depth) events (inSchema tags closed tag depth) := by
  induction h generalizing depth with
  | nil => exact .nil
  | cons passed _ ih => exact .cons (.passed passed) (ih depth)
  | nested name opens _ offset stop _ inside later =>
    exact .cons (.deeper name opens) ((inside (depth + 1)).append
      (.cons (.shallower offset stop) (later depth)))

mutual

theorem reads_element {outer : List ElementTag} {events : List Xml.Event} {closed : Bool}
    (first : outer = [] → closed = false) : IsElement outer events →
    Reads (inside outer closed) events (inside outer (closed || outer.isEmpty))
  | .empty known => .single (.empty first known)
  | .node known plain content offset stop =>
    .cons (.start first known plain)
      ((reads_content (List.cons_ne_nil _ _) content).append (.single (.finish offset stop)))
  | .schema known schema content offset stop =>
    .cons (.schema first known schema)
      ((reads_passedOver content 0).append (.single (.leave offset stop)))

theorem reads_content {outer : List ElementTag} {events : List Xml.Event} {closed : Bool}
    (nested : outer ≠ []) : IsContent outer events →
    Reads (inside outer closed) events (inside outer closed)
  | .nil => .nil
  | .element element later => by
    have read : Reads (inside outer closed) _ _ := reads_element (absurd · nested) element
    rw [List.isEmpty_eq_false_iff.2 nested, Bool.or_false] at read
    exact read.append (reads_content nested later)
  | .text value offset later => .cons (.text (absurd · nested) offset) (reads_content nested later)
  | .other later => .cons .other (reads_content nested later)

end

theorem reads_misc {closed : Bool} {events : List Xml.Event} (h : ∀ event ∈ events, event.IsMisc) :
    Reads (inside [] closed) events (inside [] closed) := by
  induction events with
  | nil => exact .nil
  | cons event events ih =>
    rw [List.forall_mem_cons] at h
    refine .cons ?_ (ih h.2)
    cases h.1 with
    | text blank offset => exact .text (fun _ => blank) offset
    | other => exact .other

theorem reads_document {events : List Xml.Event} (h : IsDocument events) :
    Reads (inside [] false) events (inside [] true) := by
  obtain ⟨before, root, after, rfl, element, hbefore, hafter⟩ := h
  have read : Reads (inside [] false) root (inside [] true) := reads_element (fun _ => rfl) element
  exact ((reads_misc hbefore).append read).append (reads_misc hafter)

end Place

/-! ## What has been read is well-formed -/

theorem PassedOver.append {rawName : String} {events more : List Xml.Event}
    (h : PassedOver rawName events) (h' : PassedOver rawName more) :
    PassedOver rawName (events ++ more) := by
  induction h with
  | nil => exact h'
  | cons passed _ ih => exact .cons passed ih
  | nested name opens inside offset stop _ _ ih =>
    rw [List.cons_append, List.append_assoc]
    exact .nested name opens inside offset stop ih

theorem IsContent.append {outer : List ElementTag} {events more : List Xml.Event} :
    IsContent outer events → IsContent outer more → IsContent outer (events ++ more)
  | .nil, h' => h'
  | .element first later, h' => by
    rw [List.append_assoc]
    exact .element first (later.append h')
  | .text value offset later, h' => .text value offset (later.append h')
  | .other later, h' => .other (later.append h')

/-- The events can stand in a schema called `rawName`, and `depth` elements of that name are left
open. -/
inductive Passing (rawName : String) : Nat → List Xml.Event → Prop where
  | level {events : List Xml.Event} (content : PassedOver rawName events) : Passing rawName 0 events
  | deeper {depth : Nat} {before inner : List Xml.Event} {tag : Xml.StartTag}
    (start : Passing rawName depth before) (name : tag.rawName = rawName)
    (opens : tag.selfClosing = false) (content : PassedOver rawName inner) :
    Passing rawName (depth + 1) (before ++ .startTag tag :: inner)

theorem Passing.append {rawName : String} {depth : Nat} {events more : List Xml.Event}
    (h : Passing rawName depth events) (h' : PassedOver rawName more) :
    Passing rawName depth (events ++ more) := by
  cases h with
  | level content => exact .level (content.append h')
  | deeper start name opens content =>
    rw [List.append_assoc, List.cons_append]
    exact .deeper start name opens (content.append h')

/-- An inner element that has been closed is one that can be passed over. -/
theorem Passing.close {rawName : String} {depth : Nat} {events : List Xml.Event}
    (h : Passing rawName (depth + 1) events) (offset stop : Nat) :
    Passing rawName depth (events ++ [.endTag rawName offset stop]) := by
  cases h with
  | deeper start name opens content =>
    rw [List.append_assoc, List.cons_append]
    exact start.append (.nested name opens content offset stop .nil)

/-- The events are the beginning of a well-formed document, up to the given place. -/
inductive Unfinished : Place → List Xml.Event → Prop where
  | before {events : List Xml.Event} (misc : ∀ event ∈ events, event.IsMisc) :
    Unfinished (.inside [] false) events
  | after {events : List Xml.Event} (document : IsDocument events) :
    Unfinished (.inside [] true) events
  | within {outer : List ElementTag} {closed : Bool} {tag : ElementTag}
    {events inner : List Xml.Event} (start : Unfinished (.inside outer closed) events)
    (first : outer = [] → closed = false) (known : tag.PrefixesKnown outer)
    (plain : ¬ tag.IsSchema outer) (content : IsContent (tag :: outer) inner) :
    Unfinished (.inside (tag :: outer) closed)
      (events ++ .startTag (tag.toStartTag false) :: inner)
  | inSchema {outer : List ElementTag} {closed : Bool} {tag : ElementTag} {depth : Nat}
    {events inner : List Xml.Event} (start : Unfinished (.inside outer closed) events)
    (first : outer = [] → closed = false) (known : tag.PrefixesKnown outer)
    (schema : tag.IsSchema outer) (content : Passing tag.rawName depth inner) :
    Unfinished (.inSchema outer closed tag depth)
      (events ++ .startTag (tag.toStartTag false) :: inner)

namespace Unfinished

variable {outer : List ElementTag} {closed : Bool} {events : List Xml.Event}

/-- A whole element takes the reader past the root element, or adds to the content of the element
it stands in. -/
theorem element (h : Unfinished (.inside outer closed) events) (first : outer = [] → closed = false)
    {more : List Xml.Event} (element : IsElement outer more) :
    Unfinished (.inside outer (closed || outer.isEmpty)) (events ++ more) := by
  cases h with
  | before misc => exact .after ⟨events, more, [], by simp, element, misc, by simp⟩
  | after => cases first rfl
  | within start first' known plain content =>
    rw [List.append_assoc, List.cons_append, List.isEmpty_cons, Bool.or_false]
    have more_content := IsContent.element element .nil
    rw [List.append_nil] at more_content
    exact .within start first' known plain (content.append more_content)

theorem content {tag : ElementTag} (h : Unfinished (.inside (tag :: outer) closed) events)
    {more : List Xml.Event} (content : IsContent (tag :: outer) more) :
    Unfinished (.inside (tag :: outer) closed) (events ++ more) := by
  cases h with
  | within start first known plain content' =>
    rw [List.append_assoc, List.cons_append]
    exact .within start first known plain (content'.append content)

theorem misc (h : Unfinished (.inside [] closed) events) {event : Xml.Event} (misc : event.IsMisc) :
    Unfinished (.inside [] closed) (events ++ [event]) := by
  have extended {es : List Xml.Event} (hes : ∀ e ∈ es, e.IsMisc) :
      ∀ e ∈ es ++ [event], e.IsMisc := by
    rw [List.forall_mem_append, List.forall_mem_singleton]
    exact ⟨hes, misc⟩
  cases h with
  | before misc' => exact .before (extended misc')
  | after document =>
    obtain ⟨before, root, after, rfl, element, hbefore, hafter⟩ := document
    exact .after ⟨before, root, after ++ [event], by simp, element, hbefore, extended hafter⟩

/-- A reader that moves on stays within well-formed documents. -/
theorem moves {place place' : Place} {event : Xml.Event} (h : Unfinished place events)
    (moved : place.Moves event place') : Unfinished place' (events ++ [event]) := by
  cases moved with
  | start first known plain => exact .within h first known plain .nil
  | empty first known => exact h.element first (.empty known)
  | schema first known schema => exact .inSchema h first known schema (.level .nil)
  | finish offset stop =>
    -- the element is complete, and the reader is back where it started
    cases h with
    | within start first known plain content =>
      rw [List.append_assoc, List.cons_append]
      exact start.element first (.node known plain content offset stop)
  | @text tags _ value blank offset =>
    cases tags with
    | nil => exact h.misc (.text (blank rfl) offset)
    | cons tag tags => exact h.content (.text value offset .nil)
  | @other tags =>
    cases tags with
    | nil => exact h.misc .other
    | cons tag tags => exact h.content (.other .nil)
  | passed passed =>
    cases h with
    | inSchema start first known schema content =>
      rw [List.append_assoc, List.cons_append]
      exact .inSchema start first known schema (content.append (.cons passed .nil))
  | deeper name opens =>
    cases h with
    | inSchema start first known schema content =>
      rw [List.append_assoc, List.cons_append]
      exact .inSchema start first known schema (.deeper content name opens .nil)
  | shallower offset stop =>
    cases h with
    | inSchema start first known schema content =>
      rw [List.append_assoc, List.cons_append]
      exact .inSchema start first known schema (content.close offset stop)
  | leave offset stop =>
    cases h with
    | inSchema start first known schema content =>
      cases content with
      | level content =>
        rw [List.append_assoc, List.cons_append]
        exact start.element first (.schema known schema content offset stop)

theorem reads {place place' : Place} {more : List Xml.Event} (h : Unfinished place events)
    (read : place.Reads more place') : Unfinished place' (events ++ more) := by
  induction read generalizing events with
  | nil => rwa [List.append_nil]
  | @cons _ _ _ event rest first _ ih =>
    rw [← List.singleton_append, ← List.append_assoc]
    exact ih (h.moves first)

end Unfinished

/-- A reader gets from the start of a document past its root element with exactly the events of a
well-formed document. -/
theorem isDocument_iff_reads {events : List Xml.Event} :
    IsDocument events ↔ (Place.inside [] false).Reads events (.inside [] true) := by
  refine ⟨Place.reads_document, fun read => ?_⟩
  have start : Unfinished (.inside [] false) [] := .before (by simp)
  cases start.reads read with
  | after document => exact document

end XmlSchema
