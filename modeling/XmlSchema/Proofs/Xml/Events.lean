import XmlSchema.Proofs.Text.Position
import XmlSchema.Xml.Reader

/-!
# Where events stand in the text

The events of a document stand in the text one behind the other: a tag starts at the `<` that its
event names, its name follows at once, and it ends where its event says (`laid_eventsFrom`).  So the
text from a start tag to its own end, or to the end of a later end tag, begins with `<` and the name
in the tag (`slice_startTag`).
-/

namespace XmlSchema.Xml

open XmlSchema.Text

/-! ## The ends of constructs -/

section Splits

variable {seen cs content rest : List Char}

theorem eq_of_splitAtClose {closes : List Char → Bool}
    (h : splitAtClose closes seen cs = some (content, rest)) :
    seen.reverse ++ cs = content ++ '>' :: rest := by
  fun_induction splitAtClose closes seen cs with
  | case1 => cases h
  | case2 seen c cs ends =>
    cases h
    rw [ends.1]
  | case3 seen c cs _ ih => simpa using ih h

theorem eq_of_splitAtBalance {depth : Nat}
    (h : splitAtBalance depth seen cs = some (content, rest)) :
    seen.reverse ++ cs = content ++ '>' :: rest := by
  fun_induction splitAtBalance depth seen cs with
  | case1 => cases h
  | case2 depth seen cs ih => simpa using ih h
  | case3 seen cs =>
    cases h
    rfl
  | case4 seen cs _ depth ih => simpa using ih h
  | case5 depth seen c cs _ _ ih => simpa using ih h

theorem eq_of_splitAtTagEnd {quote : Option Char}
    (h : splitAtTagEnd quote seen cs = some (content, rest)) :
    seen.reverse ++ cs = content ++ '>' :: rest := by
  fun_induction splitAtTagEnd quote seen cs with
  | case1 => cases h
  | case2 seen c cs q ih => simpa using ih h
  | case3 seen cs =>
    cases h
    rfl
  | case4 seen c cs _ _ ih => simpa using ih h
  | case5 seen c cs _ _ ih => simpa using ih h

end Splits

/-! ## Markup -/

/-- What an event says about its place: the construct starts behind `before` with a `<`, and ends
with the `>` behind its content. -/
def Event.LiesAt (before content : List Char) : Event → Prop
  | .startTag tag => tag.offset = byteLength before ∧ tag.rawName.toList <+: content ∧
      tag.stop = byteLength (before ++ '<' :: (content ++ ['>']))
  | .endTag _ _ stop => stop = byteLength (before ++ '<' :: (content ++ ['>']))
  | .text _ _ | .other | .malformed _ | .endOfInput => True

theorem tagStart_byteLength (before cs : List Char) :
    tagStart (before ++ '<' :: cs) (byteLength before) = byteLength before := by
  unfold tagStart charAt?
  rw [dropBytes?_byteLength, if_pos]
  rfl

theorem startTagEvent_liesAt (before content rest : List Char) :
    (startTagEvent (before ++ '<' :: (content ++ '>' :: rest)) (byteLength before + 1)
      (byteLength (before ++ '<' :: (content ++ ['>']))) content).LiesAt before content := by
  refine ⟨tagStart_byteLength before _, ?_, rfl⟩
  rw [String.toList_ofList]
  refine (List.takeWhile_prefix _).trans ?_
  split
  · exact List.dropLast_prefix content
  · exact List.prefix_rfl

/-- Where a construct ends that has been read. -/
structure Ends (before markup : List Char) (result : Event × Nat × List Char)
    (content : List Char) : Prop where
  markup_eq : markup = content ++ '>' :: result.2.2
  stop_eq : result.2.1 = byteLength (before ++ '<' :: (content ++ ['>']))
  lies : result.1.LiesAt before content

theorem byteLength_markup (before content : List Char) :
    byteLength (before ++ '<' :: (content ++ ['>'])) =
      byteLength before + 1 + byteLength content + 1 := by
  have less : '<'.utf8Size = 1 := rfl
  have greater : '>'.utf8Size = 1 := rfl
  simp only [byteLength_append, byteLength_cons, byteLength_nil, less, greater]
  omega

theorem exists_ends_of_readDeclaration {before markup : List Char}
    {result : Event × Nat × List Char}
    (h : readDeclaration (byteLength before + 1) markup = .ok result) :
    ∃ content, Ends before markup result content := by
  unfold readDeclaration at h
  dsimp only at h
  split at h
  · split at h
    · rename_i split
      split at h
      · cases h
        exact ⟨_, eq_of_splitAtClose split, (byteLength_markup _ _).symm, trivial⟩
      · cases h
    · cases h
  · split at h
    · rename_i split
      split at h
      · cases h
        exact ⟨_, eq_of_splitAtClose split, (byteLength_markup _ _).symm, trivial⟩
      · cases h
    · cases h
  · split at h
    · split at h
      · rename_i split
        split at h
        · split at h
          · cases h
          · cases h
            exact ⟨_, eq_of_splitAtBalance split, (byteLength_markup _ _).symm, trivial⟩
        · cases h
      · cases h
    · cases h
  · cases h

theorem exists_ends_of_readMarkup {before markup : List Char} {result : Event × Nat × List Char}
    (h : readMarkup (before ++ '<' :: markup) (byteLength before + 1) markup = .ok result) :
    ∃ content, Ends before markup result content := by
  unfold readMarkup at h
  dsimp only at h
  split at h
  · exact exists_ends_of_readDeclaration h
  · split at h
    · rename_i split
      cases h
      exact ⟨_, eq_of_splitAtTagEnd split, (byteLength_markup _ _).symm,
        (byteLength_markup _ _).symm⟩
    · cases h
  · split at h
    · rename_i split
      split at h
      · cases h
      · cases h
        exact ⟨_, eq_of_splitAtClose split, (byteLength_markup _ _).symm, trivial⟩
    · cases h
  · split at h
    · rename_i content rest split
      cases h
      have whole := eq_of_splitAtTagEnd split
      refine ⟨content, whole, (byteLength_markup _ _).symm, ?_⟩
      rw [List.reverse_nil, List.nil_append] at whole
      rw [whole, ← byteLength_markup]
      exact startTagEvent_liesAt before content rest
    · cases h
  · cases h

/-! ## Events -/

/-- The events stand one behind the other in the text behind `before`. -/
inductive Laid : List Char → List Char → List Event → Prop where
  | nil (before cs : List Char) : Laid before cs []
  | skip {before cs : List Char} {event : Event} {events : List Event}
      (tagless : ∀ before content, event.LiesAt before content) (later : Laid before cs events) :
      Laid before cs (event :: events)
  | markup {before between content rest : List Char} {event : Event} {events : List Event}
      (lies : event.LiesAt (before ++ between) content)
      (later : Laid (before ++ between ++ '<' :: (content ++ ['>'])) rest events) :
      Laid before (between ++ '<' :: (content ++ '>' :: rest)) (event :: events)

theorem textEvent_liesAt (offset : Nat) (raw before content : List Char) :
    (textEvent offset raw).LiesAt before content := by
  unfold textEvent
  dsimp only
  split <;> trivial

theorem laid_eventsFrom (fuel : Nat) (before cs : List Char) :
    Laid before cs (eventsFrom (before ++ cs) fuel (byteLength before) cs) := by
  induction fuel generalizing before cs with
  | zero => exact .skip (fun _ _ => trivial) (.nil _ _)
  | succ fuel ih =>
    have cut : cs.takeWhile (· != '<') ++ cs.dropWhile (· != '<') = cs :=
      List.takeWhile_append_dropWhile
    unfold eventsFrom
    extract_lets raw
    split
    · exact .skip (fun _ _ => trivial) (.nil _ _)
    · exact .skip (textEvent_liesAt _ _) (.skip (fun _ _ => trivial) (.nil _ _))
    · rename_i first markup stopped
      obtain rfl : first = '<' := by
        have kept := List.head?_dropWhile_not (· != '<') cs
        simpa [stopped] using kept
      extract_lets start continued
      have laid : Laid before cs continued := by
        unfold continued
        split
        · exact .skip (fun _ _ => trivial) (.nil _ _)
        · rename_i event stop rest read
          have whole : before ++ cs = (before ++ raw) ++ '<' :: markup := by
            rw [List.append_assoc, ← stopped, cut]
          have place : start = byteLength (before ++ raw) + 1 := by
            rw [byteLength_append]
          rw [whole, place] at read
          obtain ⟨content, markup_eq, stop_eq, lies⟩ := exists_ends_of_readMarkup read
          dsimp only at markup_eq stop_eq lies
          subst markup_eq stop_eq
          have later := ih (before ++ raw ++ '<' :: (content ++ ['>'])) rest
          have same : before ++ raw ++ '<' :: (content ++ ['>']) ++ rest = before ++ cs := by
            simp [whole]
          rw [same] at later
          have laid := Laid.markup lies later
          rwa [← stopped, cut] at laid
      split
      · exact laid
      · exact .skip (textEvent_liesAt _ _) laid

/-- The tag and all that follows it lie behind `before`. -/
theorem Laid.startTag {before cs : List Char} {front later : List Event} {tag : StartTag}
    (h : Laid before cs (front ++ .startTag tag :: later)) :
    ∃ before' content rest, before ++ cs = before' ++ '<' :: (content ++ '>' :: rest) ∧
      (Event.startTag tag).LiesAt before' content ∧
      Laid (before' ++ '<' :: (content ++ ['>'])) rest later := by
  generalize hevents : front ++ Event.startTag tag :: later = events at h
  induction h generalizing front with
  | nil before cs => simp at hevents
  | skip tagless laid ih =>
    cases front with
    | nil =>
      obtain ⟨rfl, rfl⟩ := List.cons.inj hevents
      -- no tag lies at two places at once
      exact absurd ((tagless [] []).1.symm.trans (tagless ['<'] []).1) (by decide)
    | cons event front => exact ih (List.cons.inj hevents).2
  | @markup before between content rest event events lies laid ih =>
    cases front with
    | nil =>
      obtain ⟨rfl, rfl⟩ := List.cons.inj hevents
      exact ⟨before ++ between, content, rest, by simp, lies, laid⟩
    | cons event front =>
      obtain ⟨before', content', rest', same, found⟩ := ih (List.cons.inj hevents).2
      exact ⟨before', content', rest', by simpa using same, found⟩

/-- An end tag ends in the text behind `before`. -/
theorem Laid.endTag {before cs : List Char} {events : List Event} {name : String}
    {offset stop : Nat} (h : Laid before cs events) (mem : .endTag name offset stop ∈ events) :
    ∃ between rest, cs = between ++ rest ∧ stop = byteLength (before ++ between) := by
  induction h with
  | nil before cs => simp at mem
  | skip tagless laid ih =>
    rcases List.mem_cons.1 mem with rfl | mem
    · exact absurd ((tagless [] []).symm.trans (tagless ['<'] [])) (by decide)
    · exact ih mem
  | @markup before between content rest event events lies laid ih =>
    rcases List.mem_cons.1 mem with rfl | mem
    · refine ⟨between ++ '<' :: (content ++ ['>']), rest, by simp, ?_⟩
      rw [← List.append_assoc]
      exact lies
    · obtain ⟨between', rest', rfl, rfl⟩ := ih mem
      exact ⟨between ++ '<' :: (content ++ ['>']) ++ between', rest', by simp, by simp⟩

theorem dropByteOrderMark_eq_self {text : List Char} (h : text.head? ≠ some byteOrderMark) :
    dropByteOrderMark text = text := by
  cases text with
  | nil => rfl
  | cons c cs =>
    have other : c ≠ byteOrderMark := by simpa using h
    exact if_neg other

/-- The text from a start tag to its end, or to the end of a later end tag, begins with the name in
the tag. -/
theorem slice_startTag {text : List Char} (unmarked : text.head? ≠ some byteOrderMark)
    {front later : List Event} {tag : StartTag} {stop : Nat}
    (h : events text = front ++ .startTag tag :: later)
    (ends : stop = tag.stop ∨ ∃ name offset, .endTag name offset stop ∈ later) :
    ∃ rest, sliceBytes? tag.offset stop text = some ('<' :: (tag.rawName.toList ++ rest)) := by
  have laid : Laid [] text (events text) := by
    rw [events, dropByteOrderMark_eq_self unmarked]
    exact laid_eventsFrom _ [] text
  rw [h] at laid
  obtain ⟨before, content, rest, whole, ⟨start, ⟨suffix, named⟩, tagStop⟩, laid⟩ := laid.startTag
  obtain ⟨between, after, rfl, rfl⟩ : ∃ between after, rest = between ++ after ∧
      stop = byteLength (before ++ '<' :: (content ++ ['>']) ++ between) := by
    rcases ends with rfl | ⟨name, offset, mem⟩
    · exact ⟨[], rest, rfl, by simpa using tagStop⟩
    · exact laid.endTag mem
  refine ⟨suffix ++ '>' :: between, ?_⟩
  have cut := sliceBytes?_byteLength before ('<' :: (content ++ ['>']) ++ between) after
  rw [List.nil_append] at whole
  rw [whole, start]
  simpa [← named] using cut

end XmlSchema.Xml
