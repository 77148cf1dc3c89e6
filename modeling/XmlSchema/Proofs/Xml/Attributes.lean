import XmlSchema.Proofs.Text.Position
import XmlSchema.Xml.Attributes

/-!
# Offsets of attributes

`attributeOffsets` scans the document for the attribute names of a start tag.  Each pass of the scan
finds the next name (`nextName?`) and goes over its attribute (`skipAttribute`).  A pass always
takes something from the text, so the scan comes to an end by itself (`Scan`,
`scan_attributeOffsets`), and the offsets grow (`Scan.bounds`).  In a tag that is written as it
should be (`WrittenTag`), every pass goes over exactly one attribute
(`WrittenAttribute.skipAttribute_text`).  The two make up `attributeOffsets_spec`.
-/

namespace XmlSchema.Xml

open XmlSchema.Text

/-! ## Passing over characters -/

/-- A place of a scan: an offset, and the text from there on. -/
abbrev Place := Nat × List Char

/-- From the first place of a scan the second is reached: not by going back, and unless nothing of
the text is left, by passing over as many bytes as the offset has grown. -/
structure Moves (s t : Place) : Prop where
  le : s.1 ≤ t.1
  length_le : t.2.length ≤ s.2.length
  total : t.2 = [] ∨ t.1 + byteLength t.2 = s.1 + byteLength s.2

theorem Moves.refl (s : Place) : Moves s s := ⟨le_rfl, le_rfl, .inr rfl⟩

/-- At the end of the text a scan stays there. -/
theorem Moves.eq_nil {s t : Place} (h : Moves s t) (done : s.2 = []) : t.2 = [] := by
  have length_le := h.length_le
  rw [done] at length_le
  exact List.eq_nil_of_length_eq_zero (Nat.le_zero.1 length_le)

theorem Moves.trans {s t u : Place} (h : Moves s t) (h' : Moves t u) : Moves s u := by
  refine ⟨h.le.trans h'.le, h'.length_le.trans h.length_le, ?_⟩
  rcases h'.total with done | same
  · exact .inl done
  · exact h.total.imp h'.eq_nil same.trans

theorem moves_skipWhile (p : Char → Bool) (s : Place) : Moves s (skipWhile p s.1 s.2) := by
  refine ⟨Nat.le_add_right _ _, (List.dropWhile_sublist p).length_le, .inr ?_⟩
  have whole := congrArg byteLength (List.takeWhile_append_dropWhile (p := p) (l := s.2))
  rw [byteLength_append] at whole
  rw [skipWhile]
  dsimp only
  omega

theorem moves_skipEquals (s : Place) : Moves s (skipEquals s.1 s.2) := by
  obtain ⟨offset, cs⟩ := s
  unfold skipEquals
  dsimp only
  split
  · have size : '='.utf8Size = 1 := rfl
    exact ⟨Nat.le_add_right _ _, by simp, .inr (by simp [size, Nat.add_assoc])⟩
  · exact .refl _

/-- Passing over what follows an opening quote, up to the closing one. -/
theorem moves_behindQuote {quote : Char} (size : quote.utf8Size = 1) (offset : Nat)
    (rest : List Char) :
    Moves (offset, quote :: rest)
      ((skipWhile (· != quote) (offset + 1) rest).1 + 1,
        (skipWhile (· != quote) (offset + 1) rest).2.drop 1) := by
  have opened : Moves (offset, quote :: rest) (offset + 1, rest) :=
    ⟨Nat.le_add_right _ _, by simp, .inr (by simp [size, Nat.add_assoc])⟩
  refine (opened.trans (moves_skipWhile (· != quote) (offset + 1, rest))).trans ?_
  have stopped := List.head?_dropWhile_not (· != quote) rest
  unfold skipWhile
  dsimp only
  cases left : rest.dropWhile (· != quote) with
  | nil => exact ⟨Nat.le_add_right _ _, by simp, .inl (by simp)⟩
  | cons c cs =>
    obtain rfl : c = quote := by simpa [left] using stopped
    exact ⟨Nat.le_add_right _ _, by simp, .inr (by simp [size, Nat.add_assoc])⟩

theorem moves_skipQuoted (s : Place) : Moves s (skipQuoted s.1 s.2) := by
  obtain ⟨offset, cs⟩ := s
  unfold skipQuoted
  dsimp only
  split
  · exact moves_behindQuote rfl offset _
  · exact moves_behindQuote rfl offset _
  · exact .refl _

/-- What is passed over, when the text is known up to the first character that stops. -/
theorem skipWhile_append {p : Char → Bool} {front rest : List Char} (offset : Nat)
    (all : ∀ c ∈ front, p c = true) (stops : ∀ c ∈ rest.head?, p c = false) :
    skipWhile p offset (front ++ rest) = (offset + byteLength front, rest) := by
  have taken : rest.takeWhile p = [] ∧ rest.dropWhile p = rest := by
    cases rest with
    | nil => exact ⟨rfl, rfl⟩
    | cons c cs => simp [stops c rfl]
  rw [skipWhile, List.takeWhile_append_of_pos all, List.dropWhile_append_of_pos all, taken.1,
    taken.2, List.append_nil]

/-! ## Passes -/

/-- Whether a character may stand in an attribute name, in the eyes of the scan. -/
def inAttributeName (c : Char) : Bool := c != '=' && !isAsciiBlank c && c != '>'

/-- The place of the next attribute name, unless the tag ends before it. -/
def nextName? (s : Place) : Option Place :=
  let t := skipWhile isAsciiBlank s.1 s.2
  if t.2.head?.all fun c => c = '>' ∨ c = '/' then none else some t

/-- The place behind the attribute whose name stands at a place. -/
def skipAttribute (s : Place) : Place :=
  let s := skipWhile inAttributeName s.1 s.2
  let s := skipWhile isAsciiBlank s.1 s.2
  let s := skipEquals s.1 s.2
  let s := skipWhile isAsciiBlank s.1 s.2
  skipQuoted s.1 s.2

theorem attributeOffsetsFrom_succ (fuel : Nat) (s : Place) :
    attributeOffsetsFrom (fuel + 1) s.1 s.2 = (nextName? s).elim [] fun t =>
      t.1 :: attributeOffsetsFrom fuel (skipAttribute t).1 (skipAttribute t).2 := by
  rw [attributeOffsetsFrom, nextName?]
  dsimp only
  generalize skipWhile isAsciiBlank s.1 s.2 = t
  obtain ⟨start, cs⟩ := t
  cases cs with
  | nil => rfl
  | cons c cs =>
    by_cases ends : c = '>' ∨ c = '/'
    · simp [ends]
    · simp only [ends, if_false, List.head?_cons, Option.all_some, decide_false, Bool.false_eq_true]
      rfl

/-- Before the name there are only blanks, and the name does not start like the end of the tag. -/
theorem nextName?_spec {s t : Place} (h : nextName? s = some t) :
    Moves s t ∧ ∃ c cs, t.2 = c :: cs ∧ isAsciiBlank c = false ∧ c ≠ '>' ∧ c ≠ '/' := by
  unfold nextName? at h
  dsimp only at h
  split at h
  · cases h
  · rename_i goesOn
    obtain rfl := Option.some.inj h
    refine ⟨moves_skipWhile _ s, ?_⟩
    have stopped := List.head?_dropWhile_not isAsciiBlank s.2
    unfold skipWhile at goesOn ⊢
    dsimp only at goesOn ⊢
    cases left : s.2.dropWhile isAsciiBlank with
    | nil => simp [left] at goesOn
    | cons c cs =>
      rw [left] at goesOn stopped
      exact ⟨c, cs, rfl, stopped, by simpa using goesOn⟩

theorem moves_skipAttribute (s : Place) : Moves s (skipAttribute s) :=
  (moves_skipWhile _ s).trans <| (moves_skipWhile _ _).trans <| (moves_skipEquals _).trans <|
    (moves_skipWhile _ _).trans (moves_skipQuoted _)

/-- A pass takes at least one character: one of the name, or the equals sign in its place. -/
theorem skipAttribute_progress {s : Place} {c : Char} {cs : List Char} (h : s.2 = c :: cs)
    (blank : isAsciiBlank c = false) (ends : c ≠ '>') :
    s.1 < (skipAttribute s).1 ∧ (skipAttribute s).2.length < s.2.length := by
  obtain ⟨offset, text⟩ := s
  dsimp only at h
  subst h
  have size := c.utf8Size_pos
  by_cases equals : c = '='
  · subst equals
    have reached : Moves (offset + 1, cs) (skipAttribute (offset, '=' :: cs)) :=
      (moves_skipWhile _ _).trans (moves_skipQuoted _)
    have le := reached.le
    have length_le := reached.length_le
    dsimp only at le length_le ⊢
    exact ⟨by omega, by rw [List.length_cons]; omega⟩
  · have inName : inAttributeName c = true := by simp [inAttributeName, equals, blank, ends]
    have first : skipWhile inAttributeName offset (c :: cs) =
        skipWhile inAttributeName (offset + c.utf8Size) cs := by
      simp [skipWhile, inName, Nat.add_assoc]
    have reached : Moves (offset + c.utf8Size, cs) (skipAttribute (offset, c :: cs)) := by
      unfold skipAttribute
      dsimp only
      rw [first]
      exact (moves_skipWhile _ (offset + c.utf8Size, cs)).trans <| (moves_skipWhile _ _).trans <|
        (moves_skipEquals _).trans <| (moves_skipWhile _ _).trans (moves_skipQuoted _)
    have le := reached.le
    have length_le := reached.length_le
    dsimp only at le length_le ⊢
    exact ⟨by omega, by rw [List.length_cons]; omega⟩

/-! ## Scans -/

/-- A scan from a place that has come to its end, with the offsets that it has found. -/
inductive Scan : Place → List Nat → Prop where
  | stop {s : Place} (ends : nextName? s = none) : Scan s []
  | pass {s t : Place} {offsets : List Nat} (found : nextName? s = some t)
      (rest : Scan (skipAttribute t) offsets) : Scan s (t.1 :: offsets)

/-- A scan needs no more passes than there are characters. -/
theorem scan_attributeOffsetsFrom {fuel : Nat} {s : Place} (h : s.2.length ≤ fuel) :
    Scan s (attributeOffsetsFrom fuel s.1 s.2) := by
  induction fuel generalizing s with
  | zero =>
    obtain ⟨offset, cs⟩ := s
    obtain rfl : cs = [] := List.eq_nil_of_length_eq_zero (Nat.le_zero.1 h)
    exact .stop rfl
  | succ fuel ih =>
    rw [attributeOffsetsFrom_succ]
    cases found : nextName? s with
    | none => exact .stop found
    | some t =>
      obtain ⟨moves, c, cs, text, blank, ends, -⟩ := nextName?_spec found
      have shorter := (skipAttribute_progress text blank ends).2
      have length_le := moves.length_le
      exact .pass found (ih (by omega))

/-- A scan is determined by the place where it starts. -/
theorem Scan.unique {s : Place} {offsets offsets' : List Nat} (h : Scan s offsets)
    (h' : Scan s offsets') : offsets = offsets' := by
  induction h generalizing offsets' with
  | stop ends =>
    cases h' with
    | stop => rfl
    | pass found => rw [ends] at found; cases found
  | pass found _ ih =>
    cases h' with
    | stop ends => rw [ends] at found; cases found
    | pass found' rest' =>
      obtain rfl := Option.some.inj (found.symm.trans found')
      rw [ih rest']

/-- The offsets that a scan finds grow, and they lie in the text. -/
theorem Scan.bounds {s : Place} {offsets : List Nat} (h : Scan s offsets) {total : Nat}
    (fits : s.2 = [] ∨ s.1 + byteLength s.2 = total) :
    offsets.Pairwise (· < ·) ∧ ∀ offset ∈ offsets, s.1 ≤ offset ∧ offset < total := by
  induction h with
  | stop => simp
  | @pass s t offsets found _ ih =>
    obtain ⟨moves, c, cs, text, blank, ends, -⟩ := nextName?_spec found
    have further := (skipAttribute_progress text blank ends).1
    have moves' := moves_skipAttribute t
    have le := moves.le
    have size := c.utf8Size_pos
    -- there is text left at the name, so the offset has kept in step with it
    have left : t.2 ≠ [] := by simp [text]
    have here : t.1 + byteLength t.2 = total :=
      (moves.total.resolve_left left).trans (fits.resolve_left fun done => left (moves.eq_nil done))
    obtain ⟨sorted, within⟩ := ih (moves'.total.imp_right fun same => same.trans here)
    rw [text, byteLength_cons] at here
    refine ⟨List.pairwise_cons.2 ⟨fun offset mem => ?_, sorted⟩,
      List.forall_mem_cons.2 ⟨⟨le, by omega⟩, fun offset mem => ?_⟩⟩
    · have := (within offset mem).1
      omega
    · have := within offset mem
      omega

/-! ## The start of a scan -/

/-- The place behind the name of the tag that starts at byte `tag`. -/
def behindTagName (text : List Char) (tag : Nat) : Place :=
  let s := dropToBoundary (tag + 1) text
  skipWhile (!endsTagName ·) s.1 s.2

theorem attributeOffsets_eq (text : List Char) (tag : Nat) :
    attributeOffsets text tag =
      attributeOffsetsFrom (behindTagName text tag).2.length (behindTagName text tag).1
        (behindTagName text tag).2 := rfl

theorem dropToBoundary_spec (n : Nat) (cs : List Char) :
    (dropToBoundary n cs).2 = [] ∨
      n ≤ (dropToBoundary n cs).1 ∧
        (dropToBoundary n cs).1 + byteLength (dropToBoundary n cs).2 = byteLength cs := by
  fun_induction dropToBoundary n cs with
  | case1 cs => simp
  | case2 n => simp
  | case3 n c cs k rest found ih =>
    rw [found] at ih
    dsimp only at ih ⊢
    rcases ih with done | ⟨le, total⟩
    · exact .inl done
    · exact .inr ⟨by omega, by rw [byteLength_cons]; omega⟩

theorem dropToBoundary_byteLength (front rest : List Char) :
    dropToBoundary (byteLength front) (front ++ rest) = (byteLength front, rest) := by
  induction front with
  | nil => cases rest <;> rfl
  | cons c cs ih =>
    have size := c.utf8Size_pos
    obtain ⟨n, hn⟩ : ∃ n, byteLength (c :: cs) = n + 1 := ⟨byteLength (c :: cs) - 1, by simp; omega⟩
    rw [hn, List.cons_append, dropToBoundary, ← hn, byteLength_cons, Nat.add_sub_cancel_left, ih]

theorem behindTagName_fits (text : List Char) (tag : Nat) :
    (behindTagName text tag).2 = [] ∨ tag < (behindTagName text tag).1 ∧
      (behindTagName text tag).1 + byteLength (behindTagName text tag).2 = byteLength text := by
  have moves : Moves (dropToBoundary (tag + 1) text) (behindTagName text tag) := moves_skipWhile _ _
  have le := moves.le
  rcases dropToBoundary_spec (tag + 1) text with done | ⟨behind, total⟩
  · exact .inl (moves.eq_nil done)
  · exact moves.total.imp_right fun same => ⟨by omega, same.trans total⟩

theorem scan_attributeOffsets (text : List Char) (tag : Nat) :
    Scan (behindTagName text tag) (attributeOffsets text tag) := by
  rw [attributeOffsets_eq]
  exact scan_attributeOffsetsFrom le_rfl

/-! ## Written tags -/

/-- An attribute as it is written in a start tag, with the blanks before its name. -/
structure WrittenAttribute where
  space : List Char
  name : List Char
  beforeEquals : List Char
  afterEquals : List Char
  quote : Char
  value : List Char
  space_ne_nil : space ≠ []
  space_blank : ∀ c ∈ space, isAsciiBlank c = true
  name_ne_nil : name ≠ []
  name_plain : ∀ c ∈ name, c ≠ '=' ∧ isAsciiBlank c = false ∧ c ≠ '>'
  name_start : name.head? ≠ some '/'
  beforeEquals_blank : ∀ c ∈ beforeEquals, isAsciiBlank c = true
  afterEquals_blank : ∀ c ∈ afterEquals, isAsciiBlank c = true
  quote_eq : quote = '"' ∨ quote = '\''
  value_plain : ∀ c ∈ value, c ≠ quote

namespace WrittenAttribute

variable (a : WrittenAttribute)

/-- What follows the name of the attribute, up to its closing quote. -/
def tail : List Char :=
  a.beforeEquals ++ '=' :: (a.afterEquals ++ a.quote :: (a.value ++ [a.quote]))

/-- The attribute as it is written. -/
def text : List Char := a.space ++ (a.name ++ a.tail)

theorem quote_spec : a.quote.utf8Size = 1 ∧ isAsciiBlank a.quote = false := by
  rcases a.quote_eq with quote | quote <;> rw [quote] <;> exact ⟨rfl, rfl⟩

theorem skipQuoted_value (offset : Nat) (rest : List Char) :
    skipQuoted offset (a.quote :: (a.value ++ a.quote :: rest)) =
      (offset + byteLength (a.quote :: (a.value ++ [a.quote])), rest) := by
  have inside : skipWhile (· != a.quote) (offset + 1) (a.value ++ a.quote :: rest) =
      (offset + 1 + byteLength a.value, a.quote :: rest) :=
    skipWhile_append _ (fun c mem => by simpa using a.value_plain c mem) (by simp)
  have size := a.quote_spec.1
  have stop : skipQuoted offset (a.quote :: (a.value ++ a.quote :: rest)) =
      ((skipWhile (· != a.quote) (offset + 1) (a.value ++ a.quote :: rest)).1 + 1,
        (skipWhile (· != a.quote) (offset + 1) (a.value ++ a.quote :: rest)).2.drop 1) := by
    rcases a.quote_eq with quote | quote <;> rw [quote] <;> rfl
  rw [stop, inside]
  simp [size]
  omega

/-- A pass goes over exactly one attribute. -/
theorem skipAttribute_text (offset : Nat) (rest : List Char) :
    skipAttribute (offset, a.name ++ a.tail ++ rest) =
      (offset + byteLength (a.name ++ a.tail), rest) := by
  have text : a.name ++ a.tail ++ rest = a.name ++ (a.beforeEquals ++ '=' :: (a.afterEquals ++
      a.quote :: (a.value ++ a.quote :: rest))) := by simp [tail]
  have ofName (after : List Char) : skipWhile inAttributeName offset
      (a.name ++ (a.beforeEquals ++ '=' :: after)) =
        (offset + byteLength a.name, a.beforeEquals ++ '=' :: after) := by
    refine skipWhile_append _ (fun c mem => ?_) fun c head => ?_
    · simp [inAttributeName, a.name_plain c mem]
    · cases hblank : a.beforeEquals with
      | nil =>
        obtain rfl : '=' = c := by simpa [hblank] using head
        rfl
      | cons d ds =>
        obtain rfl : d = c := by simpa [hblank] using head
        simp [inAttributeName, a.beforeEquals_blank d (by simp [hblank])]
  have ofBlank (offset : Nat) (after : List Char) :
      skipWhile isAsciiBlank offset (a.beforeEquals ++ '=' :: after) =
        (offset + byteLength a.beforeEquals, '=' :: after) :=
    skipWhile_append _ a.beforeEquals_blank (by simp; rfl)
  have ofBlank' (offset : Nat) (after : List Char) :
      skipWhile isAsciiBlank offset (a.afterEquals ++ a.quote :: after) =
        (offset + byteLength a.afterEquals, a.quote :: after) :=
    skipWhile_append _ a.afterEquals_blank (by simp [a.quote_spec.2])
  rw [text, skipAttribute]
  dsimp only
  rw [ofName, ofBlank, skipEquals, ofBlank', skipQuoted_value]
  have size : '='.utf8Size = 1 := rfl
  simp [tail, size]
  omega

theorem nextName?_text (offset : Nat) (rest : List Char) :
    nextName? (offset, a.text ++ rest) =
      some (offset + byteLength a.space, a.name ++ a.tail ++ rest) := by
  obtain ⟨c, cs, name⟩ := List.exists_cons_of_ne_nil a.name_ne_nil
  have plain := a.name_plain c (by simp [name])
  have start : c ≠ '/' := by
    rintro rfl
    exact a.name_start (by simp [name])
  have ofSpace : skipWhile isAsciiBlank offset (a.space ++ (a.name ++ a.tail ++ rest)) =
      (offset + byteLength a.space, a.name ++ a.tail ++ rest) :=
    skipWhile_append _ a.space_blank (by simp [name, plain])
  rw [nextName?, text, List.append_assoc a.space]
  dsimp only
  rw [ofSpace, if_neg]
  simp [name, plain, start]

end WrittenAttribute

/-- A start tag as it is written, up to its end. -/
structure WrittenTag where
  name : List Char
  attributes : List WrittenAttribute
  space : List Char
  selfClosing : Bool
  name_plain : ∀ c ∈ name, isAsciiBlank c = false ∧ c ≠ '>' ∧ c ≠ '/'
  space_blank : ∀ c ∈ space, isAsciiBlank c = true

namespace WrittenTag

variable (t : WrittenTag)

/-- The end of the tag, with the blanks before it. -/
def ending : List Char := t.space ++ if t.selfClosing then ['/', '>'] else ['>']

/-- The tag as it is written. -/
def text : List Char := '<' :: (t.name ++ (t.attributes.flatMap (·.text) ++ t.ending))

theorem nextName?_ending (offset : Nat) (after : List Char) :
    nextName? (offset, t.ending ++ after) = none := by
  have close (c : Char) (cs : List Char) (h : c = '>' ∨ c = '/') :
      nextName? (offset, t.space ++ c :: cs) = none := by
    have ofSpace : skipWhile isAsciiBlank offset (t.space ++ c :: cs) =
        (offset + byteLength t.space, c :: cs) :=
      skipWhile_append _ t.space_blank (by rcases h with rfl | rfl <;> simp <;> rfl)
    rw [nextName?]
    dsimp only
    rw [ofSpace, if_pos]
    simpa using h
  rw [ending]
  cases t.selfClosing with
  | true => simpa using close '/' ('>' :: after) (.inr rfl)
  | false => simpa using close '>' after (.inl rfl)

end WrittenTag

/-- The offsets of the names of attributes that are written one behind the other. -/
def nameOffsets : Nat → List WrittenAttribute → List Nat
  | _, [] => []
  | offset, a :: as => (offset + byteLength a.space) :: nameOffsets (offset + byteLength a.text) as

theorem length_nameOffsets (offset : Nat) (as : List WrittenAttribute) :
    (nameOffsets offset as).length = as.length := by
  induction as generalizing offset with
  | nil => rfl
  | cons a as ih => rw [nameOffsets, List.length_cons, ih, List.length_cons]

theorem nameOffsets_getElem? (offset : Nat) (front : List WrittenAttribute) (a : WrittenAttribute)
    (back : List WrittenAttribute) :
    (nameOffsets offset (front ++ a :: back))[front.length]? =
      some (offset + byteLength (front.flatMap (·.text) ++ a.space)) := by
  induction front generalizing offset with
  | nil => simp [nameOffsets]
  | cons b front ih =>
    rw [List.cons_append, nameOffsets, List.length_cons, List.getElem?_cons_succ, ih]
    simp [Nat.add_assoc]

/-- The scan of a written tag finds the names of its attributes. -/
theorem scan_written {ending : List Char} (ends : ∀ offset, nextName? (offset, ending) = none)
    (as : List WrittenAttribute) (offset : Nat) :
    Scan (offset, as.flatMap (·.text) ++ ending) (nameOffsets offset as) := by
  induction as generalizing offset with
  | nil => exact .stop (ends offset)
  | cons a as ih =>
    have found := a.nextName?_text offset (as.flatMap (·.text) ++ ending)
    rw [← List.append_assoc] at found
    refine .pass found ?_
    rw [a.skipAttribute_text]
    have behind : offset + byteLength a.space + byteLength (a.name ++ a.tail) =
        offset + byteLength a.text := by simp [WrittenAttribute.text, Nat.add_assoc]
    rw [behind]
    exact ih _

/-- What follows the name of a written tag ends the name. -/
theorem WrittenTag.endsTagName_head (t : WrittenTag) (after : List Char) :
    ∀ c ∈ (t.attributes.flatMap (·.text) ++ (t.ending ++ after)).head?, endsTagName c = true := by
  have blank {c : Char} (h : isAsciiBlank c = true) : endsTagName c = true := by
    simp [endsTagName, h]
  intro c head
  cases hattributes : t.attributes with
  | cons a as =>
    obtain ⟨d, ds, space⟩ := List.exists_cons_of_ne_nil a.space_ne_nil
    obtain rfl : d = c := by simpa [hattributes, WrittenAttribute.text, space] using head
    exact blank (a.space_blank d (by simp [space]))
  | nil =>
    rw [hattributes, WrittenTag.ending] at head
    cases hspace : t.space with
    | cons d ds =>
      obtain rfl : d = c := by simpa [hspace] using head
      exact blank (t.space_blank d (by simp [hspace]))
    | nil =>
      rw [hspace] at head
      cases hclosing : t.selfClosing <;> rw [hclosing] at head <;>
        obtain rfl := Option.some.inj head <;> rfl

theorem behindTagName_written (before : List Char) (t : WrittenTag) (after : List Char) :
    behindTagName (before ++ t.text ++ after) (byteLength before) =
      (byteLength (before ++ '<' :: t.name),
        t.attributes.flatMap (·.text) ++ (t.ending ++ after)) := by
  have size : '<'.utf8Size = 1 := rfl
  have text : before ++ t.text ++ after = (before ++ ['<']) ++
      (t.name ++ (t.attributes.flatMap (·.text) ++ (t.ending ++ after))) := by
    simp [WrittenTag.text]
  have front : byteLength before + 1 = byteLength (before ++ ['<']) := by simp [size]
  have name : skipWhile (!endsTagName ·) (byteLength (before ++ ['<']))
      (t.name ++ (t.attributes.flatMap (·.text) ++ (t.ending ++ after))) =
        (byteLength (before ++ ['<']) + byteLength t.name,
          t.attributes.flatMap (·.text) ++ (t.ending ++ after)) := by
    refine skipWhile_append _ (fun c mem => ?_) fun c head => ?_
    · simp [endsTagName, t.name_plain c mem]
    · simp [t.endsTagName_head after c head]
  rw [behindTagName, text, front, dropToBoundary_byteLength]
  dsimp only
  rw [name]
  simp [Nat.add_assoc]

/-- The offsets of the attributes of a start tag.

Whatever the text and wherever the scan starts, it comes to an end, and the offsets that it finds
grow and lie behind the start of the tag and in the text.  On a tag that is written as it should be,
they are the offsets of the attribute names, one for each attribute, in order. -/
theorem attributeOffsets_spec :
    (∀ text tag, Scan (behindTagName text tag) (attributeOffsets text tag) ∧
      (attributeOffsets text tag).Pairwise (· < ·) ∧
      ∀ offset ∈ attributeOffsets text tag, tag < offset ∧ offset < byteLength text) ∧
    ∀ (before : List Char) (t : WrittenTag) (after : List Char),
      (attributeOffsets (before ++ t.text ++ after) (byteLength before)).length =
        t.attributes.length ∧
      ∀ front a back, t.attributes = front ++ a :: back →
        (attributeOffsets (before ++ t.text ++ after) (byteLength before))[front.length]? =
          some (byteLength (before ++ '<' :: t.name ++ front.flatMap (·.text) ++ a.space)) := by
  refine ⟨fun text tag => ?_, fun before t after => ?_⟩
  · have scan := scan_attributeOffsets text tag
    have fits := behindTagName_fits text tag
    obtain ⟨sorted, within⟩ := scan.bounds (fits.imp_right And.right)
    refine ⟨scan, sorted, fun offset mem => ?_⟩
    have := within offset mem
    rcases fits with done | ⟨behind, -⟩
    · -- nothing is left to scan
      have none := scan.unique (.stop (by simp [nextName?, skipWhile, done]))
      simp [none] at mem
    · omega
  · have scan := scan_attributeOffsets (before ++ t.text ++ after) (byteLength before)
    rw [behindTagName_written] at scan
    have offsets := scan.unique (scan_written (fun offset => t.nextName?_ending offset after)
      t.attributes (byteLength (before ++ '<' :: t.name)))
    rw [offsets]
    refine ⟨length_nameOffsets _ _, fun front a back split => ?_⟩
    rw [split, nameOffsets_getElem?]
    simp [Nat.add_assoc]

/-- An attribute whose value holds the end of a tag, and one with blanks around its equals sign. -/
theorem attributeOffsets_spec_sample :
    let x : WrittenAttribute :=
      { space := [' ', ' '], name := ['x'], beforeEquals := [], afterEquals := [], quote := '\''
        value := ['/', '>', '"']
        space_ne_nil := by simp, space_blank := by simp [isAsciiBlank, isSpace]
        name_ne_nil := by simp, name_plain := by simp [isAsciiBlank, isSpace]
        name_start := by simp, beforeEquals_blank := by simp, afterEquals_blank := by simp
        quote_eq := by simp, value_plain := by simp }
    let y : WrittenAttribute :=
      { space := ['\n'], name := ['é', '/'], beforeEquals := [' '], afterEquals := ['\t']
        quote := '"', value := ['=']
        space_ne_nil := by simp, space_blank := by simp [isAsciiBlank, isSpace]
        name_ne_nil := by simp, name_plain := by simp [isAsciiBlank, isSpace]
        name_start := by simp, beforeEquals_blank := by simp [isAsciiBlank, isSpace]
        afterEquals_blank := by simp [isAsciiBlank, isSpace], quote_eq := by simp
        value_plain := by simp }
    let t : WrittenTag :=
      { name := ['a'], attributes := [x, y], space := [], selfClosing := true
        name_plain := by simp [isAsciiBlank, isSpace], space_blank := by simp }
    let offsets := attributeOffsets (['é'] ++ t.text ++ ['b', '=', '"']) 2
    String.ofList t.text = "<a  x='/>\"'\né/ =\t\"=\"/>" ∧
      offsets.Pairwise (· < ·) ∧ offsets[0]? = some 6 ∧ offsets[1]? = some 14 := by
  intro x y t offsets
  obtain ⟨any, written⟩ := attributeOffsets_spec
  obtain ⟨-, found⟩ := written ['é'] t ['b', '=', '"']
  have text : String.ofList t.text = "<a  x='/>\"'\né/ =\t\"=\"/>" := by decide +kernel
  refine ⟨text, (any _ 2).2.1, (found [] x [y] rfl).trans ?_, (found [x] y [] rfl).trans ?_⟩
  · decide +kernel
  · decide +kernel

end XmlSchema.Xml
