import XmlSchema.Validation.Finding

/-!
# The wording of findings

A reader of a report sees messages and not findings.  Messages about unavailable schemas begin with
words of their own, `unavailableOpening`; already the first two characters of all other messages are
different.  So these findings are known by their messages (`Remark.isUnavailability_toIssue`).
-/

namespace XmlSchema

/-- How messages begin that say that a schema is not available. -/
def unavailableOpening : String := "Cannot load the schema for the namespace '"

/-- The message says that a schema is not available. -/
def Issue.isUnavailability (i : Issue) : Bool :=
  unavailableOpening.toList.isPrefixOf i.message.toList

/-- The text begins with the two characters. -/
def Starts (c d : Char) (text : String) : Prop := ∃ rest, text.toList = c :: d :: rest

/-- The text begins unlike a message about an unavailable schema. -/
def StartsApart (text : String) : Prop := ∃ c d, Starts c d text ∧ (c, d) ≠ ('C', 'a')

variable {c d : Char} {text : String}

theorem starts_ofList (c d : Char) (cs : List Char) : Starts c d (String.ofList (c :: d :: cs)) :=
  ⟨cs, String.toList_ofList⟩

theorem Starts.append (h : Starts c d text) (rest : String) : Starts c d (text ++ rest) := by
  obtain ⟨cs, h⟩ := h
  refine ⟨cs ++ rest.toList, ?_⟩
  rw [String.toList_append, h, List.cons_append, List.cons_append]

theorem Starts.capitalize (h : Starts c d text) : Starts c.toUpper d (Xml.capitalize text) := by
  obtain ⟨cs, h⟩ := h
  unfold Xml.capitalize
  rw [h]
  exact starts_ofList _ _ cs

theorem startsApart_ofList (c d : Char) (cs : List Char) (h : (c, d) ≠ ('C', 'a')) :
    StartsApart (String.ofList (c :: d :: cs)) :=
  ⟨c, d, starts_ofList c d cs, h⟩

theorem StartsApart.append (h : StartsApart text) (rest : String) : StartsApart (text ++ rest) := by
  obtain ⟨c, d, starts, apart⟩ := h
  exact ⟨c, d, starts.append rest, apart⟩

theorem StartsApart.sentence (h : StartsApart text) : StartsApart (Finding.sentence text) := by
  unfold Finding.sentence
  split
  · exact h
  · exact h.append "."

theorem StartsApart.not_prefix (h : StartsApart text) :
    unavailableOpening.toList.isPrefixOf text.toList = false := by
  obtain ⟨c, d, ⟨rest, starts⟩, apart⟩ := h
  have opening : Starts 'C' 'a' unavailableOpening := starts_ofList _ _ _
  obtain ⟨words, opening⟩ := opening
  rw [opening, starts, List.isPrefixOf_cons_cons, List.isPrefixOf_cons_cons]
  have differ : ¬ ('C' = c ∧ 'a' = d) := by
    rintro ⟨rfl, rfl⟩
    exact apart rfl
  grind

theorem startsApart_quoted (name : String) {rest : String} (h : Starts c d rest) :
    StartsApart ("'" ++ name ++ rest) := by
  obtain ⟨cs, h⟩ := h
  have quote : "'".toList = ['\''] := String.toList_ofList
  have text : ("'" ++ name ++ rest).toList = '\'' :: (name.toList ++ c :: d :: cs) := by
    rw [String.toList_append, String.toList_append, quote, h, List.append_assoc,
      List.singleton_append]
  cases hname : name.toList with
  | nil => exact ⟨'\'', c, ⟨d :: cs, by rw [text, hname, List.nil_append]⟩, by simp⟩
  | cons e es =>
    exact ⟨'\'', e, ⟨es ++ c :: d :: cs, by rw [text, hname, List.cons_append]⟩, by simp⟩

/-! ## Errors and faults -/

theorem SchemaError.startsApart (e : SchemaError) : StartsApart e.message := by
  cases e with
  | notFound | unsupportedLocation =>
    iterate 2 apply StartsApart.append
    exact startsApart_ofList _ _ _ (by decide)
  | unreadable | malformed | invalid | namespaceMismatch =>
    iterate 3 apply StartsApart.append
    exact startsApart_ofList _ _ _ (by decide)

theorem Xml.MarkupError.startsApart (e : Xml.MarkupError) :
    StartsApart (Xml.capitalize e.message) := by
  cases e with
  | unclosedInstruction => exact ⟨_, _, ((starts_ofList _ _ _).append _).capitalize, by decide⟩
  | _ => exact ⟨_, _, (starts_ofList _ _ _).capitalize, by decide⟩

theorem Xml.AttributeError.startsApart (e : Xml.AttributeError) :
    StartsApart (Xml.capitalize e.message) := by
  have starts : Starts 'p' 'o' e.message := by
    cases e with
    | expectedEquals | expectedValue | unquotedValue =>
      exact ((starts_ofList _ _ _).append _).append _
    | duplicate => exact (((starts_ofList _ _ _).append _).append _).append _
    | unclosedValue => exact ((((starts_ofList _ _ _).append _).append _).append _).append _
  exact ⟨_, _, starts.capitalize, by decide⟩

theorem Xml.Reference.Error.startsApart (e : Xml.Reference.Error) :
    StartsApart (Xml.capitalize e.message) := by
  cases e with
  | unterminated =>
    exact ⟨_, _, (((((starts_ofList _ _ _).append _).append _).append _).append _).capitalize,
      by decide⟩
  | unknownEntity =>
    exact ⟨_, _, (((((((starts_ofList _ _ _).append _).append _).append _).append _).append
      _).append _).capitalize, by decide⟩
  | sign | nul => exact ⟨_, _, (starts_ofList _ _ _).capitalize, by decide⟩
  | number => exact ⟨_, _, ((starts_ofList _ _ _).append _).capitalize, by decide⟩
  | codePoint => exact ⟨_, _, (((starts_ofList _ _ _).append _).append _).capitalize, by decide⟩

theorem Xml.FaultCause.startsApart (cause : Xml.FaultCause) : StartsApart cause.message := by
  cases cause with
  | markup e => exact e.startsApart
  | attributeList e => exact e.startsApart
  | reference e => exact e.startsApart
  | multipleRoots | rootLevelText | unexpectedEndTag =>
    exact startsApart_ofList _ _ _ (by decide)
  | undeclaredPrefix name => exact startsApart_quoted name (starts_ofList _ _ _)
  | unclosedElements =>
    iterate 2 apply StartsApart.append
    exact startsApart_ofList _ _ _ (by decide)
  | mismatchedEndTag =>
    iterate 7 apply StartsApart.append
    exact startsApart_ofList _ _ _ (by decide)

/-! ## Findings -/

theorem Finding.startsApart {f : Finding} (h : ∀ name e, f ≠ .schemaUnavailable name e) :
    StartsApart f.message := by
  cases f with
  | schemaUnavailable name e => exact absurd rfl (h name e)
  | malformed cause place =>
    have message := cause.startsApart.sentence
    exact message.append _
  | inlineSchema e => exact e.startsApart
  | missingRoot => exact startsApart_ofList _ _ _ (by decide)
  | danglingNamespace | nilNotAllowed =>
    apply StartsApart.append
    exact startsApart_ofList _ _ _ (by decide)
  | nilContent | undeclaredElement | unknownElement | unknownAttribute | abstractElement
  | invalidType | undeclaredAttribute | missingAttribute | attributeFixed | textInEmpty
  | elementFixed =>
    iterate 2 apply StartsApart.append
    exact startsApart_ofList _ _ _ (by decide)
  | attributeValue | elementValue | textInElements | incomplete =>
    iterate 3 apply StartsApart.append
    exact startsApart_ofList _ _ _ (by decide)
  | childOfEmpty | childOfSimple | unexpectedChild =>
    iterate 5 apply StartsApart.append
    exact startsApart_ofList _ _ _ (by decide)

/-- A message about an unavailable schema is known by its first words. -/
theorem Remark.isUnavailability_toIssue (cs : List Char) (r : Remark) :
    (r.toIssue cs).isUnavailability = true ↔
      ∃ name e, r.finding = .schemaUnavailable name e := by
  change unavailableOpening.toList.isPrefixOf r.finding.message.toList = true ↔ _
  by_cases h : ∃ name e, r.finding = .schemaUnavailable name e
  · obtain ⟨name, e, finding⟩ := h
    have message : (Finding.schemaUnavailable name e).message =
        unavailableOpening ++ name ++ "' - " ++ e.message := rfl
    refine ⟨fun _ => ⟨name, e, finding⟩, fun _ => ?_⟩
    rw [finding, message, String.toList_append, String.toList_append, String.toList_append,
      List.isPrefixOf_iff_prefix, List.append_assoc, List.append_assoc]
    exact List.prefix_append _ _
  · have apart : StartsApart r.finding.message :=
      Finding.startsApart fun name e finding => h ⟨name, e, finding⟩
    rw [apart.not_prefix]
    exact ⟨fun opens => absurd opens Bool.false_ne_true, fun unavailable => absurd unavailable h⟩

end XmlSchema
