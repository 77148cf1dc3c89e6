import XmlSchema.Proofs.Datatype.Bounds
import XmlSchema.Proofs.Datatype.Rounding

/-!
# Enumerations

A restriction may list its values as literals.  The literals are stored as they stand
(`facets_of_onlyEnumerates`), but a value is compared with them when its white space has been
normalised.

Numbers are compared by what they denote, whatever stands around them, so a restriction of a numeric
type accepts every literal that the type itself accepts.  A restriction of another type finds a
literal only if the normal form of it is listed, too (`checkValue_literal_iff`).  So a literal with
blanks around it is refused by its own enumeration, unless this lists it without them as well.
-/

namespace XmlSchema

open Text

/-! ## Texts of one word -/

theorem isBlank_of_words_eq_nil {cs : List Char} (h : words cs = []) :
    ∀ c ∈ cs, isBlank c = true := by
  fun_induction words cs with
  | case1 => simp
  | case2 c cs blank ih => exact List.forall_mem_cons.2 ⟨blank, ih h⟩
  | case3 | case4 => simp at h
  | case5 c solid d cs _ first rest read ih => simp [read] at h
  | case6 c solid d cs _ read ih => simp [read] at h

/-- The first word stands behind blank characters. -/
theorem exists_of_words_eq_cons {cs w : List Char} {ws : List (List Char)}
    (h : words cs = w :: ws) :
    ∃ before rest, cs = before ++ (w ++ rest) ∧ (∀ c ∈ before, isBlank c = true) ∧
      words rest = ws := by
  fun_induction words cs generalizing w ws with
  | case1 => simp at h
  | case2 c cs blank ih =>
    obtain ⟨before, rest, rfl, blanks, later⟩ := ih h
    exact ⟨c :: before, rest, rfl, List.forall_mem_cons.2 ⟨blank, blanks⟩, later⟩
  | case3 c solid =>
    obtain ⟨rfl, rfl⟩ := List.cons.inj h
    exact ⟨[], [], rfl, by simp, rfl⟩
  | case4 c solid d cs blank ih =>
    obtain ⟨rfl, rfl⟩ := List.cons.inj h
    exact ⟨[], d :: cs, rfl, by simp, rfl⟩
  | case5 c solid d cs solid' first rest read ih =>
    rw [read] at h
    obtain ⟨rfl, rfl⟩ := List.cons.inj h
    obtain ⟨before, rest', split, blanks, later⟩ := ih read
    cases before with
    | nil => exact ⟨[], rest', congrArg (c :: ·) split, by simp, later⟩
    | cons b before =>
      obtain ⟨rfl, -⟩ := List.cons.inj split
      exact absurd (blanks d (by simp)) solid'
  | case6 c solid d cs _ read ih =>
    rw [read] at h
    obtain ⟨rfl, rfl⟩ := List.cons.inj h
    exact ⟨[], d :: cs, rfl, by simp, read⟩

/-- To trim a text of one word is to take the word. -/
theorem trim_of_words {cs w : List Char} (h : words cs = [w]) : trim cs = w := by
  obtain ⟨before, rest, rfl, blanks, later⟩ := exists_of_words_eq_cons h
  have word : IsWord w := isWord_of_mem_words (by rw [h]; simp)
  have start : (w ++ rest).dropWhile isBlank = w ++ rest := by
    refine dropWhile_of_head? fun c hc => ?_
    rw [List.head?_append_of_ne_nil _ word.1] at hc
    exact word.2 c (List.mem_of_head? hc)
  have stop : w.reverse.dropWhile isBlank = w.reverse :=
    dropWhile_of_head? fun c hc => word.2 c (List.mem_reverse.1 (List.mem_of_head? hc))
  have behind : ∀ c ∈ rest.reverse, isBlank c = true := fun c hc =>
    isBlank_of_words_eq_nil later c (List.mem_reverse.1 hc)
  unfold trim trimStart trimEnd
  rw [List.dropWhile_append_of_pos blanks, start, List.reverse_append,
    List.dropWhile_append_of_pos behind, stop, List.reverse_reverse]

/-! ## Comparing decimal numbers -/

theorem Numeral.decimal {cs : List Char} {z : Int} (h : Numeral cs z) : Decimal cs z := by
  have value (ds : List (Fin 10)) : pointNumber ds [] = digitNumber ds := by
    simp [pointNumber, digitNumber]
  have body {ds : List (Fin 10)} (nonempty : ds ≠ []) :
      UnsignedDecimal (digitText ds) (digitNumber ds) := by
    rw [← value, ← List.append_nil (digitText ds)]
    exact .digits ds .none (.inl nonempty)
  cases h with
  | unsigned ds nonempty => exact_mod_cast Decimal.unsigned (body nonempty)
  | plus ds nonempty => exact_mod_cast Decimal.plus (body nonempty)
  | minus ds nonempty => exact_mod_cast Decimal.minus (body nonempty)

theorem UnsignedDecimal.isWord {cs : List Char} {q : ℚ} (h : UnsignedDecimal cs q) : IsWord cs := by
  obtain ⟨ds, fraction, nonempty⟩ := h
  constructor
  · intro empty
    obtain ⟨no_digits, rfl⟩ := List.append_eq_nil_iff.1 empty
    cases fraction
    simp [digitText_eq_nil.1 no_digits] at nonempty
  · intro c hc
    rcases List.mem_append.1 hc with digit | behind
    · exact not_blank_of_mem_digitText digit
    · cases fraction with
      | none => simp at behind
      | point fs =>
        rcases List.mem_cons.1 behind with rfl | digit
        · rfl
        · exact not_blank_of_mem_digitText digit

theorem Decimal.isWord {cs : List Char} {q : ℚ} (h : Decimal cs q) : IsWord cs := by
  cases h with
  | unsigned h => exact h.isWord
  | plus h => exact ⟨by simp, List.forall_mem_cons.2 ⟨rfl, h.isWord.2⟩⟩
  | minus h => exact ⟨by simp, List.forall_mem_cons.2 ⟨rfl, h.isWord.2⟩⟩

/-- What collapses to a word is the word with blank characters around it. -/
theorem trim_of_isWord {s : String} (h : IsWord (WhiteSpace.collapse.normalize s).toList) :
    trim s.toList = (WhiteSpace.collapse.normalize s).toList := by
  have collapsed : (WhiteSpace.collapse.normalize s).toList = unwords (words s.toList) := by
    simp [WhiteSpace.normalize]
  rw [collapsed] at h ⊢
  cases hws : words s.toList with
  | nil =>
    rw [hws] at h
    exact absurd rfl h.1
  | cons w ws =>
    cases ws with
    | nil => exact trim_of_words hws
    | cons next ws =>
      rw [hws] at h
      have space : isBlank ' ' = false := h.2 ' ' (by simp [unwords])
      cases space

/-- A decimal number is read without sign or with a minus. -/
theorem Decimal.exists_read? {s : String} {q : ℚ} (h : Decimal s.toList q) :
    ∃ v, Binary64.read? (comparable s) = some v ∧ v ≠ .nan := by
  unfold comparable
  rw [trim_of_not_blank h.isWord.2]
  generalize s.toList = cs at h
  have no_plus {cs : List Char} {q : ℚ} (body : UnsignedDecimal cs q) :
      cs.dropWhile (· == '+') = cs := by
    obtain ⟨ds, fraction, -⟩ := body
    refine dropWhile_of_head? fun c hc => ?_
    simpa using fraction.head_ne ds (x := '+') rfl (by decide) c hc
  have read {cs : List Char} {q : ℚ} (body : UnsignedDecimal cs q) :
      ∃ v, Binary64.read? cs = some v ∧ v ≠ .nan := by
    obtain ⟨ds, fraction, nonempty⟩ := body
    have unsigned := Binary64.splitSign_digitText ds fraction
    exact ⟨_, Binary64.read?_of_splitSign unsigned fraction nonempty,
      Binary64.ofDecimal_ne_nan _ _ _⟩
  cases h with
  | unsigned body =>
    rw [no_plus body]
    exact read body
  | plus body =>
    rw [List.dropWhile_cons_of_pos rfl, no_plus body]
    exact read body
  | minus body =>
    obtain ⟨ds, fraction, nonempty⟩ := body
    exact ⟨_, Binary64.read?_of_splitSign rfl fraction nonempty, Binary64.ofDecimal_ne_nan _ _ _⟩

theorem compareNumbers_of_comparable_eq {s t : String} {q : ℚ} (h : Decimal t.toList q)
    (same : comparable s = comparable t) : compareNumbers s t = some .eq := by
  obtain ⟨v, read, number⟩ := h.exists_read?
  unfold compareNumbers
  simp only [same]
  cases int? Builtin.minInteger Builtin.maxInteger (comparable t) with
  | some x => simp
  | none =>
    simp only [read]
    cases v with
    | nan => exact absurd rfl number
    | finite units => simp [Binary64.compare?]
    | negativeInfinity | positiveInfinity => rfl

/-- What a numeric type other than the floating point types accepts is a decimal number. -/
theorem exists_decimal_of_check {b : Builtin} (numeric : b.isNumeric = true) (exact : b ≠ .float)
    (exact' : b ≠ .double) {s : String} (accepted : b.check s = .ok ()) :
    ∃ q, Decimal s.toList q := by
  cases range : b.integerRange? with
  | some bounds =>
    obtain ⟨z, numeral⟩ := Builtin.exists_numeral_of_check range accepted
    exact ⟨z, numeral.decimal⟩
  | none =>
    obtain rfl : b = .decimal := by simpa [Builtin.isNumeric, range, exact, exact'] using numeric
    rw [← isDecimal_iff]
    unfold Builtin.check at accepted
    cases form : Builtin.decimal.hasForm s.toList with
    | true => exact form
    | false => simp [form] at accepted

/-! ## Literals -/

/-- The literals of an enumeration: what the facets of a restriction have as their values. -/
def literals (element : Xml.Element) : List String :=
  element.schemaChildren.filterMap (·.attribute? "value")

/-- All facets of a restriction are enumerations. -/
def OnlyEnumerates (element : Xml.Element) : Prop :=
  ∀ child ∈ element.schemaChildren, (child.attribute? "value").isSome →
    child.name.localName = "enumeration"

theorem foldlM_literals {step : Facets → Xml.Element → ReadResult Facets}
    {children : List Xml.Element}
    (h : ∀ child ∈ children, ∀ es, step { enumeration := es } child =
      .ok { enumeration := es ++ (child.attribute? "value").toList }) (es : List String) :
    children.foldlM step { enumeration := es } =
      .ok { enumeration := es ++ children.filterMap (·.attribute? "value") } := by
  induction children generalizing es with
  | nil => simp [pure, Except.pure]
  | cons child children ih =>
    obtain ⟨first, later⟩ := List.forall_mem_cons.1 h
    rw [List.foldlM_cons, first es]
    refine (ih later _).trans ?_
    cases value : child.attribute? "value" <;> simp [value]

/-- The literals are stored as they stand. -/
theorem facets_of_onlyEnumerates {element : Xml.Element} (h : OnlyEnumerates element) :
    SchemaContext.facets element = .ok { enumeration := literals element } := by
  refine foldlM_literals (fun child hchild es => ?_) []
  cases value : child.attribute? "value" with
  | none => simp
  | some literal =>
    have facet := h child hchild (by simp [value])
    simp [SchemaContext.addFacet, facet]

/-- A value meets an enumeration if it is equal to one of the literals. -/
theorem check_enumeration_iff {es : List String} (nonempty : es ≠ []) {kind : Option ValueKind}
    {value : String} : ({ enumeration := es } : Facets).check kind value = .ok () ↔
      ∃ e ∈ es, valuesEqual (kind.bind ValueKind.builtin?) e value = true := by
  have listed : ({ enumeration := es } : Facets).checkEnumeration
      (kind.bind ValueKind.builtin?) value = .ok () ↔
      ∃ e ∈ es, valuesEqual (kind.bind ValueKind.builtin?) e value = true := by
    unfold Facets.checkEnumeration
    rw [← List.any_eq_true]
    cases es.any (valuesEqual (kind.bind ValueKind.builtin?) · value) <;> simp [nonempty]
  rw [Facets.check_eq_ok_iff, ← listed]
  constructor
  · rintro ⟨met, -⟩
    exact met
  · intro met
    exact ⟨met, rfl, rfl, rfl, rfl⟩

theorem whiteSpace_of_isNumeric {b : Builtin} (h : b.isNumeric = true) :
    b.whiteSpace = .collapse := by
  cases b with
  | anySimpleType | string | normalizedString =>
    simp [Builtin.isNumeric, Builtin.integerRange?] at h
  | _ => rfl

theorem valuesEqual_normalize_iff {b : Builtin} (exact : b ≠ .float) (exact' : b ≠ .double)
    {literal : String} (accepted : b.check (b.whiteSpace.normalize literal) = .ok ())
    {es : List String} (listed : literal ∈ es) :
    (∃ e ∈ es, valuesEqual (some b) e (b.whiteSpace.normalize literal) = true) ↔
      b.isNumeric = true ∨ b.whiteSpace.normalize literal ∈ es := by
  by_cases numeric : b.isNumeric = true
  · rw [whiteSpace_of_isNumeric numeric] at accepted ⊢
    refine iff_of_true ⟨literal, listed, ?_⟩ (.inl numeric)
    obtain ⟨q, decimal⟩ := exists_decimal_of_check numeric exact exact' accepted
    have same : comparable literal = comparable (WhiteSpace.collapse.normalize literal) := by
      unfold comparable
      rw [trim_of_isWord decimal.isWord, trim_of_not_blank decimal.isWord.2]
    simp [valuesEqual, numeric, compareNumbers_of_comparable_eq decimal same]
  · simp [valuesEqual, numeric]

/-- A literal of an enumeration that a built-in type accepts, neither a list type nor a floating
point type, is accepted by the restriction exactly if the type is numeric or the normal form of the
literal is listed, too. -/
theorem checkValue_literal_iff {element : Xml.Element} {facets : Facets} {resolve : Resolver}
    {type base : TypeRef} {name : Option QName} {b : Builtin} {literal : String}
    (enumerates : OnlyEnumerates element) (read : SchemaContext.facets element = .ok facets)
    (restricts : resolve type = some (.simple ⟨name, .restriction base facets⟩))
    (built_in : resolve base = some (.builtin b)) (atomic : b.isList = false)
    (exact : b ≠ .float) (exact' : b ≠ .double) (listed : literal ∈ literals element)
    (accepted : checkValue resolve base literal = .ok ()) :
    checkValue resolve type literal = .ok () ↔
      b.isNumeric = true ∨ b.whiteSpace.normalize literal ∈ literals element := by
  obtain rfl : { enumeration := literals element } = facets :=
    Except.ok.inj ((facets_of_onlyEnumerates enumerates).symm.trans read)
  have below (steps : Nat) (value : String) :
      checkWithin resolve (steps + 1) base value = b.check (b.whiteSpace.normalize value) := by
    rw [checkWithin_succ, derivation_builtin built_in, Derivation.check]
  have mode : whiteSpaceWithin resolve 32 base = b.whiteSpace := by
    rw [whiteSpaceWithin_succ, derivation_builtin built_in, Derivation.whiteSpace]
  have kind : kindWithin resolve 32 base = some (.atomic b) := by
    rw [kindWithin_succ, derivation_builtin built_in, Derivation.kind, atomic]
    rfl
  have checked : b.check (b.whiteSpace.normalize literal) = .ok () :=
    (below 32 literal).symm.trans accepted
  rw [checkValue, derivationLimit, checkWithin_succ, derivation_restriction restricts,
    Derivation.check, Option.getD_none, mode, kind, bind_eq_ok_iff, below 31,
    WhiteSpace.normalize_normalize, and_iff_right checked,
    check_enumeration_iff (List.ne_nil_of_mem listed)]
  exact valuesEqual_normalize_iff exact exact' checked listed

/-- Blanks around a literal matter for the type `token`, but not for numbers. -/
theorem checkValue_literal_iff_blanks :
    let resolve : Resolver := ({} : SchemaSet).resolve
    let facet (index : Nat) (value : String) : Xml.Element :=
      ⟨.schema "enumeration", [(⟨"", "value"⟩, value)], [], [], [index]⟩
    let element : Xml.Element :=
      ⟨.schema "restriction", [], [], [facet 0 " 1.0 ", facet 1 "1"], []⟩
    let facets : Facets := { enumeration := [" 1.0 ", "1"] }
    let restriction (base : TypeRef) : TypeRef := .simple ⟨none, .restriction base facets⟩
    let token : TypeRef := .named (.schema "token")
    let decimal : TypeRef := .named (.schema "decimal")
    OnlyEnumerates element ∧ SchemaContext.facets element = .ok facets ∧
      " 1.0 " ∈ literals element ∧
      checkValue resolve token " 1.0 " = .ok () ∧
      checkValue resolve (restriction token) " 1.0 " ≠ .ok () ∧
      checkValue resolve decimal " 1.0 " = .ok () ∧
      checkValue resolve (restriction decimal) " 1.0 " = .ok () := by
  intro resolve facet element facets restriction token decimal
  have stored : literals element = [" 1.0 ", "1"] := by decide +kernel
  have enumerates : OnlyEnumerates element := by
    have children : element.schemaChildren = [facet 0 " 1.0 ", facet 1 "1"] := by
      simp [Xml.Element.schemaChildren, element, facet, QName.schema]
    simp [OnlyEnumerates, children, facet, QName.schema]
  have read : SchemaContext.facets element = .ok facets := by
    rw [facets_of_onlyEnumerates enumerates, stored]
  have listed : " 1.0 " ∈ literals element := by simp [stored]
  have by_token : checkValue resolve token " 1.0 " = .ok () := by decide +kernel
  have by_decimal : checkValue resolve decimal " 1.0 " = .ok () := by decide +kernel
  have restricts (base : TypeRef) :
      resolve (restriction base) = some (.simple ⟨none, .restriction base facets⟩) := rfl
  have token_iff := checkValue_literal_iff enumerates read (restricts token) (b := .token) rfl rfl
    (by decide) (by decide) listed by_token
  have decimal_iff := checkValue_literal_iff enumerates read (restricts decimal) (b := .decimal) rfl
    rfl (by decide) (by decide) listed by_decimal
  refine ⟨enumerates, read, listed, by_token, ?_, by_decimal, decimal_iff.2 (.inl (by decide))⟩
  rw [Ne, token_iff, stored]
  decide +kernel

end XmlSchema
