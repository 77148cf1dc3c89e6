import XmlSchema.Proofs.Datatype.Bounds

/-!
# Binary data

Octets are written in base 64, in groups of three that make four digits (`base64`), or as pairs of
hexadecimal digits (`Hexadecimal`).  In base 64 blank characters may stand anywhere (`Spaced`).

The length of binary data is that of the octets, but it is computed from the text: from the number
of its characters without the blank ones, and from the padding at its end.  The two agree
(`valueLength_of_encodes`), so a restriction by length facets accepts the text of some octets
exactly if their number meets the facets (`checkValue_of_encodes`).
-/

namespace XmlSchema

open Text Lexical

/-! ## Texts of octets -/

/-- The digits of base 64 in the order of their values. -/
def base64Digits : List Char :=
  "ABCDEFGHIJKLMNOPQRSTUVWXYZabcdefghijklmnopqrstuvwxyz0123456789+/".toList

def base64Digit (d : Fin 64) : Char := base64Digits.getD d '='

/-- The 24 bits of three octets in groups of six, the highest first. -/
def sextets (a b c : UInt8) : List (Fin 64) :=
  let bits := a.toNat * 65536 + b.toNat * 256 + c.toNat
  [18, 12, 6, 0].map fun shift => Fin.ofNat 64 (bits >>> shift)

/-- Octets in base 64.  Zeros stand for the octets that the last group lacks, and padding for the
digits that hold nothing else. -/
def base64 : List UInt8 → List Char
  | [] => []
  | [a] => ((sextets a 0 0).take 2).map base64Digit ++ ['=', '=']
  | [a, b] => ((sextets a b 0).take 3).map base64Digit ++ ['=']
  | a :: b :: c :: rest => (sextets a b c).map base64Digit ++ base64 rest

example : base64 "Many hands".toUTF8.toList = "TWFueSBoYW5kcw==".toList := by decide +kernel

/-- The hexadecimal digit for a value below 16, in both cases. -/
def hexDigits (n : Nat) : List Char := [Nat.digitChar n, (Nat.digitChar n).toUpper]

/-- Octets as pairs of hexadecimal digits, each in any case. -/
inductive Hexadecimal : List UInt8 → List Char → Prop where
  | nil : Hexadecimal [] []
  | cons {octet : UInt8} {octets : List UInt8} {high low : Char} {cs : List Char}
    (hhigh : high ∈ hexDigits (octet.toNat / 16)) (hlow : low ∈ hexDigits (octet.toNat % 16))
    (rest : Hexadecimal octets cs) : Hexadecimal (octet :: octets) (high :: low :: cs)

/-- The second text is the first one with blank characters inserted. -/
inductive Spaced : List Char → List Char → Prop where
  | nil : Spaced [] []
  | blank {c : Char} {cs text : List Char} (blank : isBlank c = true) (rest : Spaced cs text) :
    Spaced cs (c :: text)
  | char {c : Char} {cs text : List Char} (rest : Spaced cs text) : Spaced (c :: cs) (c :: text)

/-- The text is a way to write the octets as a value of the type. -/
inductive Encodes : Builtin → List UInt8 → String → Prop where
  | base64 {octets : List UInt8} {text : String} (spaced : Spaced (base64 octets) text.toList) :
    Encodes .base64Binary octets text
  | hexadecimal {octets : List UInt8} {text : String} (digits : Hexadecimal octets text.toList) :
    Encodes .hexBinary octets text

/-! ## Blank characters -/

theorem compact_cons_of_blank {c : Char} (h : isBlank c = true) (cs : List Char) :
    compact (c :: cs) = compact cs := List.filter_cons_of_neg (by simp [h])

theorem compact_cons_of_not_blank {c : Char} (h : isBlank c = false) (cs : List Char) :
    compact (c :: cs) = c :: compact cs := List.filter_cons_of_pos (by simp [h])

theorem Spaced.compact_eq {cs text : List Char} (h : Spaced cs text)
    (solid : ∀ c ∈ cs, isBlank c = false) : compact text = cs := by
  induction h with
  | nil => rfl
  | blank blank rest ih => rw [compact_cons_of_blank blank, ih solid]
  | char rest ih =>
    obtain ⟨first, later⟩ := List.forall_mem_cons.1 solid
    rw [compact_cons_of_not_blank first, ih later]

/-- Every text is what is left of it without blank characters, with these inserted. -/
theorem spaced_compact (text : List Char) : Spaced (compact text) text := by
  induction text with
  | nil => exact .nil
  | cons c text ih =>
    cases blank : isBlank c with
    | true =>
      rw [compact_cons_of_blank blank]
      exact .blank blank ih
    | false =>
      rw [compact_cons_of_not_blank blank]
      exact .char ih

theorem compact_eq_flatten_words (cs : List Char) : compact cs = (words cs).flatten := by
  fun_induction words cs with
  | case1 => rfl
  | case2 c cs blank ih => rw [compact_cons_of_blank blank, ih]
  | case3 c solid => rw [compact_cons_of_not_blank (by simpa using solid)]; rfl
  | case4 c solid d cs blank ih =>
    rw [compact_cons_of_not_blank (by simpa using solid), ih]
    rfl
  | case5 c solid d cs _ first rest read ih =>
    rw [compact_cons_of_not_blank (by simpa using solid), ih, read]
    rfl
  | case6 c solid d cs _ read ih =>
    rw [compact_cons_of_not_blank (by simpa using solid), ih, read]
    rfl

theorem compact_unwords_words (cs : List Char) : compact (unwords (words cs)) = compact cs := by
  rw [compact_eq_flatten_words, words_unwords_words, ← compact_eq_flatten_words]

/-- To collapse the white space of a text that has none changes nothing. -/
theorem unwords_words_of_not_blank {cs : List Char} (h : ∀ c ∈ cs, isBlank c = false) :
    unwords (words cs) = cs := by
  by_cases empty : cs = []
  · rw [empty]
    rfl
  · have alone : words (cs ++ []) = cs :: words [] := words_append ⟨empty, h⟩ (by simp)
    rw [List.append_nil] at alone
    rw [alone]
    rfl

/-! ## Lengths -/

theorem byteLength_eq_length {cs : List Char} (h : ∀ c ∈ cs, c.utf8Size = 1) :
    byteLength cs = cs.length := by
  induction cs with
  | nil => rfl
  | cons c cs ih =>
    obtain ⟨first, later⟩ := List.forall_mem_cons.1 h
    rw [byteLength_cons, first, ih later, List.length_cons, Nat.add_comm]

theorem padding_append {cs : List Char} (h : '=' ∉ cs) (k : Nat) :
    padding (cs ++ List.replicate k '=') = k := by
  have digits : cs.reverse.takeWhile (· == '=') = [] := by
    cases hcs : cs.reverse with
    | nil => rfl
    | cons c rest =>
      have last : c ∈ cs := List.mem_reverse.1 (by rw [hcs]; exact List.mem_cons_self)
      refine List.takeWhile_cons_of_neg fun pad => h ?_
      rwa [← beq_iff_eq.1 pad]
  unfold padding
  rw [List.reverse_append, List.reverse_replicate,
    List.takeWhile_append_of_pos (by simp [List.mem_replicate]), digits]
  simp

theorem base64Digit_traits : ∀ n : Fin 64, isBase64Digit (base64Digit n) = true ∧
    isBlank (base64Digit n) = false ∧ (base64Digit n).utf8Size = 1 ∧
    base64Digit n ≠ '=' := by decide +kernel

/-- A text in base 64 consists of digits and at most two characters of padding.  There are four
characters for each group of three octets, and one character of padding for each octet that the last
group lacks. -/
theorem exists_base64_eq (octets : List UInt8) : ∃ (ds : List (Fin 64)) (groups lacking : Nat),
    base64 octets = ds.map base64Digit ++ List.replicate lacking '=' ∧
      lacking ≤ 2 ∧ ds.length + lacking = 4 * groups ∧ octets.length + lacking = 3 * groups := by
  fun_induction base64 octets with
  | case1 => exact ⟨[], 0, 0, rfl, by omega, rfl, rfl⟩
  | case2 a => exact ⟨(sextets a 0 0).take 2, 1, 2, rfl, by omega, rfl, rfl⟩
  | case3 a b => exact ⟨(sextets a b 0).take 3, 1, 1, rfl, by omega, rfl, rfl⟩
  | case4 a b c rest ih =>
    obtain ⟨ds, groups, lacking, text, le_two, digits, total⟩ := ih
    have four : (sextets a b c).length = 4 := rfl
    refine ⟨sextets a b c ++ ds, groups + 1, lacking, ?_, le_two, ?_, ?_⟩
    · rw [text, List.map_append, List.append_assoc]
    · rw [List.length_append, four]
      omega
    · simp only [List.length_cons]
      omega

theorem base64_traits {octets : List UInt8} {c : Char} (h : c ∈ base64 octets) :
    isBlank c = false ∧ c.utf8Size = 1 := by
  obtain ⟨ds, groups, lacking, text, -⟩ := exists_base64_eq octets
  rw [text] at h
  rcases List.mem_append.1 h with digit | pad
  · obtain ⟨d, -, rfl⟩ := List.mem_map.1 digit
    exact ⟨(base64Digit_traits d).2.1, (base64Digit_traits d).2.2.1⟩
  · rw [List.eq_of_mem_replicate pad]
    decide

/-- Whatever blank characters stand between them, the digits are accepted and their number gives the
number of octets. -/
theorem isBase64_of_compact {octets : List UInt8} {cs : List Char}
    (h : compact cs = base64 octets) :
    isBase64 cs = true ∧ valueLength (some (.atomic .base64Binary)) cs = octets.length := by
  obtain ⟨ds, groups, lacking, text, le_two, digits, total⟩ := exists_base64_eq octets
  have no_padding : '=' ∉ ds.map base64Digit := by
    intro hmem
    obtain ⟨d, -, padding⟩ := List.mem_map.1 hmem
    exact (base64Digit_traits d).2.2.2 padding
  have pad : padding (base64 octets) = lacking := by rw [text, padding_append no_padding]
  have length : (base64 octets).length = 4 * groups := by simpa [text] using digits
  have front : (base64 octets).take (4 * groups - lacking) = ds.map base64Digit := by
    rw [text, List.take_left' (by simp; omega)]
  have bytes : byteLength (base64 octets) = 4 * groups := by
    rw [← length]
    exact byteLength_eq_length fun c hc => (base64_traits hc).2
  constructor
  · have all_digits : (ds.map base64Digit).all isBase64Digit = true := by
      simp only [List.all_map, List.all_eq_true]
      exact fun d _ => (base64Digit_traits d).1
    unfold isBase64
    simp only [h, pad, length, front, all_digits]
    simp [le_two]
  · show byteLength (compact cs) / 4 * 3 - padding (compact cs) = octets.length
    rw [h, pad, bytes]
    omega

theorem hexDigits_traits (n : Fin 16) :
    ∀ c ∈ hexDigits n, isHexDigit c = true ∧ isBlank c = false ∧ c.utf8Size = 1 := by
  have digits : ∀ n : Fin 16, ((hexDigits n).all fun c =>
      isHexDigit c && !isBlank c && c.utf8Size == 1) = true := by decide +kernel
  simpa [and_assoc] using digits n

namespace Hexadecimal

variable {octets : List UInt8} {cs : List Char}

theorem traits (h : Hexadecimal octets cs) :
    ∀ c ∈ cs, isHexDigit c = true ∧ isBlank c = false ∧ c.utf8Size = 1 := by
  induction h with
  | nil => simp
  | @cons octet octets high low cs hhigh hlow rest ih =>
    have bound := octet.toNat_lt
    refine List.forall_mem_cons.2 ⟨?_, List.forall_mem_cons.2 ⟨?_, ih⟩⟩
    · exact hexDigits_traits ⟨octet.toNat / 16, by omega⟩ high hhigh
    · exact hexDigits_traits ⟨octet.toNat % 16, by omega⟩ low hlow

theorem length_eq (h : Hexadecimal octets cs) : cs.length = 2 * octets.length := by
  induction h with
  | nil => rfl
  | cons hhigh hlow rest ih =>
    simp only [List.length_cons, ih]
    omega

theorem byteLength_eq (h : Hexadecimal octets cs) : byteLength cs = 2 * octets.length := by
  rw [byteLength_eq_length fun c hc => (h.traits c hc).2.2, h.length_eq]

theorem isHexBinary (h : Hexadecimal octets cs) : isHexBinary cs = true := by
  unfold Lexical.isHexBinary
  rw [h.byteLength_eq, Bool.and_eq_true, List.all_eq_true]
  exact ⟨by simp, fun c hc => (h.traits c hc).1⟩

end Hexadecimal

/-- A text of octets is accepted, and its length is the number of the octets. -/
theorem valueLength_of_encodes {b : Builtin} {octets : List UInt8} {raw : String}
    (h : Encodes b octets raw) : b.check (b.whiteSpace.normalize raw) = .ok () ∧
      valueLength (some (.atomic b)) (b.whiteSpace.normalize raw).toList = octets.length := by
  have collapsed :
      (WhiteSpace.collapse.normalize raw).toList = unwords (words raw.toList) := by
    simp [WhiteSpace.normalize]
  cases h with
  | base64 spaced =>
    have digits : compact (WhiteSpace.collapse.normalize raw).toList = base64 octets := by
      rw [collapsed, compact_unwords_words]
      exact spaced.compact_eq fun c hc => (base64_traits hc).1
    obtain ⟨form, length⟩ := isBase64_of_compact digits
    exact ⟨(Builtin.check_eq_ok_iff_hasForm rfl _).2 form, length⟩
  | hexadecimal digits =>
    have same : (WhiteSpace.collapse.normalize raw).toList = raw.toList := by
      rw [collapsed, unwords_words_of_not_blank fun c hc => (digits.traits c hc).2.1]
    have form : isHexBinary (WhiteSpace.collapse.normalize raw).toList = true := by
      rw [same]
      exact digits.isHexBinary
    refine ⟨(Builtin.check_eq_ok_iff_hasForm rfl _).2 form, ?_⟩
    show byteLength (WhiteSpace.collapse.normalize raw).toList / 2 = octets.length
    rw [same, digits.byteLength_eq, Nat.mul_div_cancel_left _ (by decide)]

/-! ## Restrictions by length -/

/-- At most one facet of each kind that limits the length of a value. -/
structure LengthLimits where
  length : Option Nat := none
  minLength : Option Nat := none
  maxLength : Option Nat := none

namespace LengthLimits

/-- The limits as facets, without any others. -/
def facets (limits : LengthLimits) : Facets where
  length := limits.length
  minLength := limits.minLength
  maxLength := limits.maxLength

/-- A number of octets meets the limits. -/
def Admits (limits : LengthLimits) (n : Nat) : Prop :=
  (∀ k ∈ limits.length, n = k) ∧ (∀ k ∈ limits.minLength, k ≤ n) ∧ ∀ k ∈ limits.maxLength, n ≤ k

/-- Of the facets only the limits matter, and they hold of the length of the value or not. -/
theorem check_facets (limits : LengthLimits) (kind : Option ValueKind) (value : String) :
    limits.facets.check kind value = .ok () ↔ limits.Admits (valueLength kind value.toList) := by
  have lengths (n : Nat) : limits.facets.checkLength n = .ok () ↔ limits.Admits n := by
    have exactly : limits.length.any (n != ·) = true ↔ ¬ ∀ k ∈ limits.length, n = k := by
      cases limits.length <;> simp
    have least : limits.minLength.any (n < ·) = true ↔ ¬ ∀ k ∈ limits.minLength, k ≤ n := by
      cases limits.minLength <;> simp
    have most : limits.maxLength.any (n > ·) = true ↔ ¬ ∀ k ∈ limits.maxLength, n ≤ k := by
      cases limits.maxLength <;> simp
    unfold Facets.checkLength facets Admits
    dsimp only
    split_ifs with h₁ h₂ h₃
    · exact iff_of_false (by simp) fun met => exactly.1 h₁ met.1
    · exact iff_of_false (by simp) fun met => least.1 h₂ met.2.1
    · exact iff_of_false (by simp) fun met => most.1 h₃ met.2.2
    · exact iff_of_true rfl ⟨not_not.1 (mt exactly.2 h₁), not_not.1 (mt least.2 h₂),
        not_not.1 (mt most.2 h₃)⟩
  rw [Facets.check_eq_ok_iff, lengths]
  constructor
  · rintro ⟨-, -, met, -, -⟩
    exact met
  · intro met
    exact ⟨rfl, rfl, met, rfl, rfl⟩

end LengthLimits

/-- A text is checked against a restriction of a built-in type that leaves the white space mode to
the type: by the type first, then by the facets. -/
theorem checkValue_restriction {resolve : Resolver} {type base : TypeRef} {name : Option QName}
    {facets : Facets} {b : Builtin}
    (restricts : resolve type = some (.simple ⟨name, .restriction base facets⟩))
    (built_in : resolve base = some (.builtin b)) (atomic : b.isList = false)
    (inherits : facets.whiteSpace = none) (raw : String) :
    checkValue resolve type raw = .ok () ↔ b.check (b.whiteSpace.normalize raw) = .ok () ∧
      facets.check (some (.atomic b)) (b.whiteSpace.normalize raw) = .ok () := by
  have mode : whiteSpaceWithin resolve 32 base = b.whiteSpace := by
    rw [whiteSpaceWithin_succ, derivation_builtin built_in, Derivation.whiteSpace]
  have kind : kindWithin resolve 32 base = some (.atomic b) := by
    rw [kindWithin_succ, derivation_builtin built_in, Derivation.kind, atomic]
    rfl
  have below : checkWithin resolve 32 base (b.whiteSpace.normalize raw) =
      b.check (b.whiteSpace.normalize raw) := by
    rw [checkWithin_succ, derivation_builtin built_in, Derivation.check,
      WhiteSpace.normalize_normalize]
  rw [checkValue, derivationLimit, checkWithin_succ, derivation_restriction restricts,
    Derivation.check, inherits, Option.getD_none, mode, kind, bind_eq_ok_iff, below]

/-- A text that encodes some octets is accepted by the type of the encoding, and by a restriction of
this type by length facets exactly if the number of octets meets these. -/
theorem checkValue_of_encodes {resolve : Resolver} {base : TypeRef} {b : Builtin}
    {octets : List UInt8} {raw : String} (encodes : Encodes b octets raw)
    (built_in : resolve base = some (.builtin b)) :
    checkValue resolve base raw = .ok () ∧
      ∀ (type : TypeRef) (name : Option QName) (limits : LengthLimits),
        resolve type = some (.simple ⟨name, .restriction base limits.facets⟩) →
          (checkValue resolve type raw = .ok () ↔ limits.Admits octets.length) := by
  obtain ⟨accepted, length⟩ := valueLength_of_encodes encodes
  have atomic : b.isList = false := by cases encodes <;> rfl
  constructor
  · rw [checkValue, derivationLimit, checkWithin_succ, derivation_builtin built_in,
      Derivation.check]
    exact accepted
  · intro type name limits restricts
    rw [checkValue_restriction restricts built_in atomic rfl, and_iff_right accepted,
      limits.check_facets, length]

/-- Four octets in both encodings, with blank characters or with letters of both cases. -/
theorem checkValue_of_encodes_four :
    let resolve : Resolver := ({} : SchemaSet).resolve
    let octets : List UInt8 := [0, 255, 16, 131]
    let spaced := " AP8Q\n gw = ="
    let hex := "00Ff1083"
    let base64Binary : TypeRef := .named (.schema "base64Binary")
    let hexBinary : TypeRef := .named (.schema "hexBinary")
    let restriction (base : TypeRef) (limits : LengthLimits) : TypeRef :=
      .simple ⟨none, .restriction base limits.facets⟩
    Encodes .base64Binary octets spaced ∧ Encodes .hexBinary octets hex ∧
      checkValue resolve base64Binary spaced = .ok () ∧ checkValue resolve hexBinary hex = .ok () ∧
      checkValue resolve (restriction base64Binary { length := some 4 }) spaced = .ok () ∧
      checkValue resolve (restriction base64Binary { maxLength := some 3 }) spaced ≠ .ok () ∧
      checkValue resolve (restriction hexBinary { minLength := some 5 }) hex ≠ .ok () := by
  intro resolve octets spaced hex base64Binary hexBinary restriction
  have in_base64 : Encodes .base64Binary octets spaced := by
    have digits : compact spaced.toList = base64 octets := by decide +kernel
    exact .base64 (digits ▸ spaced_compact _)
  have in_hex : Encodes .hexBinary octets hex := by
    have digits : Hexadecimal octets ['0', '0', 'F', 'f', '1', '0', '8', '3'] :=
      .cons (by decide) (by decide) <| .cons (by decide) (by decide) <|
        .cons (by decide) (by decide) <| .cons (by decide) (by decide) .nil
    have text : hex.toList = ['0', '0', 'F', 'f', '1', '0', '8', '3'] := by decide +kernel
    exact .hexadecimal (text ▸ digits)
  obtain ⟨accepted₁, restricted₁⟩ := @checkValue_of_encodes resolve base64Binary _ _ _ in_base64 rfl
  obtain ⟨accepted₂, restricted₂⟩ := @checkValue_of_encodes resolve hexBinary _ _ _ in_hex rfl
  refine ⟨in_base64, in_hex, accepted₁, accepted₂, (restricted₁ _ _ _ rfl).2 ?_,
    (restricted₁ _ _ _ rfl).not.2 ?_, (restricted₂ _ _ _ rfl).not.2 ?_⟩ <;>
    simp [LengthLimits.Admits, octets]

end XmlSchema
