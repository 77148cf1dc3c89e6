import Mathlib.Data.List.Nodup
import XmlSchema.Proofs.Xml.Events
import XmlSchema.Validation.Scope

/-!
# Namespaces of schemas that stand in a document

A schema inside a document is compiled on its own, so the declarations that are visible at its start
tag are written onto that tag.  Declarations are collected from the inner scopes to the outer ones,
each unless its prefix is taken; the first one for a prefix is thus the one that the document looks
up (`mem_own_inherited_iff`).  Characters that could be taken for markup are written as entities
(`escapes_escape`): three replacements in a row do this, and they come to the same as one pass
(`escape_eq_flatMap`).  The text behind the name of the tag stays as it is (`redeclare_eq`).
-/

namespace XmlSchema.Scope

open XmlSchema.Text XmlSchema.Xml

/-! ## Visible declarations -/

/-- The prefixes of declarations, in order. -/
def prefixes (s : Scope) : List String := s.map Prod.fst

/-- The first declaration of a prefix. -/
def first? (s : Scope) (pre : String) : Option (String × String) := s.find? (·.1 == pre)

theorem first?_append (s t : Scope) (pre : String) :
    first? (s ++ t) pre = (first? s pre).or (first? t pre) :=
  List.find?_append

theorem first?_isSome_iff {s : Scope} {pre : String} :
    (first? s pre).isSome ↔ pre ∈ prefixes s := by
  simp [first?, prefixes]

/-- When no prefix is declared twice, the first declaration of a prefix is the only one. -/
theorem first?_eq_some_iff {s : Scope} (h : (prefixes s).Nodup) {pre uri : String} :
    first? s pre = some (pre, uri) ↔ (pre, uri) ∈ s := by
  induction s with
  | nil => simp [first?]
  | cons d ds ih =>
    obtain ⟨fresh, rest⟩ := List.nodup_cons.1 h
    by_cases same : d.1 = pre
    · have elsewhere : (pre, uri) ∉ ds := fun mem =>
        fresh (List.mem_map.2 ⟨(pre, uri), mem, same.symm⟩)
      simp [first?, same, elsewhere, Prod.ext_iff, eq_comm]
    · have later : first? (d :: ds) pre = first? ds pre := by simp [first?, same]
      have other : (pre, uri) ≠ d := fun equal => same (congrArg Prod.fst equal).symm
      rw [later, ih rest, List.mem_cons, or_iff_right other]

theorem fst_eq_of_first? {s : Scope} {pre : String} {d : String × String}
    (h : first? s pre = some d) : d.1 = pre := by
  simpa using List.find?_some h

theorem first?_reverse {s : Scope} (h : (prefixes s).Nodup) (pre : String) :
    first? s.reverse pre = first? s pre := by
  have reversed : (prefixes s.reverse).Nodup := by
    rw [prefixes, List.map_reverse, List.nodup_reverse]
    exact h
  refine Option.ext fun d => ?_
  constructor <;> intro found
  all_goals
    obtain rfl := fst_eq_of_first? found
    obtain ⟨pre, uri⟩ := d
  · exact (first?_eq_some_iff h).2 (List.mem_reverse.1 ((first?_eq_some_iff reversed).1 found))
  · exact (first?_eq_some_iff reversed).2 (List.mem_reverse.2 ((first?_eq_some_iff h).1 found))

section Visible

variable (own : Scope)

/-- Adding a declaration that is visible is like adding it at the end. -/
theorem first?_addVisible (visible : Scope) (d : String × String) (pre : String) :
    first? (own ++ addVisible own visible d) pre = first? (own ++ visible ++ [d]) pre := by
  unfold addVisible
  split
  · rename_i taken
    have known : (first? (own ++ visible) d.1).isSome := by simpa [first?] using taken
    rw [first?_append (own ++ visible)]
    by_cases same : d.1 = pre
    · subst same
      rw [Option.or_of_isSome known]
    · have none : first? [d] pre = none := by simp [first?, same]
      rw [none, Option.or_none]
  · rw [List.append_assoc]

theorem nodup_addVisible {visible : Scope} (h : (prefixes (own ++ visible)).Nodup)
    (d : String × String) : (prefixes (own ++ addVisible own visible d)).Nodup := by
  unfold addVisible
  split
  · exact h
  · rename_i fresh
    have new : d.1 ∉ prefixes (own ++ visible) := by
      rw [← first?_isSome_iff]
      simpa [first?] using fresh
    rw [← List.append_assoc, prefixes, List.map_append, List.nodup_append_comm]
    exact List.nodup_cons.2 ⟨new, h⟩

theorem first?_foldl_addVisible (ds visible : Scope) (pre : String) :
    first? (own ++ ds.foldl (addVisible own) visible) pre = first? (own ++ visible ++ ds) pre := by
  induction ds generalizing visible with
  | nil => simp
  | cons d ds ih =>
    rw [List.foldl_cons, ih, first?_append, first?_addVisible, ← first?_append, List.append_assoc,
      List.singleton_append]

theorem nodup_foldl_addVisible (ds visible : Scope) (h : (prefixes (own ++ visible)).Nodup) :
    (prefixes (own ++ ds.foldl (addVisible own) visible)).Nodup := by
  induction ds generalizing visible with
  | nil => exact h
  | cons d ds ih => exact ih _ (nodup_addVisible own h d)

end Visible

section Inherited

variable {own : Scope} (outer : List Scope) (h : (prefixes own).Nodup)
include h

theorem nodup_own_inherited : (prefixes (own ++ inherited (own :: outer))).Nodup :=
  nodup_foldl_addVisible own _ [] (by simpa using h)

/-- What a prefix is declared as, on the tag or by inheritance, is what it stands for in the
document. -/
theorem mem_own_inherited_iff {pre uri : String} (xml : pre ≠ "xml") (xmlns : pre ≠ "xmlns") :
    (pre, uri) ∈ own ++ inherited (own :: outer) ↔ lookup (own :: outer) pre = some uri := by
  have found : lookup (own :: outer) pre =
      (first? (own ++ inherited (own :: outer)) pre).map Prod.snd := by
    rw [lookup, if_neg xml, if_neg xmlns, List.flatMap_cons, inherited, first?_foldl_addVisible]
    change (first? _ pre).map Prod.snd = _
    rw [List.append_nil, first?_append, first?_reverse h, ← first?_append]
  rw [found, ← first?_eq_some_iff (nodup_own_inherited outer h), Option.map_eq_some_iff]
  constructor
  · exact fun first => ⟨_, first, rfl⟩
  · rintro ⟨⟨pre', uri'⟩, first, rfl⟩
    obtain rfl := fst_eq_of_first? first
    exact first

end Inherited

/-! ## Written declarations -/

/-- A text stands for another in double quotes: decoding gives the other text back, and no character
of it could be taken for markup. -/
structure Escapes (written value : List Char) : Prop where
  decode_eq : Reference.decode written = .ok value
  quote_notMem : '"' ∉ written
  less_notMem : '<' ∉ written
  ampersand : ∀ front rest, written = front ++ '&' :: rest →
    ∃ entity ∈ ["amp;", "quot;", "lt;"], entity.toList <+: rest

/-- A character as part of an attribute value in double quotes. -/
def escapeChar : Char → List Char
  | '&' => "&amp;".toList
  | '"' => "&quot;".toList
  | '<' => "&lt;".toList
  | c => [c]

/-- A character is escaped by an entity, or stands for itself. -/
theorem escapeChar_cases (c : Char) :
    (∃ name, escapeChar c = '&' :: (name ++ [';']) ∧ Reference.predefined? name = some c ∧
      name ∈ [['a', 'm', 'p'], ['q', 'u', 'o', 't'], ['l', 't']]) ∨
    escapeChar c = [c] ∧ c ≠ '&' ∧ c ≠ '"' ∧ c ≠ '<' := by
  unfold escapeChar
  split
  · exact .inl ⟨['a', 'm', 'p'], rfl, rfl, by simp⟩
  · exact .inl ⟨['q', 'u', 'o', 't'], rfl, rfl, by simp⟩
  · exact .inl ⟨['l', 't'], rfl, rfl, by simp⟩
  · rename_i amp quot lt
    exact .inr ⟨rfl, amp, quot, lt⟩

/-- Replacing the ampersand before the other characters is like replacing each character by itself:
no replacement touches what an earlier one has written. -/
theorem escape_eq_flatMap (cs : List Char) : escape cs = cs.flatMap escapeChar := by
  unfold escape replaceChar
  rw [List.flatMap_assoc, List.flatMap_assoc]
  refine List.flatMap_congr fun c _ => ?_
  by_cases amp : c = '&'
  · subst amp
    rfl
  · by_cases quot : c = '"'
    · subst quot
      rfl
    · by_cases lt : c = '<'
      · subst lt
        rfl
      · have plain : escapeChar c = [c] := by
          unfold escapeChar
          split <;> first | contradiction | rfl
        rw [plain, if_neg amp, List.flatMap_singleton, if_neg quot, List.flatMap_singleton,
          if_neg lt]

theorem escape_cons (c : Char) (cs : List Char) : escape (c :: cs) = escapeChar c ++ escape cs := by
  rw [escape_eq_flatMap, escape_eq_flatMap, List.flatMap_cons]

section Decoding

variable (total fuel offset : Nat)

theorem decodeFrom_plain {c : Char} (h : c ≠ '&') (cs : List Char) :
    Reference.decodeFrom total (fuel + 1) offset (c :: cs) =
      (Reference.decodeFrom total fuel (offset + c.utf8Size) cs).map (c :: ·) := by
  rw [Reference.decodeFrom]
  · cases Reference.decodeFrom total fuel (offset + c.utf8Size) cs <;> rfl
  · rintro rfl
    exact h rfl

theorem decodeFrom_entity {name : List Char} {c : Char}
    (known : name ∈ [['a', 'm', 'p'], ['q', 'u', 'o', 't'], ['l', 't']])
    (stands : Reference.predefined? name = some c) (cs : List Char) :
    Reference.decodeFrom total (fuel + 1) offset ('&' :: (name ++ [';']) ++ cs) =
      (Reference.decodeFrom total fuel (offset + byteLength name + 2) cs).map (c :: ·) := by
  have body : (name ++ ';' :: cs).takeWhile (!Reference.isDelimiter ·) = name ∧
      (name ++ ';' :: cs).dropWhile (!Reference.isDelimiter ·) = ';' :: cs := by
    simp only [List.mem_cons, List.not_mem_nil, or_false] at known
    rcases known with rfl | rfl | rfl <;> exact ⟨rfl, rfl⟩
  have resolved : Reference.resolve (offset + 1) name = .ok c := by
    simp only [List.mem_cons, List.not_mem_nil, or_false] at known
    rcases known with rfl | rfl | rfl <;> obtain rfl := Option.some.inj stands <;> rfl
  rw [List.cons_append, List.append_assoc, List.singleton_append, Reference.decodeFrom]
  simp only [body, resolved]
  cases Reference.decodeFrom total fuel (offset + byteLength name + 2) cs <;> rfl

theorem decodeFrom_escape (cs : List Char) (enough : (escape cs).length ≤ fuel) :
    Reference.decodeFrom total fuel offset (escape cs) = .ok cs := by
  induction cs generalizing fuel offset with
  | nil => cases fuel <;> rfl
  | cons c cs ih =>
    rw [escape_cons, List.length_append] at enough
    rw [escape_cons]
    rcases escapeChar_cases c with ⟨name, written, stands, known⟩ | ⟨written, amp, -⟩
    all_goals
      rw [written] at enough ⊢
      rw [List.length_cons] at enough
      obtain ⟨fuel, rfl⟩ : ∃ n, fuel = n + 1 := ⟨fuel - 1, by omega⟩
    · rw [decodeFrom_entity total fuel offset known stands, ih fuel _ (by omega)]
      rfl
    · rw [List.singleton_append, decodeFrom_plain total fuel offset amp, ih fuel _ (by omega)]
      rfl

end Decoding

theorem ne_of_mem_escapeChar {c d : Char} (h : d ∈ escapeChar c) : d ≠ '"' ∧ d ≠ '<' := by
  rcases escapeChar_cases c with ⟨name, written, -, known⟩ | ⟨written, -, plain⟩
  · rw [written] at h
    simp only [List.mem_cons, List.not_mem_nil, or_false] at known
    constructor <;> rintro rfl <;> rcases known with rfl | rfl | rfl <;> simp at h
  · rw [written] at h
    obtain rfl := List.mem_singleton.1 h
    exact plain

/-- Of an escaped character only the first can be an ampersand. -/
theorem entity_of_escapeChar {c : Char} {front rest : List Char}
    (h : escapeChar c = front ++ '&' :: rest) :
    ∃ entity ∈ ["amp;", "quot;", "lt;"], entity.toList = rest := by
  rcases escapeChar_cases c with ⟨name, written, -, known⟩ | ⟨written, plain, -⟩
  · rw [written] at h
    cases front with
    | nil =>
      obtain rfl : name ++ [';'] = rest := by simpa using h
      simp only [List.mem_cons, List.not_mem_nil, or_false] at known
      rcases known with rfl | rfl | rfl <;> simp
    | cons a front =>
      have inside : '&' ∈ name ++ [';'] := by
        rw [(List.cons.inj h).2]
        simp
      simp only [List.mem_cons, List.not_mem_nil, or_false] at known
      rcases known with rfl | rfl | rfl <;> simp at inside
  · rw [written] at h
    have inside : '&' ∈ [c] := by
      rw [h]
      simp
    exact absurd (List.mem_singleton.1 inside).symm plain

theorem entity_of_escape {value front rest : List Char}
    (h : escape value = front ++ '&' :: rest) :
    ∃ entity ∈ ["amp;", "quot;", "lt;"], entity.toList <+: rest := by
  induction value generalizing front with
  | nil => simp [escape_eq_flatMap] at h
  | cons c cs ih =>
    rw [escape_cons] at h
    rcases List.append_eq_append_iff.1 h with ⟨more, -, later⟩ | ⟨more, here, split⟩
    · exact ih later
    · cases more with
      | nil => exact ih (show escape cs = [] ++ '&' :: rest from split.symm)
      | cons d more =>
        obtain ⟨rfl, rfl⟩ := List.cons.inj split
        obtain ⟨entity, known, same⟩ := entity_of_escapeChar here
        exact ⟨entity, known, by rw [same]; exact List.prefix_append _ _⟩

/-- What is written for a value in double quotes stands for the value. -/
theorem escapes_escape (value : List Char) : Escapes (escape value) value where
  decode_eq := decodeFrom_escape _ _ _ value le_rfl
  quote_notMem mem := by
    rw [escape_eq_flatMap] at mem
    obtain ⟨c, -, inside⟩ := List.mem_flatMap.1 mem
    exact (ne_of_mem_escapeChar inside).1 rfl
  less_notMem mem := by
    rw [escape_eq_flatMap] at mem
    obtain ⟨c, -, inside⟩ := List.mem_flatMap.1 mem
    exact (ne_of_mem_escapeChar inside).2 rfl
  ampersand _ _ split := entity_of_escape split

/-- The name of the attribute that declares a prefix. -/
def declaringName (pre : String) : List Char :=
  if pre.isEmpty then "xmlns".toList else "xmlns:".toList ++ pre.toList

theorem declaredPrefix?_declaringName (pre : String) :
    declaredPrefix? (String.ofList (declaringName pre)) = some pre := by
  unfold declaringName
  split
  · rename_i none
    rw [String.isEmpty_iff.1 none]
    rfl
  · have longer : String.ofList ("xmlns:".toList ++ pre.toList) ≠ "xmlns" := by
      intro same
      have lists := congrArg String.toList same
      simp at lists
    rw [declaredPrefix?, if_neg longer]
    simp

theorem declarationText_eq (d : String × String) :
    declarationText d =
      ' ' :: (declaringName d.1 ++ '=' :: '"' :: (escape d.2.toList ++ ['"'])) := by
  unfold declarationText declaringName
  dsimp only
  split <;> simp

/-! ## Redeclaring -/

theorem utf8ByteSize_ofList (cs : List Char) : (String.ofList cs).utf8ByteSize = byteLength cs := by
  induction cs with
  | nil => rfl
  | cons c cs ih =>
    rw [← List.singleton_append, String.ofList_append, String.utf8ByteSize_append, ih,
      byteLength_append]
    simp

/-- The declarations are written behind the name of the element, and nothing else changes. -/
theorem redeclare_eq (scopes : List Scope) (rawName : String) (rest : List Char) :
    redeclare scopes rawName ('<' :: (rawName.toList ++ rest)) =
      '<' :: (rawName.toList ++ ((inherited scopes).flatMap declarationText ++ rest)) := by
  have size : '<'.utf8Size = 1 := rfl
  have split : min (1 + rawName.utf8ByteSize) (byteLength ('<' :: (rawName.toList ++ rest))) =
      byteLength ('<' :: rawName.toList) := by
    have name := utf8ByteSize_ofList rawName.toList
    rw [String.ofList_toList] at name
    simp [name, size]
  unfold redeclare
  dsimp only
  rw [split, ← List.cons_append, takeBytes?_byteLength, dropBytes?_byteLength]
  simp

/-- A schema that stands in a document keeps the namespaces of the document.

Let the innermost scope be that of the start tag of the schema.  The declarations of that tag and
those that are added to it declare no prefix twice, and they declare every prefix as what it stands
for in the document.  The added ones are written in double quotes so that nothing in them can be
taken for markup, right behind the name of the tag, and the rest of the text stays.  The text of a
schema does begin with that name. -/
theorem redeclare_spec (own : Scope) (outer : List Scope) (once : (prefixes own).Nodup) :
    (prefixes (own ++ inherited (own :: outer))).Nodup ∧
    (∀ pre uri, pre ≠ "xml" → pre ≠ "xmlns" →
      ((pre, uri) ∈ own ++ inherited (own :: outer) ↔ lookup (own :: outer) pre = some uri)) ∧
    (∀ d ∈ inherited (own :: outer), ∃ name written,
      declaredPrefix? (String.ofList name) = some d.1 ∧ Escapes written d.2.toList ∧
      declarationText d = ' ' :: (name ++ '=' :: '"' :: (written ++ ['"']))) ∧
    (∀ rawName rest, redeclare (own :: outer) rawName ('<' :: (rawName.toList ++ rest)) =
      '<' :: (rawName.toList ++ ((inherited (own :: outer)).flatMap declarationText ++ rest))) ∧
    ∀ text front tag later stop, text.head? ≠ some byteOrderMark →
      events text = front ++ .startTag tag :: later →
      (stop = tag.stop ∨ ∃ name offset, .endTag name offset stop ∈ later) →
      ∃ rest, sliceBytes? tag.offset stop text = some ('<' :: (tag.rawName.toList ++ rest)) :=
  ⟨nodup_own_inherited outer once, fun _ _ xml xmlns => mem_own_inherited_iff outer once xml xmlns,
    fun d _ => ⟨_, _, declaredPrefix?_declaringName d.1, escapes_escape d.2.toList,
      declarationText_eq d⟩,
    redeclare_eq _, fun _ _ _ _ _ unmarked read ends => slice_startTag unmarked read ends⟩

/-- A default namespace that is undeclared on the way, a prefix declared twice and a namespace that
needs escaping. -/
theorem redeclare_spec_nested :
    let own : Scope := [("s", "u")]
    let outer : List Scope := [[("", ""), ("p", "a&b<")], [("", "d"), ("p", "e"), ("s", "o")]]
    (prefixes own).Nodup ∧ lookup (own :: outer) "p" = some "a&b<" ∧
      ("p", "a&b<") ∈ own ++ inherited (own :: outer) ∧
      redeclare (own :: outer) "s:schema" "<s:schema/>".toList =
        "<s:schema xmlns:p=\"a&amp;b&lt;\" xmlns=\"\"/>".toList := by
  intro own outer
  have once : (prefixes own).Nodup := by decide
  have found : lookup (own :: outer) "p" = some "a&b<" := by decide
  obtain ⟨-, visible, -, written, -⟩ := redeclare_spec own outer once
  refine ⟨once, found, (visible "p" "a&b<" (by decide) (by decide)).2 found, ?_⟩
  exact (written "s:schema" "/>".toList).trans (by decide)

end XmlSchema.Scope
