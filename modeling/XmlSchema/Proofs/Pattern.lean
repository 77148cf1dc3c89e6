import XmlSchema.Pattern.Basic

/-!
# Classes and anchors of patterns

A pattern is scanned from left to right (`Scan`): a backslash takes the next character with it, an
opening bracket opens a class, a closing bracket closes one.  An anchor is a `^` or a `$` that such
a scan meets outside classes and behind no backslash (`IsAnchor`).

The expression of a pattern opens and closes classes as the pattern does, although names of
characters are spelled out as classes in it, and it has no anchors of its own, since those of the
pattern are escaped.  So the anchors of the frame are the only ones (`scan_body`), and the match is
one of the whole value.  Patterns may be put together from parts whose classes are closed.
-/

namespace XmlSchema

namespace Pattern

/-- What a scan remembers: how many classes are open, and whether the last character was a backslash
that escapes the next one. -/
structure Scan where
  depth : Nat
  escaping : Bool
  deriving DecidableEq

namespace Scan

/-- Reads one character.  A closing bracket without an open class closes nothing. -/
def next (s : Scan) (c : Char) : Scan :=
  if s.escaping then ⟨s.depth, false⟩
  else if c = '\\' then ⟨s.depth, true⟩
  else if c = '[' then ⟨s.depth + 1, false⟩
  else if c = ']' then ⟨s.depth - 1, false⟩
  else s

/-- Reads a text. -/
def read (s : Scan) (cs : List Char) : Scan := cs.foldl next s

@[simp] theorem read_nil (s : Scan) : s.read [] = s := rfl

@[simp] theorem read_cons (s : Scan) (c : Char) (cs : List Char) :
    s.read (c :: cs) = (s.next c).read cs := rfl

@[simp] theorem read_append (s : Scan) (as bs : List Char) :
    s.read (as ++ bs) = (s.read as).read bs := List.foldl_append

@[simp] theorem next_escaping (depth : Nat) (c : Char) :
    next ⟨depth, true⟩ c = ⟨depth, false⟩ := rfl

@[simp] theorem next_backslash (depth : Nat) : next ⟨depth, false⟩ '\\' = ⟨depth, true⟩ := rfl

end Scan

/-- The scan of a pattern from its start. -/
def scan (cs : List Char) : Scan := Scan.read ⟨0, false⟩ cs

/-- At this index stands a `^` or a `$`, outside classes and not escaped. -/
def IsAnchor (cs : List Char) (i : Nat) : Prop :=
  (cs[i]? = some '^' ∨ cs[i]? = some '$') ∧ scan (cs.take i) = ⟨0, false⟩

/-! ## Texts without anchors -/

/-- A scan that goes on from `s` meets no anchor in the text. -/
def AnchorFree (s : Scan) (cs : List Char) : Prop :=
  ∀ before c after, cs = before ++ c :: after → s.read before = ⟨0, false⟩ → c ≠ '^' ∧ c ≠ '$'

@[simp] theorem anchorFree_nil (s : Scan) : AnchorFree s [] := by
  intro before c after split
  simp at split

@[simp] theorem anchorFree_cons {s : Scan} {c : Char} {cs : List Char} : AnchorFree s (c :: cs) ↔
    (s = ⟨0, false⟩ → c ≠ '^' ∧ c ≠ '$') ∧ AnchorFree (s.next c) cs := by
  constructor
  · intro free
    refine ⟨free [] c cs rfl, fun before d after split => ?_⟩
    exact free (c :: before) d after (by simp [split])
  · rintro ⟨first, later⟩ before d after split
    cases before with
    | nil =>
      obtain ⟨rfl, rfl⟩ := List.cons.inj split
      exact first
    | cons b before =>
      obtain ⟨rfl, rfl⟩ := List.cons.inj split
      exact later before d after rfl

theorem anchorFree_append {s : Scan} {as bs : List Char} :
    AnchorFree s (as ++ bs) ↔ AnchorFree s as ∧ AnchorFree (s.read as) bs := by
  induction as generalizing s with
  | nil => simp
  | cons a as ih => simp [ih, and_assoc]

theorem anchorFree_scan_iff {cs : List Char} : AnchorFree ⟨0, false⟩ cs ↔ ∀ i, ¬ IsAnchor cs i := by
  constructor
  · rintro free i ⟨anchor, outside⟩
    have split {c : Char} (h : cs[i]? = some c) : cs = cs.take i ++ c :: cs.drop (i + 1) := by
      obtain ⟨bound, rfl⟩ := List.getElem?_eq_some_iff.1 h
      simp
    rcases anchor with first | last
    · exact (free _ _ _ (split first) outside).1 rfl
    · exact (free _ _ _ (split last) outside).2 rfl
  · rintro none before c after rfl outside
    simpa [IsAnchor, scan, outside] using none before.length

/-! ## The expression of a pattern -/

/-- At this depth the text has no anchors and leaves the classes as they are. -/
def Neutral (depth : Nat) (cs : List Char) : Prop :=
  Scan.read ⟨depth, false⟩ cs = ⟨depth, false⟩ ∧ AnchorFree ⟨depth, false⟩ cs

theorem Neutral.append {depth : Nat} {as bs : List Char} (ha : Neutral depth as)
    (hb : Neutral depth bs) : Neutral depth (as ++ bs) := by
  constructor
  · rw [Scan.read_append, ha.1, hb.1]
  · rw [anchorFree_append, ha.1]
    exact ⟨ha.2, hb.2⟩

theorem neutral_escape (depth : Nat) (c : Char) : Neutral depth ['\\', c] := by
  simp [Neutral]

/-- Characters that mean nothing to the scan are neutral. -/
theorem neutral_of_plain {cs : List Char}
    (h : (cs.all fun c => c ∉ ['\\', '[', ']', '^', '$']) = true) (depth : Nat) :
    Neutral depth cs := by
  induction cs with
  | nil => simp [Neutral]
  | cons c cs ih =>
    rw [List.all_cons, Bool.and_eq_true, decide_eq_true_iff] at h
    obtain ⟨plain, later⟩ := h
    simp only [List.mem_cons, List.not_mem_nil, or_false, not_or] at plain
    have stays : Scan.next ⟨depth, false⟩ c = ⟨depth, false⟩ := by simp [Scan.next, plain]
    obtain ⟨read, free⟩ := ih later
    simp [Neutral, stays, read, free, plain]

/-- A class around a text that is neutral one level deeper. -/
theorem neutral_class {depth : Nat} {cs : List Char} (h : Neutral (depth + 1) cs) :
    Neutral depth ('[' :: cs ++ [']']) := by
  have opens : Scan.next ⟨depth, false⟩ '[' = ⟨depth + 1, false⟩ := rfl
  have closes : Scan.next ⟨depth + 1, false⟩ ']' = ⟨depth, false⟩ := rfl
  constructor
  · simp [opens, h.1, closes]
  · simp [anchorFree_append, opens, h.1, h.2]

theorem neutral_complement {depth : Nat} {cs : List Char} (h : Neutral (depth + 1) cs) :
    Neutral depth ('[' :: '^' :: cs ++ [']']) := by
  have stays : Scan.next ⟨depth + 1, false⟩ '^' = ⟨depth + 1, false⟩ := rfl
  exact @neutral_class depth ('^' :: cs) ⟨by simp [stays, h.1], by simp [stays, h.2]⟩

theorem neutral_nameStartItems (depth : Nat) : Neutral depth nameStartItems :=
  neutral_of_plain (by decide) depth

theorem neutral_nameItems (depth : Nat) : Neutral depth nameItems := by
  have plain : Neutral depth "._:A-Za-z0-9".toList := neutral_of_plain (by decide) depth
  exact (neutral_escape depth '-').append plain

theorem neutral_escapeText (depth : Nat) (inClass : Bool) (c : Char) :
    Neutral depth (escapeText inClass c) := by
  unfold escapeText
  split
  · exact neutral_nameStartItems depth
  · exact neutral_nameItems depth
  · exact neutral_class (neutral_nameStartItems _)
  · exact neutral_complement (neutral_nameStartItems _)
  · exact neutral_class (neutral_nameItems _)
  · exact neutral_complement (neutral_nameItems _)
  · exact neutral_escape depth c

theorem ne_backslash {c : Char} {cs : List Char} (lone : c = '\\' → cs = [] → False)
    (escape : ∀ d ds, c = '\\' → cs = d :: ds → False) : c ≠ '\\' := by
  intro backslash
  cases cs with
  | nil => exact lone backslash rfl
  | cons d ds => exact escape d ds backslash rfl

/-- A character that is written as it stands keeps the depth. -/
theorem next_of_kept {depth : Nat} {c : Char} (no_escape : c ≠ '\\') (opens : c ≠ '[')
    (closes : ¬ (c = ']' ∧ 0 < depth)) : Scan.next ⟨depth, false⟩ c = ⟨depth, false⟩ := by
  by_cases bracket : c = ']'
  · have outside : depth = 0 := Nat.eq_zero_of_not_pos fun inside => closes ⟨bracket, inside⟩
    subst bracket outside
    rfl
  · simp [Scan.next, no_escape, opens, bracket]

/-- The expression of a pattern ends with as many open classes as the pattern and with no unfinished
escape, and it has no anchors. -/
theorem read_bodyFrom (depth : Nat) (cs : List Char) :
    Scan.read ⟨depth, false⟩ (bodyFrom depth cs) = ⟨(Scan.read ⟨depth, false⟩ cs).depth, false⟩ ∧
      AnchorFree ⟨depth, false⟩ (bodyFrom depth cs) := by
  fun_induction bodyFrom depth cs with
  | case1 depth => simp
  | case2 depth => simp
  | case3 depth c cs ih =>
    obtain ⟨read, free⟩ := neutral_escapeText depth (0 < depth) c
    simpa [anchorFree_append, read, free] using ih
  | case4 depth cs _ _ ih =>
    have opens : Scan.next ⟨depth, false⟩ '[' = ⟨depth + 1, false⟩ := rfl
    simpa [opens] using ih
  | case5 depth c cs _ _ _ subtraction ih =>
    obtain ⟨rfl, -, -⟩ := subtraction
    have stays : Scan.next ⟨depth, false⟩ '-' = ⟨depth, false⟩ := rfl
    simpa [stays] using ih
  | case6 depth c cs _ _ _ _ closing ih =>
    obtain ⟨rfl, -⟩ := closing
    have closes : Scan.next ⟨depth, false⟩ ']' = ⟨depth - 1, false⟩ := rfl
    simpa [closes] using ih
  | case7 depth c cs _ _ _ _ _ anchor ih =>
    obtain ⟨anchor, rfl⟩ := anchor
    have stays : Scan.next ⟨0, false⟩ c = ⟨0, false⟩ := by rcases anchor with rfl | rfl <;> rfl
    simpa [stays] using ih
  | case8 depth c cs lone escape opens _ closes no_anchor ih =>
    have stays := next_of_kept (ne_backslash lone escape) opens closes
    have kept : depth = 0 → c ≠ '^' ∧ c ≠ '$' := fun outside =>
      not_or.1 fun anchor => no_anchor ⟨anchor, outside⟩
    simpa [stays] using ⟨ih.1, kept, ih.2⟩

/-- A hyphen at the end of a pattern stands in no class, if all classes are closed there. -/
theorem subtraction_append {depth : Nat} {c : Char} {cs : List Char}
    (closed : Scan.read ⟨depth, false⟩ (c :: cs) = ⟨0, false⟩) (q : List Char) :
    (c = '-' ∧ 0 < depth ∧ (cs ++ q).head? = some '[') ↔
      (c = '-' ∧ 0 < depth ∧ cs.head? = some '[') := by
  cases cs with
  | nil =>
    constructor
    · rintro ⟨rfl, inside, -⟩
      obtain rfl : depth = 0 := congrArg Scan.depth closed
      simp at inside
    · simp
  | cons d cs => simp

/-- The expression of a pattern whose classes are closed, and which ends in no unfinished escape,
does not depend on what follows. -/
theorem bodyFrom_append {depth : Nat} {p : List Char}
    (closed : Scan.read ⟨depth, false⟩ p = ⟨0, false⟩) (q : List Char) :
    bodyFrom depth (p ++ q) = bodyFrom depth p ++ bodyFrom 0 q := by
  have step {depth : Nat} {c : Char} {cs : List Char} (no_escape : c ≠ '\\')
      (closed : Scan.read ⟨depth, false⟩ (c :: cs) = ⟨0, false⟩) :
      bodyFrom depth (c :: cs ++ q) =
        if c = '[' then '[' :: bodyFrom (depth + 1) (cs ++ q)
        else if c = '-' ∧ 0 < depth ∧ cs.head? = some '[' then
          '-' :: '-' :: bodyFrom depth (cs ++ q)
        else if c = ']' ∧ 0 < depth then ']' :: bodyFrom (depth - 1) (cs ++ q)
        else if (c = '^' ∨ c = '$') ∧ depth = 0 then '\\' :: c :: bodyFrom depth (cs ++ q)
        else c :: bodyFrom depth (cs ++ q) := by
    rw [List.cons_append, bodyFrom.eq_4 _ _ _ (fun h => absurd h no_escape)
      (fun _ _ h => absurd h no_escape)]
    simp only [subtraction_append closed q]
  fun_induction bodyFrom depth p with
  | case1 depth =>
    obtain rfl : depth = 0 := congrArg Scan.depth closed
    rfl
  | case2 depth => simp at closed
  | case3 depth c cs ih =>
    have later := ih (by simpa using closed)
    simp [bodyFrom, later]
  | case4 depth cs _ _ ih =>
    rw [step (by decide) closed, if_pos rfl, ih closed, List.cons_append]
  | case5 depth c cs _ _ opens subtraction ih =>
    obtain ⟨rfl, inside⟩ := subtraction
    rw [step (by decide) closed, if_neg opens, if_pos ⟨rfl, inside⟩, ih closed]
    rfl
  | case6 depth c cs _ _ opens subtraction closing ih =>
    obtain ⟨rfl, inside⟩ := closing
    rw [step (by decide) closed, if_neg opens, if_neg subtraction, if_pos ⟨rfl, inside⟩, ih closed]
    rfl
  | case7 depth c cs lone escape opens subtraction closes anchor ih =>
    have no_escape := ne_backslash lone escape
    rw [step no_escape closed, if_neg opens, if_neg subtraction, if_neg closes, if_pos anchor]
    rw [Scan.read_cons, next_of_kept no_escape opens closes] at closed
    rw [ih closed]
    rfl
  | case8 depth c cs lone escape opens subtraction closes no_anchor ih =>
    have no_escape := ne_backslash lone escape
    rw [step no_escape closed, if_neg opens, if_neg subtraction, if_neg closes, if_neg no_anchor]
    rw [Scan.read_cons, next_of_kept no_escape opens closes] at closed
    rw [ih closed]
    rfl

/-! ## The frame -/

/-- Around a text that has no anchors and leaves no class open, the two of the frame are the only
ones. -/
theorem isAnchor_frame_iff {cs : List Char} (h : Neutral 0 cs) (i : Nat) :
    IsAnchor ('^' :: (cs ++ ['$'])) i ↔ i = 0 ∨ i = cs.length + 1 := by
  have first : Scan.next ⟨0, false⟩ '^' = ⟨0, false⟩ := rfl
  constructor
  · rintro ⟨anchor, outside⟩
    cases i with
    | zero => exact .inl rfl
    | succ i =>
      refine .inr ?_
      rcases Nat.lt_trichotomy i cs.length with inner | last | behind
      · have none := anchorFree_scan_iff.1 h.2 i
        refine absurd ⟨?_, ?_⟩ none
        · simpa [List.getElem?_append_left inner] using anchor
        · simpa [scan, first, List.take_append_of_le_length (Nat.le_of_lt inner)] using outside
      · rw [last]
      · rw [List.getElem?_eq_none (by simp; omega)] at anchor
        simp at anchor
  · rintro (rfl | rfl)
    · exact ⟨.inl rfl, rfl⟩
    · refine ⟨.inr (by simp), ?_⟩
      simpa [scan, first] using h.1

/-- The expression of a pattern, without its frame, ends with as many open classes as the pattern
and with no unfinished escape, and it has no anchors.  If the classes of the pattern are closed, the
first and the last character of its frame are the only anchors of the expression.  If the pattern
ends in no unfinished escape either, a pattern that follows has an expression of its own. -/
theorem scan_body (p : List Char) :
    scan (body p) = ⟨(scan p).depth, false⟩ ∧ (∀ i, ¬ IsAnchor (body p) i) ∧
      ((scan p).depth = 0 →
        ∀ i, IsAnchor (expressionText p) i ↔ i = 0 ∨ i + 1 = (expressionText p).length) ∧
      (scan p = ⟨0, false⟩ → ∀ q, body (p ++ q) = body p ++ body q) := by
  obtain ⟨read, free⟩ : scan (body p) = ⟨(scan p).depth, false⟩ ∧ AnchorFree ⟨0, false⟩ (body p) :=
    read_bodyFrom 0 p
  refine ⟨read, anchorFree_scan_iff.1 free, ?_, fun closed q => bodyFrom_append closed q⟩
  intro closed i
  have inner : Neutral 0 ("(?:".toList ++ body p ++ ")".toList) := by
    have balanced : scan (body p) = ⟨0, false⟩ := by rw [read, closed]
    have neutral : Neutral 0 (body p) := ⟨balanced, free⟩
    exact ((neutral_of_plain (by decide) 0).append neutral).append (neutral_of_plain (by decide) 0)
  have frame : expressionText p = '^' :: (("(?:".toList ++ body p ++ ")".toList) ++ ['$']) := by
    unfold expressionText
    rw [List.append_assoc, List.append_assoc, List.append_assoc]
    rfl
  rw [frame, isAnchor_frame_iff inner]
  generalize "(?:".toList ++ body p ++ ")".toList = text
  simp

/-- A class with a class taken from it, the characters of names in another class, and a dollar sign
inside and outside classes. -/
theorem scan_body_subtraction :
    let p := "[^a-z-[$]]$[\\c]".toList
    scan p = ⟨0, false⟩ ∧
      String.ofList (expressionText p) = "^(?:[^a-z--[$]]\\$[\\-._:A-Za-z0-9])$" ∧
      (∀ i, IsAnchor (expressionText p) i ↔ i = 0 ∨ i = 34) ∧
      ∀ q, body (p ++ q) = body p ++ body q := by
  intro p
  have closed : scan p = ⟨0, false⟩ := by decide +kernel
  have length : (expressionText p).length = 35 := by decide +kernel
  obtain ⟨-, -, anchors, append⟩ := scan_body p
  refine ⟨closed, by decide +kernel, fun i => ?_, append closed⟩
  rw [anchors (by rw [closed]) i, length]
  omega

end Pattern

end XmlSchema
