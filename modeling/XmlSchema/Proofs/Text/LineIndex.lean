import Mathlib.Data.List.Induction
import Mathlib.Data.Nat.Basic
import XmlSchema.Text.Position

/-!
# The table of line starts

`LineIndex.position` looks an offset up in the table of line starts.  A scan of the text from its
beginning gives the same place (`position_eq_scan`): it passes over the characters before the offset
one by one (`advance`), and the line breaks that it meets are the starts that are not behind the
offset (`exists_breaks`), of which the binary search finds the last (`bisect_eq`).
-/

namespace XmlSchema.Text

/-! ## Offsets -/

/-- The offset lies between two characters, or at an end of the text. -/
def IsBoundary (text : List Char) (offset : Nat) : Prop :=
  ∃ before after, text = before ++ after ∧ byteLength before = offset

theorem length_le_byteLength (cs : List Char) : cs.length ≤ byteLength cs := by
  induction cs with
  | nil => rfl
  | cons c cs ih =>
    have := c.utf8Size_pos
    rw [List.length_cons, byteLength_cons]
    omega

/-- Of two parts at the front of a text the one with fewer bytes begins the other. -/
theorem exists_append_of_byteLength_le {before after before' after' : List Char}
    (same : before ++ after = before' ++ after') (h : byteLength before ≤ byteLength before') :
    ∃ between, before' = before ++ between ∧ after = between ++ after' := by
  rcases List.append_eq_append_iff.1 same with ⟨between, rfl, rfl⟩ | ⟨more, rfl, rfl⟩
  · exact ⟨between, rfl, rfl⟩
  · have none : more = [] := by
      have bound := length_le_byteLength more
      rw [byteLength_append] at h
      exact List.eq_nil_of_length_eq_zero (by omega)
    subst none
    exact ⟨[], by simp, by simp⟩

theorem eq_of_byteLength_eq {before after before' after' : List Char}
    (same : before ++ after = before' ++ after') (h : byteLength before = byteLength before') :
    before = before' ∧ after = after' := by
  obtain ⟨between, rfl, rfl⟩ := exists_append_of_byteLength_le same (Nat.le_of_eq h)
  have none : between = [] := by
    have bound := length_le_byteLength between
    rw [byteLength_append] at h
    exact List.eq_nil_of_length_eq_zero (by omega)
  simp [none]

theorem dropBytes?_byteLength (before after : List Char) :
    dropBytes? (byteLength before) (before ++ after) = some after := by
  induction before with
  | nil => cases after <;> rfl
  | cons c cs ih =>
    have pos := c.utf8Size_pos
    obtain ⟨n, hn⟩ : ∃ n, byteLength (c :: cs) = n + 1 := ⟨byteLength (c :: cs) - 1, by simp; omega⟩
    rw [hn, List.cons_append, dropBytes?, if_pos (by rw [← hn]; simp), ← hn, byteLength_cons,
      Nat.add_sub_cancel_left, ih]

theorem takeBytes?_byteLength (before after : List Char) :
    takeBytes? (byteLength before) (before ++ after) = some before := by
  induction before with
  | nil => cases after <;> rfl
  | cons c cs ih =>
    have pos := c.utf8Size_pos
    obtain ⟨n, hn⟩ : ∃ n, byteLength (c :: cs) = n + 1 := ⟨byteLength (c :: cs) - 1, by simp; omega⟩
    rw [hn, List.cons_append, takeBytes?, if_pos (by rw [← hn]; simp), ← hn, byteLength_cons,
      Nat.add_sub_cancel_left, ih]
    rfl

/-- What is cut out between the ends of two parts at the front of a text. -/
theorem sliceBytes?_byteLength (before between after : List Char) :
    sliceBytes? (byteLength before) (byteLength (before ++ between)) (before ++ between ++ after) =
      some between := by
  unfold sliceBytes?
  rw [if_pos (by simp), byteLength_append, Nat.add_sub_cancel_left, List.append_assoc,
    dropBytes?_byteLength, Option.bind_some, takeBytes?_byteLength]

/-! ## Passing over characters -/

/-- The place behind a character that stands before `rest`. -/
def Position.next (p : Position) (c : Char) (rest : List Char) : Position :=
  if endsLine c rest then ⟨p.line + 1, 1⟩ else ⟨p.line, p.column + 1⟩

/-- The place behind the characters `before`, when `after` follows them. -/
def advance (p : Position) : List Char → List Char → Position
  | [], _ => p
  | c :: cs, after => advance (p.next c (cs ++ after)) cs after

theorem advance_append (p : Position) (before between after : List Char) :
    advance p (before ++ between) after =
      advance (advance p before (between ++ after)) between after := by
  induction before generalizing p with
  | nil => rfl
  | cons c cs ih => rw [List.cons_append, advance, ih, advance, List.append_assoc]

/-- The place reached from `p` by passing over every character that ends within the next
`bytes` bytes. -/
def scanFrom (p : Position) : List Char → Nat → Position
  | [], _ => p
  | c :: cs, bytes =>
    if bytes < c.utf8Size then p else scanFrom (p.next c cs) cs (bytes - c.utf8Size)

/-- A position is reached by passing over the characters that end at the offset or before it. -/
theorem scanFrom_eq_advance (p : Position) (text : List Char) (offset : Nat) :
    ∃ before after, text = before ++ after ∧ scanFrom p text offset = advance p before after ∧
      byteLength before ≤ offset ∧ ∀ c ∈ after.head?, offset < byteLength before + c.utf8Size := by
  fun_induction scanFrom p text offset with
  | case1 p offset => exact ⟨[], [], rfl, rfl, Nat.zero_le _, by simp⟩
  | case2 p c cs offset inside =>
    exact ⟨[], c :: cs, rfl, rfl, Nat.zero_le _, by simpa using inside⟩
  | case3 p c cs offset inside ih =>
    obtain ⟨before, after, rfl, reached, fits, next⟩ := ih
    refine ⟨c :: before, after, rfl, reached, ?_, fun d hd => ?_⟩
    · rw [byteLength_cons]
      omega
    · have := next d hd
      rw [byteLength_cons]
      omega

/-! ## Line starts -/

theorem breakOffsets_cons (offset : Nat) (c : Char) (cs : List Char) :
    breakOffsets offset (c :: cs) =
      (if endsLine c cs then [offset + c.utf8Size] else []) ++
        breakOffsets (offset + c.utf8Size) cs := by
  rw [breakOffsets]
  split <;> rfl

theorem mem_breakOffsets {offset e : Nat} {text : List Char} : e ∈ breakOffsets offset text ↔
    ∃ before c after, text = before ++ c :: after ∧ offset + byteLength (before ++ [c]) = e ∧
      endsLine c after = true := by
  induction text generalizing offset with
  | nil => simp [breakOffsets]
  | cons d cs ih =>
    rw [breakOffsets_cons, List.mem_append, ih]
    constructor
    · rintro (first | ⟨before, c, after, rfl, rfl, ends⟩)
      · by_cases ends : endsLine d cs = true
        · obtain rfl : e = offset + d.utf8Size := by simpa [ends] using first
          exact ⟨[], d, cs, rfl, by simp, ends⟩
        · simp [ends] at first
      · exact ⟨d :: before, c, after, rfl, by simp; omega, ends⟩
    · rintro ⟨before, c, after, split, rfl, ends⟩
      cases before with
      | nil =>
        obtain ⟨rfl, rfl⟩ := List.cons.inj split
        exact .inl (by simp [ends])
      | cons b before =>
        obtain ⟨rfl, rfl⟩ := List.cons.inj split
        exact .inr ⟨before, c, after, rfl, by simp; omega, ends⟩

theorem lt_of_mem_breakOffsets {offset e : Nat} {text : List Char}
    (h : e ∈ breakOffsets offset text) : offset < e := by
  obtain ⟨before, c, after, -, rfl, -⟩ := mem_breakOffsets.1 h
  have := c.utf8Size_pos
  rw [byteLength_append, byteLength_cons]
  omega

theorem pairwise_breakOffsets (offset : Nat) (text : List Char) :
    (breakOffsets offset text).Pairwise (· < ·) := by
  induction text generalizing offset with
  | nil => exact .nil
  | cons c cs ih =>
    rw [breakOffsets_cons]
    split
    · exact List.pairwise_cons.2 ⟨fun e he => lt_of_mem_breakOffsets he, ih _⟩
    · exact ih _

/-- The line starts of a text, cut at a place of the text.  Those before it are counted by its line,
and the characters behind the last of them by its column. -/
theorem exists_breaks (before after : List Char) :
    ∃ (breaks : List Nat) (done rest : List Char), before = done ++ rest ∧
      breakOffsets 0 (before ++ after) = breaks ++ breakOffsets (byteLength before) after ∧
      (∀ e ∈ breaks, e ≤ byteLength before) ∧ breaks.getLast?.getD 0 = byteLength done ∧
      advance ⟨1, 1⟩ before after = ⟨1 + breaks.length, 1 + rest.length⟩ := by
  induction before using List.reverseRecOn generalizing after with
  | nil => exact ⟨[], [], [], rfl, rfl, by simp, rfl, rfl⟩
  | append_singleton before c ih =>
    obtain ⟨breaks, done, rest, rfl, starts, le, last, reached⟩ := ih (c :: after)
    have text : done ++ rest ++ [c] ++ after = done ++ rest ++ c :: after := by simp
    have reached' : advance ⟨1, 1⟩ (done ++ rest ++ [c]) after =
        Position.next ⟨1 + breaks.length, 1 + rest.length⟩ c after := by
      rw [advance_append, List.singleton_append, reached]
      rfl
    have size : byteLength (done ++ rest) + c.utf8Size = byteLength (done ++ rest ++ [c]) := by
      simp [Nat.add_assoc]
    have wider : ∀ e ∈ breaks, e ≤ byteLength (done ++ rest ++ [c]) := fun e he =>
      Nat.le_trans (le e he) (by omega)
    rw [breakOffsets_cons, size] at starts
    rw [text, starts, reached', Position.next]
    by_cases ends : endsLine c after = true
    · refine ⟨breaks ++ [byteLength (done ++ rest ++ [c])], done ++ rest ++ [c], [], by simp,
        by simp [ends], ?_, by simp, by simp [ends]; omega⟩
      exact List.forall_mem_append.2 ⟨wider, by simp⟩
    · exact ⟨breaks, done, rest ++ [c], by simp, by simp [ends], wider, last, by simp [ends]; omega⟩

/-! ## Binary search -/

/-- The search ends at the last entry that is not greater than the key. -/
theorem bisect_eq {entries : Array Nat} {key base size i : Nat} (low : base ≤ i)
    (high : i < base + size) (le : ∀ j ≤ i, entries.getD j 0 ≤ key)
    (gt : ∀ j, i < j → j < base + size → key < entries.getD j 0) :
    bisect entries key base size = i := by
  fun_induction bisect entries key base size with
  | case1 base size single => omega
  | case2 base size several middle within ih =>
    have right : middle ≤ i := by
      by_contra! left
      have greater := gt middle left (by omega)
      omega
    exact ih right (by omega) fun j hj inside => gt j hj (by omega)
  | case3 base size several middle greater ih =>
    have left : i < middle := by
      by_contra! right
      exact greater (le middle right)
    exact ih low (by omega) fun j hj inside => gt j hj (by omega)

theorem LineIndex.lineOf_eq {index : LineIndex} {before after : List Nat} {offset : Nat}
    (split : index.starts = (before ++ after).toArray) (nonempty : before ≠ [])
    (le : ∀ e ∈ before, e ≤ offset) (gt : ∀ e ∈ after, offset < e) :
    index.lineOf offset = before.length - 1 := by
  have pos := List.length_pos_iff.2 nonempty
  have entry_le : ∀ j < before.length, index.starts.getD j 0 ≤ offset := by
    intro j hj
    rw [split, Array.getD_eq_getD_getElem?, List.getElem?_toArray, List.getElem?_append_left hj,
      List.getElem?_eq_getElem hj]
    exact le _ (List.getElem_mem hj)
  have entry_gt : ∀ j, before.length - 1 < j → j < 0 + index.starts.size →
      offset < index.starts.getD j 0 := by
    intro j hj inside
    rw [split, Nat.zero_add, List.size_toArray, List.length_append] at inside
    have hj' : j - before.length < after.length := by omega
    rw [split, Array.getD_eq_getD_getElem?, List.getElem?_toArray,
      List.getElem?_append_right (by omega), List.getElem?_eq_getElem hj']
    exact gt _ (List.getElem_mem hj')
  have size : index.starts.size = before.length + after.length := by simp [split]
  have some_start : index.starts.isEmpty = false := by simp [split, nonempty]
  have found := bisect_eq (Nat.zero_le (before.length - 1)) (by omega)
    (fun j hj => entry_le j (by omega)) entry_gt
  have here := entry_le (before.length - 1) (by omega)
  unfold lineOf binarySearch
  rw [some_start, found, if_neg (by decide)]
  dsimp only
  -- whether the offset is the start of the line or lies behind it, the line is the same
  rcases Nat.lt_or_eq_of_le here with behind | same
  · rw [Nat.compare_eq_lt.2 behind]
    rfl
  · rw [Nat.compare_eq_eq.2 same]

/-! ## Agreement -/

theorem isBoundary_of_dropBytes? {n : Nat} {text rest : List Char}
    (h : dropBytes? n text = some rest) :
    ∃ before, text = before ++ rest ∧ byteLength before = n := by
  fun_induction dropBytes? n text with
  | case1 text =>
    obtain rfl := Option.some.inj h
    exact ⟨[], rfl, rfl⟩
  | case2 => cases h
  | case3 n c cs fits ih =>
    obtain ⟨before, rfl, length⟩ := ih h
    exact ⟨c :: before, rfl, by simp; omega⟩
  | case4 => cases h

/-- An offset between the beginning and the end of a character is rounded down. -/
theorem floorBoundary_eq {before after : List Char} {n : Nat} (fits : byteLength before ≤ n)
    (inside : n ≤ byteLength (before ++ after))
    (next : ∀ c ∈ after.head?, n < byteLength before + c.utf8Size) :
    floorBoundary (before ++ after) n = byteLength before := by
  induction n with
  | zero => exact (Nat.le_zero.1 fits).symm
  | succ n ih =>
    rw [floorBoundary]
    by_cases reached : byteLength before = n + 1
    · rw [← reached, dropBytes?_byteLength]
      rfl
    · have between : dropBytes? (n + 1) (before ++ after) = none := by
        refine Option.eq_none_iff_forall_not_mem.2 fun rest found => ?_
        obtain ⟨before', split, length⟩ := isBoundary_of_dropBytes? found
        obtain ⟨more, rfl, rfl⟩ := exists_append_of_byteLength_le split (by omega)
        cases more with
        | nil => simp [reached] at length
        | cons c cs =>
          have := next c rfl
          rw [byteLength_append, byteLength_cons] at length
          omega
      rw [between]
      refine ih (by omega) (by omega) fun c hc => ?_
      have := next c hc
      omega

theorem LineIndex.getD_starts (text : List Char) (line : Nat) :
    (ofText text).starts.getD line 0 = (0 :: breakOffsets 0 text).getD line 0 := by
  simp [ofText, Array.getD_eq_getD_getElem?]

/-- Looking an offset up in the table of line starts gives the place that a scan of the text comes
to. -/
theorem position_eq_scan (text : List Char) (offset : Nat) :
    position text offset = scanFrom ⟨1, 1⟩ text offset := by
  obtain ⟨before, after, rfl, reached, fits, next⟩ := scanFrom_eq_advance ⟨1, 1⟩ text offset
  obtain ⟨breaks, done, rest, rfl, starts, le, last, count⟩ := exists_breaks before after
  have rounded : floorBoundary (done ++ rest ++ after)
      (min offset (byteLength (done ++ rest ++ after))) = byteLength (done ++ rest) := by
    refine floorBoundary_eq ?_ (Nat.min_le_right _ _) fun c hc => ?_
    · rw [byteLength_append (done ++ rest)]
      omega
    · have := next c hc
      omega
  have start : (0 :: breakOffsets 0 (done ++ rest ++ after)).getD breaks.length 0 =
      byteLength done := by
    rw [← last, starts]
    rcases List.eq_nil_or_concat breaks with rfl | ⟨init, e, rfl⟩ <;> simp
  have line : (LineIndex.ofText (done ++ rest ++ after)).lineOf (byteLength (done ++ rest)) =
      breaks.length := by
    have split : (LineIndex.ofText (done ++ rest ++ after)).starts =
        (0 :: breaks ++ breakOffsets (byteLength (done ++ rest)) after).toArray := by
      rw [LineIndex.ofText, starts, List.cons_append]
    refine LineIndex.lineOf_eq split (List.cons_ne_nil _ _) ?_ fun e => lt_of_mem_breakOffsets
    exact List.forall_mem_cons.2 ⟨Nat.zero_le _, le⟩
  unfold position LineIndex.position
  dsimp only
  rw [show (LineIndex.ofText (done ++ rest ++ after)).text = done ++ rest ++ after from rfl,
    rounded, line, LineIndex.getD_starts, start, sliceBytes?_byteLength, reached, count]
  simp [Nat.add_comm]

end XmlSchema.Text
