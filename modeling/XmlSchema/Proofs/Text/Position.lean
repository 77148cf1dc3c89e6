import Mathlib.Data.Prod.Lex
import Mathlib.Order.Bounds.Defs
import XmlSchema.Proofs.Text.LineIndex
import XmlSchema.Text.Number

/-!
# Lines and columns of offsets

A line break is a line feed, a carriage return with a line feed, or a carriage return before
anything else (`LineBreak`).  Two functions cut a text at these: `position` counts the breaks before
an offset, and `lines` lists what stands between them.  Both work on the table of line starts.

The place of an offset is also that of a scan over the characters before it (`advance`).  So it is
the number of breaks up to the offset and the number of characters behind the last of them, it grows
with the offset, and it tells character boundaries apart.  The stretches between the line starts,
without their ends, are the first part of a cut of the text into lines and their terminators
(`Cut.lines_eq`), and a scan gives them too (`lines_eq_scan`).  The two functions agree: the
character at an offset is that of its line at its column (`position_lines`).
-/

namespace XmlSchema.Text

/-! ## Line breaks -/

/-- A line break, before a given text. -/
inductive LineBreak : List Char → List Char → Prop where
  | feed (after : List Char) : LineBreak ['\n'] after
  | returnFeed (after : List Char) : LineBreak ['\r', '\n'] after
  | return {after : List Char} (alone : after.head? ≠ some '\n') : LineBreak ['\r'] after

/-- A line break ends at the offset.  A return with its feed and that feed alone end at one offset,
so a count of offsets counts the pair once. -/
def BreakEndsAt (text : List Char) (offset : Nat) : Prop :=
  ∃ before lineBreak after, text = before ++ lineBreak ++ after ∧ LineBreak lineBreak after ∧
    byteLength (before ++ lineBreak) = offset

/-- A line break ends behind each character that ends a line. -/
theorem breakEndsAt_iff {text : List Char} {offset : Nat} : BreakEndsAt text offset ↔
    ∃ before c after, text = before ++ c :: after ∧ byteLength (before ++ [c]) = offset ∧
      endsLine c after = true := by
  constructor
  · rintro ⟨before, lineBreak, after, rfl, isBreak, rfl⟩
    cases isBreak with
    | feed => exact ⟨before, '\n', after, by simp, rfl, rfl⟩
    | returnFeed => exact ⟨before ++ ['\r'], '\n', after, by simp, by simp, rfl⟩
    | «return» alone => exact ⟨before, '\r', after, by simp, rfl, by simp [endsLine, alone]⟩
  · rintro ⟨before, c, after, rfl, rfl, ends⟩
    simp only [endsLine, Bool.or_eq_true, Bool.and_eq_true, beq_iff_eq, bne_iff_ne] at ends
    rcases ends with rfl | ⟨rfl, alone⟩
    · exact ⟨before, ['\n'], after, by simp, .feed after, rfl⟩
    · exact ⟨before, ['\r'], after, by simp, .return alone, rfl⟩

/-! ## Passing over characters -/

/-- The part of a text before an offset, rounded down to a character boundary. -/
theorem position_eq_advance (text : List Char) (offset : Nat) :
    ∃ before after, text = before ++ after ∧ position text offset = advance ⟨1, 1⟩ before after ∧
      IsGreatest {k | IsBoundary text k ∧ k ≤ min offset (byteLength text)}
        (byteLength before) := by
  obtain ⟨before, after, rfl, reached, fits, next⟩ := scanFrom_eq_advance ⟨1, 1⟩ text offset
  refine ⟨before, after, rfl, (position_eq_scan _ _).trans reached,
    ⟨⟨before, after, rfl, rfl⟩, by simp [fits]⟩, ?_⟩
  rintro k ⟨⟨before', after', same, rfl⟩, bound⟩
  by_contra! longer
  obtain ⟨between, rfl, rfl⟩ := exists_append_of_byteLength_le same longer.le
  cases between with
  | nil => simp at longer
  | cons c cs =>
    have := next c (by simp)
    rw [byteLength_append, byteLength_cons] at bound
    omega

theorem position_byteLength (before after : List Char) :
    position (before ++ after) (byteLength before) = advance ⟨1, 1⟩ before after := by
  obtain ⟨before', after', same, reached, greatest⟩ :=
    position_eq_advance (before ++ after) (byteLength before)
  have le : byteLength before ≤ byteLength before' :=
    greatest.2 ⟨⟨before, after, rfl, rfl⟩, by simp⟩
  have ge : byteLength before' ≤ byteLength before := greatest.1.2.trans (min_le_left _ _)
  obtain ⟨rfl, rfl⟩ := eq_of_byteLength_eq same (le.antisymm ge)
  exact reached

/-! ## Order -/

/-- Places in the order in which a text is read. -/
def Position.key (p : Position) : Nat ×ₗ Nat := toLex (p.line, p.column)

theorem Position.key_lt_next (p : Position) (c : Char) (rest : List Char) :
    p.key < (p.next c rest).key := by
  unfold Position.next
  split <;> simp [Position.key, Prod.Lex.toLex_lt_toLex]

theorem key_le_advance (p : Position) (before after : List Char) :
    p.key ≤ (advance p before after).key := by
  induction before generalizing p with
  | nil => exact le_rfl
  | cons c cs ih => exact (p.key_lt_next c _).le.trans (ih _)

theorem key_lt_advance (p : Position) {before : List Char} (h : before ≠ []) (after : List Char) :
    p.key < (advance p before after).key := by
  cases before with
  | nil => exact absurd rfl h
  | cons c cs => exact (p.key_lt_next c _).trans_le (key_le_advance _ _ _)

theorem position_monotone (text : List Char) : Monotone fun o => (position text o).key := by
  intro o o' le
  obtain ⟨before, after, split, reached, greatest⟩ := position_eq_advance text o
  obtain ⟨before', after', split', reached', greatest'⟩ := position_eq_advance text o'
  have shorter : byteLength before ≤ byteLength before' :=
    greatest'.2 ⟨greatest.1.1, greatest.1.2.trans (by omega)⟩
  obtain ⟨between, rfl, rfl⟩ := exists_append_of_byteLength_le (split.symm.trans split') shorter
  simp only [reached, reached', advance_append]
  exact key_le_advance _ _ _

theorem position_injOn (text : List Char) : Set.InjOn (position text) {o | IsBoundary text o} := by
  rintro _ ⟨before, after, split, rfl⟩ _ ⟨before', after', split', rfl⟩ same
  -- the boundaries play the same part, so the first may be taken not to lie behind the second
  wlog le : byteLength before ≤ byteLength before' generalizing before after before' after'
  · exact (this before' after' split' before after split same.symm (Nat.le_of_not_le le)).symm
  obtain ⟨between, rfl, rfl⟩ := exists_append_of_byteLength_le (split.symm.trans split') le
  subst split
  rw [position_byteLength, ← List.append_assoc, position_byteLength, advance_append] at same
  by_cases none : between = []
  · simp [none]
  · exact absurd (congrArg Position.key same) (key_lt_advance _ none _).ne

/-- Neither number outgrows the characters passed over. -/
theorem advance_bounds (p : Position) (before after : List Char) (h : 0 < p.column) :
    p.line ≤ (advance p before after).line ∧ 0 < (advance p before after).column ∧
      (advance p before after).line + (advance p before after).column ≤
        p.line + p.column + before.length := by
  induction before generalizing p with
  | nil => exact ⟨le_rfl, h, le_rfl⟩
  | cons c cs ih =>
    have step : p.line ≤ (p.next c (cs ++ after)).line ∧ 0 < (p.next c (cs ++ after)).column ∧
        (p.next c (cs ++ after)).line + (p.next c (cs ++ after)).column ≤
          p.line + p.column + 1 := by
      unfold Position.next
      split <;> simp <;> omega
    obtain ⟨line, column, sum⟩ := ih (p.next c (cs ++ after)) step.2.1
    rw [advance, List.length_cons]
    exact ⟨step.1.trans line, column, by omega⟩

/-- Line and column of a text of fewer than `maxWord32` bytes are words of 32 bits. -/
theorem position_toUInt32 {text : List Char} (h : byteLength text < maxWord32) (offset : Nat) :
    (position text offset).line.toUInt32.toNat = (position text offset).line ∧
      (position text offset).column.toUInt32.toNat = (position text offset).column := by
  obtain ⟨before, after, rfl, reached, -⟩ := position_eq_advance text offset
  have bounds := advance_bounds ⟨1, 1⟩ before after Nat.one_pos
  have := length_le_byteLength before
  rw [byteLength_append, maxWord32] at h
  rw [reached, Nat.toUInt32_eq, Nat.toUInt32_eq]
  dsimp only at bounds
  exact ⟨UInt32.toNat_ofNat_of_lt' (by simp [UInt32.size]; omega),
    UInt32.toNat_ofNat_of_lt' (by simp [UInt32.size]; omega)⟩

/-! ## Counting line breaks -/

/-- The place behind a part of a text counts the line breaks in it and the characters behind the
last of them. -/
theorem advance_eq_count (before after : List Char) :
    ∃ (breaks : List Nat) (done rest : List Char), before = done ++ rest ∧
      breaks.Pairwise (· < ·) ∧
      (∀ e, e ∈ breaks ↔ BreakEndsAt (before ++ after) e ∧ e ≤ byteLength before) ∧
      breaks.getLast?.getD 0 = byteLength done ∧
      advance ⟨1, 1⟩ before after = ⟨1 + breaks.length, 1 + rest.length⟩ := by
  obtain ⟨breaks, done, rest, split, starts, le, last, reached⟩ := exists_breaks before after
  have sorted := pairwise_breakOffsets 0 (before ++ after)
  rw [starts] at sorted
  refine ⟨breaks, done, rest, split, (List.pairwise_append.1 sorted).1, fun e => ?_, last, reached⟩
  have isBreak : BreakEndsAt (before ++ after) e ↔ e ∈ breakOffsets 0 (before ++ after) := by
    simp only [breakEndsAt_iff, mem_breakOffsets, Nat.zero_add]
  rw [isBreak, starts, List.mem_append]
  constructor
  · exact fun mem => ⟨.inl mem, le e mem⟩
  · rintro ⟨mem | later, within⟩
    · exact mem
    · exact absurd (lt_of_mem_breakOffsets later) (Nat.not_lt.2 within)

theorem position_eq_count (text : List Char) (offset : Nat) :
    ∃ (rounded : Nat) (breaks : List Nat) (rest : List Char),
      IsGreatest {k | IsBoundary text k ∧ k ≤ min offset (byteLength text)} rounded ∧
      breaks.Pairwise (· < ·) ∧ (∀ e, e ∈ breaks ↔ BreakEndsAt text e ∧ e ≤ rounded) ∧
      sliceBytes? (breaks.getLast?.getD 0) rounded text = some rest ∧
      position text offset = ⟨1 + breaks.length, 1 + rest.length⟩ := by
  obtain ⟨before, after, rfl, reached, greatest⟩ := position_eq_advance text offset
  obtain ⟨breaks, done, rest, rfl, sorted, mem, last, count⟩ := advance_eq_count before after
  refine ⟨_, breaks, rest, greatest, sorted, mem, ?_, reached.trans count⟩
  rw [last, sliceBytes?_byteLength]

/-! ## Lines and their terminators -/

/-- No character of the line belongs to a line break. -/
def Plain (line : List Char) : Prop := ∀ c ∈ line, c ≠ '\n' ∧ c ≠ '\r'

/-- The lines of a text, each with its terminator: only the last has none. -/
inductive Cut : List Char → List (List Char × List Char) → Prop where
  | last {line : List Char} (plain : Plain line) : Cut line [(line, [])]
  | line {line lineBreak rest : List Char} {cuts : List (List Char × List Char)}
      (plain : Plain line) (isBreak : LineBreak lineBreak rest) (cut : Cut rest cuts) :
      Cut (line ++ lineBreak ++ rest) ((line, lineBreak) :: cuts)

/-- Lines and terminators put together again. -/
def rejoined (cuts : List (List Char × List Char)) : List Char :=
  cuts.flatMap fun cut => cut.1 ++ cut.2

theorem rejoined_append (cuts cuts' : List (List Char × List Char)) :
    rejoined (cuts ++ cuts') = rejoined cuts ++ rejoined cuts' :=
  List.flatMap_append

theorem rejoined_cons (line terminator : List Char) (cuts : List (List Char × List Char)) :
    rejoined ((line, terminator) :: cuts) = line ++ terminator ++ rejoined cuts :=
  List.flatMap_cons

theorem Cut.rejoined_eq {text : List Char} {cuts : List (List Char × List Char)}
    (cut : Cut text cuts) : rejoined cuts = text := by
  induction cut with
  | last => simp [rejoined]
  | line _ _ _ ih => rw [rejoined_cons, ih]

theorem Cut.terminator_mem {text : List Char} {cuts : List (List Char × List Char)}
    (h : Cut text cuts) :
    ∀ cut ∈ cuts, cut.2 ∈ [[], ['\r'], ['\n'], ['\r', '\n']] := by
  induction h with
  | last => simp
  | line _ isBreak _ ih =>
    refine List.forall_mem_cons.2 ⟨?_, ih⟩
    cases isBreak <;> simp

/-- A character that belongs to no line break stands in the first line. -/
theorem Cut.exists_cons {c : Char} {text : List Char} {cuts : List (List Char × List Char)}
    (cut : Cut text cuts) (plain : c ≠ '\n' ∧ c ≠ '\r') : ∃ cuts', Cut (c :: text) cuts' := by
  cases cut with
  | last rest => exact ⟨_, .last (List.forall_mem_cons.2 ⟨plain, rest⟩)⟩
  | line rest isBreak cut => exact ⟨_, .line (List.forall_mem_cons.2 ⟨plain, rest⟩) isBreak cut⟩

/-- A scan for the lines of a text, without their ends. -/
def scanLines : List Char → List (List Char)
  | [] => [[]]
  | '\r' :: '\n' :: cs => [] :: scanLines cs
  | c :: cs =>
    if c = '\n' ∨ c = '\r' then [] :: scanLines cs
    else
      match scanLines cs with
      | l :: ls => (c :: l) :: ls
      | [] => [[c]]

theorem exists_cut (text : List Char) : ∃ cuts, Cut text cuts := by
  have empty : Plain [] := by simp [Plain]
  -- the cases are those of `scanLines`, which takes a return and its feed in one step
  fun_induction scanLines text with
  | case1 => exact ⟨_, .last empty⟩
  | case2 cs ih =>
    obtain ⟨cuts, cut⟩ := ih
    exact ⟨_, .line empty (.returnFeed cs) cut⟩
  | case3 c cs alone isEnd ih =>
    obtain ⟨cuts, cut⟩ := ih
    rcases isEnd with rfl | rfl
    · exact ⟨_, .line empty (.feed cs) cut⟩
    · refine ⟨_, .line empty (.return fun feed => ?_) cut⟩
      obtain ⟨rest, rfl⟩ := List.head?_eq_some_iff.1 feed
      exact alone rest rfl rfl
  | case4 c cs alone notEnd l ls same ih | case5 c cs alone notEnd none ih =>
    obtain ⟨cuts, cut⟩ := ih
    exact cut.exists_cons (not_or.1 notEnd)

theorem scanLines_lineBreak {lineBreak rest : List Char} (isBreak : LineBreak lineBreak rest) :
    scanLines (lineBreak ++ rest) = [] :: scanLines rest := by
  cases isBreak with
  | feed => simp [scanLines]
  | returnFeed => rfl
  | «return» alone =>
    cases rest with
    | nil => rfl
    | cons c cs => simp_all [scanLines]

theorem scanLines_plain {line rest l : List Char} {ls : List (List Char)} (plain : Plain line)
    (h : scanLines rest = l :: ls) : scanLines (line ++ rest) = (line ++ l) :: ls := by
  induction line with
  | nil => exact h
  | cons c cs ih =>
    obtain ⟨⟨feed, ret⟩, tail⟩ := List.forall_mem_cons.1 plain
    simp [scanLines, feed, ret, ih tail]

theorem Cut.scanLines_eq {text : List Char} {cuts : List (List Char × List Char)}
    (cut : Cut text cuts) : scanLines text = cuts.map Prod.fst := by
  induction cut with
  | @last line plain =>
    have whole : scanLines (line ++ []) = [line ++ []] := scanLines_plain plain rfl
    simpa using whole
  | line plain isBreak _ ih =>
    rw [List.append_assoc, scanLines_plain plain (scanLines_lineBreak isBreak), ih]
    simp

theorem endsLine_of_plain {c : Char} (plain : c ≠ '\n' ∧ c ≠ '\r') (rest : List Char) :
    endsLine c rest = false := by
  simp [endsLine, plain]

theorem Cut.plain {text : List Char} {cuts : List (List Char × List Char)} (h : Cut text cuts) :
    ∀ cut ∈ cuts, Plain cut.1 := by
  induction h with
  | last plain => simpa using plain
  | line plain _ _ ih => exact List.forall_mem_cons.2 ⟨plain, ih⟩

theorem breakOffsets_plain {line : List Char} (plain : Plain line) (offset : Nat)
    (rest : List Char) :
    breakOffsets offset (line ++ rest) = breakOffsets (offset + byteLength line) rest := by
  induction line generalizing offset with
  | nil => rfl
  | cons c cs ih =>
    obtain ⟨head, tail⟩ := List.forall_mem_cons.1 plain
    rw [List.cons_append, breakOffsets_cons, endsLine_of_plain head, ih tail, byteLength_cons,
      Nat.add_assoc]
    rfl

theorem breakOffsets_lineBreak {lineBreak rest : List Char} (isBreak : LineBreak lineBreak rest)
    (offset : Nat) : breakOffsets offset (lineBreak ++ rest) =
      (offset + byteLength lineBreak) :: breakOffsets (offset + byteLength lineBreak) rest := by
  cases isBreak with
  | feed => rfl
  | returnFeed => rfl
  | «return» alone =>
    have ends : endsLine '\r' rest = true := by simp [endsLine, alone]
    rw [List.singleton_append, breakOffsets_cons, ends]
    rfl

/-- The table holds the offset at which each line starts, and nothing else. -/
theorem Cut.starts_eq {text : List Char} {cuts : List (List Char × List Char)}
    (cut : Cut text cuts) (offset : Nat) : offset :: breakOffsets offset text =
      (List.range cuts.length).map fun i => offset + byteLength (rejoined (cuts.take i)) := by
  induction cut generalizing offset with
  | @last line plain =>
    have none : breakOffsets offset (line ++ []) = [] := breakOffsets_plain plain offset []
    rw [List.append_nil] at none
    simp [none, rejoined]
  | @line line lineBreak rest cuts plain isBreak _ ih =>
    have next : breakOffsets offset (line ++ lineBreak ++ rest) =
        (offset + byteLength (line ++ lineBreak)) ::
          breakOffsets (offset + byteLength (line ++ lineBreak)) rest := by
      rw [List.append_assoc, breakOffsets_plain plain, breakOffsets_lineBreak isBreak,
        byteLength_append, Nat.add_assoc]
    rw [next, ih, List.length_cons, List.range_succ_eq_map, List.map_cons, List.map_map]
    congr 1
    refine List.map_congr_left fun i _ => ?_
    rw [Function.comp_apply, List.take_succ_cons, rejoined_cons,
      byteLength_append (line ++ lineBreak), Nat.add_assoc]

theorem Cut.lineCount_eq {text : List Char} {cuts : List (List Char × List Char)}
    (cut : Cut text cuts) : lineCount text = cuts.length := by
  show (0 :: breakOffsets 0 text).length = cuts.length
  rw [cut.starts_eq, List.length_map, List.length_range]

theorem Cut.getElem?_starts {text : List Char} {cuts : List (List Char × List Char)}
    (cut : Cut text cuts) (i : Nat) : (LineIndex.ofText text).starts[i]? =
      if i < cuts.length then some (byteLength (rejoined (cuts.take i))) else none := by
  unfold LineIndex.ofText
  rw [List.getElem?_toArray, cut.starts_eq, List.getElem?_map]
  split
  · rename_i inside
    rw [List.getElem?_range inside, Option.map_some, Nat.zero_add]
  · rename_i outside
    rw [List.getElem?_eq_none (by simpa using outside)]
    rfl

theorem trimLineEnd_append {line terminator : List Char} (plain : Plain line)
    (ends : ∀ c ∈ terminator, c = '\n' ∨ c = '\r') : trimLineEnd (line ++ terminator) = line := by
  have keep : line.reverse.dropWhile (fun c => c == '\n' || c == '\r') = line.reverse := by
    cases hline : line.reverse with
    | nil => rfl
    | cons c cs =>
      have := plain c (List.mem_reverse.1 (hline ▸ List.mem_cons_self))
      rw [List.dropWhile_cons_of_neg (by simpa using this)]
  unfold trimLineEnd
  rw [List.reverse_append, List.dropWhile_append_of_pos (fun c hc => ?_), keep,
    List.reverse_reverse]
  simpa using ends c (List.mem_reverse.1 hc)

/-- What stands between two starts in the table is a line with its terminator. -/
theorem Cut.line?_eq {text : List Char} {cuts : List (List Char × List Char)}
    (cut : Cut text cuts) (i : Nat) : line? text i = cuts[i]?.map Prod.fst := by
  unfold line? LineIndex.lineText?
  rw [cut.getElem?_starts, cut.getElem?_starts]
  by_cases inside : i < cuts.length
  · obtain ⟨⟨line, terminator⟩, hcut⟩ : ∃ cut, cuts[i] = cut := ⟨_, rfl⟩
    have taken : rejoined (cuts.take (i + 1)) = rejoined (cuts.take i) ++ (line ++ terminator) := by
      rw [← List.take_append_getElem inside, hcut, rejoined_append]
      simp [rejoined]
    have whole : rejoined (cuts.take (i + 1)) ++ rejoined (cuts.drop (i + 1)) = text := by
      rw [← rejoined_append, List.take_append_drop, cut.rejoined_eq]
    have stop : (if i + 1 < cuts.length then some (byteLength (rejoined (cuts.take (i + 1))))
        else none).getD (byteLength text) = byteLength (rejoined (cuts.take (i + 1))) := by
      split
      · rfl
      · rename_i last
        rw [List.take_of_length_le (by omega), cut.rejoined_eq]
        rfl
    have mem : (line, terminator) ∈ cuts := hcut ▸ List.getElem_mem inside
    have ends : ∀ c ∈ terminator, c = '\n' ∨ c = '\r' := by
      have kinds := cut.terminator_mem _ mem
      simp only [List.mem_cons, List.not_mem_nil, or_false] at kinds
      rcases kinds with rfl | rfl | rfl | rfl <;> simp
    rw [if_pos inside, List.getElem?_eq_getElem inside, hcut]
    simp only [Option.bind_eq_bind, Option.bind_some, Option.pure_def, Option.map_some]
    rw [show (LineIndex.ofText text).text = text from rfl, stop, ← whole, taken,
      sliceBytes?_byteLength, Option.getD_some, trimLineEnd_append (cut.plain _ mem) ends]
  · rw [if_neg inside, List.getElem?_eq_none (Nat.not_lt.1 inside)]
    rfl

theorem filterMap_range_getElem? {α : Type} (xs : List α) :
    (List.range xs.length).filterMap (xs[·]?) = xs := by
  induction xs with
  | nil => rfl
  | cons x xs ih =>
    rw [List.length_cons, List.range_succ_eq_map,
      List.filterMap_cons_some List.getElem?_cons_zero, List.filterMap_map]
    exact congrArg (x :: ·) ih

theorem Cut.lines_eq {text : List Char} {cuts : List (List Char × List Char)}
    (cut : Cut text cuts) : lines text = cuts.map Prod.fst := by
  have lookup : (LineIndex.ofText text).lineText? = fun i => (cuts.map Prod.fst)[i]? := by
    funext i
    rw [List.getElem?_map]
    exact cut.line?_eq i
  have count : (LineIndex.ofText text).lineCount = (cuts.map Prod.fst).length := by
    rw [List.length_map]
    exact cut.lineCount_eq
  unfold lines LineIndex.lines
  rw [lookup, count, filterMap_range_getElem?]

/-- The lines that the table gives are those that a scan of the text finds. -/
theorem lines_eq_scan (text : List Char) : lines text = scanLines text := by
  obtain ⟨cuts, cut⟩ := exists_cut text
  rw [cut.lines_eq, cut.scanLines_eq]

theorem advance_plain (p : Position) {line : List Char} (plain : Plain line) (after : List Char) :
    advance p line after = ⟨p.line, p.column + line.length⟩ := by
  induction line generalizing p with
  | nil => rfl
  | cons c cs ih =>
    obtain ⟨head, tail⟩ := List.forall_mem_cons.1 plain
    rw [advance, Position.next, endsLine_of_plain head, ih _ tail]
    simp only [Bool.false_eq_true, if_false, List.length_cons, Nat.add_assoc, Nat.add_comm 1]

theorem advance_lineBreak (p : Position) {lineBreak after : List Char}
    (isBreak : LineBreak lineBreak after) : advance p lineBreak after = ⟨p.line + 1, 1⟩ := by
  cases isBreak with
  | feed => rfl
  | returnFeed => rfl
  | «return» alone => simp [advance, Position.next, endsLine, alone]

theorem advance_line (p : Position) {line lineBreak after : List Char} (plain : Plain line)
    (isBreak : LineBreak lineBreak after) :
    advance p (line ++ lineBreak) after = ⟨p.line + 1, 1⟩ := by
  rw [advance_append, advance_plain p plain, advance_lineBreak _ isBreak]

/-- Inside a line and its terminator the column counts the characters behind the line's start. -/
theorem advance_within (p : Position) {line lineBreak rest part left : List Char}
    (plain : Plain line) (isBreak : LineBreak lineBreak rest)
    (split : line ++ lineBreak = part ++ left) (some : left ≠ []) :
    advance p part (left ++ rest) = ⟨p.line, p.column + part.length⟩ := by
  rcases List.append_eq_append_iff.1 split with ⟨more, rfl, rfl⟩ | ⟨more, rfl, -⟩
  · rw [advance_append, advance_plain p plain]
    -- of the line breaks only the pair has a part that is not empty and not the whole
    cases more with
    | nil => simp [advance]
    | cons c cs =>
      generalize broken : c :: cs ++ left = lineBreak at isBreak
      cases isBreak with
      | feed => simp_all
      | «return» => simp_all
      | returnFeed =>
        obtain ⟨rfl, rfl, rfl⟩ : c = '\r' ∧ cs = [] ∧ left = ['\n'] := by
          cases cs <;> simp_all
        simp [advance, Position.next, endsLine, Nat.add_assoc]
  · exact advance_plain p (fun c mem => plain c (List.mem_append_left _ mem)) _

/-- Each part of a text ends in one of the lines, and its place tells which, and where. -/
theorem Cut.advance_eq {text : List Char} {cuts : List (List Char × List Char)}
    (cut : Cut text cuts) {before after : List Char} (split : text = before ++ after) (n : Nat) :
    ∃ done line terminator rest part left, cuts = done ++ (line, terminator) :: rest ∧
      before = rejoined done ++ part ∧ line ++ terminator = part ++ left ∧
      advance ⟨n, 1⟩ before after = ⟨n + done.length, 1 + part.length⟩ := by
  induction cut generalizing before n with
  | @last line plain =>
    refine ⟨[], line, [], [], before, after, rfl, rfl, by simpa using split, ?_⟩
    exact advance_plain _ (fun c mem => plain c (split ▸ List.mem_append_left _ mem)) _
  | @line line lineBreak rest cuts plain isBreak cut ih =>
    have beyond : ∀ more, before = line ++ lineBreak ++ more → rest = more ++ after →
        ∃ done line' terminator rest' part left,
          (line, lineBreak) :: cuts = done ++ (line', terminator) :: rest' ∧
          before = rejoined done ++ part ∧ line' ++ terminator = part ++ left ∧
          advance ⟨n, 1⟩ before after = ⟨n + done.length, 1 + part.length⟩ := by
      rintro more rfl split
      obtain ⟨done, line', terminator, rest', part, left, rfl, rfl, cutLine, reached⟩ :=
        ih split (n + 1)
      refine ⟨(line, lineBreak) :: done, line', terminator, rest', part, left, rfl, ?_, cutLine, ?_⟩
      · simp [rejoined_cons]
      · rw [advance_append, ← split, advance_line _ plain isBreak, reached, List.length_cons,
          Nat.add_right_comm, Nat.add_assoc]
    rcases List.append_eq_append_iff.1 split with ⟨more, h, h'⟩ | ⟨left, within, rfl⟩
    · exact beyond more h h'
    · by_cases none : left = []
      · exact beyond [] (by simpa [none] using within.symm) (by simp [none])
      · exact ⟨[], line, lineBreak, cuts, before, left, rfl, rfl, within,
          advance_within _ plain isBreak within none⟩

/-- A boundary before the terminator of its line stands before a character of that line. -/
theorem Cut.charAt?_eq {text : List Char} {cuts : List (List Char × List Char)}
    (cut : Cut text cuts) {offset : Nat} (boundary : IsBoundary text offset) :
    ∃ content terminator, cuts[(position text offset).line - 1]? = some (content, terminator) ∧
      byteLength (rejoined (cuts.take ((position text offset).line - 1))) ≤ offset ∧
      (offset < byteLength (rejoined (cuts.take ((position text offset).line - 1)) ++ content) →
        ∃ c, charAt? offset text = some c ∧
          content[(position text offset).column - 1]? = some c) := by
  obtain ⟨before, after, split, rfl⟩ := boundary
  obtain ⟨done, line, terminator, rest, part, left, rfl, rfl, cutLine, reached⟩ :=
    cut.advance_eq split 1
  have place : position text (byteLength (rejoined done ++ part)) =
      ⟨1 + done.length, 1 + part.length⟩ := by rw [split, position_byteLength, reached]
  simp only [place, Nat.add_sub_cancel_left, List.take_left']
  refine ⟨line, terminator, by simp, by simp, fun inside => ?_⟩
  rw [byteLength_append, byteLength_append, Nat.add_lt_add_iff_left] at inside
  obtain ⟨more, rfl, rfl⟩ := exists_append_of_byteLength_le cutLine.symm inside.le
  cases more with
  | nil => simp at inside
  | cons c cs =>
    refine ⟨c, ?_, by simp⟩
    have text_eq : text = rejoined done ++ part ++ (c :: (cs ++ terminator ++ rejoined rest)) := by
      rw [← cut.rejoined_eq, rejoined_append, rejoined_cons]
      simp
    rw [text_eq, charAt?, dropBytes?_byteLength]
    rfl

/-! ## Positions and lines together -/

/-- The lines and positions of a text.

For every offset, rounded down to a character boundary of the text, the position counts the line
breaks that end there or before, and the characters behind the last of these.  Positions grow with
the offset and tell boundaries apart, and in a text of fewer than `maxWord32` bytes they are words
of 32 bits.  The lines are what is left of a cut of the text when the terminators are taken away.
A boundary lies in the line that its position names; before that line's terminator, the character
at the boundary is the one that the position's column names in the line. -/
theorem position_lines (text : List Char) :
    (∀ offset, ∃ (rounded : Nat) (breaks : List Nat) (rest : List Char),
      IsGreatest {k | IsBoundary text k ∧ k ≤ min offset (byteLength text)} rounded ∧
      breaks.Pairwise (· < ·) ∧ (∀ e, e ∈ breaks ↔ BreakEndsAt text e ∧ e ≤ rounded) ∧
      sliceBytes? (breaks.getLast?.getD 0) rounded text = some rest ∧
      position text offset = ⟨1 + breaks.length, 1 + rest.length⟩) ∧
    (Monotone fun offset => (position text offset).key) ∧
    Set.InjOn (position text) {offset | IsBoundary text offset} ∧
    (byteLength text < maxWord32 → ∀ offset,
      (position text offset).line.toUInt32.toNat = (position text offset).line ∧
      (position text offset).column.toUInt32.toNat = (position text offset).column) ∧
    (∃ cuts, Cut text cuts) ∧
    ∀ cuts, Cut text cuts → rejoined cuts = text ∧
      (∀ cut ∈ cuts, cut.2 ∈ [[], ['\r'], ['\n'], ['\r', '\n']]) ∧
      lineCount text = cuts.length ∧ (∀ i, line? text i = cuts[i]?.map Prod.fst) ∧
      ∀ offset, IsBoundary text offset → ∃ content terminator,
        cuts[(position text offset).line - 1]? = some (content, terminator) ∧
        byteLength (rejoined (cuts.take ((position text offset).line - 1))) ≤ offset ∧
        (offset < byteLength (rejoined (cuts.take ((position text offset).line - 1)) ++ content) →
          ∃ c, charAt? offset text = some c ∧
            content[(position text offset).column - 1]? = some c) := by
  refine ⟨position_eq_count text, position_monotone text, position_injOn text, position_toUInt32,
    exists_cut text, fun cuts cut => ⟨cut.rejoined_eq, cut.terminator_mem, ?_, fun i => ?_,
      fun _ boundary => cut.charAt?_eq boundary⟩⟩
  · exact cut.lineCount_eq
  · exact cut.line?_eq i

/-- A character of two bytes, two returns alone, a return with its feed, and a return at the end. -/
theorem position_lines_mixed_breaks :
    let text := ['é', '\r', '\r', 'a', 'b', '\r', '\n', 'c', '\r']
    let cuts :=
      [(['é'], ['\r']), ([], ['\r']), (['a', 'b'], ['\r', '\n']), (['c'], ['\r']), ([], [])]
    byteLength text < maxWord32 ∧ Cut text cuts ∧ IsBoundary text 3 ∧ IsBoundary text 5 ∧
      position text 5 = ⟨3, 2⟩ ∧ position text 3 ≠ position text 5 ∧
      (position text 1).key ≤ (position text 5).key ∧
      (position text 5).column.toUInt32.toNat = (position text 5).column ∧
      line? text 2 = some ['a', 'b'] ∧
      ∃ c, charAt? 5 text = some c ∧ ['a', 'b'][1]? = some c := by
  intro text cuts
  have short : byteLength text < maxWord32 := by decide
  have plain : ∀ line ∈ [['é'], [], ['a', 'b'], ['c']], Plain line := by simp [Plain]
  have cut : Cut text cuts :=
    .line (plain ['é'] (by simp)) (.return (by simp)) <|
    .line (plain [] (by simp)) (.return (by simp)) <|
    .line (plain ['a', 'b'] (by simp)) (.returnFeed _) <|
    .line (plain ['c'] (by simp)) (.return (by simp)) <| .last (plain [] (by simp))
  have three : IsBoundary text 3 := ⟨['é', '\r'], _, rfl, rfl⟩
  have five : IsBoundary text 5 := ⟨['é', '\r', '\r', 'a'], _, rfl, rfl⟩
  have place : position text 5 = ⟨3, 2⟩ := by decide +kernel
  obtain ⟨-, monotone, injective, words, -, ofCut⟩ := position_lines text
  obtain ⟨-, -, -, line, charAt⟩ := ofCut cuts cut
  obtain ⟨_, _, found, -, same⟩ := charAt 5 five
  rw [place] at found same
  obtain ⟨rfl, rfl⟩ := Prod.mk.inj (Option.some.inj found)
  exact ⟨short, cut, three, five, place,
    fun equal => absurd (injective three five equal) (by decide), monotone (by decide : 1 ≤ 5),
    (words short 5).2, line 2, same (by decide)⟩

end XmlSchema.Text
