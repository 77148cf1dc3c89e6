import Mathlib.Data.List.Forall2
import XmlSchema.Diagnostic
import XmlSchema.Proofs.Text.Position
import XmlSchema.Proofs.Validation.Faults
import XmlSchema.Proofs.Xml.Events

/-!
# Ranges of diagnostics

Every issue of a report stands at the position of some offset, whatever offset the validation took
for it, and so in one of the lines of the document (`Issue.StandsIn`).  The range of its diagnostic
starts there.  Where the range ends is taken from the message and from the lines, so it is the sizes
of these that keep the numbers of the range within 32 bits (`Issue.range_marks`).

The main statement is `validate_diagnostics`: on a document without byte order mark, the diagnostics
are the issues, one by one, each with a range from its place to the same line or the start of the
next.
-/

namespace XmlSchema

open Text

/-! ## Places of issues -/

namespace Text

/-- Wherever an offset points, its position is in a line, at most behind the line's terminator. -/
theorem Cut.position_within {text : List Char} {cuts : List (List Char × List Char)}
    (cut : Cut text cuts) (offset : Nat) :
    ∃ content terminator, cuts[(position text offset).line - 1]? = some (content, terminator) ∧
      0 < (position text offset).line ∧ 0 < (position text offset).column ∧
      (position text offset).column ≤ 1 + (content ++ terminator).length := by
  obtain ⟨before, after, split, reached, -⟩ := position_eq_advance text offset
  obtain ⟨done, line, terminator, rest, part, left, rfl, -, cutLine, place⟩ :=
    cut.advance_eq split 1
  rw [reached, place]
  refine ⟨line, terminator, by simp, Nat.add_pos_left Nat.one_pos _,
    Nat.add_pos_left Nat.one_pos _, ?_⟩
  simp [cutLine]

/-- The numbers of a position do not outgrow the text. -/
theorem position_le (text : List Char) (offset : Nat) :
    (position text offset).line + (position text offset).column ≤ text.length + 2 := by
  obtain ⟨before, after, rfl, reached, -⟩ := position_eq_advance text offset
  obtain ⟨-, -, sum⟩ := advance_bounds ⟨1, 1⟩ before after Nat.one_pos
  rw [reached, List.length_append]
  dsimp only at sum
  omega

theorem length_le_of_mem_lines {text line : List Char} (h : line ∈ lines text) :
    line.length ≤ text.length := by
  obtain ⟨cuts, cut⟩ := exists_cut text
  rw [cut.lines_eq] at h
  obtain ⟨⟨content, terminator⟩, mem, rfl⟩ := List.mem_map.1 h
  have part : (content ++ terminator).Sublist text := by
    rw [← cut.rejoined_eq, rejoined, List.flatMap_def]
    exact List.sublist_flatten_of_mem (List.mem_map.2 ⟨_, mem, rfl⟩)
  exact ((List.sublist_append_left _ _).trans part).length_le

end Text

/-- The issue stands in one of the lines of a text, at most behind the line's terminator. -/
structure Issue.StandsIn (i : Issue) (cuts : List (List Char × List Char)) : Prop where
  line_pos : 1 ≤ i.line.toNat
  line_le : i.line.toNat ≤ cuts.length
  column_pos : 1 ≤ i.column.toNat
  column_le : ∃ content terminator, cuts[i.line.toNat - 1]? = some (content, terminator) ∧
    i.column.toNat ≤ 1 + (content ++ terminator).length

/-- Whatever is reported is reported at the position of an offset. -/
theorem exists_remark_of_mem_issues {o : Options} {text : String} {i : Issue}
    (h : i ∈ (validate o text).issues) :
    ∃ r : Remark, i = r.toIssue (Xml.dropByteOrderMark text.toList) := by
  have start : Run.Settled {} := ⟨rfl, fun b hb => nomatch hb⟩
  obtain ⟨-, -, -, rs, -, issues⟩ :=
    Run.steps_spec o (Xml.dropByteOrderMark text.toList) start
      (Xml.events (Xml.dropByteOrderMark text.toList))
  have listed := congrArg Array.toList issues
  rw [validate, runDocument, listed] at h
  simp only [Array.toList_append, List.nil_append, reported, List.mem_map] at h
  obtain ⟨r, -, rfl⟩ := h
  exact ⟨r, rfl⟩

/-- In a text of fewer than 2³¹ characters the numbers of an issue are those of its position. -/
theorem Remark.toIssue_toNat {text : List Char} (short : text.length < 0x80000000) (r : Remark) :
    (r.toIssue text).line.toNat = (position text r.offset).line ∧
      (r.toIssue text).column.toNat = (position text r.offset).column := by
  have bound := position_le text r.offset
  unfold Remark.toIssue
  dsimp only
  rw [Nat.toUInt32_eq, Nat.toUInt32_eq]
  exact ⟨UInt32.toNat_ofNat_of_lt' (by simp [UInt32.size]; omega),
    UInt32.toNat_ofNat_of_lt' (by simp [UInt32.size]; omega)⟩

theorem Remark.toIssue_standsIn {text : List Char} {cuts : List (List Char × List Char)}
    (short : text.length < 0x80000000) (cut : Cut text cuts) (r : Remark) :
    (r.toIssue text).StandsIn cuts := by
  obtain ⟨line, column⟩ := r.toIssue_toNat short
  obtain ⟨content, terminator, found, line_pos, column_pos, le⟩ := cut.position_within r.offset
  obtain ⟨within, -⟩ := List.getElem?_eq_some_iff.1 found
  refine ⟨?_, ?_, ?_, content, terminator, ?_, ?_⟩ <;> simp only [line, column]
  · exact line_pos
  · omega
  · exact column_pos
  · exact found
  · exact le

/-! ## Ranges -/

namespace Range

/-- Where a range starts, in the order in which a text is read. -/
def start (r : Range) : Nat ×ₗ Nat := toLex (r.startLine.toNat, r.startColumn.toNat)

/-- Where a range ends, in the order in which a text is read. -/
def stop (r : Range) : Nat ×ₗ Nat := toLex (r.endLine.toNat, r.endColumn.toNat)

/-- The range is one for the issue: it runs from the place of the issue to a place in the same line,
or to the start of the next.  The width of a text that the message quotes can be added to its first
column. -/
structure Marks (r : Range) (i : Issue) : Prop where
  start_eq : r.start = toLex (i.line.toNat - 1, i.column.toNat - 1)
  start_le : r.start ≤ r.stop
  stop_near : r.endLine = r.startLine ∨ r.stop = toLex (r.startLine.toNat + 1, 0)
  width : ∀ token, quotedToken? i.message.toList = some token →
    r.startColumn.toNat + token.length < UInt32.size

end Range

theorem toNat_fromZero (n : UInt32) : (fromZero n).toNat = n.toNat - 1 := by
  unfold fromZero
  split
  · simp_all
  · rename_i positive
    have counted : n.toNat ≠ 0 := fun zero => positive (UInt32.toNat_inj.1 zero)
    have one : 1 ≤ n := UInt32.le_iff_toNat_le.2 (Nat.one_le_iff_ne_zero.2 counted)
    rw [UInt32.toNat_sub_of_le _ _ one]
    rfl

/-- The quoted text is shorter than the message. -/
theorem length_lt_of_quotedToken? {message token : List Char}
    (h : quotedToken? message = some token) : token.length < message.length := by
  unfold quotedToken? at h
  split at h
  · cases h
  · cases h
  · rename_i c rest behind _
    split at h
    · obtain rfl := Option.some.inj h
      have inside := (List.takeWhile_sublist (· != '\'') (l := rest)).length_le
      have tail := (List.dropWhile_sublist (· != '\'') (l := message)).length_le
      rw [behind, List.length_cons] at tail
      omega
    · cases h

/-- The space that is found stands in the line. -/
theorem lt_length_of_spaceFrom? {content : List Char} {index space : Nat}
    (h : spaceFrom? content index = some space) : space < content.length := by
  obtain ⟨k, found, rfl⟩ := Option.map_eq_some_iff.1 h
  obtain ⟨within, -⟩ := List.findIdx?_eq_some_iff_getElem.1 found
  rw [List.length_drop] at within
  omega

namespace Issue

/-- A range that ends where the next line starts. -/
theorem marks_wholeLine {i : Issue} (line : 1 ≤ i.line.toNat)
    (width : ∀ token, quotedToken? i.message.toList = some token →
      i.column.toNat - 1 + token.length < UInt32.size) :
    Range.Marks ⟨fromZero i.line, fromZero i.column, i.line, 0⟩ i where
  start_eq := by simp [Range.start, toNat_fromZero]
  start_le := by
    rw [Range.start, Range.stop, Prod.Lex.toLex_le_toLex]
    left
    simp only [toNat_fromZero]
    omega
  stop_near := by
    right
    simp only [Range.stop, toNat_fromZero, UInt32.toNat_zero]
    rw [Nat.sub_add_cancel line]
  width := by simpa only [toNat_fromZero] using width

/-- A range that ends in the line in which it starts. -/
theorem marks_within {i : Issue} {endColumn : UInt32} (le : i.column.toNat - 1 ≤ endColumn.toNat)
    (width : ∀ token, quotedToken? i.message.toList = some token →
      i.column.toNat - 1 + token.length < UInt32.size) :
    Range.Marks ⟨fromZero i.line, fromZero i.column, fromZero i.line, endColumn⟩ i where
  start_eq := by simp [Range.start, toNat_fromZero]
  start_le := by
    rw [Range.start, Range.stop, Prod.Lex.toLex_le_toLex]
    right
    exact ⟨rfl, by simpa only [toNat_fromZero] using le⟩
  stop_near := .inl rfl
  width := by simpa only [toNat_fromZero] using width

theorem range_marks {i : Issue} {lines : List (List Char)} (line : 1 ≤ i.line.toNat)
    (column : i.column.toNat ≤ 0x80000000) (brief : i.message.toList.length < 0x80000000)
    (narrow : ∀ content ∈ lines, content.length < 0x80000000) : (i.range lines).Marks i := by
  have width : ∀ token, quotedToken? i.message.toList = some token →
      i.column.toNat - 1 + token.length < UInt32.size := by
    intro token found
    have := length_lt_of_quotedToken? found
    simp only [UInt32.size]
    omega
  unfold range
  dsimp only
  split
  · split
    · rename_i space found
      split
      · rename_i behind
        obtain ⟨content, hcontent, hspace⟩ := Option.bind_eq_some_iff.1 found
        have inside := lt_length_of_spaceFrom? hspace
        have small := narrow content (List.mem_of_getElem? hcontent)
        have exact_space : space.toUInt32.toNat = space :=
          UInt32.toNat_ofNat_of_lt' (by simp only [UInt32.size]; omega)
        exact marks_within (by omega) width
      · exact marks_wholeLine line width
    · exact marks_wholeLine line width
  · split
    · rename_i token found
      have fits := width token found
      have exact_width : (fromZero i.column + token.length.toUInt32).toNat =
          i.column.toNat - 1 + token.length := by
        have exact_length : token.length.toUInt32.toNat = token.length :=
          UInt32.toNat_ofNat_of_lt' (by omega)
        rw [UInt32.toNat_add, toNat_fromZero, exact_length]
        exact Nat.mod_eq_of_lt fits
      exact marks_within (by omega) width
    · exact marks_wholeLine line width

end Issue

/-! ## Reports -/

/-- The diagnostics of a document without byte order mark are the issues of its report, one by one:
each issue stands in a line of the document, at the position of an offset, and its diagnostic has
its message and severity and a range from its place to the same line or the start of the next. -/
theorem validate_diagnostics (o : Options) (text source : String)
    (unmarked : text.toList.head? ≠ some Xml.byteOrderMark)
    (short : text.toList.length < 0x80000000)
    (brief : ∀ i ∈ (validate o text).issues, i.message.toList.length < 0x80000000) :
    ∃ cuts, Cut text.toList cuts ∧ cuts.length = lineCount text.toList ∧
      (∀ i ∈ (validate o text).issues, i.StandsIn cuts ∧
        ∃ offset, position text.toList offset = ⟨i.line.toNat, i.column.toNat⟩) ∧
      List.Forall₂
        (fun i d => d.message = i.message ∧ d.severity = i.severity ∧ d.source = source ∧
          d.range.Marks i)
        (validate o text).issues ((validate o text).diagnostics text source) := by
  obtain ⟨cuts, cut⟩ := exists_cut text.toList
  have placed : ∀ i ∈ (validate o text).issues, i.StandsIn cuts ∧
      ∃ offset, position text.toList offset = ⟨i.line.toNat, i.column.toNat⟩ := by
    intro i mem
    obtain ⟨r, rfl⟩ := exists_remark_of_mem_issues mem
    rw [Xml.dropByteOrderMark_eq_self unmarked]
    obtain ⟨line, column⟩ := r.toIssue_toNat short
    exact ⟨r.toIssue_standsIn short cut, r.offset, by rw [line, column]⟩
  refine ⟨cuts, cut, cut.lineCount_eq.symm, placed, ?_⟩
  unfold Report.diagnostics
  dsimp only
  rw [List.forall₂_map_right_iff, List.forall₂_same]
  intro i mem
  obtain ⟨stands, offset, place⟩ := placed i mem
  have bound := position_le text.toList offset
  have line_pos := stands.line_pos
  rw [place] at bound
  dsimp only at bound
  refine ⟨rfl, rfl, rfl, Issue.range_marks line_pos (by omega) (brief i mem) fun content hc => ?_⟩
  exact (length_le_of_mem_lines hc).trans_lt short

/-- An end tag in the second line that closes nothing: its name is marked by the width of the name
that the message quotes first. -/
theorem validate_diagnostics_mismatch :
    let o : Options := ⟨⟨[]⟩, true, SchemaSource.none⟩
    let text := "<éa>\r\n</b>"
    text.toList.head? ≠ some Xml.byteOrderMark ∧ text.toList.length < 0x80000000 ∧
      (∀ i ∈ (validate o text).issues, i.message.toList.length < 0x80000000) ∧
      ∃ d, (validate o text).diagnostics text defaultSource = [d] ∧
        d.range = ⟨1, 2, 1, 4⟩ ∧ d.range.start ≤ d.range.stop := by
  intro o text
  have evaluated : (text.toList.head? ≠ some Xml.byteOrderMark ∧
      text.toList.length < 0x80000000 ∧
      (validate o text).issues.all (·.message.toList.length < 0x80000000)) ∧
      ((validate o text).diagnostics text defaultSource).map (·.range) = [⟨1, 2, 1, 4⟩] := by
    decide +kernel
  obtain ⟨⟨unmarked, short, brief⟩, ranges⟩ := evaluated
  have brief : ∀ i ∈ (validate o text).issues, i.message.toList.length < 0x80000000 := by
    simpa using brief
  obtain ⟨-, -, -, -, marked⟩ := validate_diagnostics o text defaultSource unmarked short brief
  obtain ⟨d, one, range⟩ := List.map_eq_singleton_iff.1 ranges
  refine ⟨unmarked, short, brief, d, one, range, ?_⟩
  rw [one] at marked
  obtain ⟨i, -, ⟨-, -, -, marks⟩, -⟩ := List.forall₂_cons_right_iff.1 marked
  exact marks.start_le

end XmlSchema
