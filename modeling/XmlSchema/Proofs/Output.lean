import XmlSchema.Output
import XmlSchema.Proofs.Json.Reading

/-!
# Reports on the wire

A report that is written as JSON can be read again, whatever its messages hold.  The main statement
(`Output.json_round_trip`) is about both forms of output: the report on a single document, and the
line that names one of several documents.
-/

namespace XmlSchema

/-! ## Records -/

namespace Json

theorem fits_nat {depth n : Nat} (h : n ≤ Text.maxWord64) : Fits (depth + 1) (.nat n) :=
  .integer ⟨by omega, by omega⟩

theorem natUpTo?_nat {limit n : Nat} (h : n ≤ limit) : (Json.nat n).natUpTo? limit = some n := by
  simp [Json.nat, Json.int, natUpTo?, intIn?, h]

theorem strings?_strings (values : List String) : (strings values).strings? = some values := by
  unfold strings strings?
  rw [items?, Option.bind_some]
  induction values with
  | nil => rfl
  | cons value values ih => simp [string?, ih]

theorem eraseDups_of_nodup {names : List String} (h : names.Nodup) : names.eraseDups = names := by
  induction names with
  | nil => rfl
  | cons name names ih =>
    rw [List.nodup_cons] at h
    have others : names.filter (fun b => !b == name) = names :=
      List.filter_eq_self.2 fun b hb => by simpa using fun same : b = name => h.1 (same ▸ hb)
    rw [List.eraseDups_cons, others, ih h.2]

theorem find?_of_nodup {own : List (String × Json)} (distinct : (own.map Prod.fst).Nodup)
    {m : String × Json} (hm : m ∈ own) : own.find? (·.1 == m.1) = some m := by
  induction own with
  | nil => cases hm
  | cons first own ih =>
    rw [List.map_cons, List.nodup_cons] at distinct
    rcases List.mem_cons.1 hm with rfl | hm
    · exact List.find?_cons_of_pos (beq_self_eq_true _)
    · have other : first.1 ≠ m.1 := fun same => distinct.1 (same ▸ List.mem_map_of_mem hm)
      rw [List.find?_cons_of_neg (by simpa using other), ih distinct.2 hm]

/-- The fields of a record that is written as an object, possibly with other members in front. -/
theorem fields?_object (others own : List (String × Json)) (distinct : (own.map Prod.fst).Nodup)
    (foreign : ∀ m ∈ others, m.1 ∉ own.map Prod.fst) :
    fields? (own.map Prod.fst) (.object (others ++ own)) = some (own.map fun m => some m.2) := by
  have fields : ((others ++ own).map Prod.fst).filter (own.map Prod.fst).contains =
      own.map Prod.fst := by
    have none_foreign : (others.map Prod.fst).filter (own.map Prod.fst).contains = [] := by
      rw [List.filter_eq_nil_iff]
      simpa using foreign
    rw [List.map_append, List.filter_append, none_foreign, List.nil_append, List.filter_eq_self]
    intro name hname
    exact List.contains_iff_mem.2 hname
  have found : ∀ m ∈ own, (others ++ own).find? (·.1 == m.1) = some m := fun m hm => by
    have before : others.find? (·.1 == m.1) = none := by
      rw [List.find?_eq_none]
      intro other hother same
      exact foreign other hother (beq_iff_eq.1 same ▸ List.mem_map_of_mem hm)
    rw [List.find?_append, before, Option.none_or]
    exact find?_of_nodup distinct hm
  unfold fields?
  dsimp only
  rw [fields, eraseDups_of_nodup distinct, if_pos rfl, List.map_map]
  refine congrArg some (List.map_congr_left fun m hm => ?_)
  rw [Function.comp_apply, found m hm]
  rfl

end Json

open XmlSchema.Json

namespace Issue

theorem fits_toJson (i : Issue) (depth : Nat) : Fits (depth + 2) i.toJson := by
  refine .object fun m hm => ?_
  simp only [List.mem_cons, List.not_mem_nil, or_false] at hm
  rcases hm with rfl | rfl | rfl | rfl
  · cases hseverity : i.severity <;> exact .string _
  · exact .string _
  · exact fits_nat (Nat.le_of_lt (Nat.lt_trans i.line.toNat_lt (by decide)))
  · exact fits_nat (Nat.le_of_lt (Nat.lt_trans i.column.toNat_lt (by decide)))

theorem ofJson?_toJson (i : Issue) : ofJson? i.toJson = some i := by
  have fields : i.toJson.fields? ["Severity", "Message", "LineNumber", "LinePosition"] =
      some [some i.severity.toJson, some (.string i.message), some (.nat i.line.toNat),
        some (.nat i.column.toNat)] :=
    fields?_object [] [("Severity", i.severity.toJson), ("Message", .string i.message),
      ("LineNumber", .nat i.line.toNat), ("LinePosition", .nat i.column.toNat)] (by simp) (by simp)
  have severity : variant? Severity.names i.severity.toJson = some i.severity := by
    cases i.severity <;> rfl
  have line : (Json.nat i.line.toNat).natUpTo? Text.maxWord32 = some i.line.toNat :=
    natUpTo?_nat (Nat.le_of_lt_succ i.line.toNat_lt)
  have column : (Json.nat i.column.toNat).natUpTo? Text.maxWord32 = some i.column.toNat :=
    natUpTo?_nat (Nat.le_of_lt_succ i.column.toNat_lt)
  simp [ofJson?, fields, required?, severity, line, column, string?]

end Issue

namespace Report

variable (r : Report)

theorem fits_members (depth : Nat) : ∀ m ∈ r.members, Fits (depth + 3) m.2 := by
  intro m hm
  simp only [members, List.mem_cons, List.not_mem_nil, or_false] at hm
  rcases hm with rfl | rfl
  · exact .array (List.forall_mem_map.2 fun i _ => i.fits_toJson depth)
  · exact .array (List.forall_mem_map.2 fun s _ => .string s)

theorem fits_toJson : Fits depthLimit r.toJson := .object (r.fits_members 124)

theorem fits_entryJson (path : Path) : Fits depthLimit (r.entryJson path) :=
  .object (List.forall_mem_cons.2 ⟨.string _, r.fits_members 124⟩)

/-- A report is read from its members; others in front of them do not matter. -/
theorem ofJson?_members (others : List (String × Json))
    (foreign : ∀ m ∈ others, m.1 ∉ ["Errors", "Recommentations"]) :
    ofJson? (.object (others ++ r.members)) = some r := by
  have fields : Json.fields? ["Errors", "Recommentations"] (.object (others ++ r.members)) =
      some [some (.array (r.issues.map Issue.toJson)), some (.strings r.recommendations)] :=
    fields?_object others r.members (by simp [members]) foreign
  have issues : (r.issues.map Issue.toJson).mapM Issue.ofJson? = some r.issues := by
    induction r.issues with
    | nil => rfl
    | cons i issues ih => simp [i.ofJson?_toJson, ih]
  simp [ofJson?, fields, required?, withDefault?, items?, issues, strings?_strings]

end Report

/-- As JSON, the report on a single document is read as that report, and so is the line for one of
several documents, which also names the document and has no line break. -/
theorem Output.json_round_trip (verbosity : Verbosity) (colors : Bool) (name : String) (path : Path)
    (r : Report) :
    let o : Output := ⟨.json, verbosity, colors⟩
    (Json.read? (o.report name r)).bind Report.ofJson? = some r ∧
    (∃ j, Json.read? (o.entry path r) = some j ∧ Report.ofJson? j = some r ∧
      (j.member? "Path").bind Json.string? = some path.text) ∧
    ∀ c ∈ (o.entry path r).toList, c ≠ '\n' ∧ c ≠ '\r' := by
  intro o
  have report_eq : o.report name r = r.toJson.pretty := rfl
  have entry_eq : o.entry path r = (r.entryJson path).compact := rfl
  refine ⟨?_, ⟨r.entryJson path, ?_, ?_, rfl⟩, fun c hc => ?_⟩
  · rw [report_eq, r.fits_toJson.read?_pretty]
    exact r.ofJson?_members [] (by simp)
  · rw [entry_eq, (r.fits_entryJson path).read?_compact]
  · exact r.ofJson?_members [("Path", .string path.text)] (by simp)
  · rw [entry_eq, Json.compact, String.toList_ofList] at hc
    have visible := (r.fits_entryJson path).plain_compactText c hc
    constructor <;> rintro rfl <;> exact absurd visible (by decide)

end XmlSchema
