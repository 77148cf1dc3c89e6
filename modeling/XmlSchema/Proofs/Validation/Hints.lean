import XmlSchema.Proofs.SchemaSet.Histories
import XmlSchema.Proofs.Validation.Faults
import XmlSchema.Proofs.Validation.Wording

/-!
# Hints that fail

A start tag may point to schemas.  Of the hints that stand for one binding, only the first one adds
it (`freshHints`), so that a file that cannot be loaded is reported once, where its binding was met
first.  A location on the network stands for no binding: it is reported wherever it is met.

Between two events, the bindings of a run are those of the fresh hints so far (`Run.Tracks`).  The
main statement, `validate_reports_hints`, says for all documents which issues about unavailable
schemas are reported, and which of them arise from one pair of a namespace and a location.
-/

namespace XmlSchema

/-! ## Hints and their bindings -/

namespace SchemaHint

variable (o : Options) (h : SchemaHint)

/-- The binding that a hint stands for; there is none for a location on the network. -/
def binding? : Option Binding :=
  match SchemaLocation.ofText h.location o.baseDir with
  | .remote _ => none
  | .file path => some ⟨h.namespaceName, path⟩

/-- Why a hint cannot be followed whatever the files are. -/
def refusal? : Option SchemaError :=
  match SchemaLocation.ofText h.location o.baseDir with
  | .remote address => some (.unsupportedLocation address)
  | .file _ => none

/-- The hint gives the location for the namespace. -/
def Gives (namespaceName location : String) : Prop :=
  h.namespaceName = namespaceName ∧ h.location = location

instance (namespaceName location : String) : Decidable (h.Gives namespaceName location) :=
  inferInstanceAs (Decidable (_ ∧ _))

variable {o h}

theorem binding?_of_file {path : Path}
    (file : SchemaLocation.ofText h.location o.baseDir = .file path) :
    h.binding? o = some ⟨h.namespaceName, path⟩ := by
  unfold binding?
  rw [file]

theorem refusal?_of_file {path : Path}
    (file : SchemaLocation.ofText h.location o.baseDir = .file path) : h.refusal? o = none := by
  unfold refusal?
  rw [file]

theorem binding?_of_remote {address : String}
    (remote : SchemaLocation.ofText h.location o.baseDir = .remote address) :
    h.binding? o = none := by
  unfold binding?
  rw [remote]

theorem refusal?_of_remote {address : String}
    (remote : SchemaLocation.ofText h.location o.baseDir = .remote address) :
    h.refusal? o = some (.unsupportedLocation address) := by
  unfold refusal?
  rw [remote]

theorem namespaceName_of_binding? {b : Binding} (hb : h.binding? o = some b) :
    b.namespaceName = h.namespaceName := by
  cases hlocation : SchemaLocation.ofText h.location o.baseDir with
  | file path =>
    rw [binding?_of_file hlocation] at hb
    cases hb
    rfl
  | remote address =>
    rw [binding?_of_remote hlocation] at hb
    cases hb

theorem Gives.binding?_eq {namespaceName location : String} {path : Path}
    (gives : h.Gives namespaceName location)
    (file : SchemaLocation.ofText location o.baseDir = .file path) :
    h.binding? o = some ⟨namespaceName, path⟩ := by
  obtain ⟨rfl, rfl⟩ := gives
  exact binding?_of_file file

end SchemaHint

/-- The hints whose bindings are neither known nor those of earlier hints, with these bindings. -/
def freshHints (o : Options) (known : List Binding) :
    List SchemaHint → List (SchemaHint × Binding)
  | [] => []
  | h :: hints =>
    match h.binding? o with
    | none => freshHints o known hints
    | some b =>
      if known.any (·.Same b) then freshHints o known hints
      else (h, b) :: freshHints o (known ++ [b]) hints

section Fresh

variable {o : Options} {known : List Binding} {h : SchemaHint} {b : Binding}

@[simp] theorem freshHints_nil : freshHints o known [] = [] := rfl

theorem freshHints_of_none (none_bound : h.binding? o = none) (hints : List SchemaHint) :
    freshHints o known (h :: hints) = freshHints o known hints := by
  conv_lhs => unfold freshHints
  rw [none_bound]

theorem freshHints_of_known (bound : h.binding? o = some b) (old : known.any (·.Same b) = true)
    (hints : List SchemaHint) : freshHints o known (h :: hints) = freshHints o known hints := by
  conv_lhs => unfold freshHints
  rw [bound]
  exact if_pos old

theorem freshHints_of_new (bound : h.binding? o = some b) (new : ¬ known.any (·.Same b) = true)
    (hints : List SchemaHint) :
    freshHints o known (h :: hints) = (h, b) :: freshHints o (known ++ [b]) hints := by
  conv_lhs => unfold freshHints
  rw [bound]
  exact if_neg new

theorem freshHints_append (hints later : List SchemaHint) :
    freshHints o known (hints ++ later) = freshHints o known hints ++
      freshHints o (known ++ (freshHints o known hints).map Prod.snd) later := by
  fun_induction freshHints o known hints with
  | case1 known => simp
  | case2 known h hints none_bound ih => rw [List.cons_append, freshHints_of_none none_bound, ih]
  | case3 known h hints b bound old ih => rw [List.cons_append, freshHints_of_known bound old, ih]
  | case4 known h hints b bound new ih =>
    rw [List.cons_append, freshHints_of_new bound new, ih, List.cons_append, List.map_cons,
      List.append_assoc, List.singleton_append]

theorem freshHints_spec (hints : List SchemaHint) :
    ∀ p ∈ freshHints o known hints, p.1.binding? o = some p.2 ∧ ∀ k ∈ known, ¬ k.Same p.2 := by
  fun_induction freshHints o known hints with
  | case1 known => simp
  | case2 known h hints none_bound ih => exact ih
  | case3 known h hints b bound old ih => exact ih
  | case4 known h hints b bound new ih =>
    intro p hp
    rcases List.mem_cons.1 hp with rfl | hp
    · exact ⟨bound, by simpa using new⟩
    · obtain ⟨bound', apart⟩ := ih p hp
      exact ⟨bound', fun k hk => apart k (List.mem_append_left _ hk)⟩

/-- No two fresh hints stand for the same binding. -/
theorem freshHints_pairwise (hints : List SchemaHint) :
    (freshHints o known hints).Pairwise fun p q => ¬ p.2.Same q.2 := by
  fun_induction freshHints o known hints with
  | case1 known => exact .nil
  | case2 known h hints none_bound ih => exact ih
  | case3 known h hints b bound old ih => exact ih
  | case4 known h hints b bound new ih =>
    refine List.pairwise_cons.2 ⟨fun p hp => ?_, ih⟩
    exact (freshHints_spec hints p hp).2 b (List.mem_append_right _ (List.mem_singleton.2 rfl))

/-- A fresh hint is the first one that stands for its binding. -/
theorem find?_of_mem_freshHints (hints : List SchemaHint) :
    ∀ p ∈ freshHints o known hints, hints.find? (·.binding? o = some p.2) = some p.1 := by
  fun_induction freshHints o known hints with
  | case1 known => simp
  | case2 known h hints none_bound ih =>
    intro p hp
    rw [List.find?_cons_of_neg (by simp [none_bound])]
    exact ih p hp
  | case3 known h hints b bound old ih =>
    intro p hp
    have differ : b ≠ p.2 := by
      rintro rfl
      obtain ⟨k, hk, same⟩ := List.any_eq_true.1 old
      exact (freshHints_spec hints p hp).2 k hk (of_decide_eq_true same)
    rw [List.find?_cons_of_neg (by simp [bound, differ])]
    exact ih p hp
  | case4 known h hints b bound new ih =>
    intro p hp
    rcases List.mem_cons.1 hp with rfl | hp
    · exact List.find?_cons_of_pos (by simp [bound])
    · have differ : b ≠ p.2 := by
        rintro rfl
        have apart := (freshHints_spec hints p hp).2 p.2
        exact apart (List.mem_append_right _ (List.mem_singleton.2 rfl)) ⟨rfl, .refl _⟩
      rw [List.find?_cons_of_neg (by simp [bound, differ])]
      exact ih p hp

section Pair

variable {namespaceName location : String} {path : Path}
  (file : SchemaLocation.ofText location o.baseDir = .file path)

include file

/-- Once its binding is known, no hint that gives a location is fresh. -/
theorem filter_freshHints_of_known {k : Binding} (hk : k ∈ known)
    (same : k.Same ⟨namespaceName, path⟩) (hints : List SchemaHint) :
    ((freshHints o known hints).map Prod.fst).filter (·.Gives namespaceName location) = [] := by
  rw [List.filter_eq_nil_iff]
  intro h hh gives
  obtain ⟨p, hp, rfl⟩ := List.mem_map.1 hh
  obtain ⟨bound, apart⟩ := freshHints_spec hints p hp
  rw [(of_decide_eq_true gives).binding?_eq file] at bound
  exact apart k hk (Option.some.inj bound ▸ same)

/-- Of the hints that give one location for a namespace, at most the first one is fresh. -/
theorem freshHints_sublist (hints : List SchemaHint) :
    (((freshHints o known hints).map Prod.fst).filter (·.Gives namespaceName location)).Sublist
      (hints.filter (·.Gives namespaceName location)).head?.toList := by
  fun_induction freshHints o known hints with
  | case1 known => exact .slnil
  | case2 known h hints none_bound ih =>
    have other : ¬ h.Gives namespaceName location := fun gives => by
      simp [gives.binding?_eq file] at none_bound
    rwa [List.filter_cons_of_neg (by simpa using other)]
  | case3 known h hints b bound old ih =>
    by_cases gives : h.Gives namespaceName location
    · obtain rfl : ⟨namespaceName, path⟩ = b := by
        rw [← Option.some.injEq, ← bound, gives.binding?_eq file]
      obtain ⟨k, hk, same⟩ := List.any_eq_true.1 old
      rw [filter_freshHints_of_known file hk (of_decide_eq_true same)]
      exact List.nil_sublist _
    · rwa [List.filter_cons_of_neg (by simpa using gives)]
  | case4 known h hints b bound new ih =>
    rw [List.map_cons]
    by_cases gives : h.Gives namespaceName location
    · obtain rfl : ⟨namespaceName, path⟩ = b := by
        rw [← Option.some.injEq, ← bound, gives.binding?_eq file]
      rw [List.filter_cons_of_pos (by simpa using gives),
        List.filter_cons_of_pos (by simpa using gives),
        filter_freshHints_of_known file (List.mem_append_right _ (List.mem_singleton.2 rfl))
          ⟨rfl, .refl _⟩]
      exact List.Sublist.refl _
    · rw [List.filter_cons_of_neg (by simpa using gives),
        List.filter_cons_of_neg (by simpa using gives)]
      exact ih

end Pair

end Fresh

/-! ## Hints that a set takes in -/

/-- A hint that could not be followed, and why. -/
structure HintFailure where
  hint : SchemaHint
  error : SchemaError
  deriving DecidableEq

/-- What is reported about it. -/
def HintFailure.remark (f : HintFailure) : Remark :=
  ⟨.schemaUnavailable f.hint.namespaceName f.error, f.hint.offset⟩

/-- The hints that point to the network. -/
def refusedHints (o : Options) (hints : List SchemaHint) : List HintFailure :=
  hints.filterMap fun h => (h.refusal? o).map (⟨h, ·⟩)

section Refused

variable {o : Options} {hints : List SchemaHint} {namespaceName location : String}

theorem filter_refusedHints_of_remote {address : String}
    (remote : SchemaLocation.ofText location o.baseDir = .remote address) :
    (refusedHints o hints).filter (·.hint.Gives namespaceName location) =
      (hints.filter (·.Gives namespaceName location)).map (⟨·, .unsupportedLocation address⟩) := by
  unfold refusedHints
  induction hints with
  | nil => rfl
  | cons h hints ih =>
    by_cases gives : h.Gives namespaceName location
    · have refusal : h.refusal? o = some (.unsupportedLocation address) :=
        SchemaHint.refusal?_of_remote (by rw [gives.2, remote])
      rw [List.filter_cons_of_pos (by simpa using gives), List.filterMap_cons, refusal]
      simp [gives, ih]
    · rw [List.filter_cons_of_neg (by simpa using gives), ← ih, List.filterMap_cons]
      cases h.refusal? o <;> simp [gives]

theorem filter_refusedHints_of_file {path : Path}
    (file : SchemaLocation.ofText location o.baseDir = .file path) :
    (refusedHints o hints).filter (·.hint.Gives namespaceName location) = [] := by
  rw [List.filter_eq_nil_iff]
  intro f hf gives
  obtain ⟨h, -, hh⟩ := List.mem_filterMap.1 hf
  obtain ⟨e, refusal, rfl⟩ := Option.map_eq_some_iff.1 hh
  have gives : h.Gives namespaceName location := of_decide_eq_true gives
  rw [SchemaHint.refusal?_of_file (by rw [gives.2, file])] at refusal
  cases refusal

end Refused

namespace SchemaSet

variable (s : SchemaSet) (o : Options) (hints : List SchemaHint)

/-- Adds bindings in order. -/
def addAll (bindings : List Binding) : SchemaSet := bindings.foldl (fun s b => (s.add b).2) s

/-- The hints whose bindings are added and cannot be loaded then. -/
def unloadedHints : List HintFailure :=
  ((s.addAll (hints.filterMap (·.binding? o))).compile o.source).1.filterMap fun failure =>
    (hints.find? (·.binding? o = some failure.1)).map (⟨·, failure.2⟩)

/-- The hints that cannot be followed when a set takes them in together. -/
def hintFailures : List HintFailure := refusedHints o hints ++ s.unloadedHints o hints

/-- The bindings that are added are those of the fresh hints. -/
theorem addAll_eq :
    s.addAll (hints.filterMap (·.binding? o)) = { s with
      registered := s.registered ++ (freshHints o s.registered hints).map Prod.snd
      pending := s.pending ++ (freshHints o s.registered hints).map Prod.snd } := by
  induction hints generalizing s with
  | nil => simp [addAll]
  | cons h hints ih =>
    cases bound : h.binding? o with
    | none => rw [List.filterMap_cons_none bound, freshHints_of_none bound, ih]
    | some b =>
      have first : s.addAll ((h :: hints).filterMap (·.binding? o)) =
          (s.add b).2.addAll (hints.filterMap (·.binding? o)) := by
        rw [List.filterMap_cons_some bound]
        rfl
      rw [first, ih]
      by_cases old : s.registered.any (·.Same b) = true
      · have same : (s.add b).2 = s := by rw [add, if_pos old]
        rw [freshHints_of_known bound old, same]
      · have added : (s.add b).2 =
            { s with registered := s.registered ++ [b], pending := s.pending ++ [b] } := by
          rw [add, if_neg old]
        rw [freshHints_of_new bound old, added]
        simp

variable {s}

theorem hintFailures_nil (settled : s.pending = []) : s.hintFailures o [] = [] := by
  have none_failed : (s.addAll []).compile o.source = ([], s) :=
    compile_eq_of_pending_eq_nil settled o.source
  rw [hintFailures, unloadedHints, List.filterMap_nil, none_failed]
  rfl

/-- The bindings that fail are among those of the fresh hints. -/
theorem sublist_compile_addAll (settled : s.pending = []) :
    (((s.addAll (hints.filterMap (·.binding? o))).compile o.source).1.map Prod.fst).Sublist
      ((freshHints o s.registered hints).map Prod.snd) := by
  have failed := sublist_loadBindings o.source (s.addAll (hints.filterMap (·.binding? o))).pending
    { s.addAll (hints.filterMap (·.binding? o)) with pending := [] }
  have pending : (s.addAll (hints.filterMap (·.binding? o))).pending =
      (freshHints o s.registered hints).map Prod.snd := by
    rw [addAll_eq, settled, List.nil_append]
  rw [pending] at failed
  rw [compile, pending]
  exact failed

theorem unloadedHints_sublist (settled : s.pending = []) :
    ((s.unloadedHints o hints).map HintFailure.hint).Sublist
      ((freshHints o s.registered hints).map Prod.fst) := by
  have hinted : (s.unloadedHints o hints).map HintFailure.hint =
      (((s.addAll (hints.filterMap (·.binding? o))).compile o.source).1.map Prod.fst).filterMap
        fun b => hints.find? (·.binding? o = some b) := by
    rw [unloadedHints, List.map_filterMap, List.filterMap_map]
    simp [Function.comp_def]
  have first : ((freshHints o s.registered hints).map Prod.snd).filterMap
      (fun b => hints.find? (·.binding? o = some b)) =
      (freshHints o s.registered hints).map Prod.fst := by
    rw [List.filterMap_map, ← List.filterMap_eq_map]
    exact List.filterMap_congr fun p hp => find?_of_mem_freshHints hints p hp
  rw [hinted, ← first]
  exact (sublist_compile_addAll o hints settled).filterMap _

variable {o hints}

/-- Every hint that points to the network fails. -/
theorem filter_hintFailures_of_remote {namespaceName location address : String}
    (remote : SchemaLocation.ofText location o.baseDir = .remote address) :
    (s.hintFailures o hints).filter (·.hint.Gives namespaceName location) =
      (hints.filter (·.Gives namespaceName location)).map (⟨·, .unsupportedLocation address⟩) := by
  have bound : (s.unloadedHints o hints).filter (·.hint.Gives namespaceName location) = [] := by
    rw [List.filter_eq_nil_iff]
    intro f hf gives
    obtain ⟨failure, -, hfailure⟩ := List.mem_filterMap.1 hf
    obtain ⟨h, found, rfl⟩ := Option.map_eq_some_iff.1 hfailure
    have gives : h.Gives namespaceName location := of_decide_eq_true gives
    have bound : h.binding? o = some failure.1 := by simpa using List.find?_some found
    rw [SchemaHint.binding?_of_remote (by rw [gives.2, remote])] at bound
    cases bound
  rw [hintFailures, List.filter_append, filter_refusedHints_of_remote remote, bound,
    List.append_nil]

/-- A hint that points to a file fails only if it is fresh. -/
theorem filter_hintFailures_of_file {namespaceName location : String} {path : Path}
    (settled : s.pending = []) (file : SchemaLocation.ofText location o.baseDir = .file path) :
    (((s.hintFailures o hints).filter (·.hint.Gives namespaceName location)).map
      HintFailure.hint).Sublist
      (((freshHints o s.registered hints).map Prod.fst).filter
        (·.Gives namespaceName location)) := by
  rw [hintFailures, List.filter_append, filter_refusedHints_of_file file, List.nil_append]
  have filtered := (unloadedHints_sublist o hints settled).filter (·.Gives namespaceName location)
  rwa [List.filter_map] at filtered

end SchemaSet

/-! ## Hints that a run takes in -/

/-- The issues about schemas that are not available, in order. -/
def Run.unavailabilities (run : Run) : List Issue := run.issues.toList.filter Issue.isUnavailability

section Reports

variable {o : Options} {text : List Char}

theorem filter_reported_eq_nil {rs : List Remark}
    (h : ∀ r ∈ rs, ∀ name e, r.finding ≠ .schemaUnavailable name e) :
    (reported o text rs).filter Issue.isUnavailability = [] := by
  rw [List.filter_eq_nil_iff]
  intro i hi unavailable
  obtain ⟨r, hr, rfl⟩ := List.mem_map.1 hi
  obtain ⟨name, e, finding⟩ := (Remark.isUnavailability_toIssue text r).1 unavailable
  exact h r (List.mem_filter.1 hr).1 name e finding

theorem AboutContent.filter_reported {rs : List Remark} (h : AboutContent rs) :
    (reported o text rs).filter Issue.isUnavailability = [] := by
  apply filter_reported_eq_nil
  intro r hr name e finding
  have about := h r hr
  rw [finding] at about
  cases about

theorem filter_reported_failures (failures : List HintFailure) :
    (reported o text (failures.map HintFailure.remark)).filter Issue.isUnavailability =
      failures.map (·.remark.toIssue text) := by
  have all_reported : reported o text (failures.map HintFailure.remark) =
      failures.map (·.remark.toIssue text) := by
    unfold reported
    rw [List.filter_eq_self.2, List.map_map]
    · rfl
    · exact List.forall_mem_map.2 fun f _ => rfl
  rw [all_reported, List.filter_eq_self]
  refine List.forall_mem_map.2 fun f _ => ?_
  exact (Remark.isUnavailability_toIssue text f.remark).2 ⟨_, _, rfl⟩

theorem unavailabilities_of_issues_eq {before after : Run} {rs : List Remark}
    (h : after.issues = before.issues ++ (reported o text rs).toArray) :
    after.unavailabilities =
      before.unavailabilities ++ (reported o text rs).filter Issue.isUnavailability := by
  unfold Run.unavailabilities
  rw [h, Array.toList_append, List.filter_append]

end Reports

namespace Run

variable (o : Options) (text : List Char)

/-- Taking in hints adds the bindings of the fresh ones and reports those that point to the
network. -/
theorem addHints_eq (run : Run) (hints : List SchemaHint) :
    hints.foldl (addHint o text) run = remarkAll o text { run with
      set := run.set.addAll (hints.filterMap (·.binding? o))
      bindingOffsets := run.bindingOffsets ++
        (freshHints o run.set.registered hints).map fun p => (p.2, p.1.offset) }
      ((refusedHints o hints).map HintFailure.remark) := by
  induction hints generalizing run with
  | nil => simp [SchemaSet.addAll, refusedHints, remarkAll]
  | cons h hints ih =>
    rw [List.foldl_cons, ih]
    cases hlocation : SchemaLocation.ofText h.location o.baseDir with
    | remote address =>
      let failure : HintFailure := ⟨h, .unsupportedLocation address⟩
      have added : run.addHint o text h = run.remark o text failure.remark := by
        unfold addHint
        rw [hlocation]
        rfl
      have refused : refusedHints o (h :: hints) = failure :: refusedHints o hints := by
        unfold refusedHints
        rw [List.filterMap_cons, SchemaHint.refusal?_of_remote hlocation]
        rfl
      have none_bound := SchemaHint.binding?_of_remote hlocation
      have both := reported_append o text [failure.remark]
        ((refusedHints o hints).map HintFailure.remark)
      rw [List.singleton_append] at both
      rw [added, refused, List.filterMap_cons_none none_bound, freshHints_of_none none_bound,
        List.map_cons, remark_eq, remarkAll_eq, remarkAll_eq, both]
      simp
    | file path =>
      have bound := SchemaHint.binding?_of_file hlocation
      have refused : refusedHints o (h :: hints) = refusedHints o hints := by
        unfold refusedHints
        rw [List.filterMap_cons, SchemaHint.refusal?_of_file hlocation]
        rfl
      have first : run.set.addAll ((h :: hints).filterMap (·.binding? o)) =
          (run.set.add ⟨h.namespaceName, path⟩).2.addAll (hints.filterMap (·.binding? o)) := by
        rw [List.filterMap_cons_some bound]
        rfl
      unfold addHint
      rw [hlocation, refused, first]
      dsimp only
      by_cases old : run.set.registered.any (·.Same ⟨h.namespaceName, path⟩) = true
      · rw [freshHints_of_known bound old, SchemaSet.add, if_pos old]
        rfl
      · rw [freshHints_of_new bound old, SchemaSet.add, if_neg old]
        simp

/-- The bindings that the run has met are those of the fresh ones among the hints, each with the
place of its hint, and none of them waits. -/
structure Tracks (run : Run) (hints : List SchemaHint) : Prop where
  pending : run.set.pending = []
  registered : run.set.registered = (freshHints o [] hints).map Prod.snd
  bindingOffsets : run.bindingOffsets = (freshHints o [] hints).map fun p => (p.2, p.1.offset)

variable {o text} {run : Run} {met : List SchemaHint}

theorem Tracks.settled (h : Tracks o run met) : run.Settled := by
  refine ⟨h.pending, fun b hb => ?_⟩
  rw [h.registered] at hb
  obtain ⟨p, hp, rfl⟩ := List.mem_map.1 hb
  rw [h.bindingOffsets]
  exact ⟨p.1.offset, List.mem_map_of_mem hp⟩

theorem Tracks.keeps {after : Run} (h : Tracks o run met) (kept : Keeps o text run after) :
    Tracks o after met where
  pending := kept.pending.trans h.pending
  registered := kept.registered.trans h.registered
  bindingOffsets := kept.bindingOffsets.trans h.bindingOffsets

theorem Keeps.unavailabilities {after : Run} (kept : Keeps o text run after) :
    after.unavailabilities = run.unavailabilities := by
  obtain ⟨rs, about, issues⟩ := kept.issues
  rw [unavailabilities_of_issues_eq issues, about.filter_reported, List.append_nil]

theorem unavailabilities_of_fault {after : Run} {r : Remark} (h : r.finding.isFault = true)
    (issues : after.issues = run.issues ++ (reported o text [r]).toArray) :
    after.unavailabilities = run.unavailabilities := by
  rw [unavailabilities_of_issues_eq issues, filter_reported_eq_nil, List.append_nil]
  intro r' hr' name e finding
  rw [← List.mem_singleton.1 hr', finding] at h
  cases h

theorem freshHints_met (hints : List SchemaHint) :
    freshHints o [] (met ++ hints) =
      freshHints o [] met ++ freshHints o ((freshHints o [] met).map Prod.snd) hints := by
  rw [freshHints_append, List.nil_append]

/-- The place of a fresh hint is the one that is found for its binding. -/
theorem bindingOffset_of_mem {hints : List SchemaHint} {p : SchemaHint × Binding}
    (offsets : run.bindingOffsets = (freshHints o [] hints).map fun p => (p.2, p.1.offset))
    (hp : p ∈ freshHints o [] hints) : run.bindingOffset p.2 = p.1.offset := by
  have apart : (freshHints o [] hints).Pairwise fun p q => ¬ p.2.Same q.2 :=
    freshHints_pairwise hints
  have found : ((freshHints o [] hints).map fun p => (p.2, p.1.offset)).find? (·.1.Same p.2) =
      some (p.2, p.1.offset) := by
    generalize freshHints o [] hints = fresh at apart hp ⊢
    induction fresh with
    | nil => cases hp
    | cons q fresh ih =>
      obtain ⟨first, apart⟩ := List.pairwise_cons.1 apart
      rw [List.map_cons]
      rcases List.mem_cons.1 hp with rfl | hp
      · exact List.find?_cons_of_pos (by simp [Binding.Same, Path.Same])
      · rw [List.find?_cons_of_neg (by simpa using first p hp)]
        exact ih apart hp
  rw [bindingOffset, offsets, found]
  rfl

/-- Each binding that cannot be loaded is reported at the fresh hint that stands for it. -/
theorem Tracks.remarks_eq (h : Tracks o run met) {hints : List SchemaHint} {hinted : Run}
    (offsets : hinted.bindingOffsets =
      (freshHints o [] (met ++ hints)).map fun p => (p.2, p.1.offset)) :
    ((run.set.addAll (hints.filterMap (·.binding? o))).compile o.source).1.map
        (fun failure => (⟨.schemaUnavailable failure.1.namespaceName failure.2,
          hinted.bindingOffset failure.1⟩ : Remark)) =
      (run.set.unloadedHints o hints).map HintFailure.remark := by
  have failed := SchemaSet.sublist_compile_addAll o hints h.pending
  rw [SchemaSet.unloadedHints, List.map_filterMap, ← List.filterMap_eq_map]
  refine List.filterMap_congr fun failure hfailure => ?_
  obtain ⟨p, hp, hbinding⟩ := List.mem_map.1 (failed.subset (List.mem_map_of_mem hfailure))
  have first := find?_of_mem_freshHints hints p hp
  have place : hinted.bindingOffset p.2 = p.1.offset := by
    refine bindingOffset_of_mem offsets ?_
    rw [freshHints_met, ← h.registered]
    exact List.mem_append_right _ hp
  have name := SchemaHint.namespaceName_of_binding? (freshHints_spec hints p hp).1
  rw [Function.comp_apply, ← hbinding, first, place, name]
  rfl

theorem harvest_eq_compilePending (run : Run) (attributes : List NamedAttribute) :
    run.harvest o text attributes = compilePending o text
      ((attributes.flatMap (·.hints)).foldl (addHint o text)
        (run.remarkAll o text (attributes.flatMap (·.danglingRemarks)))) := by
  unfold harvest
  dsimp only
  generalize (attributes.flatMap (·.hints)).foldl _ _ = hinted
  by_cases waits : hinted.set.hasPending = true
  · exact if_pos waits
  · rw [if_neg waits, compilePending_eq]
    simpa [SchemaSet.hasPending] using waits

/-- What a start tag points to is taken in, and what fails of it is reported. -/
theorem Tracks.harvest (h : Tracks o run met) (attributes : List NamedAttribute) :
    Tracks o (run.harvest o text attributes) (met ++ attributes.flatMap (·.hints)) ∧
      (run.harvest o text attributes).unavailabilities = run.unavailabilities ++
        (run.set.hintFailures o (attributes.flatMap (·.hints))).map (·.remark.toIssue text) := by
  have dangling := aboutContent_flatMap aboutContent_danglingRemarks attributes
  rw [harvest_eq_compilePending]
  generalize attributes.flatMap (·.hints) = hints
  generalize attributes.flatMap (·.danglingRemarks) = rs at dangling ⊢
  have hinted_eq := addHints_eq o text (run.remarkAll o text rs) hints
  rw [remarkAll_eq o text run rs, remarkAll_eq] at hinted_eq
  rw [remarkAll_eq o text run rs]
  generalize hints.foldl (addHint o text) _ = hinted at hinted_eq ⊢
  have set_eq : hinted.set = run.set.addAll (hints.filterMap (·.binding? o)) := by rw [hinted_eq]
  have offsets : hinted.bindingOffsets =
      (freshHints o [] (met ++ hints)).map fun p => (p.2, p.1.offset) := by
    rw [hinted_eq, freshHints_met, List.map_append, ← h.registered, ← h.bindingOffsets]
  have issues : hinted.issues = run.issues ++ (reported o text rs).toArray ++
      (reported o text ((refusedHints o hints).map HintFailure.remark)).toArray := by
    rw [hinted_eq]
  have loaded : hinted.compilePending o text = remarkAll o text
      { hinted with set := ((run.set.addAll (hints.filterMap (·.binding? o))).compile o.source).2 }
      ((run.set.unloadedHints o hints).map HintFailure.remark) := by
    rw [← h.remarks_eq offsets, ← set_eq]
    rfl
  rw [loaded, remarkAll_eq]
  refine ⟨⟨SchemaSet.pending_compile _ _, ?_, offsets⟩, ?_⟩
  · dsimp only
    rw [SchemaSet.registered_compile, SchemaSet.addAll_eq, h.registered, freshHints_met,
      List.map_append]
  · unfold unavailabilities
    rw [issues, Array.toList_append, Array.toList_append, Array.toList_append, List.filter_append,
      List.filter_append, List.filter_append, dangling.filter_reported, List.append_nil,
      filter_reported_failures, filter_reported_failures, SchemaSet.hintFailures, List.map_append,
      List.append_assoc]

/-! ## Events -/

/-- The hints of a start tag whose names can be resolved. -/
def tagHints (scopes : List Scope) (tag : Xml.StartTag) : List SchemaHint :=
  match tag.attributes with
  | .error _ => []
  | .ok attributes =>
    match resolveTag (Scope.ofAttributes attributes :: scopes) tag attributes with
    | .error _ => []
    | .ok (_, named) => named.flatMap (·.hints)

/-- The hints that an event brings: those of a start tag which the run takes in. -/
def eventHints (run : Run) : Xml.Event → List SchemaHint
  | .startTag tag =>
    if run.finished || run.openSchema.isSome || (run.tagFault? tag).isSome then []
    else tagHints run.scopes tag
  | _ => []

theorem eventHints_of_finished (h : run.finished = true) (event : Xml.Event) :
    run.eventHints event = [] := by
  cases event with
  | startTag tag => simp [eventHints, h]
  | _ => rfl

theorem eventHints_of_passed {event : Xml.Event}
    (passed : run.openSchema = none → ∀ tag, event ≠ .startTag tag) :
    run.eventHints event = [] := by
  cases event with
  | startTag tag =>
    have inside : run.openSchema ≠ none := fun outside => passed outside tag rfl
    simp [eventHints, Option.isSome_iff_ne_none.2 inside]
  | _ => rfl

theorem eventHints_of_fault {event : Xml.Event} {fault : Xml.Fault}
    (h : run.fault? text event = some fault) : run.eventHints event = [] := by
  cases event with
  | startTag tag =>
    by_cases outside : run.openSchema = none
    · unfold fault? at h
      rw [outside] at h
      dsimp only at h
      simp [eventHints, h]
    · exact eventHints_of_passed fun outside' => absurd outside' outside
  | _ => rfl

theorem eventHints_startTag {tag : Xml.StartTag} {attributes : List Xml.Attribute} {name : QName}
    {named : List NamedAttribute} (running : run.finished = false) (outside : run.openSchema = none)
    (faultless : run.tagFault? tag = none) (decoded : tag.attributes = .ok attributes)
    (resolved : resolveTag (Scope.ofAttributes attributes :: run.scopes) tag attributes =
      .ok (name, named)) : run.eventHints (.startTag tag) = named.flatMap (·.hints) := by
  have taken : run.eventHints (.startTag tag) = tagHints run.scopes tag := by
    simp [eventHints, running, outside, faultless]
  rw [taken, tagHints, decoded]
  dsimp only
  rw [resolved]

variable (o text) in
/-- Behind what a start tag points to, its element is judged. -/
theorem keeps_startTag {tag : Xml.StartTag} {attributes : List Xml.Attribute} {name : QName}
    {named : List NamedAttribute} (first : ¬ (run.frames.isEmpty && run.rootClosed) = true)
    (decoded : tag.attributes = .ok attributes)
    (resolved : resolveTag (Scope.ofAttributes attributes :: run.scopes) tag attributes =
      .ok (name, named)) :
    Keeps o text
      (harvest o text { run with scopes := Scope.ofAttributes attributes :: run.scopes } named)
      (run.startTag o text tag) := by
  unfold startTag
  rw [if_neg first, decoded]
  dsimp only
  rw [resolved]
  dsimp only
  generalize harvest o text _ named = harvested
  by_cases hname : name = .schema "schema"
  · rw [if_pos hname]
    split
    · exact keeps_closeSchema o text harvested tag tag.stop
    · exact keeps_of_eq (show _ = remarkAll o text { harvested with openSchema := some ⟨tag, 0⟩ } []
        from rfl) aboutContent_nil rfl rfl rfl rfl rfl
  · rw [if_neg hname]
    obtain ⟨rs, mode, parents, types, about, -, opened⟩ :=
      exists_openElement_eq o text harvested tag name named
    split at opened
    · exact keeps_of_eq opened about rfl rfl rfl rfl rfl
    · exact keeps_of_eq opened about rfl rfl rfl rfl rfl

variable (text) in
/-- An event adds the hints it brings, and reports those that fail. -/
theorem Tracks.step (h : Tracks o run met) (event : Xml.Event) :
    Tracks o (run.step o text event) (met ++ run.eventHints event) ∧
      (run.step o text event).unavailabilities = run.unavailabilities ++
        (run.set.hintFailures o (run.eventHints event)).map (·.remark.toIssue text) := by
  have silent {after : Run} (tracks : Tracks o after met)
      (same : after.unavailabilities = run.unavailabilities) (none : run.eventHints event = []) :
      Tracks o after (met ++ run.eventHints event) ∧
        after.unavailabilities = run.unavailabilities ++
          (run.set.hintFailures o (run.eventHints event)).map (·.remark.toIssue text) := by
    rw [none, SchemaSet.hintFailures_nil o h.pending, List.append_nil, List.map_nil,
      List.append_nil]
    exact ⟨tracks, same⟩
  by_cases finished : run.finished = true
  · rw [step_of_finished o text finished]
    exact silent h rfl (eventHints_of_finished finished event)
  have running : run.finished = false := by simpa using finished
  cases hfault : run.fault? text event with
  | some fault =>
    obtain ⟨scopes, failed⟩ := exists_step_eq_fail text running hfault
    rw [failed, fail_eq o text { run with scopes } h.pending]
    refine silent ⟨h.pending, h.registered, h.bindingOffsets⟩ ?_ (eventHints_of_fault hfault)
    exact unavailabilities_of_fault rfl rfl
  | none =>
    by_cases last : event = .endOfInput
    · subst last
      rw [step_endOfInput o text running h.settled hfault]
      split
      · exact silent ⟨h.pending, h.registered, h.bindingOffsets⟩ rfl rfl
      · refine silent ⟨h.pending, h.registered, h.bindingOffsets⟩ ?_ rfl
        exact unavailabilities_of_fault rfl rfl
    by_cases tags : ∃ tag, run.openSchema = none ∧ event = .startTag tag
    · obtain ⟨tag, outside, rfl⟩ := tags
      unfold fault? at hfault
      rw [outside] at hfault
      obtain ⟨first, attributes, name, named, decoded, resolved⟩ := tagFault?_eq_none_iff.1 hfault
      rw [step_eq o text running outside,
        eventHints_startTag running outside hfault decoded resolved]
      have inner :
          Tracks o { run with scopes := Scope.ofAttributes attributes :: run.scopes } met :=
        ⟨h.pending, h.registered, h.bindingOffsets⟩
      have kept := keeps_startTag o text first decoded resolved
      obtain ⟨tracks, reports⟩ := inner.harvest named
      exact ⟨tracks.keeps kept, kept.unavailabilities.trans reports⟩
    · have passed : run.openSchema = none → ∀ tag, event ≠ .startTag tag :=
        fun outside tag htag => tags ⟨tag, outside, htag⟩
      have kept := keeps_step o text running hfault last passed
      exact silent (h.keeps kept) kept.unavailabilities (eventHints_of_passed passed)

/-! ## Runs -/

variable (o text)

/-- The hints that events bring, in order. -/
def hints (run : Run) : List Xml.Event → List SchemaHint
  | [] => []
  | event :: events => run.eventHints event ++ (run.step o text event).hints events

/-- The hints that cannot be followed, event by event. -/
def hintFailures (run : Run) : List Xml.Event → List HintFailure
  | [] => []
  | event :: events =>
    run.set.hintFailures o (run.eventHints event) ++ (run.step o text event).hintFailures events

variable {o text}

/-- The issues about unavailable schemas are those of the hints that cannot be followed. -/
theorem Tracks.unavailabilities_steps (h : Tracks o run met) (events : List Xml.Event) :
    (run.steps o text events).unavailabilities = run.unavailabilities ++
      (run.hintFailures o text events).map (·.remark.toIssue text) := by
  induction events generalizing run met with
  | nil => simp [hintFailures, steps]
  | cons event events ih =>
    obtain ⟨tracks, reports⟩ := h.step text event
    rw [steps_cons, hintFailures, ih tracks, reports, List.map_append, List.append_assoc]

/-- Wherever a location on the network is given, the hint fails. -/
theorem filter_hintFailures_of_remote {namespaceName location address : String}
    (remote : SchemaLocation.ofText location o.baseDir = .remote address)
    (events : List Xml.Event) :
    (run.hintFailures o text events).filter (·.hint.Gives namespaceName location) =
      ((run.hints o text events).filter (·.Gives namespaceName location)).map
        (⟨·, .unsupportedLocation address⟩) := by
  induction events generalizing run with
  | nil => rfl
  | cons event events ih =>
    rw [hintFailures, hints, List.filter_append, List.filter_append, List.map_append, ih,
      SchemaSet.filter_hintFailures_of_remote remote]

/-- A hint that points to a file fails only if it is fresh. -/
theorem Tracks.filter_hintFailures_of_file (h : Tracks o run met)
    {namespaceName location : String} {path : Path}
    (file : SchemaLocation.ofText location o.baseDir = .file path) (events : List Xml.Event) :
    (((run.hintFailures o text events).filter (·.hint.Gives namespaceName location)).map
      HintFailure.hint).Sublist
      (((freshHints o run.set.registered (run.hints o text events)).map Prod.fst).filter
        (·.Gives namespaceName location)) := by
  induction events generalizing run met with
  | nil => exact .slnil
  | cons event events ih =>
    have tracks := (h.step text event).1
    have registered : (run.step o text event).set.registered = run.set.registered ++
        (freshHints o run.set.registered (run.eventHints event)).map Prod.snd := by
      rw [tracks.registered, freshHints_met, List.map_append, ← h.registered]
    rw [hintFailures, hints, freshHints_append, ← registered, List.filter_append, List.map_append,
      List.map_append, List.filter_append]
    exact (SchemaSet.filter_hintFailures_of_file h.pending file).append (ih tracks)

end Run

/-- The issues about unavailable schemas are those of the hints that cannot be followed, each at the
attribute of its hint.  Of the hints that give one file for a namespace at most one fails, the first
one; of those that give a location on the network, every one does. -/
theorem validate_reports_hints (o : Options) (text : String) :
    let cs := Xml.dropByteOrderMark text.toList
    let hints := Run.hints o cs {} (Xml.events cs)
    let failures := Run.hintFailures o cs {} (Xml.events cs)
    (validate o text).issues.filter Issue.isUnavailability = failures.map (·.remark.toIssue cs) ∧
    ∀ namespaceName location,
      let carriers := hints.filter (·.Gives namespaceName location)
      let own := failures.filter (·.hint.Gives namespaceName location)
      (∀ path, SchemaLocation.ofText location o.baseDir = .file path →
        own = [] ∨ ∃ h e, own = [⟨h, e⟩] ∧ carriers.head? = some h) ∧
      ∀ address, SchemaLocation.ofText location o.baseDir = .remote address →
        own = carriers.map (⟨·, .unsupportedLocation address⟩) := by
  intro cs hints failures
  have start : Run.Tracks o {} [] := ⟨rfl, rfl, rfl⟩
  refine ⟨start.unavailabilities_steps (Xml.events cs), fun namespaceName location => ?_⟩
  intro carriers own
  refine ⟨fun path file => ?_, fun address remote =>
    Run.filter_hintFailures_of_remote remote (Xml.events cs)⟩
  have first : (own.map HintFailure.hint).Sublist carriers.head?.toList :=
    (start.filter_hintFailures_of_file file (Xml.events cs)).trans (freshHints_sublist file hints)
  cases hcarriers : carriers.head? with
  | none =>
    rw [hcarriers] at first
    exact .inl (List.map_eq_nil_iff.1 (List.sublist_nil.1 first))
  | some h =>
    rw [hcarriers, Option.toList_some, List.sublist_singleton] at first
    refine first.imp List.map_eq_nil_iff.1 fun once => ?_
    obtain ⟨f, hown, rfl⟩ := List.map_eq_singleton_iff.1 once
    exact ⟨f.hint, f.error, hown, rfl⟩

/-- A document whose two start tags give a location on the network for one namespace and a file for
another. -/
def repeatedHints : String :=
  "<a xmlns:i=\"http://www.w3.org/2001/XMLSchema-instance\" " ++
    "i:schemaLocation=\"u http://x/u.xsd v v.xsd\">" ++
    "<b i:schemaLocation=\"u http://x/u.xsd v v.xsd\"/></a>"

/-- The file that is missing is reported at the first tag, the location on the network at both. -/
theorem validate_reports_hints_repeated :
    let o : Options := ⟨.ofText "/s", true, .none⟩
    let cs := Xml.dropByteOrderMark repeatedHints.toList
    let failures := Run.hintFailures o cs {} (Xml.events cs)
    let remote (offset : Nat) : HintFailure :=
      ⟨⟨"u", "http://x/u.xsd", offset⟩, .unsupportedLocation "http://x/u.xsd"⟩
    let missing : HintFailure := ⟨⟨"v", "v.xsd", 55⟩, .notFound (.ofText "/s/v.xsd")⟩
    failures = [remote 55, missing, remote 102] ∧
    (validate o repeatedHints).issues.filter Issue.isUnavailability =
      [remote 55, missing, remote 102].map (·.remark.toIssue cs) ∧
    failures.filter (·.hint.Gives "u" "http://x/u.xsd") = [remote 55, remote 102] := by
  intro o cs failures remote missing
  obtain ⟨failed, met⟩ : failures = [remote 55, missing, remote 102] ∧
      (Run.hints o cs {} (Xml.events cs)).filter (·.Gives "u" "http://x/u.xsd") =
        [(remote 55).hint, (remote 102).hint] := by decide +kernel
  obtain ⟨issues, pairs⟩ := validate_reports_hints o repeatedHints
  refine ⟨failed, issues.trans (congrArg _ failed), ?_⟩
  have own := (pairs "u" "http://x/u.xsd").2 "http://x/u.xsd" (by decide +kernel)
  exact own.trans (congrArg _ met)

end XmlSchema
