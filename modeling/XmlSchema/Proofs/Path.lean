import XmlSchema.Path

/-!
# Directories and components

The directory that a path names, and the path of a file seen from a directory, depend on components
only: the parent lacks the last component (`Path.components_parent`), and `Path.join` appends
components (`Path.components_join`).  So both respect `Path.Same`.
-/

namespace XmlSchema

namespace Path

/-! ## Parts -/

theorem splitSeparators_ne_nil (bs : List UInt8) : splitSeparators bs ≠ [] := by
  cases bs with
  | nil => simp [splitSeparators]
  | cons b bs =>
    rw [splitSeparators]
    split
    · simp
    · split <;> simp

theorem splitSeparators_append (xs ys : List UInt8) :
    splitSeparators (xs ++ 0x2F :: ys) = splitSeparators xs ++ splitSeparators ys := by
  induction xs with
  | nil => simp [splitSeparators]
  | cons b xs ih =>
    obtain ⟨part, parts, hparts⟩ := List.exists_cons_of_ne_nil (splitSeparators_ne_nil xs)
    rw [List.cons_append, splitSeparators, splitSeparators, ih, hparts]
    split <;> rfl

theorem splitSeparators_of_not_mem {xs : List UInt8} (h : 0x2F ∉ xs) :
    splitSeparators xs = [xs] := by
  induction xs with
  | nil => rfl
  | cons b xs ih =>
    rw [List.mem_cons, not_or] at h
    rw [splitSeparators, if_neg (Ne.symm h.1), ih h.2]

theorem component?_eq_none_iff {part : List UInt8} :
    component? part = none ↔ part = [] ∨ part = [0x2E] := by
  unfold component?
  split <;> simp_all

/-- The ordinary components of a text. -/
def entries (bs : List UInt8) : List Component := (splitSeparators bs).filterMap component?

theorem entries_append (xs ys : List UInt8) :
    entries (xs ++ 0x2F :: ys) = entries xs ++ entries ys := by
  rw [entries, splitSeparators_append, List.filterMap_append]
  rfl

theorem entries_of_not_mem {xs : List UInt8} (h : 0x2F ∉ xs) :
    entries xs = (component? xs).toList := by
  rw [entries, splitSeparators_of_not_mem h]
  cases hx : component? xs <;> simp [hx]

/-! ## The start of a path -/

/-- The component that a path starts with, before the ordinary ones. -/
def startComponents (start : List UInt8) : List Component :=
  if start = [0x2F] then [.root] else if start = [0x2E] then [.here] else []

theorem components_eq (p : Path) :
    p.components = startComponents (leading p.bytes) ++ entries p.bytes := by
  unfold components startComponents
  dsimp only
  split <;> simp_all [entries]

theorem leading_cases (bs : List UInt8) :
    (leading bs = [0x2F] ∧ ∃ rest, bs = 0x2F :: rest) ∨
      (leading bs = [0x2E] ∧ (bs = [0x2E] ∨ ∃ rest, bs = 0x2E :: 0x2F :: rest)) ∨
      leading bs = [] ∧ (∀ rest, bs ≠ 0x2F :: rest) ∧ bs ≠ [0x2E] ∧
        ∀ rest, bs ≠ 0x2E :: 0x2F :: rest := by
  unfold leading
  split <;> simp_all

theorem entries_drop_leading (bs : List UInt8) :
    entries (bs.drop (leading bs).length) = entries bs := by
  rcases leading_cases bs with ⟨h, rest, rfl⟩ | ⟨h, rfl | ⟨rest, rfl⟩⟩ | ⟨h, -⟩ <;> rw [h]
  · exact (entries_append [] rest).symm
  · rfl
  · exact (entries_append [] rest).trans (entries_append [0x2E] rest).symm
  · rfl

/-- What starts a path also starts it when it is cut off between two components. -/
theorem leading_cut {bs rest : List UInt8}
    (h : rest <+: bs.drop (leading bs).length) (idle : rest ≠ [0x2E]) :
    leading (leading bs ++ rest) = leading bs := by
  rcases leading_cases bs with ⟨start, _, rfl⟩ | ⟨start, rfl | ⟨after, rfl⟩⟩ |
    ⟨start, not_root, not_here, not_here'⟩ <;> rw [start] at h ⊢
  · rfl
  · rw [List.prefix_nil.1 h]
    rfl
  · rcases List.prefix_cons_iff.1 h with rfl | ⟨_, rfl, -⟩ <;> rfl
  · obtain ⟨more, rfl⟩ := h
    rcases leading_cases rest with ⟨-, _, rfl⟩ | ⟨-, rfl | ⟨_, rfl⟩⟩ | ⟨same, -⟩
    · exact absurd rfl (not_root _)
    · exact absurd rfl idle
    · exact absurd rfl (not_here' _)
    · exact same

theorem entries_ne_nil {bs : List UInt8} (start : leading bs = []) (nonempty : bs ≠ []) :
    entries bs ≠ [] := by
  rcases leading_cases bs with ⟨h, -⟩ | ⟨h, -⟩ | ⟨-, not_root, not_here, not_here'⟩
  · simp [start] at h
  · simp [start] at h
  · intro none_left
    by_cases separated : 0x2F ∈ bs
    · obtain ⟨first, rest, rfl, hfirst⟩ := List.eq_append_cons_of_mem separated
      rw [entries_append, entries_of_not_mem hfirst, List.append_eq_nil_iff,
        Option.toList_eq_nil_iff, component?_eq_none_iff] at none_left
      obtain ⟨rfl | rfl, -⟩ := none_left
      · exact not_root rest rfl
      · exact not_here' rest rfl
    · rw [entries_of_not_mem separated, Option.toList_eq_nil_iff,
        component?_eq_none_iff] at none_left
      exact none_left.elim nonempty not_here

theorem components_eq_nil_iff {p : Path} : p.components = [] ↔ p.bytes = [] := by
  rw [components_eq, List.append_eq_nil_iff]
  constructor
  · rintro ⟨start, none_left⟩
    refine Decidable.byContradiction fun nonempty => entries_ne_nil ?_ nonempty none_left
    rcases leading_cases p.bytes with ⟨h, -⟩ | ⟨h, -⟩ | ⟨h, -⟩
    · simp [h, startComponents] at start
    · simp [h, startComponents] at start
    · exact h
  · intro empty
    rw [empty]
    exact ⟨rfl, rfl⟩

/-! ## Parents -/

/-- The last part of a body that is given backwards. -/
def lastPart (body : List UInt8) : List UInt8 := (body.takeWhile (· != 0x2F)).reverse

theorem entries_reverse (body : List UInt8) :
    entries body.reverse =
      entries (dropLastPart body).reverse ++ (component? (lastPart body)).toList := by
  have whole : 0x2F ∉ lastPart body := by
    unfold lastPart
    rw [List.mem_reverse]
    intro h
    simpa using List.all_eq_true.1 (List.all_takeWhile (p := (· != 0x2F))) 0x2F h
  have split : body.reverse = (body.dropWhile (· != 0x2F)).reverse ++ lastPart body := by
    rw [lastPart, ← List.reverse_append, List.takeWhile_append_dropWhile]
  rw [split, dropLastPart]
  cases hrest : body.dropWhile (· != 0x2F) with
  | nil =>
    rw [← entries_of_not_mem whole]
    rfl
  | cons b rest =>
    have separator := List.head_dropWhile_not (· != 0x2F) (l := body) (by simp [hrest])
    simp only [hrest, List.head_cons, bne_eq_false_iff_eq] at separator
    subst separator
    rw [List.reverse_cons, List.append_assoc, List.singleton_append, entries_append,
      entries_of_not_mem whole]
    rfl

theorem length_dropLastPart {body : List UInt8} (h : body ≠ []) :
    (dropLastPart body).length < body.length := by
  have rest := (List.dropWhile_suffix (l := body) (· != 0x2F)).length_le
  have nonempty := List.length_pos_iff.2 h
  rw [dropLastPart, List.length_drop]
  omega

theorem dropLastPart_suffix (body : List UInt8) : dropLastPart body <:+ body :=
  (List.drop_suffix _ _).trans (List.dropWhile_suffix _)

/-- Dropping idle parts leaves the components as they are, and nothing idle at the end. -/
theorem dropIdleParts_spec {fuel : Nat} {body : List UInt8} (h : body.length ≤ fuel) :
    dropIdleParts fuel body <:+ body ∧
      entries (dropIdleParts fuel body).reverse = entries body.reverse ∧
      (dropIdleParts fuel body = [] ∨
        (component? (lastPart (dropIdleParts fuel body))).isSome = true) := by
  induction fuel generalizing body with
  | zero =>
    obtain rfl := List.eq_nil_of_length_eq_zero (Nat.le_zero.1 h)
    exact ⟨List.suffix_refl _, rfl, .inl rfl⟩
  | succ fuel ih =>
    rw [dropIdleParts]
    split
    · rename_i empty
      exact ⟨List.suffix_refl _, rfl, .inl (List.isEmpty_iff.1 empty)⟩
    · rename_i nonempty
      split
      · rename_i last
        exact ⟨List.suffix_refl _, rfl, .inr last⟩
      · rename_i idle
        have shorter := length_dropLastPart (mt List.isEmpty_iff.2 nonempty)
        obtain ⟨suffix, same, last⟩ := ih (show (dropLastPart body).length ≤ fuel by omega)
        refine ⟨suffix.trans (dropLastPart_suffix body), ?_, last⟩
        have nothing : component? (lastPart body) = none := Option.not_isSome_iff_eq_none.1 idle
        rw [same, entries_reverse body, nothing, Option.toList_none, List.append_nil]

/-- The components of a path that is cut off between two components. -/
theorem components_cut {bs rest : List UInt8} (h : rest <+: bs.drop (leading bs).length)
    (idle : rest ≠ [0x2E]) :
    components ⟨leading bs ++ rest⟩ =
      startComponents (leading bs) ++ entries rest := by
  have start := leading_cut h idle
  have behind := entries_drop_leading (leading bs ++ rest)
  rw [start, List.drop_left] at behind
  rw [components_eq, start, behind]

/-- The parent of a path lacks its last component. -/
theorem components_parent (p : Path) :
    (p.parent?.getD ⟨[]⟩).components = p.components.dropLast := by
  have behind := entries_drop_leading p.bytes
  rw [components_eq p]
  unfold parent?
  dsimp only
  generalize p.bytes = bs at behind ⊢
  generalize hbody : (bs.drop (leading bs).length).reverse = body
  rw [← List.reverse_reverse (bs.drop (leading bs).length), hbody] at behind
  obtain ⟨suffix, same, last⟩ := dropIdleParts_spec (Nat.le_refl body.length)
  rw [behind] at same
  generalize dropIdleParts body.length body = kept at suffix same last ⊢
  split
  · -- there is nothing behind the start
    rw [← same]
    rcases leading_cases bs with ⟨h, -⟩ | ⟨h, -⟩ | ⟨h, -⟩ <;> rw [h] <;> rfl
  · -- what is kept ends with a component, and idle parts before it are dropped as well
    rename_i nonempty
    obtain ⟨c, hc⟩ := Option.isSome_iff_exists.1 (last.resolve_left nonempty)
    obtain ⟨suffix', same', last'⟩ := dropIdleParts_spec (Nat.le_refl (dropLastPart kept).length)
    generalize dropIdleParts _ _ = above at suffix' same' last' ⊢
    have cut : above.reverse <+: bs.drop (leading bs).length := by
      rw [← List.reverse_suffix, List.reverse_reverse, hbody]
      exact (suffix'.trans (dropLastPart_suffix kept)).trans suffix
    have idle : above.reverse ≠ [0x2E] := by
      intro h
      obtain rfl := List.reverse_eq_cons_iff.1 h
      simp [lastPart, component?] at last'
    rw [Option.getD_some, components_cut cut idle, same', ← same, entries_reverse kept, hc,
      Option.toList_some, ← List.append_assoc, List.dropLast_concat]

/-! ## Paths seen from a directory -/

theorem leading_append_separator {bs : List UInt8} (nonempty : bs ≠ []) (ys : List UInt8) :
    leading (bs ++ 0x2F :: ys) = leading bs := by
  rcases leading_cases bs with ⟨h, _, rfl⟩ | ⟨h, rfl | ⟨_, rfl⟩⟩ |
    ⟨h, not_root, not_here, not_here'⟩ <;> rw [h]
  · rfl
  · rfl
  · rfl
  · rcases leading_cases (bs ++ 0x2F :: ys) with ⟨-, _, h'⟩ | ⟨-, h' | ⟨_, h'⟩⟩ | ⟨h', -⟩
    · cases bs with
      | nil => exact absurd rfl nonempty
      | cons b bs => exact absurd (by rw [(List.cons.inj h').1]) (not_root bs)
    · simp [List.append_eq_cons_iff] at h'
    · cases bs with
      | nil => exact absurd rfl nonempty
      | cons b bs =>
        obtain ⟨rfl, tail⟩ := List.cons.inj h'
        cases bs with
        | nil => exact absurd rfl not_here
        | cons d bs => exact absurd (by rw [(List.cons.inj tail).1]) (not_here' bs)
    · exact h'

/-- A separator at the end does not count. -/
theorem components_trailing {bs : List UInt8} (nonempty : bs ≠ []) :
    components ⟨bs ++ [0x2F]⟩ = components ⟨bs⟩ := by
  rw [components_eq, components_eq, leading_append_separator nonempty, entries_append]
  exact congrArg _ (List.append_nil _)

theorem components_append_separator (bs ys : List UInt8) :
    components ⟨bs ++ 0x2F :: ys⟩ =
      components ⟨bs ++ [0x2F]⟩ ++ entries ys := by
  have start : leading (bs ++ 0x2F :: ys) = leading (bs ++ [0x2F]) := by
    cases bs with
    | nil => rfl
    | cons b bs =>
      rw [leading_append_separator (List.cons_ne_nil b bs),
        leading_append_separator (List.cons_ne_nil b bs)]
  have parts : entries (bs ++ 0x2F :: ys) = entries (bs ++ [0x2F]) ++ entries ys := by
    rw [entries_append, entries_append]
    exact congrArg (· ++ entries ys) (List.append_nil _).symm
  rw [components_eq, components_eq, start, parts, List.append_assoc]

/-- A path seen from a directory has the components of the directory before its own, unless it
starts at the root; `entries` leaves out a `.` at its start. -/
theorem components_join (base p : Path) :
    (base.join p).components =
      if p.isAbsolute = true ∨ base.components = [] then p.components
      else base.components ++ entries p.bytes := by
  have empty_iff : base.components = [] ↔ base.bytes.isEmpty = true := by
    rw [components_eq_nil_iff, List.isEmpty_iff]
  unfold join
  by_cases stays : p.isAbsolute = true ∨ base.components = []
  · rw [if_pos stays, if_pos]
    rwa [Bool.or_eq_true, ← empty_iff]
  · rw [if_neg stays, if_neg (by rwa [Bool.or_eq_true, ← empty_iff])]
    have nonempty : base.bytes ≠ [] := by
      rw [Ne, ← components_eq_nil_iff]
      exact fun empty => stays (.inr empty)
    split
    · rename_i separated
      obtain ⟨bs, hbs⟩ := List.getLast?_eq_some_iff.1 (eq_of_beq separated)
      have joined : base.bytes ++ p.bytes = bs ++ 0x2F :: p.bytes := by simp [hbs]
      rw [joined, components_append_separator, ← hbs]
    · rw [components_append_separator, components_trailing nonempty]

theorem Same.join {base base' : Path} (h : base.Same base') (p : Path) :
    (base.join p).Same (base'.join p) := by
  unfold Same at h ⊢
  rw [components_join, components_join, h]

theorem Same.parent {p q : Path} (h : p.Same q) :
    (p.parent?.getD ⟨[]⟩).Same (q.parent?.getD ⟨[]⟩) := by
  unfold Same at h ⊢
  rw [components_parent, components_parent, h]

end Path

end XmlSchema
