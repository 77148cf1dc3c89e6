import Mathlib.Data.List.Forall2
import Mathlib.Data.List.TakeWhile
import XmlSchema.Json.Printer
import XmlSchema.Json.Reader

/-!
# Reading JSON that was written

What the readers make of a text is said by `Json.Reads`: the text is taken for a value, whatever
follows it.  There is a rule for each kind of value: numbers (`reads_integer`), strings
(`reads_string`), arrays (`reads_array`) and objects (`reads_object`), the last two with any white
space between their parts.

From these rules it follows that every value that fits the limits of the reader (`Fits`) is read
back from both of its texts (`Fits.read?_compact`, `Fits.read?_pretty`).  The text without spaces
has no control character, and so no line break (`Fits.plain_compactText`).
-/

namespace XmlSchema.Json

open XmlSchema.Text

/-- The text does not go on with a number. -/
def EndsNumber (rest : List Char) : Prop :=
  ∀ c ∈ rest.head?, isDigit c = false ∧ c ≠ '.' ∧ c ≠ 'e' ∧ c ≠ 'E'

/-- The reader takes the text for `a`, whatever follows. -/
def Reads {α : Type} (reader : List Char → Option (α × List Char)) (a : α) (cs : List Char) :
    Prop :=
  ∀ rest, EndsNumber rest → reader (cs ++ rest) = some (a, rest)

/-- The text is white space. -/
def Blank (cs : List Char) : Prop := ∀ c ∈ cs, isSpace c = true

instance (cs : List Char) : Decidable (Blank cs) := List.decidableBAll (isSpace · = true) cs

theorem blank_nil : Blank [] := by decide

theorem endsNumber_nil : EndsNumber [] := by simp [EndsNumber]

theorem endsNumber_cons {c : Char} (rest : List Char)
    (h : isDigit c = false ∧ c ≠ '.' ∧ c ≠ 'e' ∧ c ≠ 'E') : EndsNumber (c :: rest) := by
  simpa [EndsNumber] using h

theorem skipSpace_append {b : List Char} (h : Blank b) (cs : List Char) :
    skipSpace (b ++ cs) = skipSpace cs := List.dropWhile_append_of_pos h

theorem skipSpace_cons {c : Char} (h : isSpace c = false) (cs : List Char) :
    skipSpace (c :: cs) = c :: cs := by
  simp [skipSpace, h]

/-- White space does not make a number longer. -/
theorem Blank.endsNumber {b rest : List Char} (h : Blank b) (hrest : EndsNumber rest) :
    EndsNumber (b ++ rest) := by
  cases b with
  | nil => exact hrest
  | cons c b =>
    have space := h c (by simp)
    simp only [isSpace, Bool.or_eq_true, beq_iff_eq] at space
    rcases space with ((rfl | rfl) | rfl) | rfl <;> exact endsNumber_cons _ (by decide)

/-! ## Numbers -/

theorem isDigit_of_mem_toDigits {n : Nat} {c : Char} (h : c ∈ Nat.toDigits 10 n) :
    isDigit c = true := by
  have digit := Nat.isDigit_of_mem_toDigits (by decide) (by decide) h
  simpa [isDigit, Char.isDigit, Char.le_def] using digit

theorem digitsValue_toDigits (n : Nat) : digitsValue (Nat.toDigits 10 n) = n := by
  have value := Nat.ofDigitChars_ten_toDigits (n := n)
  rw [Nat.ofDigitChars_eq_foldl] at value
  simpa only [digitsValue, Nat.mul_comm] using value

/-- Only zero is written with a zero in front. -/
theorem head?_toDigits_ne_zero {n : Nat} (h : 0 < n) : (Nat.toDigits 10 n).head? ≠ some '0' := by
  induction n using Nat.strongRecOn with
  | ind n ih =>
    by_cases small : n < 10
    · rw [Nat.toDigits_of_lt_base small]
      simpa [Nat.digitChar_eq_zero] using Nat.ne_of_gt h
    · rw [Nat.toDigits_of_base_le (by decide) (Nat.le_of_not_lt small),
        List.head?_append_of_ne_nil _ Nat.toDigits_ne_nil]
      exact ih (n / 10) (by omega) (by omega)

theorem takeWhile_digits {ds rest : List Char} (digits : ∀ c ∈ ds, isDigit c = true)
    (ends : EndsNumber rest) :
    (ds ++ rest).takeWhile isDigit = ds ∧ (ds ++ rest).dropWhile isDigit = rest := by
  rw [List.takeWhile_append_of_pos digits, List.dropWhile_append_of_pos digits]
  cases rest with
  | nil => simp
  | cons c rest => simp [(ends c rfl).1]

theorem wholeDigits?_toDigits (n : Nat) {rest : List Char} (ends : EndsNumber rest) :
    wholeDigits? (Nat.toDigits 10 n ++ rest) = some (Nat.toDigits 10 n, rest) := by
  obtain ⟨taken, dropped⟩ := takeWhile_digits (fun c hc => isDigit_of_mem_toDigits hc) ends
  unfold wholeDigits?
  rw [taken, dropped]
  rcases Nat.eq_zero_or_pos n with rfl | pos
  · rfl
  · have leading := head?_toDigits_ne_zero pos
    cases hds : Nat.toDigits 10 n with
    | nil => exact absurd hds Nat.toDigits_ne_nil
    | cons d ds =>
      rw [hds] at leading
      have hd : d ≠ '0' := by simpa using leading
      split <;> simp_all

theorem fractionDigits?_of_ends {rest : List Char} (ends : EndsNumber rest) :
    fractionDigits? rest = some ([], rest) := by
  cases rest with
  | nil => rfl
  | cons c rest =>
    have hc := (ends c rfl).2.1
    unfold fractionDigits?
    split
    · simp_all
    · rfl

theorem exponentDigits?_of_ends {rest : List Char} (ends : EndsNumber rest) :
    exponentDigits? rest = some ([], rest) := by
  cases rest with
  | nil => rfl
  | cons c rest =>
    obtain ⟨-, -, lower, upper⟩ := ends c rfl
    simp [exponentDigits?, lower, upper]

/-- The numbers that the reader keeps as integers. -/
def IsWord64 (n : Int) : Prop := -Nat.pow 2 63 ≤ n ∧ n ≤ maxWord64

theorem exists_toDigits_eq_cons (n : Nat) :
    ∃ d ds, Nat.toDigits 10 n = d :: ds ∧ isDigit d = true := by
  cases hds : Nat.toDigits 10 n with
  | nil => exact absurd hds Nat.toDigits_ne_nil
  | cons d ds => exact ⟨d, ds, rfl, isDigit_of_mem_toDigits (hds ▸ List.mem_cons_self)⟩

theorem readNumber_nat {n : Nat} (h : n ≤ maxWord64) :
    Reads readNumber (.integer n) (Nat.toDigits 10 n) := by
  intro rest ends
  have kept : integer? false (Nat.toDigits 10 n) = some (n : Int) := by
    simp only [integer?, digitsValue_toDigits]
    rw [if_neg (by decide), if_pos h]
  unfold readNumber
  split
  rename_i sign
  split at sign
  · rename_i heq
    obtain ⟨d, ds, hds, digit⟩ := exists_toDigits_eq_cons n
    rw [hds] at heq
    obtain ⟨rfl, -⟩ := List.cons.inj heq
    exact absurd digit (by decide)
  · cases sign
    simp [wholeDigits?_toDigits n ends, fractionDigits?_of_ends ends, exponentDigits?_of_ends ends,
      kept]

theorem readNumber_neg {n : Nat} (pos : 0 < n) (h : n ≤ Nat.pow 2 63) :
    Reads readNumber (.integer (-n)) ('-' :: Nat.toDigits 10 n) := by
  intro rest ends
  have kept : integer? true (Nat.toDigits 10 n) = some (-n : Int) := by
    simp only [integer?, digitsValue_toDigits]
    rw [if_pos trivial, if_pos ⟨pos, h⟩]
  simp [readNumber, wholeDigits?_toDigits n ends, fractionDigits?_of_ends ends,
    exponentDigits?_of_ends ends, kept]

theorem numberText_natCast (n : Nat) : numberText (.integer n) = Nat.toDigits 10 n :=
  (congrArg String.toList Nat.toString_eq_ofList_toDigits).trans String.toList_ofList

theorem numberText_neg (n : Nat) :
    numberText (.integer (.negSucc n)) = '-' :: Nat.toDigits 10 (n + 1) := by
  rw [← numberText_natCast]
  exact String.toList_append (s := "-") (t := toString (n + 1))

theorem exists_numberText_eq_cons (n : Int) :
    ∃ c cs, numberText (.integer n) = c :: cs ∧ (c = '-' ∨ isDigit c = true) := by
  cases n with
  | ofNat n =>
    obtain ⟨d, ds, hds, digit⟩ := exists_toDigits_eq_cons n
    exact ⟨d, ds, (numberText_natCast n).trans hds, .inr digit⟩
  | negSucc n => exact ⟨'-', _, numberText_neg n, .inl rfl⟩

theorem readNumber_integer {n : Int} (h : IsWord64 n) :
    Reads readNumber (.integer n) (numberText (.integer n)) := by
  obtain ⟨low, high⟩ := h
  cases n with
  | ofNat n =>
    rw [Int.ofNat_eq_natCast] at high ⊢
    rw [numberText_natCast]
    exact readNumber_nat (by omega)
  | negSucc n =>
    rw [numberText_neg]
    exact readNumber_neg (Nat.succ_pos n) (by omega)

/-! ## Strings -/

theorem digit?_hexDigit {n : Nat} (h : n < 16) : digit? 16 (hexDigit n) = some n := by
  revert n
  decide

/-- Control characters are written by their numbers. -/
theorem unicodeEscape?_control {n : Nat} (h : n < 0x20) (rest : List Char) :
    unicodeEscape? ('0' :: '0' :: hexDigit (n / 16) :: hexDigit (n % 16) :: rest) =
      some (Char.ofNat n, 4) := by
  have zero : digit? 16 '0' = some 0 := by decide
  have upper := digit?_hexDigit (n := n / 16) (by omega)
  have lower := digit?_hexDigit (n := n % 16) (by omega)
  have unit : fourDigits? ('0' :: '0' :: hexDigit (n / 16) :: hexDigit (n % 16) :: rest) =
      some n := by
    simp [fourDigits?, zero, upper, lower]
    omega
  unfold unicodeEscape?
  rw [unit]
  simp [show ¬ 0xD800 ≤ n by omega, show ¬ 0xDC00 ≤ n by omega]

/-- A character is written by a letter behind a backslash, by its number, or as it is. -/
theorem escapeChar_cases (c : Char) :
    (∃ e, escapeChar c = ['\\', e] ∧ e ≠ 'u' ∧ escaped? e = some c ∧ 0x20 ≤ e.toNat) ∨
      (c.toNat < 0x20 ∧ escapeChar c =
        ['\\', 'u', '0', '0', hexDigit (c.toNat / 16), hexDigit (c.toNat % 16)]) ∨
      (escapeChar c = [c] ∧ c ≠ '"' ∧ c ≠ '\\' ∧ 0x20 ≤ c.toNat) := by
  by_cases letter : c ∈ ['"', '\\', '\n', '\r', '\t', '\x08', '\x0c']
  · left
    simp only [List.mem_cons, List.not_mem_nil, or_false] at letter
    rcases letter with rfl | rfl | rfl | rfl | rfl | rfl | rfl <;>
      exact ⟨_, rfl, by decide, rfl, by decide⟩
  · right
    simp only [List.mem_cons, List.not_mem_nil, or_false, not_or] at letter
    obtain ⟨quote, backslash, newline, ret, tab, back, feed⟩ := letter
    unfold escapeChar
    rw [if_neg quote, if_neg backslash, if_neg newline, if_neg ret, if_neg tab, if_neg back,
      if_neg feed]
    split
    · rename_i control
      exact .inl ⟨control, rfl⟩
    · rename_i visible
      exact .inr ⟨rfl, quote, backslash, Nat.le_of_not_lt visible⟩

/-- A character as it is written is read as that character. -/
theorem readString_escapeChar (c : Char) (rest : List Char) (fuel : Nat) :
    readString (fuel + 1) (escapeChar c ++ rest) =
      (readString fuel rest).bind fun (text, rest) => some (c :: text, rest) := by
  obtain ⟨e, written, other, means, -⟩ | ⟨control, written⟩ | ⟨written, quote, backslash, visible⟩ :=
    escapeChar_cases c
  · rw [written]
    simp [readString, means]
  · have escape := unicodeEscape?_control control rest
    rw [Char.ofNat_toNat] at escape
    rw [written]
    simp [readString, escape]
  · rw [written]
    simp [readString, quote, backslash, Nat.not_lt.2 visible]

theorem readString_escaped (s rest : List Char) {fuel : Nat} (h : s.length < fuel) :
    readString fuel (s.flatMap escapeChar ++ '"' :: rest) = some (s, rest) := by
  induction s generalizing fuel with
  | nil =>
    obtain ⟨fuel, rfl⟩ := Nat.exists_eq_succ_of_ne_zero (Nat.ne_of_gt h)
    simp [readString]
  | cons c s ih =>
    obtain ⟨fuel, rfl⟩ := Nat.exists_eq_succ_of_ne_zero (Nat.ne_of_gt (Nat.zero_lt_of_lt h))
    rw [List.flatMap_cons, List.append_assoc, readString_escapeChar, ih (by simpa using h)]
    rfl

theorem length_le_escaped (s : List Char) : s.length ≤ (s.flatMap escapeChar).length := by
  induction s with
  | nil => simp
  | cons c s ih =>
    have some_char : 0 < (escapeChar c).length := by
      obtain ⟨e, written, -⟩ | ⟨-, written⟩ | ⟨written, -⟩ := escapeChar_cases c <;> simp [written]
    rw [List.flatMap_cons, List.length_append, List.length_cons]
    omega

/-- A string in quotes is read as that string, from behind the opening quote. -/
theorem readString_quoted (s : String) (rest : List Char) :
    readString ((s.toList.flatMap escapeChar ++ '"' :: rest).length + 1)
      (s.toList.flatMap escapeChar ++ '"' :: rest) = some (s.toList, rest) := by
  refine readString_escaped s.toList rest ?_
  have := length_le_escaped s.toList
  rw [List.length_append]
  omega

/-! ## Lists -/

section Lists

variable {α : Type} {item : List Char → Option (α × List Char)} {close : Char}

/-- A character that ends a list: it is no part of an item. -/
def Closes (close : Char) : Prop :=
  isSpace close = false ∧ close ≠ ',' ∧
    isDigit close = false ∧ close ≠ '.' ∧ close ≠ 'e' ∧ close ≠ 'E'

instance (close : Char) : Decidable (Closes close) := inferInstanceAs (Decidable (_ ∧ _))

theorem readItems_of_reads (closes : Closes close) {as : List α} {texts : List (List Char)}
    (h : List.Forall₂ (Reads item) as texts) (some_item : as ≠ []) {b : List Char} (hb : Blank b)
    (rest : List Char) {fuel : Nat} (enough : as.length ≤ fuel) :
    readItems item close fuel ([','].intercalate texts ++ b ++ close :: rest) =
      some (as, rest) := by
  obtain ⟨no_space, no_comma, ends⟩ := closes
  induction h generalizing fuel with
  | nil => exact absurd rfl some_item
  | @cons a text as texts read others ih =>
    obtain ⟨fuel, rfl⟩ := Nat.exists_eq_succ_of_ne_zero (Nat.ne_of_gt (Nat.zero_lt_of_lt enough))
    cases others with
    | nil =>
      have first := read (b ++ close :: rest) (hb.endsNumber (endsNumber_cons rest ends))
      rw [List.intercalate_singleton, List.append_assoc]
      simp [readItems, first, skipSpace_append hb, skipSpace_cons no_space]
    | @cons a' text' as texts read' others =>
      have later := ih (by simp) (Nat.le_of_succ_le_succ enough)
      have first := read (',' :: ([','].intercalate (text' :: texts) ++ b ++ close :: rest))
        (endsNumber_cons _ (by decide))
      have split : [','].intercalate (text :: text' :: texts) ++ b ++ close :: rest =
          text ++ ',' :: ([','].intercalate (text' :: texts) ++ b ++ close :: rest) := by
        rw [List.intercalate_cons_cons]
        simp only [List.append_assoc, List.cons_append, List.nil_append]
      have comma : skipSpace (',' :: ([','].intercalate (text' :: texts) ++ b ++ close :: rest)) =
          ',' :: ([','].intercalate (text' :: texts) ++ b ++ close :: rest) :=
        skipSpace_cons rfl _
      rw [split, readItems, first]
      simp only [Option.bind_eq_bind, Option.bind_some, comma, later, if_neg no_comma.symm]
      rfl

theorem length_le_intercalate (texts : List (List Char)) :
    texts.length ≤ ([','].intercalate texts).length + 1 := by
  induction texts with
  | nil => simp
  | cons text texts ih =>
    cases texts with
    | nil => simp
    | cons text' texts =>
      rw [List.intercalate_cons_cons]
      simp only [List.length_append, List.length_cons, List.length_nil] at ih ⊢
      omega

/-- What stands between brackets is read as the items, unless the first item could be taken for the
end. -/
theorem readList_of_reads (closes : Closes close)
    (refuses : ∀ cs rest, skipSpace cs = close :: rest → item cs = none) {as : List α}
    {texts : List (List Char)} (h : List.Forall₂ (Reads item) as texts) {b : List Char}
    (hb : Blank b) (rest : List Char) :
    readList item close ([','].intercalate texts ++ b ++ close :: rest) = some (as, rest) := by
  cases h with
  | nil =>
    have empty : skipSpace (b ++ close :: rest) = close :: rest := by
      rw [skipSpace_append hb, skipSpace_cons closes.1]
    simp [readList, List.intercalate, empty]
  | @cons a text as texts read others =>
    generalize hcs : [','].intercalate (text :: texts) ++ b ++ close :: rest = cs
    have items : readItems item close cs.length cs = some (a :: as, rest) := by
      subst hcs
      refine readItems_of_reads closes (.cons read others) (by simp) hb rest ?_
      have := length_le_intercalate (text :: texts)
      rw [(List.Forall₂.cons read others).length_eq]
      simp only [List.length_append, List.length_cons] at this ⊢
      omega
    have taken : item cs ≠ none := fun refused => by
      cases hlength : cs.length <;> simp [hlength, readItems, refused] at items
    have inside : close ∈ cs := by simp [← hcs]
    unfold readList
    cases hskip : skipSpace cs with
    | nil => exact absurd (List.dropWhile_eq_nil_iff.1 hskip close inside) (by simp [closes.1])
    | cons c cs' =>
      dsimp only
      rw [if_neg, items]
      rintro rfl
      exact taken (refuses cs cs' hskip)

end Lists

/-! ## Values -/

section Values

variable {depth : Nat}

/-- White space in front of a value is passed over. -/
theorem Reads.blank {j : Json} {cs b : List Char} (h : Reads (readValue depth) j cs)
    (hb : Blank b) : Reads (readValue depth) j (b ++ cs) := by
  intro rest ends
  have same : readValue depth (b ++ (cs ++ rest)) = readValue depth (cs ++ rest) := by
    cases depth with
    | zero => rfl
    | succ depth => rw [readValue, readValue, skipSpace_append hb]
  rw [List.append_assoc, same, h rest ends]

theorem reads_null : Reads (readValue (depth + 1)) .null "null".toList := fun _ _ => rfl

theorem reads_bool (b : Bool) :
    Reads (readValue (depth + 1)) (.bool b) (compactText (.bool b)) := by
  intro rest _
  cases b <;> rw [compactText] <;> rfl

theorem readValue_quote (cs : List Char) :
    readValue (depth + 1) ('"' :: cs) =
      (readString (cs.length + 1) cs).bind fun (text, rest) =>
        some (.string (String.ofList text), rest) := rfl

theorem readValue_bracket (cs : List Char) :
    readValue (depth + 2) ('[' :: cs) =
      (readList (readValue (depth + 1)) ']' cs).bind fun (items, rest) =>
        some (.array items, rest) := rfl

theorem readValue_brace (cs : List Char) :
    readValue (depth + 2) ('\x7b' :: cs) =
      (readList (readMember (readValue (depth + 1))) '\x7d' cs).bind fun (members, rest) =>
        some (.object members, rest) := rfl

theorem reads_string (s : String) : Reads (readValue (depth + 1)) (.string s) (quote s) := by
  intro rest _
  have text : quote s ++ rest = '"' :: (s.toList.flatMap escapeChar ++ '"' :: rest) := by
    simp [quote]
  rw [text, readValue_quote, readString_quoted]
  simp

/-- What begins like a number is read as a number. -/
theorem readValue_number {c : Char} (h : c = '-' ∨ isDigit c = true) (cs : List Char) :
    readValue (depth + 1) (c :: cs) =
      (readNumber (c :: cs)).map fun (n, rest) => (.number n, rest) := by
  rcases h with rfl | digit
  · rfl
  · have no_space : isSpace c = false := by
      cases space : isSpace c with
      | false => rfl
      | true =>
        simp only [isSpace, Bool.or_eq_true, beq_iff_eq] at space
        rcases space with ((rfl | rfl) | rfl) | rfl <;> simp [isDigit] at digit
    rw [readValue, skipSpace_cons no_space]
    split
    case h_7 => rfl
    all_goals
      rename_i heq
      obtain ⟨rfl, -⟩ := List.cons.inj heq
      exact absurd digit (by decide)

theorem reads_integer {n : Int} (h : IsWord64 n) :
    Reads (readValue (depth + 1)) (.number (.integer n)) (numberText (.integer n)) := by
  intro rest ends
  obtain ⟨c, cs, text, first⟩ := exists_numberText_eq_cons n
  have read := readNumber_integer h rest ends
  rw [text, List.cons_append] at read ⊢
  rw [readValue_number first, read]
  rfl

/-- An array is read as its items. -/
theorem reads_array {items : List Json} {texts : List (List Char)}
    (h : List.Forall₂ (Reads (readValue (depth + 1))) items texts) {b : List Char} (hb : Blank b) :
    Reads (readValue (depth + 2)) (.array items)
      ('[' :: [','].intercalate texts ++ b ++ [']']) := by
  intro rest _
  have refuses : ∀ cs rest, skipSpace cs = ']' :: rest → readValue (depth + 1) cs = none := by
    intro cs rest hcs
    rw [readValue, hcs]
    rfl
  have read := readList_of_reads (by decide) refuses h hb rest
  have text : '[' :: [','].intercalate texts ++ b ++ [']'] ++ rest =
      '[' :: ([','].intercalate texts ++ b ++ ']' :: rest) := by
    simp
  rw [text, readValue_bracket, read]
  rfl

/-- A member of an object is read as its name and its value. -/
theorem reads_member (name : String) {j : Json} {cs b b' : List Char}
    (h : Reads (readValue depth) j cs) (hb : Blank b) (hb' : Blank b') :
    Reads (readMember (readValue depth)) (name, j) (b ++ quote name ++ b' ++ ':' :: cs) := by
  intro rest ends
  have text : b ++ quote name ++ b' ++ ':' :: cs ++ rest =
      b ++ '"' :: (name.toList.flatMap escapeChar ++ '"' :: (b' ++ ':' :: (cs ++ rest))) := by
    simp [quote]
  have colon : skipSpace (b' ++ ':' :: (cs ++ rest)) = ':' :: (cs ++ rest) := by
    rw [skipSpace_append hb', skipSpace_cons rfl]
  have read := readString_quoted name (b' ++ ':' :: (cs ++ rest))
  rw [text, readMember, skipSpace_append hb, skipSpace_cons rfl]
  generalize name.toList.flatMap escapeChar ++ '"' :: (b' ++ ':' :: (cs ++ rest)) = tail at read ⊢
  simp [read, colon, h rest ends]

/-- An object is read as its members. -/
theorem reads_object {members : List (String × Json)} {texts : List (List Char)}
    (h : List.Forall₂ (Reads (readMember (readValue (depth + 1)))) members texts) {b : List Char}
    (hb : Blank b) :
    Reads (readValue (depth + 2)) (.object members)
      ('\x7b' :: [','].intercalate texts ++ b ++ ['\x7d']) := by
  intro rest _
  have refuses : ∀ cs rest, skipSpace cs = '\x7d' :: rest →
      readMember (readValue (depth + 1)) cs = none := by
    intro cs rest hcs
    rw [readMember, hcs]
    rfl
  have read := readList_of_reads (by decide) refuses h hb rest
  have text : '\x7b' :: [','].intercalate texts ++ b ++ ['\x7d'] ++ rest =
      '\x7b' :: ([','].intercalate texts ++ b ++ '\x7d' :: rest) := by
    simp
  rw [text, readValue_brace, read]
  rfl

end Values

/-! ## Printed values -/

/-- The value can be written and read: it is nested less than `depth` deep, and its numbers are
integers of at most 64 bits. -/
inductive Fits : Nat → Json → Prop where
  | null {depth : Nat} : Fits (depth + 1) .null
  | bool {depth : Nat} (b : Bool) : Fits (depth + 1) (.bool b)
  | integer {depth : Nat} {n : Int} (h : IsWord64 n) : Fits (depth + 1) (.number (.integer n))
  | string {depth : Nat} (s : String) : Fits (depth + 1) (.string s)
  | array {depth : Nat} {items : List Json} (h : ∀ j ∈ items, Fits (depth + 1) j) :
    Fits (depth + 2) (.array items)
  | object {depth : Nat} {members : List (String × Json)}
    (h : ∀ m ∈ members, Fits (depth + 1) m.2) : Fits (depth + 2) (.object members)

/-- A member without any space. -/
def compactMember (m : String × Json) : List Char := quote m.1 ++ ':' :: compactText m.2

/-- A member on a line of its own. -/
def prettyMember (level : Nat) (m : String × Json) : List Char :=
  lineBreak level ++ quote m.1 ++ ':' :: ' ' :: prettyText level m.2

theorem compactItems_eq (items : List Json) :
    compactItems items = [','].intercalate (items.map compactText) := by
  induction items with
  | nil => simp [compactItems, List.intercalate]
  | cons j items ih =>
    cases items with
    | nil => simp [compactItems]
    | cons j' items => simp [compactItems, ih, List.intercalate_cons_cons]

theorem compactMembers_eq (members : List (String × Json)) :
    compactMembers members = [','].intercalate (members.map compactMember) := by
  induction members with
  | nil => simp [compactMembers, List.intercalate]
  | cons m members ih =>
    cases members with
    | nil => simp [compactMembers, compactMember]
    | cons m' members => simp [compactMembers, ih, List.intercalate_cons_cons, compactMember]

theorem prettyItems_eq (level : Nat) (items : List Json) :
    prettyItems level items =
      [','].intercalate (items.map fun j => lineBreak level ++ prettyText level j) := by
  induction items with
  | nil => simp [prettyItems, List.intercalate]
  | cons j items ih =>
    cases items with
    | nil => simp [prettyItems]
    | cons j' items => simp [prettyItems, ih, List.intercalate_cons_cons]

theorem prettyMembers_eq (level : Nat) (members : List (String × Json)) :
    prettyMembers level members = [','].intercalate (members.map (prettyMember level)) := by
  induction members with
  | nil => simp [prettyMembers, List.intercalate]
  | cons m members ih =>
    cases members with
    | nil => simp [prettyMembers, prettyMember]
    | cons m' members => simp [prettyMembers, ih, List.intercalate_cons_cons, prettyMember]

theorem blank_lineBreak (level : Nat) : Blank (lineBreak level) := by
  intro c hc
  rcases List.mem_cons.1 hc with rfl | hc
  · rfl
  · obtain rfl := List.eq_of_mem_replicate hc
    rfl

namespace Fits

variable {depth : Nat} {j : Json}

theorem reads_compact (h : Fits depth j) : Reads (readValue depth) j (compactText j) := by
  induction h with
  | null => exact reads_null
  | bool b => exact reads_bool b
  | integer h => exact reads_integer h
  | string s => exact reads_string s
  | @array depth items _ ih =>
    have read := reads_array (List.forall₂_map_right_iff.2 (List.forall₂_same.2 ih)) blank_nil
    rwa [← compactItems_eq, List.append_nil] at read
  | @object depth members _ ih =>
    have member (m : String × Json) (hm : m ∈ members) :
        Reads (readMember (readValue (depth + 1))) m (compactMember m) := by
      have read := reads_member m.1 (ih m hm) blank_nil blank_nil
      rwa [List.nil_append, List.append_nil] at read
    have read := reads_object (List.forall₂_map_right_iff.2 (List.forall₂_same.2 member)) blank_nil
    rwa [← compactMembers_eq, List.append_nil] at read

theorem reads_pretty (h : Fits depth j) (level : Nat) :
    Reads (readValue depth) j (prettyText level j) := by
  induction h generalizing level with
  | null => exact reads_null
  | bool b => cases b <;> exact reads_bool _
  | integer h => exact reads_integer h
  | string s => exact reads_string s
  | @array depth items _ ih =>
    cases items with
    | nil => exact reads_array .nil blank_nil
    | cons j items =>
      have item (k : Json) (hk : k ∈ j :: items) :=
        (ih k hk (level + 1)).blank (blank_lineBreak (level + 1))
      have read := reads_array (List.forall₂_map_right_iff.2 (List.forall₂_same.2 item))
        (blank_lineBreak level)
      rwa [← prettyItems_eq] at read
  | @object depth members _ ih =>
    cases members with
    | nil => exact reads_object .nil blank_nil
    | cons m members =>
      have member (k : String × Json) (hk : k ∈ m :: members) :
          Reads (readMember (readValue (depth + 1))) k (prettyMember (level + 1) k) := by
        have read := reads_member k.1 ((ih k hk (level + 1)).blank (b := [' ']) (by decide))
          (blank_lineBreak (level + 1)) blank_nil
        rwa [List.append_nil] at read
      have read := reads_object (List.forall₂_map_right_iff.2 (List.forall₂_same.2 member))
        (blank_lineBreak level)
      rwa [← prettyMembers_eq] at read

theorem read?_of_reads {cs : List Char} (h : Reads (readValue depthLimit) j cs) :
    read? (String.ofList cs) = some j := by
  have read := h [] endsNumber_nil
  rw [List.append_nil] at read
  rw [read?, String.toList_ofList, read]
  rfl

theorem read?_compact (h : Fits depthLimit j) : read? j.compact = some j :=
  read?_of_reads h.reads_compact

theorem read?_pretty (h : Fits depthLimit j) : read? j.pretty = some j :=
  read?_of_reads (h.reads_pretty 0)

end Fits

/-! ## Control characters -/

/-- The text has no control character, and so no line break. -/
def Plain (cs : List Char) : Prop := ∀ c ∈ cs, 0x20 ≤ c.toNat

instance (cs : List Char) : Decidable (Plain cs) :=
  List.decidableBAll (fun c => 0x20 ≤ Char.toNat c) cs

theorem plain_append {cs cs' : List Char} : Plain (cs ++ cs') ↔ Plain cs ∧ Plain cs' :=
  List.forall_mem_append

theorem plain_cons {c : Char} {cs : List Char} : Plain (c :: cs) ↔ 0x20 ≤ c.toNat ∧ Plain cs :=
  List.forall_mem_cons

theorem plain_intercalate {texts : List (List Char)} (h : ∀ text ∈ texts, Plain text) :
    Plain ([','].intercalate texts) := by
  induction texts with
  | nil => simp [Plain, List.intercalate]
  | cons text texts ih =>
    rw [List.forall_mem_cons] at h
    cases texts with
    | nil => simpa using h.1
    | cons text' texts =>
      rw [List.intercalate_cons_cons]
      exact plain_append.2 ⟨plain_append.2 ⟨h.1, by decide⟩, ih h.2⟩

theorem plain_escapeChar (c : Char) : Plain (escapeChar c) := by
  have hex : ∀ n < 16, 0x20 ≤ (hexDigit n).toNat := by decide
  obtain ⟨e, written, -, -, visible⟩ | ⟨control, written⟩ | ⟨written, -, -, visible⟩ :=
    escapeChar_cases c
  · rw [written]
    simpa [Plain] using visible
  · have upper := hex (c.toNat / 16) (by omega)
    have lower := hex (c.toNat % 16) (by omega)
    rw [written]
    simpa [Plain] using ⟨upper, lower⟩
  · rw [written]
    simpa [Plain] using visible

theorem plain_quote (s : String) : Plain (quote s) := by
  have inner : Plain (s.toList.flatMap escapeChar) := by
    intro d hd
    obtain ⟨c, -, hd⟩ := List.mem_flatMap.1 hd
    exact plain_escapeChar c d hd
  exact plain_append.2 ⟨plain_cons.2 ⟨by decide, inner⟩, by decide⟩

theorem plain_numberText (n : Int) : Plain (numberText (.integer n)) := by
  have digits (n : Nat) : Plain (Nat.toDigits 10 n) := fun c hc => by
    have digit := isDigit_of_mem_toDigits hc
    simp only [isDigit, Bool.and_eq_true, decide_eq_true_eq] at digit
    exact Nat.le_trans (by decide) (Char.le_def.1 digit.1)
  cases n with
  | ofNat n => exact numberText_natCast n ▸ digits n
  | negSucc n => exact numberText_neg n ▸ plain_cons.2 ⟨by decide, digits (n + 1)⟩

/-- Without spaces, a value is written on one line. -/
theorem Fits.plain_compactText {depth : Nat} {j : Json} (h : Fits depth j) :
    Plain (compactText j) := by
  induction h with
  | null => decide
  | bool b => cases b <;> decide
  | integer h => exact plain_numberText _
  | string s => exact plain_quote s
  | @array depth items _ ih =>
    have inner := plain_intercalate (List.forall_mem_map.2 ih)
    rw [← compactItems_eq] at inner
    exact plain_append.2 ⟨plain_cons.2 ⟨by decide, inner⟩, by decide⟩
  | @object depth members _ ih =>
    have inner := plain_intercalate (List.forall_mem_map.2 fun m hm =>
      show Plain (compactMember m) from plain_append.2 ⟨plain_quote m.1,
        plain_cons.2 ⟨by decide, ih m hm⟩⟩)
    rw [← compactMembers_eq] at inner
    exact plain_append.2 ⟨plain_cons.2 ⟨by decide, inner⟩, by decide⟩

end XmlSchema.Json
