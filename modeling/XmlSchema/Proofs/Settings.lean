import XmlSchema.Settings

/-!
# Layers of settings

The settings of a run are put together from a file, the environment and the command line.  A
`Setting` is a field of the settings.  `Setting.onCommandLine?` and `Setting.inEnvironment?` say what
the two upper layers have to say about it.  The main statement (`Settings.forCommandLine_layers`) is
that each field has the value of the highest layer that says something about it, that the settings
make sense together (`Settings.Sensible`), and that the same layers change nothing when they are
applied once more.  It follows from an exact description of the runs that come to their settings
(`Settings.forCommandLine_eq_ok_iff`).
-/

namespace XmlSchema

open XmlSchema.Text

/-! ## Fields -/

/-- A field of the settings, with the type of its values. -/
inductive Setting : Type → Type where
  | reportWarnings : Setting Bool
  | baseDir : Setting (Option Path)
  | skipExtensions : Setting (List String)
  | format : Setting OutputFormat
  | verbose : Setting Bool
  | quiet : Setting Bool
  | diagnosticSource : Setting String
  | logLevel : Setting String
  | extensions : Setting (List String)
  | excludePatterns : Setting (List String)
  | threads : Setting (Option Nat)

namespace Setting

variable {α : Type}

/-- The value of a field. -/
def get : Setting α → Settings → α
  | .reportWarnings, s => s.validation.reportWarnings
  | .baseDir, s => s.validation.baseDir
  | .skipExtensions, s => s.validation.skipExtensions
  | .format, s => s.output.format
  | .verbose, s => s.output.verbose
  | .quiet, s => s.output.quiet
  | .diagnosticSource, s => s.server.diagnosticSource
  | .logLevel, s => s.server.logLevel
  | .extensions, s => s.files.extensions
  | .excludePatterns, s => s.files.excludePatterns
  | .threads, s => s.files.threads

/-- Settings are their fields. -/
theorem eq_of_get_eq {s t : Settings} (h : ∀ (α : Type) (k : Setting α), k.get s = k.get t) :
    s = t := by
  obtain ⟨⟨_, _, _⟩, ⟨_, _, _⟩, ⟨_, _⟩, ⟨_, _, _⟩⟩ := s
  obtain ⟨⟨_, _, _⟩, ⟨_, _, _⟩, ⟨_, _⟩, ⟨_, _, _⟩⟩ := t
  obtain rfl := h _ .reportWarnings
  obtain rfl := h _ .baseDir
  obtain rfl := h _ .skipExtensions
  obtain rfl := h _ .format
  obtain rfl := h _ .verbose
  obtain rfl := h _ .quiet
  obtain rfl := h _ .diagnosticSource
  obtain rfl := h _ .logLevel
  obtain rfl := h _ .extensions
  obtain rfl := h _ .excludePatterns
  obtain rfl := h _ .threads
  rfl

/-! ## What the layers say -/

/-- What the command line says about a field.  Warnings can only be switched off, either of the
switches for verbosity speaks about both fields, and a list of patterns counts if it is not empty. -/
def onCommandLine? : Setting α → CommandLine → Option α
  | .reportWarnings, c => if c.noWarnings then some false else none
  | .baseDir, c => c.baseDir.map some
  | .skipExtensions, _ => none
  | .format, c => c.format
  | .verbose, c => if c.quiet then some false else if c.verbose then some true else none
  | .quiet, c => if c.quiet then some true else if c.verbose then some false else none
  | .diagnosticSource, _ => none
  | .logLevel, _ => none
  | .extensions, c => c.extensionList?
  | .excludePatterns, c => if c.exclude = [] then none else some c.exclude
  | .threads, c => c.threads.map some

/-- The variable for a field, and how its value is read. -/
def reader? : Setting α → Option (String × (String → Option α))
  | .reportWarnings => some ("REPORT_WARNINGS", fun value => Settings.truth? (trimString value))
  | .baseDir => some ("BASE_DIR", fun value => some (some (.ofText value)))
  | .skipExtensions => some ("SKIP_EXTENSIONS", fun value => some (commaList value))
  | .format => some ("FORMAT", fun value => OutputFormat.ofName? (Unicode.lowercase value))
  | .verbose => some ("VERBOSE", fun value => Settings.truth? (trimString value))
  | .quiet => some ("QUIET", fun value => Settings.truth? (trimString value))
  | .diagnosticSource => some ("DIAGNOSTIC_SOURCE", some)
  | .logLevel => some ("LOG_LEVEL", some)
  | .extensions => some ("EXTENSIONS", fun value => some (commaList value))
  | .excludePatterns => none
  | .threads =>
    some ("THREADS", fun value => (Settings.threadCount? (trimString value)).map some)

/-- What the environment says about a field. -/
def inEnvironment? (k : Setting α) (env : Environment) : Option α :=
  k.reader?.bind fun (name, read) => (env (Settings.variableName name)).bind read

/-- If the variable for a field is set, its value can be read. -/
def Readable (k : Setting α) (env : Environment) : Prop :=
  ∀ name read, k.reader? = some (name, read) →
    ∀ value, env (Settings.variableName name) = some value → (read value).isSome = true

end Setting

namespace Settings

/-! ## Applying the layers -/

/-- Each field has the value that the layer says, and else the value it had. -/
def Layered (layer : (α : Type) → Setting α → Option α) (s t : Settings) : Prop :=
  ∀ (α : Type) (k : Setting α), k.get t = (layer α k).getD (k.get s)

theorem Layered.unique {layer : (α : Type) → Setting α → Option α} {s t t' : Settings}
    (h : Layered layer s t) (h' : Layered layer s t') : t = t' :=
  Setting.eq_of_get_eq fun α k => (h α k).trans (h' α k).symm

theorem Layered.trans {lower upper : (α : Type) → Setting α → Option α} {s t r : Settings}
    (h : Layered lower s t) (h' : Layered upper t r) :
    Layered (fun α k => (upper α k).or (lower α k)) s r := by
  intro α k
  dsimp only
  rw [h' α k, h α k]
  cases upper α k <;> rfl

/-- A layer that has been applied changes nothing when it is applied again. -/
theorem Layered.again {layer : (α : Type) → Setting α → Option α} {s t : Settings}
    (h : Layered layer s t) : Layered layer t t := by
  intro α k
  rw [h α k]
  cases layer α k <;> rfl

theorem or_eq_getD_map {α : Type} (x y : Option α) : x.or y = (x.map some).getD y := by
  cases x <;> rfl

theorem layered_applyCommandLine (c : CommandLine) (s : Settings) :
    Layered (fun _ k => k.onCommandLine? c) s (s.applyCommandLine c) := by
  intro α k
  cases k with
  | reportWarnings =>
    simp only [Setting.get, Setting.onCommandLine?, applyCommandLine]
    cases c.noWarnings <;> simp
  | verbose | quiet =>
    simp only [Setting.get, Setting.onCommandLine?, applyCommandLine]
    cases c.quiet <;> cases c.verbose <;> simp
  | excludePatterns =>
    simp only [Setting.get, Setting.onCommandLine?, applyCommandLine]
    cases c.exclude <;> simp
  | baseDir | threads =>
    simp only [Setting.get, Setting.onCommandLine?, applyCommandLine, or_eq_getD_map]
  | skipExtensions | format | diagnosticSource | logLevel | extensions => rfl

/-- The value of a variable, if it is set, as `read` reads it. -/
def lookup {α : Type} (env : Environment) (name : String) (read : String → Option α) :
    Except SettingsError (Option α) :=
  (env (variableName name)).elim (.ok none) fun value =>
    (read value).elim (.error (.environment (variableName name) value)) fun a => .ok (some a)

section

variable {α : Type} {env : Environment} {name : String}

theorem parsed_eq_lookup (parse : String → Option α) :
    parsed env name parse = lookup env name fun value => parse (trimString value) := by
  unfold parsed lookup
  cases env (variableName name) with
  | none => rfl
  | some value =>
    dsimp only [Option.elim_some]
    cases parse (trimString value) <;> rfl

theorem environmentFormat_eq_lookup :
    environmentFormat env =
      lookup env "FORMAT" fun value => OutputFormat.ofName? (Unicode.lowercase value) := by
  unfold environmentFormat lookup
  cases env (variableName "FORMAT") with
  | none => rfl
  | some value =>
    dsimp only [Option.elim_some]
    cases OutputFormat.ofName? (Unicode.lowercase value) <;> rfl

theorem lookup_eq_ok_iff {read : String → Option α} {x : Option α} :
    lookup env name read = .ok x ↔
      (∀ value, env (variableName name) = some value → (read value).isSome = true) ∧
        (env (variableName name)).bind read = x := by
  unfold lookup
  cases env (variableName name) with
  | none => simp
  | some value =>
    cases h : read value with
    | none => simp [h]
    | some a => simp [h]

theorem bind_eq_ok {ε β : Type} {x : Except ε α} {f : α → Except ε β} {b : β} :
    x >>= f = .ok b ↔ ∃ a, x = .ok a ∧ f a = .ok b := by
  cases x with
  | error e => simp [bind, Except.bind]
  | ok a => simp [bind, Except.bind]

end

/-- An environment that is applied can be read, and decides the fields that it says something
about. -/
theorem layered_of_applyEnvironment {env : Environment} {s t : Settings}
    (h : s.applyEnvironment env = .ok t) :
    (∀ (α : Type) (k : Setting α), k.Readable env) ∧
      Layered (fun _ k => k.inEnvironment? env) s t := by
  simp only [applyEnvironment, bind_eq_ok, parsed_eq_lookup, environmentFormat_eq_lookup,
    lookup_eq_ok_iff] at h
  obtain ⟨_, ⟨warnings, rfl⟩, _, ⟨verbose, rfl⟩, _, ⟨quiet, rfl⟩, _, ⟨format, rfl⟩, _,
    ⟨threads, rfl⟩, made⟩ := h
  cases made
  constructor
  · -- the fields without a fact of their own take any text
    intro α k name read hk value set
    cases k with
    | reportWarnings => cases hk; exact warnings value set
    | verbose => cases hk; exact verbose value set
    | quiet => cases hk; exact quiet value set
    | format => cases hk; exact format value set
    | threads => cases hk; simpa using threads value set
    | excludePatterns => cases hk
    | baseDir | skipExtensions | diagnosticSource | logLevel | extensions => cases hk; rfl
  · intro α k
    cases k with
    | reportWarnings | format | verbose | quiet | excludePatterns => rfl
    | diagnosticSource | logLevel =>
      simp only [Setting.get, Setting.inEnvironment?, Setting.reader?, Option.bind_some,
        Option.bind_fun_some]
    | skipExtensions | extensions =>
      simp only [Setting.get, Setting.inEnvironment?, Setting.reader?, Option.bind_some,
        Option.map_eq_bind, Function.comp_def]
    | baseDir | threads =>
      simp only [Setting.get, Setting.inEnvironment?, Setting.reader?, Option.bind_some,
        or_eq_getD_map, Option.map_eq_bind, Option.bind_assoc, Function.comp_def]

theorem exists_applyEnvironment {env : Environment}
    (readable : ∀ (α : Type) (k : Setting α), k.Readable env) (s : Settings) :
    ∃ t, s.applyEnvironment env = .ok t := by
  simp only [applyEnvironment, bind_eq_ok, parsed_eq_lookup, environmentFormat_eq_lookup,
    lookup_eq_ok_iff]
  have threads := readable _ .threads _ _ rfl
  simp only [Option.isSome_map] at threads
  exact ⟨_, _, ⟨readable _ .reportWarnings _ _ rfl, rfl⟩, _, ⟨readable _ .verbose _ _ rfl, rfl⟩, _,
    ⟨readable _ .quiet _ _ rfl, rfl⟩, _, ⟨readable _ .format _ _ rfl, rfl⟩, _, ⟨threads, rfl⟩, rfl⟩

/-- The environment can be applied exactly if all its values can be read. -/
theorem applyEnvironment_eq_ok_iff {env : Environment} {s t : Settings} :
    s.applyEnvironment env = .ok t ↔
      (∀ (α : Type) (k : Setting α), k.Readable env) ∧
        Layered (fun _ k => k.inEnvironment? env) s t := by
  refine ⟨layered_of_applyEnvironment, ?_⟩
  rintro ⟨readable, layered⟩
  obtain ⟨t', h⟩ := exists_applyEnvironment readable s
  rw [h, layered.unique (layered_of_applyEnvironment h).2]

/-! ## Checks -/

/-- The settings make sense together. -/
structure Sensible (s : Settings) : Prop where
  verbosity : ¬ (s.output.verbose = true ∧ s.output.quiet = true)
  threads : ∀ n ∈ s.files.threads, 1 ≤ n ∧ n ≤ 1000
  extensions : s.files.extensions ≠ []
  plain : ∀ extension ∈ s.files.extensions ++ s.validation.skipExtensions,
    '/' ∉ extension.toList ∧ '\\' ∉ extension.toList ∧ '.' ∉ extension.toList
  source : ∃ c ∈ s.server.diagnosticSource.toList, isBlank c = false

theorem isExtension_iff {extension : String} :
    isExtension extension = true ↔
      '/' ∉ extension.toList ∧ '\\' ∉ extension.toList ∧ '.' ∉ extension.toList := by
  unfold isExtension
  rw [List.all_eq_true]
  simp only [Bool.and_eq_true, bne_iff_ne]
  grind

theorem ite_some_eq_none_iff {α : Type} {p : Prop} [Decidable p] {a : α} {x : Option α} :
    (if p then some a else x) = none ↔ ¬ p ∧ x = none := by
  split <;> simp_all

theorem fault?_eq_none_iff {s : Settings} : s.fault? = none ↔ s.Sensible := by
  have threads : (¬ s.files.threads = some 0 ∧ ¬ s.files.threads.any (1000 < ·) = true) ↔
      ∀ n ∈ s.files.threads, 1 ≤ n ∧ n ≤ 1000 := by
    cases s.files.threads with
    | none => simp
    | some n => simp; omega
  have source : ¬ isBlankText s.server.diagnosticSource.toList = true ↔
      ∃ c ∈ s.server.diagnosticSource.toList, isBlank c = false := by
    simp [isBlankText]
  have verbosity : ¬ (s.output.verbose && s.output.quiet) = true ↔
      ¬ (s.output.verbose = true ∧ s.output.quiet = true) := by
    rw [Bool.and_eq_true]
  unfold fault?
  simp only [ite_some_eq_none_iff]
  cases bad : (s.files.extensions ++ s.validation.skipExtensions).find? (!isExtension ·) with
  | some extension =>
    simp only [reduceCtorEq, and_false, false_iff]
    intro sensible
    have refused := List.find?_some bad
    rw [isExtension_iff.2 (sensible.plain _ (List.mem_of_find?_eq_some bad))] at refused
    cases refused
  | none =>
    have plain : ∀ extension ∈ s.files.extensions ++ s.validation.skipExtensions,
        '/' ∉ extension.toList ∧ '\\' ∉ extension.toList ∧ '.' ∉ extension.toList := by
      intro extension member
      exact isExtension_iff.1 (by simpa using List.find?_eq_none.1 bad extension member)
    simp only [ite_some_eq_none_iff, and_true]
    rw [← and_assoc, threads, verbosity, source, List.isEmpty_iff]
    exact ⟨fun ⟨h, v, e, c⟩ => ⟨v, h, e, plain, c⟩,
      fun h => ⟨h.threads, h.verbosity, h.extensions, h.source⟩⟩

theorem check_eq_ok_iff {s : Settings} : s.check = .ok () ↔ s.Sensible := by
  rw [← fault?_eq_none_iff]
  unfold check
  cases s.fault? <;> simp

/-! ## Runs -/

/-- A run comes to settings exactly if the environment can be read and the settings of all layers
together make sense. -/
theorem forCommandLine_eq_ok_iff {env : Environment} {c : CommandLine} {s r : Settings} :
    s.forCommandLine env c = .ok r ↔
      (∀ (α : Type) (k : Setting α), k.Readable env) ∧
        Layered (fun _ k => (k.onCommandLine? c).or (k.inEnvironment? env)) s r ∧ r.Sensible := by
  simp only [forCommandLine, bind_eq_ok, applyEnvironment_eq_ok_iff]
  constructor
  · rintro ⟨t, ⟨readable, layered⟩, _, sensible, made⟩
    cases made
    exact ⟨readable, layered.trans (layered_applyCommandLine c t), check_eq_ok_iff.1 sensible⟩
  · rintro ⟨readable, layered, sensible⟩
    obtain ⟨t, ht⟩ := exists_applyEnvironment readable s
    have below := (layered_of_applyEnvironment ht).2
    obtain rfl := layered.unique (below.trans (layered_applyCommandLine c t))
    exact ⟨t, ⟨readable, below⟩, (), check_eq_ok_iff.2 sensible, rfl⟩

/-- If a run comes to settings, each field has the value of the highest layer that says something
about it: the command line, then the environment, then the file.  The settings make sense together,
and the same layers change nothing when they are applied to them once more. -/
theorem forCommandLine_layers {env : Environment} {c : CommandLine} {s r : Settings}
    (h : s.forCommandLine env c = .ok r) :
    (∀ (α : Type) (k : Setting α), k.Readable env ∧
      k.get r = ((k.onCommandLine? c).or (k.inEnvironment? env)).getD (k.get s)) ∧
    r.Sensible ∧ r.forCommandLine env c = .ok r := by
  obtain ⟨readable, layered, sensible⟩ := forCommandLine_eq_ok_iff.1 h
  exact ⟨fun α k => ⟨readable α k, layered α k⟩, sensible,
    forCommandLine_eq_ok_iff.2 ⟨readable, layered.again, sensible⟩⟩

/-- The file and the environment ask for more output, the command line for less; the number of
threads comes from the command line, the extensions come from the environment and the directory
from the file. -/
theorem forCommandLine_layers_quiet :
    let env : Environment := fun name =>
      if name = "XSD_VALIDATE_VERBOSE" then some " true "
      else if name = "XSD_VALIDATE_THREADS" then some "+8"
      else if name = "XSD_VALIDATE_EXTENSIONS" then some "xml, cmdi ,"
      else none
    let c : CommandLine := { quiet := true, threads := some 2 }
    let s : Settings :=
      { validation := { baseDir := some (.ofText "d") }, output := { verbose := true } }
    let r : Settings :=
      { validation := { baseDir := some (.ofText "d") }
        output := { quiet := true }
        files := { extensions := ["xml", "cmdi"], threads := some 2 } }
    s.forCommandLine env c = .ok r ∧
      (∀ (α : Type) (k : Setting α), k.get r =
        ((k.onCommandLine? c).or (k.inEnvironment? env)).getD (k.get s)) ∧
      r.Sensible ∧ r.forCommandLine env c = .ok r := by
  intro env c s r
  have made : s.forCommandLine env c = .ok r := by
    subst env c s r
    rfl
  obtain ⟨fields, sensible, again⟩ := forCommandLine_layers made
  exact ⟨made, fun α k => (fields α k).2, sensible, again⟩

end Settings

end XmlSchema
