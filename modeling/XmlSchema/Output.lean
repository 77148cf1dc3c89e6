import XmlSchema.Report.Json

/-!
# Output of reports

Reports are written as JSON or as lines for a human reader (`OutputFormat`).  `Output.report` writes
the report on a single document, `Output.entry` the report on one of several: in JSON a single line
that names the document.
-/

namespace XmlSchema

/-- How reports are written. -/
inductive OutputFormat where
  /-- A line for each issue and a summary. -/
  | human
  | json
  deriving DecidableEq, Repr

namespace OutputFormat

/-- The names of the formats. -/
def names : List (String × OutputFormat) := [("human", .human), ("json", .json)]

/-- The name of a format. -/
def name : OutputFormat → String
  | .human => "human"
  | .json => "json"

/-- The format with a name. -/
def ofName? (name : String) : Option OutputFormat := (names.find? (·.1 == name)).map Prod.snd

end OutputFormat

/-- How much is written. -/
inductive Verbosity where
  /-- Issues only. -/
  | quiet
  | normal
  | verbose
  deriving DecidableEq, Repr

namespace Verbosity

/-- The verbosity that two switches ask for; `quiet` wins. -/
def ofFlags (verbose quiet : Bool) : Verbosity :=
  if quiet then .quiet else if verbose then .verbose else .normal

/-- The least severe log messages that are shown. -/
def logFilter : Verbosity → String
  | .quiet => "error"
  | .normal => "warn"
  | .verbose => "debug"

end Verbosity

/-- How the reports of a run are written. -/
structure Output where
  format : OutputFormat
  verbosity : Verbosity
  /-- Whether severities and the word `valid` are coloured. -/
  colors : Bool := false
  deriving DecidableEq, Repr

namespace Output

/-- A text in a colour of the terminal. -/
def colorize (o : Output) (text color : String) : String :=
  if o.colors then "\x1b[" ++ color ++ "m" ++ text ++ "\x1b[0m" else text

/-- The word for a severity. -/
def severity (o : Output) : Severity → String
  | .error => o.colorize "error" "31"
  | .warning => o.colorize "warning" "33"

/-- An issue of the document with the given name, without the line end. -/
def issue (o : Output) (name : String) (i : Issue) : String :=
  s!"{name}:{i.line.toNat}:{i.column.toNat}: {o.severity i.severity}: {i.message}"

/-- A number of things. -/
def counted (count : Nat) (noun : String) : String :=
  if count = 1 then s!"{count} {noun}" else s!"{count} {noun}s"

/-- What a report amounts to. -/
def summary (o : Output) (r : Report) : String :=
  if r.isClean then o.colorize "valid" "32"
  else counted r.errorCount "error" ++ ", " ++ counted r.warningCount "warning"

/-- A report for a human reader: a line for each issue, and the summary unless it is unwanted. -/
def human (o : Output) (name : String) (r : Report) : String :=
  let issues := String.join (r.issues.map fun i => o.issue name i ++ "\n")
  if o.verbosity = .quiet then issues else issues ++ name ++ ": " ++ o.summary r ++ "\n"

/-- The report on a single document. -/
def report (o : Output) (name : String) (r : Report) : String :=
  match o.format with
  | .json => r.toJson.pretty
  | .human => o.human name r

/-- The report on one of several documents. -/
def entry (o : Output) (path : Path) (r : Report) : String :=
  match o.format with
  | .json => (r.entryJson path).compact
  | .human => o.human path.text r

end Output

end XmlSchema
