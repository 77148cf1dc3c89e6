/-!
# Reports

The result of a validation: issues in the order in which they were found, each with a severity, a
message and a place in the document.  Lines and columns are counted from one.
-/

namespace XmlSchema

/-- How bad an issue is. -/
inductive Severity where
  | error
  | warning
  deriving DecidableEq, Repr

/-- Something that was found in a document. -/
structure Issue where
  severity : Severity
  message : String
  line : UInt32
  column : UInt32
  deriving DecidableEq, Repr

/-- The result of a validation. -/
structure Report where
  issues : List Issue := []
  recommendations : List String := []
  deriving DecidableEq, Repr

namespace Report

/-- The number of issues of a severity. -/
def count (r : Report) (severity : Severity) : Nat := r.issues.countP (·.severity = severity)

/-- The number of errors. -/
def errorCount (r : Report) : Nat := r.count .error

/-- The number of warnings. -/
def warningCount (r : Report) : Nat := r.count .warning

/-- Whether nothing was found. -/
def isClean (r : Report) : Bool := r.issues.isEmpty

end Report

end XmlSchema
