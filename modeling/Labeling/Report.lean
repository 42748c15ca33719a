import Labeling.Json
import Labeling.Text

/-!
# Reports

Checking a configuration and loading results never stop at a problem: each one becomes an issue
with a severity, a stable code, a place and a message, and a report is the list of them.
-/
namespace Labeling

/-- How bad an issue is. -/
inductive Severity where
  /-- Suspicious but harmless. -/
  | warning
  /-- The element or result cannot work as declared. -/
  | error
deriving DecidableEq, Repr

/-- The kind of an issue. -/
inductive IssueCode where
  /-- A required attribute is missing. -/
  | required
  /-- The tag is unknown. -/
  | unknownTag
  /-- A control names an object that does not exist. -/
  | tagNotFound
  /-- A control names an element that it does not work with. -/
  | tagUnsupported
  /-- An attribute value has the wrong type. -/
  | badType
  /-- Two elements share a name. -/
  | duplicateName
  /-- Anything else. -/
  | general
  /-- A repeater made no copies. -/
  | emptyRepeater
  /-- A control lists a value twice. -/
  | duplicateLabel
deriving DecidableEq, Repr

/-- Where an issue is. -/
inductive IssueContext where
  /-- The whole configuration. -/
  | config
  /-- One element. -/
  | element (tag name : String)
  /-- One attribute of an element. -/
  | field (tag name attributeName : String)
  /-- The results of an annotation. -/
  | resultsOf (id : String)
deriving DecidableEq, Repr

/-- One problem. -/
structure Issue where
  /-- How bad it is. -/
  severity : Severity
  /-- Its kind. -/
  code : IssueCode
  /-- Its description. -/
  message : String
  /-- Where it is. -/
  context : IssueContext
deriving DecidableEq, Repr

/-- The problems found, in order. -/
abbrev Report := List Issue

/-- The name of a severity. -/
def Severity.name : Severity → String
  | .warning => "warning"
  | .error => "error"

namespace IssueCode

/-- Every code, in the order of its declaration. -/
def all : List IssueCode :=
  [.required, .unknownTag, .tagNotFound, .tagUnsupported, .badType, .duplicateName, .general,
    .emptyRepeater, .duplicateLabel]

/-- The stable text of a code. -/
def name : IssueCode → String
  | .required => "ERR_REQUIRED"
  | .unknownTag => "ERR_UNKNOWN_TAG"
  | .tagNotFound => "ERR_TAG_NOT_FOUND"
  | .tagUnsupported => "ERR_TAG_UNSUPPORTED"
  | .badType => "ERR_BAD_TYPE"
  | .duplicateName => "ERR_DUPLICATE_NAME"
  | .general => "ERR_GENERAL"
  | .emptyRepeater => "WARN_EMPTY_REPEATER"
  | .duplicateLabel => "WARN_DUPLICATE_LABEL"

end IssueCode

/-- The place in words. -/
def IssueContext.description : IssueContext → String
  | .config => "config"
  | .element tag name => "<" ++ tag ++ "> '" ++ name ++ "'"
  | .field tag name attributeName =>
    "<" ++ tag ++ "> '" ++ name ++ "' attribute '" ++ attributeName ++ "'"
  | .resultsOf id => "annotation " ++ id

/-- The place as a record. -/
def IssueContext.toJson : IssueContext → Json
  | .config => .record [("scope", .string "config")]
  | .element tag name =>
    .record [("scope", .string "element"), ("tag", .string tag), ("name", .string name)]
  | .field tag name attributeName =>
    .record [("scope", .string "attribute"), ("tag", .string tag), ("name", .string name),
      ("attribute", .string attributeName)]
  | .resultsOf id => .record [("scope", .string "annotation"), ("id", .string id)]

namespace Issue

/-- An issue that keeps something from working. -/
def error (code : IssueCode) (message : String) (context : IssueContext) : Issue :=
  ⟨.error, code, message, context⟩

/-- An issue that does no harm. -/
def warning (code : IssueCode) (message : String) (context : IssueContext) : Issue :=
  ⟨.warning, code, message, context⟩

/-- The issue in one line. -/
def line (issue : Issue) : String :=
  let severity := match issue.severity with
    | .error => "ERROR"
    | .warning => "WARN "
  "[" ++ severity ++ "] " ++ issue.code.name ++ " in " ++ issue.context.description ++ ": "
    ++ issue.message

/-- The issue as a record. -/
def toJson (issue : Issue) : Json :=
  .record [("severity", .string issue.severity.name), ("code", .string issue.code.name),
    ("message", .string issue.message), ("context", issue.context.toJson)]

end Issue

namespace Report

/-- The number of errors. -/
def errorCount (report : Report) : Nat := report.countP (·.severity = .error)

/-- The number of warnings. -/
def warningCount (report : Report) : Nat := report.countP (·.severity = .warning)

/-- A report without errors. -/
def isOk (report : Report) : Bool := report.errorCount == 0

/-- The number of issues with a code. -/
def countOf (report : Report) (code : IssueCode) : Nat := report.countP (·.code = code)

/-- Whether some issue has the code. -/
def has (report : Report) (code : IssueCode) : Bool := report.any (·.code = code)

/-- The report for a reader, every line ended. -/
def text (report : Report) : String :=
  if report.isEmpty then "Validation passed: no issues found\n"
  else
    "Validation completed with " ++ Text.decimal report.errorCount ++ " error(s) and "
      ++ Text.decimal report.warningCount ++ " warning(s):\n\n"
      ++ String.join (report.map fun issue => "  " ++ issue.line ++ "\n")

end Report
end Labeling
