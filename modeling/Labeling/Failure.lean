import Labeling.Report
import Labeling.Wire

/-!
# Failures

Why an operation has no result. The wording of every failure is `Failure.message`.
-/
namespace Labeling

/-- What an element was expected to be. -/
inductive ExpectedElement where
  /-- An object. -/
  | object
  /-- A control. -/
  | control
  /-- A control that makes results. -/
  | resultControl
  /-- A control that is bound to the given object. -/
  | boundToObject
  /-- A control that is bound to the object of the given area. -/
  | boundToArea
deriving DecidableEq, Repr

/-- The expectation in words. -/
def ExpectedElement.description : ExpectedElement → String
  | .object => "an object"
  | .control => "a control"
  | .resultControl => "a result-producing control"
  | .boundToObject => "bound to that object"
  | .boundToArea => "bound to the area's object"

/-- Why an operation failed. -/
inductive Failure where
  /-- A file cannot be read or written. -/
  | unreadable (reason : String)
  /-- The configuration is no document. -/
  | malformedConfig
  /-- The task data is no JSON. -/
  | malformedTask (path : String)
  /-- The results are no JSON. -/
  | malformedResults (path : String)
  /-- The settings cannot be read. -/
  | malformedSettings (path : String)
  /-- A configuration has errors. -/
  | invalidConfig (report : Report)
  /-- A payload is not a list of items. -/
  | malformedPayload (fault : PayloadFault)
  /-- The results of a file cannot be loaded. -/
  | unloadable (path : String)
  /-- No element has the name. -/
  | unknownElement (name : String)
  /-- An element has another role. -/
  | wrongElement (name : String) (expected : ExpectedElement)
  /-- No area has the id. -/
  | unknownArea (id : String)
  /-- No annotation has the id. -/
  | unknownAnnotationId (id : String)
  /-- The file has an unknown extension. -/
  | unknownFormat (path : String)

namespace Failure

/-- What stands for the reasons that a reader of a format would give. -/
def detail : String := "<detail>"

/-- The failure in words. -/
def message : Failure → String
  | .unreadable reason => "IO error: " ++ reason
  | .malformedConfig => "Failed to parse labeling configuration: " ++ detail
  | .malformedTask path => "Failed to parse task data from " ++ path ++ ": " ++ detail
  | .malformedResults path => "Failed to parse results from " ++ path ++ ": " ++ detail
  | .malformedSettings path => "Failed to parse settings from " ++ path ++ ": " ++ detail
  | .invalidConfig report =>
    "Validation failed with " ++ Text.decimal report.errorCount ++ " error(s) and "
      ++ Text.decimal report.warningCount ++ " warning(s)"
  | .malformedPayload fault => "Invalid result payload: " ++ fault.message
  | .unloadable path => "Invalid result payload: could not load " ++ path
  | .unknownElement name => "Unknown element '" ++ name ++ "'"
  | .wrongElement name expected => "Element '" ++ name ++ "' is not " ++ expected.description
  | .unknownArea id => "Unknown area '" ++ id ++ "'"
  | .unknownAnnotationId id => "Unknown annotation '" ++ id ++ "'"
  | .unknownFormat path =>
    "Unsupported format: settings file '" ++ path ++ "' (supported: .json, .yaml, .yml)"

end Failure
end Labeling
