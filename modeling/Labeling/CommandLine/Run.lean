import Labeling.Annotating.Regions
import Labeling.CommandLine.Command
import Labeling.Files.Directory
import Labeling.Json.Printer
import Labeling.Logging
import Labeling.Store

/-!
# Running a command

What a command prints, which file it writes and how it ends. A command reads its files through a
`FileReader` and never writes one itself: the text to be written is part of its outcome, and
`Outcome.finished` accounts for how the writing went.
-/
namespace Labeling.CommandLine

/-- How a command ends. -/
structure Outcome where
  /-- The exit code. -/
  code : Nat := 0
  /-- The text for standard output. -/
  stdout : String := ""
  /-- The messages for standard error, each on a line. -/
  messages : List String := []
  /-- The path and the text of the file to be written. -/
  file : Option (String × String) := none
deriving DecidableEq, Repr

namespace Outcome

/-- The outcome of a command that fails after printing. -/
def failed (failure : Failure) (stdout : String) (messages : List String) : Outcome where
  code := 1
  stdout := stdout
  messages := messages ++ ["Error: " ++ failure.message]

/-- The outcome of a command, or that of a failure before anything was printed. -/
def ofExcept : Except Failure Outcome → Outcome
  | .ok outcome => outcome
  | .error failure => failed failure "" []

/-- The outcome after its file was written or could not be. -/
def finished (outcome : Outcome) (written : Except FileFault Unit) : Outcome :=
  match written with
  | .ok _ => { outcome with file := none }
  | .error fault => failed (.unreadable fault.reason) outcome.stdout outcome.messages

end Outcome

/-- The name of the program. -/
def programName : String := "labelcraft"

/-- The version of the program. -/
def programVersion : String := "0.1.0"

/-- The text of a file. -/
def readText (files : FileReader) (path : String) : Except Failure String :=
  match files path with
  | .ok text => .ok text
  | .error fault => .error (.unreadable fault.reason)

/-- The task data of a file, if one is given. -/
def readTask (files : FileReader) : Option String → Except Failure (Option Json)
  | none => .ok none
  | some path => do
    match Json.read? (← readText files path) with
    | some task => return some task
    | none => throw (.malformedTask path)

/-- The payload of a file. A file that opens but has no readable content is as good as one that is
no JSON. -/
def readPayload (files : FileReader) (path : String) : Except Failure Json :=
  match files path with
  | .ok text =>
    match Json.read? text with
    | some payload => .ok payload
    | none => .error (.malformedResults path)
  | .error fault =>
    if fault.isOfContent then .error (.malformedResults path)
    else .error (.unreadable fault.reason)

/-- The settings of a file, or else the default ones. -/
def readSettings (files : FileReader) : Option String → Except Failure Settings
  | none => .ok {}
  | some path => do Settings.ofFile path (← readText files path)

/-- The store of a configuration file and a task file. -/
def openStore (files : FileReader) (config : String) (task : Option String)
    (settings : Settings) : Except Failure Store := do
  let text ← readText files config
  let task ← readTask files task
  let context : ExpansionContext := ⟨Catalogue.standard, task, settings.repeaterIndexFlag⟩
  match Store.open? context text settings with
  | some store => return store
  | none => throw .malformedConfig

/-- The annotation of an id. -/
def annotationOf (store : Store) (id : String) : Except Failure AnnotationState :=
  match store.get? id with
  | some state => .ok state
  | none => .error (.unknownAnnotationId id)

/-- Lines, each ended. -/
def lines (texts : List String) : String := String.join (texts.map (· ++ "\n"))

/-- A report in a format. -/
def reportText (report : Report) : ReportFormat → String
  | .text => report.text
  | .json =>
    let record := Json.record [("error_count", .integer report.errorCount),
      ("warning_count", .integer report.warningCount),
      ("issues", .array (report.map Issue.toJson))]
    record.pretty ++ "\n"

/-- Check a configuration. Errors fail, and warnings do so under strict rules. -/
def checkConfig (files : FileReader) (config : String) (task : Option String) (isStrict : Bool)
    (format : ReportFormat) : Except Failure Outcome := do
  let store ← openStore files config task {}
  let report := store.tree.report
  let printed := reportText report format
  if 0 < report.errorCount || (isStrict && 0 < report.warningCount) then
    return .failed (.invalidConfig report) printed []
  else return { stdout := printed }

/-- The items of an annotation as text, over several lines. -/
def itemsText (items : List WireItem) : String :=
  (Json.array (items.map fun item => .object item.fields)).pretty

/-- Load results and print them, or have them written to a file. A load that fails prints the
issues and nothing else. -/
def normalizeResults (files : FileReader) (results config : String)
    (task settings output : Option String) : Except Failure Outcome := do
  let settings ← readSettings files settings
  let store ← openStore files config task settings
  let payload ← readPayload files results
  let (store, id) := store.create
  let (state, isLoaded) := (← annotationOf store id).load payload {}
  if isLoaded then
    let text := itemsText state.items
    match output with
    | some path => return { file := some (path, text) }
    | none => return { stdout := text ++ "\n" }
  else return .failed (.unloadable results) "" (state.issues.map Issue.line)

/-- The area in one line. -/
def areaLine (tree : ElementTree) (area : Area) : String :=
  let labels := (area.selectedLabels tree).map (·.2)
  area.id.raw ++ " [" ++ area.object ++ "] " ++ area.shape.geometry.name
    ++ (if labels.isEmpty then "" else " " ++ Text.joined ", " labels)

mutual

/-- A region and the regions inside it, those two blanks further in. -/
def regionLines (line : Area → String) (depth : Nat) : Region → List String
  | .mk area children =>
    (String.ofList (List.replicate (2 * depth) ' ') ++ line area)
      :: forestLines line (depth + 1) children

/-- Regions in order. -/
def forestLines (line : Area → String) (depth : Nat) : List Region → List String
  | [] => []
  | region :: regions => regionLines line depth region ++ forestLines line depth regions

end

/-- The lines of a group of regions. -/
def groupLines (line : Area → String) (group : LabelGroup) : List String :=
  group.label.getD "(no label)" :: group.regions.map fun area => "  " ++ line area

/-- Print the regions of results. Results that cannot be loaded only print their issues. -/
def listRegions (files : FileReader) (results config : String) (task : Option String)
    (grouping : Grouping) : Except Failure Outcome := do
  let store ← openStore files config task {}
  let payload ← readPayload files results
  let (store, id) := store.add .manual payload none
  let state ← annotationOf store id
  let line := areaLine state.tree
  let printed := match grouping with
    | .parent => forestLines line 0 state.regions.forest
    | .labels => state.regions.labelGroups.flatMap (groupLines line)
  return { stdout := lines printed, messages := state.issues.map Issue.line }

/-- Carry out a command. -/
def Command.outcome (files : FileReader) (command : Command) : Outcome :=
  .ofExcept <| match command with
    | .validate config task isStrict format => checkConfig files config task isStrict format
    | .normalize results config task settings output =>
      normalizeResults files results config task settings output
    | .regions results config task grouping => listRegions files results config task grouping

/-- The files that a command reads. -/
def Command.inputs : Command → List String
  | .validate config task _ _ => config :: task.toList
  | .normalize results config task settings _ =>
    [results, config] ++ task.toList ++ settings.toList
  | .regions results config task _ => [results, config] ++ task.toList

/-- The introduction of the program. -/
def introductionText : String :=
  lines [programName ++ " " ++ programVersion, "",
    "Labeling configuration compiler and annotation model.", "",
    "Run '" ++ programName ++ " --help' for usage information."]

/-- How a command is called. -/
def usageText : String → String
  | "validate" => "validate CONFIG [--task FILE] [--strict] [--output text|json]"
  | "normalize" =>
    "normalize RESULTS --config FILE [--task FILE] [--settings FILE] [--output FILE]"
  | "regions" => "regions RESULTS --config FILE [--task FILE] [--group parent|labels]"
  | _ => "COMMAND"

/-- The help of a command, or of the program with all commands. -/
def helpText : Option String → String
  | some command => lines ["Usage: " ++ programName ++ " " ++ usageText command]
  | none =>
    lines (("Usage: " ++ programName ++ " [-v] COMMAND")
      :: grammars.map fun entry => "  " ++ usageText entry.1)

/-- The version as a command tells it. -/
def versionText : Option String → String
  | some command => lines [programName ++ "-" ++ command ++ " " ++ programVersion]
  | none => lines [programName ++ " " ++ programVersion]

/-- The outcome of what is asked for. -/
def Request.outcome (files : FileReader) : Request → Outcome
  | .run command => command.outcome files
  | .introduction => { stdout := introductionText }
  | .help command => { stdout := helpText command }
  | .version command => { stdout := versionText command }
  | .usage => { code := 2, messages := ["error: these arguments make no sense", helpText none] }

/-- Run the program on arguments in a directory; tells the directory afterwards. -/
def runIn (directory : Directory) (arguments : List String) : Outcome × Directory :=
  let outcome := (read arguments).outcome directory.read
  match outcome.file with
  | none => (outcome, directory)
  | some (path, text) =>
    match directory.write path text with
    | .ok after => (outcome.finished (.ok ()), after)
    | .error fault => (outcome.finished (.error fault), directory)

end Labeling.CommandLine
