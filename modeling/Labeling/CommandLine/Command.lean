import Labeling.CommandLine.Options

/-!
# Commands

What the command line asks for: one of three commands with its files, or none. A command is found
by its name among the arguments; what stands before it may only be marks that every command knows.
-/
namespace Labeling.CommandLine

/-- How a report is printed. -/
inductive ReportFormat where
  /-- For a reader. -/
  | text
  /-- As a record. -/
  | json
deriving DecidableEq, Repr

/-- How regions are grouped. -/
inductive Grouping where
  /-- Inside the region around. -/
  | parent
  /-- By label. -/
  | labels
deriving DecidableEq, Repr

/-- A command with its files. -/
inductive Command where
  /-- Check a configuration. -/
  | validate (config : String) (task : Option String) (isStrict : Bool) (format : ReportFormat)
  /-- Load results and print them in their canonical form. -/
  | normalize (results config : String) (task settings output : Option String)
  /-- Print the regions of results. -/
  | regions (results config : String) (task : Option String) (grouping : Grouping)
deriving DecidableEq, Repr

/-- What the command line asks for. -/
inductive Request where
  /-- Carry out a command. -/
  | run (command : Command)
  /-- Introduce the program. -/
  | introduction
  /-- Help, for a command or for all. -/
  | help (command : Option String)
  /-- The version, as a command tells it or the program. -/
  | version (command : Option String)
  /-- Nothing that can be understood. -/
  | usage
deriving DecidableEq, Repr

/-- The marks that every command knows. -/
def commonRules : List OptionRule :=
  [⟨"verbose", some 'v', .repeated⟩, ⟨"help", some 'h', .help⟩, ⟨"version", some 'V', .version⟩]

/-- The words for formats. -/
def formatWords : List (String × ReportFormat) := [("text", .text), ("json", .json)]

/-- The words for groupings. -/
def groupingWords : List (String × Grouping) := [("parent", .parent), ("labels", .labels)]

/-- The names of the commands with their options. -/
def grammars : List (String × Grammar) :=
  [("validate", ⟨commonRules ++ [⟨"task", none, .path⟩, ⟨"strict", none, .mark⟩,
      ⟨"output", none, .choice (formatWords.map (·.1))⟩], true⟩),
    ("normalize", ⟨commonRules ++ [⟨"config", none, .path⟩, ⟨"task", none, .path⟩,
      ⟨"settings", none, .path⟩, ⟨"output", some 'o', .path⟩], true⟩),
    ("regions", ⟨commonRules ++ [⟨"config", none, .path⟩, ⟨"task", none, .path⟩,
      ⟨"group", none, .choice (groupingWords.map (·.1))⟩], true⟩)]

/-- The marks before a command. -/
def topGrammar : Grammar := ⟨commonRules, false⟩

/-- The command of a name with what was read for it, if nothing is missing. -/
def commandOf? (name : String) (reading : Reading) : Option Command := do
  let operand ← reading.operand
  let task := reading.value? "task"
  match name with
  | "validate" =>
    let format := (reading.value? "output").bind fun word => formatWords.lookup word
    some (.validate operand task (reading.has "strict") (format.getD .text))
  | "normalize" =>
    let config ← reading.value? "config"
    some (.normalize operand config task (reading.value? "settings") (reading.value? "output"))
  | "regions" =>
    let config ← reading.value? "config"
    let grouping := (reading.value? "group").bind fun word => groupingWords.lookup word
    some (.regions operand config task (grouping.getD .parent))
  | _ => none

/-- What the arguments of a command ask for. -/
def readCommand (name : String) (grammar : Grammar) (arguments : List String) : Request :=
  match Reading.readAll grammar {} arguments with
  | .ok reading =>
    match commandOf? name reading with
    | some command => .run command
    | none => .usage
  | .error .usage => .usage
  | .error .help => .help (some name)
  | .error .version => .version (some name)

/-- What is asked for behind the word `help`. -/
def readHelp : List String → Request
  | [] => .help none
  | [name] =>
    if name = "help" then .help none
    else if (grammars.lookup name).isSome then .help (some name)
    else .usage
  | _ => .usage

/-- What arguments ask for, after what was read of them. -/
def readFrom (reading : Reading) : List String → Request
  | [] => .introduction
  | argument :: rest =>
    match if reading.isTrailing then none else grammars.lookup argument with
    | some grammar => readCommand argument grammar rest
    | none =>
      if argument = "help" && !reading.isTrailing then readHelp rest
      else
        match reading.step topGrammar argument with
        | .ok next => readFrom next rest
        | .error .usage => .usage
        | .error .help => .help none
        | .error .version => .version none

/-- What the arguments of the program ask for. -/
def read (arguments : List String) : Request := readFrom {} arguments

end Labeling.CommandLine
