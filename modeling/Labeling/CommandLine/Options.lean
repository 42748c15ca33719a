/-!
# Options of a command

How the arguments of a command are read: options by long name or by letter, letters in one
argument, values behind an equals sign, directly behind a letter or in the next argument, and one
operand. Behind a lone `--` every argument is an operand. Arguments are read from left to right,
and the first one that is wrong, or that asks for help or the version, ends the reading.
-/
namespace Labeling.CommandLine

/-- What an option takes and means. -/
inductive OptionKind where
  /-- A mark that may be repeated. -/
  | repeated
  /-- A mark that stands once at most. -/
  | mark
  /-- A path, once at most. -/
  | path
  /-- One of some words, once at most. -/
  | choice (words : List String)
  /-- The wish for help. -/
  | help
  /-- The wish for the version. -/
  | version
deriving DecidableEq, Repr

/-- Whether a value follows. -/
def OptionKind.takesValue : OptionKind → Bool
  | .path => true
  | .choice _ => true
  | _ => false

/-- An option that a command knows. -/
structure OptionRule where
  /-- The name behind two hyphens. -/
  name : String
  /-- The letter behind one hyphen. -/
  letter : Option Char := none
  /-- What it takes and means. -/
  kind : OptionKind
deriving DecidableEq, Repr

/-- The options and operands that a command knows. -/
structure Grammar where
  /-- The options. -/
  rules : List OptionRule
  /-- Whether it takes an operand, which is a path. -/
  takesOperand : Bool
deriving DecidableEq, Repr

/-- Why reading ends before a command is known. -/
inductive Stop where
  /-- The arguments are wrong. -/
  | usage
  /-- Help is wanted. -/
  | help
  /-- The version is wanted. -/
  | version
deriving DecidableEq, Repr

/-- What has been read. -/
structure Reading where
  /-- The options with their values, in order; a mark has an empty value. -/
  found : List (String × String) := []
  /-- The operand. -/
  operand : Option String := none
  /-- The option whose value is the next argument. -/
  pending : Option OptionRule := none
  /-- Whether only operands follow. -/
  isTrailing : Bool := false
deriving DecidableEq, Repr

namespace Reading

/-- The value of an option. -/
def value? (reading : Reading) (name : String) : Option String := reading.found.lookup name

/-- Whether an option was given. -/
def has (reading : Reading) (name : String) : Bool := (reading.value? name).isSome

/-- The reading with an option and its value. -/
def add (reading : Reading) (rule : OptionRule) (value : String) : Except Stop Reading :=
  let isAcceptable := match rule.kind with
    | .path => value != ""
    | .choice words => words.contains value
    | _ => true
  if rule.kind != .repeated && reading.has rule.name then .error .usage
  else if isAcceptable then
    .ok { reading with found := reading.found ++ [(rule.name, value)], pending := none }
  else .error .usage

/-- The reading with an option that takes no value. -/
def addMark (reading : Reading) (rule : OptionRule) : Except Stop Reading :=
  match rule.kind with
  | .help => .error .help
  | .version => .error .version
  | _ => reading.add rule ""

/-- The reading with an operand. -/
def addOperand (grammar : Grammar) (reading : Reading) (value : String) : Except Stop Reading :=
  if grammar.takesOperand && reading.operand.isNone && value != "" then
    .ok { reading with operand := some value }
  else .error .usage

/-- Read an option by its name, with the value that stands behind an equals sign, if any. -/
def readNamed (grammar : Grammar) (reading : Reading) (name : String) (value : Option String) :
    Except Stop Reading :=
  match grammar.rules.find? (·.name == name), value with
  | none, _ => .error .usage
  | some rule, some value => if rule.kind.takesValue then reading.add rule value else .error .usage
  | some rule, none =>
    if rule.kind.takesValue then .ok { reading with pending := some rule }
    else reading.addMark rule

/-- Read options by their letters; what stands behind a letter that takes a value is the value. -/
def readLetters (grammar : Grammar) : Reading → List Char → Except Stop Reading
  | reading, [] => .ok reading
  | reading, letter :: rest =>
    match grammar.rules.find? (·.letter == some letter) with
    | none => .error .usage
    | some rule =>
      if rule.kind.takesValue then
        match rest with
        | [] => .ok { reading with pending := some rule }
        | '=' :: value => reading.add rule (String.ofList value)
        | value => reading.add rule (String.ofList value)
      else do readLetters grammar (← reading.addMark rule) rest

/-- Read one argument. -/
def step (grammar : Grammar) (reading : Reading) (argument : String) : Except Stop Reading :=
  if reading.isTrailing then reading.addOperand grammar argument
  else
    match argument.toList, reading.pending with
    | ['-', '-'], none => .ok { reading with isTrailing := true }
    | '-' :: '-' :: letters, none =>
      let name := String.ofList (letters.takeWhile (· != '='))
      match letters.dropWhile (· != '=') with
      | [] => readNamed grammar reading name none
      | _ :: value => readNamed grammar reading name (some (String.ofList value))
    | '-' :: letter :: letters, none => readLetters grammar reading (letter :: letters)
    | '-' :: _ :: _, some _ => .error .usage
    | _, some rule => reading.add rule argument
    | _, none => reading.addOperand grammar argument

/-- Read arguments in order. -/
def readAll (grammar : Grammar) : Reading → List String → Except Stop Reading
  | reading, [] => if reading.pending.isSome then .error .usage else .ok reading
  | reading, argument :: rest => do readAll grammar (← reading.step grammar argument) rest

end Reading
end Labeling.CommandLine
