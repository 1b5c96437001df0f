import CosmosClient.Text.Basic

/-!
# Options and operands

Arguments are read from the left. An option takes the argument behind it, or the text behind an equals
sign. The value of an option is checked when the next option or the end is reached, so of two faults
the one that is found first counts.
-/

namespace CosmosClient.CommandLine

/-- What is wrong with arguments. -/
inductive UsageError where
  /-- A value is not accepted. -/
  | badValue
  /-- An option lacks its value. -/
  | missingValue
  | unknownArgument
  /-- An option is given twice. -/
  | repeated
  /-- A switch is given a value. -/
  | needlessValue
  | missingArgument
  | unknownCommand
  /-- Help is asked for, on a command or on the program. -/
  | help (command : Option String)
  deriving DecidableEq, Repr

/-- What an option takes. -/
inductive OptionKind where
  | switch
  | value
  /-- Several values with commas between them, in one option or in several. -/
  | list
  deriving DecidableEq, Repr

/-- An option. -/
structure OptionSpec where
  name : String
  /-- What it is for. -/
  about : String := ""
  /-- The letter that stands for the name. -/
  letter : Option Char := none
  kind : OptionKind := .value
  /-- The variable that stands in for an option that is not given. -/
  variableName : Option String := none
  /-- The value where none is given. -/
  standard : Option String := none
  required : Bool := false
  accepts : String → Bool := fun _ => true

/-- The option that asks for help. -/
def helpOption : OptionSpec :=
  { name := "help", about := "Print help", letter := some 'h', kind := .switch }

/-- An operand, which is told by its place. -/
structure OperandSpec where
  name : String
  /-- What it is for. -/
  about : String := ""
  /-- Whether all further operands belong here. -/
  many : Bool := false
  required : Bool := true
  /-- The value where none is given. -/
  standard : Option String := none
  accepts : String → Bool := fun _ => true

/-- The values of options by name, and the operands in order. -/
structure Arguments where
  options : List (String × List String) := []
  operands : List String := []
  deriving DecidableEq, Repr

namespace Arguments

/-- The values of an option that is given. -/
def values? (a : Arguments) (name : String) : Option (List String) :=
  (a.options.find? fun (n, _) => n == name).map (·.2)

/-- The value of an option that is given. -/
def value? (a : Arguments) (name : String) : Option String :=
  (a.values? name).bind List.head?

/-- Whether a switch is given. -/
def has (a : Arguments) (name : String) : Bool :=
  (a.values? name).isSome

/-- Adds an option, whose values are checked. -/
def add (a : Arguments) (o : OptionSpec) (values : List String) : Except UsageError Arguments :=
  let values := match o.kind with
    | .list => values.flatMap fun (v : String) => (Text.split ',' v.toList).map String.ofList
    | _ => values
  let old := a.values? o.name
  if old.isSome ∧ o.kind ≠ .list then .error .repeated
  else if values.all o.accepts then
    .ok { a with
      options := (a.options.filter fun (n, _) => n != o.name) ++ [(o.name, old.getD [] ++ values)] }
  else .error .badValue

end Arguments

/-- The arguments read so far, and the last option if its value is not checked yet. -/
structure Reading where
  arguments : Arguments := {}
  last : Option (OptionSpec × Option String) := none

namespace Reading

/-- Checks the value of the last option. -/
def settle (r : Reading) : Except UsageError Arguments :=
  match r.last with
  | none => .ok r.arguments
  | some (_, none) => .error .missingValue
  | some (o, some value) => r.arguments.add o [value]

/-- Whether the last option waits for its value. -/
def isWaiting (r : Reading) : Bool :=
  match r.last with
  | some (_, none) => true
  | _ => false

/-- Gives the last option its value. -/
def give (r : Reading) (value : String) : Reading :=
  { r with last := r.last.map fun (o, _) => (o, some value) }

/-- Takes an option with the text attached to it, if any. -/
def option (r : Reading) (o : OptionSpec) (attached : Option String) :
    Except UsageError Reading :=
  match o.kind, attached with
  | .switch, some _ => .error .needlessValue
  | .switch, none => do
    let a ← r.settle
    if o.name = helpOption.name then .error (.help none)
    else return { arguments := ← a.add o [] }
  | _, some value => do
    let a ← r.settle
    return { arguments := ← a.add o [value] }
  | _, none => do
    let a ← r.settle
    return { arguments := a, last := some (o, none) }

/-- Takes the letters behind a single dash. -/
def letters (options : List OptionSpec) : Reading → List Char → Except UsageError Reading
  | r, [] => .ok r
  | r, c :: cs =>
    match options.find? fun o => o.letter == some c with
    | none => .error .unknownArgument
    | some o =>
      match o.kind with
      | .switch => do
        let r ← r.option o none
        letters options r cs
      | _ =>
        match cs with
        | [] => r.option o none
        | '=' :: cs => r.option o (some (String.ofList cs))
        | cs => r.option o (some (String.ofList cs))

/-- Takes an operand. -/
def operand (operands : List OperandSpec) (r : Reading) (value : String) :
    Except UsageError Reading :=
  let place := r.arguments.operands.length
  let spec := operands[place]?.or (operands.getLast?.filter OperandSpec.many)
  match spec with
  | none => .error .unknownArgument
  | some spec => do
    let a ← r.settle
    if spec.accepts value then return { arguments := { a with operands := a.operands ++ [value] } }
    else .error .badValue

end Reading

/-- What an argument looks like. -/
inductive Shape where
  | separator
  | long (name : String) (attached : Option String)
  | letters (cs : List Char)
  | plain
  deriving DecidableEq, Repr

/-- Tells options from other arguments. -/
def Shape.of (s : String) : Shape :=
  match s.toList with
  | ['-', '-'] => .separator
  | '-' :: '-' :: cs =>
    match Text.splitFirst? '=' cs with
    | some (name, value) => .long (String.ofList name) (some (String.ofList value))
    | none => .long (String.ofList cs) none
  | '-' :: c :: cs => .letters (c :: cs)
  | _ => .plain

/-- Reads arguments up to the name of a command, which is returned with the arguments behind it. The
value of the last option is not checked yet. -/
def readUntil (options : List OptionSpec) (operands : List OperandSpec) (isCommand : String → Bool) :
    Reading → List String → Except UsageError (Reading × Option (String × List String))
  | r, [] => .ok (r, none)
  | r, s :: rest =>
    if ¬r.isWaiting ∧ isCommand s then .ok (r, some (s, rest))
    else
      match Shape.of s with
      | .separator => (rest.foldlM (Reading.operand operands) r).map fun r => (r, none)
      | .long name attached =>
        match options.find? fun o => o.name == name with
        | none => .error .unknownArgument
        | some o => do
          let r ← r.option o attached
          readUntil options operands isCommand r rest
      | .letters cs => do
        let r ← r.letters options cs
        readUntil options operands isCommand r rest
      | .plain =>
        if r.isWaiting then readUntil options operands isCommand (r.give s) rest
        else do
          let r ← r.operand operands s
          readUntil options operands isCommand r rest

/-- Reads arguments among which no command is named. -/
def readArguments (options : List OptionSpec) (operands : List OperandSpec)
    (arguments : List String) : Except UsageError Arguments := do
  let (r, _) ← readUntil (helpOption :: options) operands (fun _ => false) {} arguments
  r.settle

/-- Takes options that are not given from the variables of the environment. -/
def fromEnvironment (environment : List (String × String)) (a : Arguments) :
    List OptionSpec → Except UsageError Arguments
  | [] => .ok a
  | o :: os => do
    let value := o.variableName.bind fun name => environment.lookup name
    let a ← match value with
      | some value => if a.has o.name then .ok a else a.add o [value]
      | none => .ok a
    fromEnvironment environment a os

/-- Reads the arguments of a program or command without further commands. -/
def readAll (options : List OptionSpec) (operands : List OperandSpec)
    (environment : List (String × String)) (arguments : List String) :
    Except UsageError Arguments := do
  let a ← readArguments options operands arguments
  let a ← fromEnvironment environment a options
  let missing := (operands.drop a.operands.length).any (·.required)
  if missing then .error .missingArgument else return a

end CosmosClient.CommandLine
