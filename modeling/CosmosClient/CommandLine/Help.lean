import CosmosClient.CommandLine.Command

/-!
# Help

A page of help says what the program or a command does, how it is called, and what its operands and
options are. A list of these is set in two columns, unless a description would not fit; then every
description stands below what it describes.
-/

namespace CosmosClient.CommandLine

namespace Help

def about : String := "Command line tool for talking to Cosmos SDK chains over LCD"

def program : String := "cosmos-lcd"

/-- What help is for, as a command. -/
def aboutHelp : String := "Print this message or the help of the given subcommand(s)"

/-- An item of a list. -/
structure Item where
  left : String
  about : String := ""
  /-- What is said of the value where none is given. -/
  notes : String := ""

def width : Nat := 100

/-- Whether the descriptions stand below what they describe, next to which they would begin in the
given column: there is little room, and one does not fit into it. -/
def isStacked (column : Nat) (items : List Item) : Bool :=
  items.any fun i =>
    column ≤ width && 2 * width < 5 * column && width - column < i.about.length + i.notes.length

/-- The description of an item with the notes. -/
def Item.description (i : Item) : String :=
  Text.join " " ([i.about, i.notes].filter fun s => s ≠ "")

def blanks (n : Nat) : String := String.ofList (List.replicate n ' ')

/-- A list under a title. -/
def list (title : String) (items : List Item) : String :=
  let longest := (items.map fun i => i.left.length).foldl max 2
  let stacked := isStacked (longest + 4) items
  let lines := items.map fun i =>
    let gap := if stacked then "\n" ++ blanks 10 else blanks (longest + 2 - i.left.length)
    blanks 2 ++ i.left ++ gap ++ i.description
  title ++ ":\n" ++ Text.join "\n" lines

/-- A name as that of a value. -/
def valueName (name : String) : String :=
  String.ofList (name.toList.map fun c => if c = '-' then '_' else c.toUpper)

/-- An operand as it is called. -/
def operandText (o : OperandSpec) : String :=
  let name := valueName o.name
  (if o.required then s!"<{name}>" else s!"[{name}]") ++ (if o.many then "..." else "")

/-- An option as it is called, without its letter. -/
def optionText (o : OptionSpec) : String :=
  match o.kind with
  | .switch => s!"--{o.name}"
  | _ => s!"--{o.name} <{valueName o.name}>"

/-- The note on the variable that stands in for an option. -/
def variableNote (environment : List (String × String)) (name : String) : String :=
  let value := (environment.lookup name).getD ""
  s!"[env: {name}={value}]"

/-- The note on the value where none is given. -/
def standardNote (value : String) : String := s!"[default: {value}]"

/-- An operand in a list. -/
def operandItem (o : OperandSpec) : Item :=
  { left := operandText o, about := o.about
    notes := Text.join " " (o.standard.toList.map standardNote) }

/-- An option in a list. -/
def optionItem (environment : List (String × String)) (o : OptionSpec) : Item :=
  let letter := match o.letter with
    | some c => String.ofList ['-', c, ',', ' ']
    | none => blanks 4
  { left := letter ++ optionText o, about := o.about
    notes := Text.join " " (o.variableName.toList.map (variableNote environment) ++
      o.standard.toList.map standardNote) }

/-- What options in the same place of their lists are sorted by. -/
def sortKey (o : OptionSpec) : String :=
  match o.letter with
  | some c => String.ofList [c, '0']
  | none => o.name

/-- The options of two lists by their places in these, and help at the end. -/
def sortedOptions (shared own : List OptionSpec) : List OptionSpec :=
  let placed := shared.filterMap (fun o =>
      (Invocation.globalOptions.findIdx? fun g => g.name == o.name).map fun i => (i, o)) ++
    own.zipIdx.map fun (o, i) => (i, o)
  let before (a b : Nat × OptionSpec) : Bool :=
    a.1 < b.1 || (a.1 == b.1 && !(decide (sortKey b.2 < sortKey a.2)))
  (placed.mergeSort before).map (·.2) ++ [helpOption]

/-- A page: what it is about, how it is called, and lists. -/
def page (about : String) (call : List String) (lists : List String) : String :=
  Text.join "\n\n" ([about, "Usage: " ++ Text.join " " (program :: call)] ++ lists) ++ "\n"

/-- The page on the program. -/
def programPage (environment : List (String × String)) : String :=
  let commands := Command.specs.map fun c => { left := c.name, about := c.about : Item }
  let help : Item := { left := Invocation.helpName, about := aboutHelp }
  page about ["[OPTIONS]", "<COMMAND>"]
    [list "Commands" (commands ++ [help]),
      list "Options" ((sortedOptions Invocation.globalOptions []).map (optionItem environment))]

/-- The page on help itself. -/
def helpPage : String :=
  let operand : OperandSpec :=
    { name := "command", about := "Print help for the subcommand(s)", many := true
      required := false }
  page aboutHelp [Invocation.helpName, operandText operand]
    [list "Arguments" [operandItem operand]]

/-- The page on a command. -/
def commandPage (environment : List (String × String)) (c : Command.Spec) : String :=
  let required := (c.options.filter (·.required)).map optionText
  let operands := if c.operands.isEmpty then [] else [list "Arguments" (c.operands.map operandItem)]
  let options := sortedOptions (Invocation.sharedOptions c) c.options
  page c.about ([c.name, "[OPTIONS]"] ++ required ++ c.operands.map operandText)
    (operands ++ [list "Options" (options.map (optionItem environment))])

end Help

/-- The page of help on a command or on the program. -/
def help (environment : List (String × String)) (command : Option String) : String :=
  match command with
  | none => Help.programPage environment
  | some name =>
    match Command.specs.find? fun c => c.name == name with
    | some c => Help.commandPage environment c
    | none => Help.helpPage

end CosmosClient.CommandLine
