/-! # Command-line arguments

The words of a command line name a task and set its parameters. A parameter takes its value from
behind an equals sign or from the next word; behind a lone double hyphen every word is a value. The
output format may be set before the task as well as after it, and what is said last counts.
-/

namespace Forklift.CommandLine

/-- The forms in which results can be printed. -/
inductive OutputFormat where
  /-- For a reader at a terminal. -/
  | pretty
  /-- For another program. -/
  | json
deriving DecidableEq, Repr

namespace OutputFormat

def ofName? : String → Option OutputFormat
  | "pretty" => some pretty
  | "json" => some json
  | _ => none

/-- The format that was asked for, or the one that fits where the output goes. -/
def resolve (choice : Option OutputFormat) (toTerminal : Bool) : OutputFormat :=
  choice.getD (if toTerminal then pretty else json)

end OutputFormat

/-- What the program is asked to do. -/
inductive Task where
  /-- Interpret a command and record nothing. -/
  | check (command : String)
  /-- Simulate commands in one session. -/
  | simulate (inventory : Option String) (equipment : Option String) (commands : List String)
  /-- List the forklifts of a file. -/
  | inventory (path : String)
  /-- Explain the identifier of a diagnostic. -/
  | explain (id : String)
deriving DecidableEq, Repr

/-- A task, and the output format if one was asked for. -/
structure Request where
  output : Option OutputFormat
  task : Task
deriving DecidableEq, Repr

/-- The kinds of task. -/
inductive TaskKind where
  | check
  | simulate
  | inventory
  | explain
deriving DecidableEq, Repr

/-- The parameters that are set by name. -/
inductive Parameter where
  | output
  | inventory
  | equipment
deriving DecidableEq, Repr

namespace Parameter

def name : Parameter → String
  | output => "output"
  | inventory => "inventory"
  | equipment => "equipment"

def all : List Parameter :=
  [output, inventory, equipment]

def ofName? (name : String) : Option Parameter :=
  all.find? (·.name == name)

/-- Whether a value may be given. A path is never empty; a model number may be. -/
def accepts (parameter : Parameter) (value : String) : Bool :=
  match parameter with
  | output => (OutputFormat.ofName? value).isSome
  | inventory => !value.isEmpty
  | equipment => true

end Parameter

namespace TaskKind

def name : TaskKind → String
  | check => "check"
  | simulate => "simulate"
  | inventory => "inventory"
  | explain => "explain"

def all : List TaskKind :=
  [check, simulate, inventory, explain]

def ofName? (name : String) : Option TaskKind :=
  all.find? (·.name == name)

/-- Whether a task has a parameter. -/
def has (kind : TaskKind) (parameter : Parameter) : Bool :=
  parameter = .output || kind = simulate

/-- Whether a task that has been given some values takes another one. -/
def takes (kind : TaskKind) (values : List String) (value : String) : Bool :=
  (kind = simulate || values.isEmpty) && !(kind = inventory && value.isEmpty)

end TaskKind

/-- Why words are not a request. -/
inductive Misuse where
  | noTask
  | unknownTask (word : String)
  | unknownOption (word : String)
  | valueMissing (parameter : Parameter)
  | valueRefused (parameter : Parameter) (value : String)
  | repeated (parameter : Parameter)
  | unexpected (word : String)
  | noValue (kind : TaskKind)
deriving DecidableEq, Repr

namespace Misuse

def message : Misuse → String
  | noTask => "no task is given"
  | unknownTask word => s!"there is no task '{word}'"
  | unknownOption word => s!"there is no option '{word}'"
  | valueMissing parameter => s!"--{parameter.name} needs a value"
  | valueRefused parameter value => s!"--{parameter.name} cannot be '{value}'"
  | repeated parameter => s!"--{parameter.name} is given twice"
  | unexpected word => s!"'{word}' is not expected"
  | noValue kind => s!"{kind.name} needs a value"

end Misuse

/-- Why there is nothing to do: words that are no request, or a wish to read about the program. -/
inductive Refusal where
  | misuse (misuse : Misuse)
  | help
  | version
deriving DecidableEq, Repr

/-- What one or two words say. -/
inductive Item where
  /-- Sets a parameter. -/
  | option (parameter : Parameter) (value : String)
  /-- A task or one of its values. -/
  | plain (text : String)
  /-- A value that is never taken for a task. -/
  | literal (text : String)
  | help
  | version
  | fault (misuse : Misuse)
deriving DecidableEq, Repr

namespace Item

/-- Whether a word can only be an option. A lone hyphen is a value. -/
def looksLikeOption (word : String) : Bool :=
  match word.toList with
  | '-' :: _ :: _ => true
  | _ => false

/-- The name of an option with two hyphens, and what stands behind its equals sign. -/
def longOption? (word : String) : Option (String × Option String) :=
  match word.toList with
  | '-' :: '-' :: text =>
    let value? := match text.dropWhile (· ≠ '=') with
      | [] => none
      | _ :: value => some (String.ofList value)
    some (String.ofList (text.takeWhile (· ≠ '=')), value?)
  | _ => none

/-- What a word says that does not start with two hyphens. -/
def ofWord (word : String) : Item :=
  match word.toList with
  | ['-'] => plain word
  | '-' :: 'h' :: _ => help
  | '-' :: 'V' :: _ => version
  | '-' :: _ => fault (.unknownOption word)
  | _ => plain word

/-- What an option says that sets no parameter. -/
def ofPlainOption (name : String) : Item :=
  if name = "help" then help
  else if name = "version" then version
  else fault (.unknownOption s!"--{name}")

/-- What an option says that brings its value along. -/
def ofAttached (name value : String) : Item :=
  match Parameter.ofName? name with
  | some parameter => option parameter value
  | none => fault (.unknownOption s!"--{name}")

/-- What the words of a command line say, one after the other. Nothing is said after an option whose
value is missing. -/
def ofWords : List String → List Item
  | [] => []
  | word :: rest =>
    if word = "--" then rest.map literal
    else
      match longOption? word with
      | none => ofWord word :: ofWords rest
      | some (name, some value) => ofAttached name value :: ofWords rest
      | some (name, none) =>
        match Parameter.ofName? name with
        | none => ofPlainOption name :: ofWords rest
        | some parameter =>
          match rest with
          | [] => [fault (.valueMissing parameter)]
          | value :: after =>
            if looksLikeOption value then [fault (.valueMissing parameter)]
            else option parameter value :: ofWords after

end Item

/-- The parameters that have been set, and the values that have been given. -/
structure Given where
  output : Option String := none
  inventory : Option String := none
  equipment : Option String := none
  values : List String := []
deriving DecidableEq, Repr

namespace Given

/-- The value of a parameter. -/
def get? (given : Given) : Parameter → Option String
  | .output => given.output
  | .inventory => given.inventory
  | .equipment => given.equipment

/-- Sets a parameter that has not been set before. -/
def set (given : Given) (parameter : Parameter) (value : String) : Except Refusal Given :=
  if (given.get? parameter).isSome then .error (.misuse (.repeated parameter))
  else if !parameter.accepts value then .error (.misuse (.valueRefused parameter value))
  else
    match parameter with
    | .output => .ok { given with output := some value }
    | .inventory => .ok { given with inventory := some value }
    | .equipment => .ok { given with equipment := some value }

/-- Adds a value to those of a task. -/
def add (given : Given) (kind : TaskKind) (value : String) : Except Refusal Given :=
  if kind.takes given.values value then .ok { given with values := given.values ++ [value] }
  else .error (.misuse (.unexpected value))

/-- Takes in what is said behind the name of a task. -/
def take (kind : TaskKind) (given : Given) : Item → Except Refusal Given
  | .option parameter value =>
    if kind.has parameter then given.set parameter value
    else .error (.misuse (.unknownOption s!"--{parameter.name}"))
  | .plain text | .literal text => given.add kind text
  | .help => .error .help
  | .version => .error (.misuse (.unknownOption "--version"))
  | .fault misuse => .error (.misuse misuse)

/-- The output format that has been asked for. -/
def format? (given : Given) : Option OutputFormat :=
  given.output.bind OutputFormat.ofName?

/-- The task that has been described. Each kind of task needs a value. -/
def task (kind : TaskKind) (given : Given) : Except Refusal Task :=
  match given.values with
  | [] => .error (.misuse (.noValue kind))
  | value :: _ =>
    .ok <| match kind with
      | .check => .check value
      | .simulate => .simulate given.inventory given.equipment given.values
      | .inventory => .inventory value
      | .explain => .explain value

end Given

namespace Request

/-- The refusal of a request to read about a task, which may be named. -/
def ofHelp : List Item → Refusal
  | [] => .help
  | [.plain name] =>
    if name = "help" || (TaskKind.ofName? name).isSome then .help
    else .misuse (.unknownTask name)
  | _ => .misuse (.unexpected "help")

/-- The request for a task that has been named. -/
def ofTask (output : Option OutputFormat) (name : String) (items : List Item) :
    Except Refusal Request :=
  match TaskKind.ofName? name with
  | some kind => do
    let given ← items.foldlM (Given.take kind) {}
    return ⟨given.format? <|> output, ← given.task kind⟩
  | none => .error (if name = "help" then ofHelp items else .misuse (.unknownTask name))

/-- The request that items make. In front of the task only the output format can be set. -/
def ofItems (given : Given) : List Item → Except Refusal Request
  | [] => .error (.misuse .noTask)
  | .option .output value :: rest => do ofItems (← given.set .output value) rest
  | .option parameter _ :: _ => .error (.misuse (.unknownOption s!"--{parameter.name}"))
  | .plain name :: rest => ofTask given.format? name rest
  | .literal text :: _ => .error (.misuse (.unexpected text))
  | .help :: _ => .error .help
  | .version :: _ => .error .version
  | .fault misuse :: _ => .error (.misuse misuse)

/-- The request that the words of a command line make. -/
def ofWords (words : List String) : Except Refusal Request :=
  ofItems {} (Item.ofWords words)

end Request

end Forklift.CommandLine
