import UsageContracts.Text.Quoted

/-!
# Grammars of command lines

A grammar tells which switches a command line can have and what else it takes.
What a command line says is gathered in a state, which every switch and every
other argument may change.
-/

namespace UsageContracts

/-- What a switch does with the state that a command line builds up. -/
inductive Effect (σ : Type)
  /-- It asks for help. -/
  | help
  /-- It asks for the version. -/
  | version
  /-- It changes the state by itself. -/
  | mark (change : σ → σ)
  /-- It takes a value, which changes the state unless it is not of the type
  with the given name. -/
  | store (typeName : Text) (change : Text → Option (σ → σ))

/-- A switch with all its spellings. -/
structure Switch (σ : Type) where
  spellings : List Text
  effect : Effect σ

/-- What a command line takes besides switches and their values. -/
inductive Remainder (σ : Type)
  | nothing
  /-- One argument, which has to be there. -/
  | one (name : Text) (change : Text → σ → σ)
  /-- The name of a command and everything after it. -/
  | command (name : Text) (commands : List Text) (change : Text → List Text → σ → σ)

/-- What a command line can say, and what is shown to those who ask for help. -/
structure Grammar (σ : Type) where
  program : Text
  usage : Text
  help : Text
  switches : List (Switch σ)
  remainder : Remainder σ

/-- What is wrong with a command line. -/
inductive UsageProblem
  /-- An abbreviation stands for several spellings. -/
  | ambiguous (spelling : Text) (candidates : List Text)
  /-- A switch that takes no value is given one. -/
  | needlessValue (spellings : List Text) (value : Text)
  /-- A switch is not given the value that it takes. -/
  | missingValue (spellings : List Text)
  /-- A value is not of the type with the given name. -/
  | invalidValue (spellings : List Text) (typeName value : Text)
  /-- There is no command of this name. -/
  | unknownCommand (name : Text) (command : Text) (commands : List Text)
  /-- An argument is missing. -/
  | missingArgument (name : Text)
  /-- There are arguments that nothing takes. -/
  | leftOver (arguments : List Text)
deriving DecidableEq

namespace UsageProblem

/-- The spellings of a switch as one name. -/
def switchName (spellings : List Text) : Text :=
  Text.join "/" spellings

/-- The wording of a problem. -/
def message : UsageProblem → Text
  | .ambiguous spelling candidates =>
      "ambiguous option: " ++ spelling ++ " could match " ++ Text.join ", " candidates
  | .needlessValue spellings value =>
      "argument " ++ switchName spellings ++ ": ignored explicit argument " ++ value.quoted
  | .missingValue spellings =>
      "argument " ++ switchName spellings ++ ": expected one argument"
  | .invalidValue spellings typeName value =>
      "argument " ++ switchName spellings ++ ": invalid " ++ typeName ++ " value: " ++
        value.quoted
  | .unknownCommand name command commands =>
      "argument " ++ name ++ ": invalid choice: " ++ command.quoted ++ " (choose from " ++
        Text.join ", " (commands.map Text.quoted) ++ ")"
  | .missingArgument name => "the following arguments are required: " ++ name
  | .leftOver arguments => "unrecognized arguments: " ++ Text.join " " arguments

end UsageProblem

/-- Why a command line is not read to its end. -/
inductive Stop
  | help
  | version
  | problem (problem : UsageProblem)
deriving DecidableEq

namespace Switch

variable {σ : Type}

/-- Whether a switch takes a value. -/
def takesValue (switch : Switch σ) : Bool :=
  match switch.effect with
  | .store _ _ => true
  | _ => false

end Switch

namespace Grammar

variable {σ : Type}

/-- All spellings of all switches, each with its switch. -/
def spellings (grammar : Grammar σ) : List (Text × Switch σ) :=
  grammar.switches.flatMap fun switch => switch.spellings.map fun spelling => (spelling, switch)

/-- The switch with the given spelling. -/
def switch? (grammar : Grammar σ) (spelling : Text) : Option (Switch σ) :=
  grammar.spellings.lookup spelling

end Grammar

end UsageContracts
