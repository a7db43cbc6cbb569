import UsageContracts.Arguments.Grammar
import UsageContracts.Text.Digit

/-!
# Reading command lines

A command line is read in two passes.  The first one tells switches from other
arguments: a switch begins with a hyphen, may be abbreviated if it is a long
one, and may carry its value.  After a double hyphen there are no switches.  The
second pass goes from left to right and lets each switch and each other
argument change the state.
-/

namespace UsageContracts

/-! ## Telling arguments apart -/

/-- What a switch carries in its own argument, after an equals sign or without
one. -/
structure Carried where
  text : Text
  isAssigned : Bool

/-- A switch in a command line: its spelling in full, and what it carries. -/
structure Mention (σ : Type) where
  switch : Switch σ
  spelling : Text
  carried : Option Carried := none

/-- What an argument is. -/
inductive Word (σ : Type)
  | plain
  /-- The double hyphen that ends the switches. -/
  | separator
  | switch (mention : Mention σ)
  /-- What looks like a switch but is none. -/
  | unknown

namespace Text

/-- The text before the first equals sign and the text after it. -/
def splitAssignment? (text : Text) : Option (Text × Text) :=
  let isOther := fun point : CodePoint => point != '='
  match text.dropWhile isOther with
  | [] => none
  | _ :: value => some (text.takeWhile isOther, value)

/-- Whether a text is a hyphen and a decimal numeral, perhaps with a fraction.
A line feed may follow it. -/
def isNegativeNumeral (text : Text) : Bool :=
  let isDigit := fun point : CodePoint => point.decimalDigit?.isSome
  match text with
  | .scalar '-' :: numeral =>
      let numeral := if numeral.getLast? = some '\n' then numeral.dropLast else numeral
      match numeral.dropWhile isDigit with
      | [] => !numeral.isEmpty
      | .scalar '.' :: fraction => !fraction.isEmpty && fraction.all isDigit
      | _ => false
  | _ => false

end Text

namespace Grammar

variable {σ : Type} (grammar : Grammar σ)

/-- The switches that a long spelling may abbreviate. -/
def abbreviated (spelling : Text) (carried : Option Carried) : List (Mention σ) :=
  (grammar.spellings.filter fun (full, _) => spelling.isPrefixOf full).map
    fun (full, switch) => { switch, spelling := full, carried }

/-- The readings of an argument that begins with a hyphen and is no full
spelling: as an abbreviation, or as a short switch with what it carries. -/
def readings (argument : Text) : List (Mention σ) :=
  match argument with
  | .scalar '-' :: .scalar '-' :: _ =>
      match argument.splitAssignment? with
      | none => grammar.abbreviated argument none
      | some (spelling, text) =>
          grammar.abbreviated spelling (some { text, isAssigned := true })
  | hyphen :: letter :: text =>
      let spelling : Text := [hyphen, letter]
      match grammar.switch? spelling with
      | none => []
      | some switch => [{ switch, spelling, carried := some { text, isAssigned := false } }]
  | _ => []

/-- The switch that an argument spells out in full, perhaps with a value after
an equals sign. -/
def spelledOut? (argument : Text) : Option (Mention σ) :=
  match grammar.switch? argument with
  | some switch => some { switch, spelling := argument }
  | none =>
      match argument.splitAssignment? with
      | none => none
      | some (spelling, text) =>
          (grammar.switch? spelling).map fun switch =>
            { switch, spelling, carried := some { text, isAssigned := true } }

/-- What an argument that begins with a hyphen is, if it spells out no switch
in full. -/
def abbreviatedWord (argument : Text) : Except UsageProblem (Word σ) :=
  match grammar.readings argument with
  | [mention] => .ok (.switch mention)
  | [] =>
      if argument.isNegativeNumeral || argument.contains ' ' then .ok .plain
      else .ok .unknown
  | mentions => .error (.ambiguous argument (mentions.map (·.spelling)))

/-- What an argument before the double hyphen is. -/
def word (argument : Text) : Except UsageProblem (Word σ) :=
  match argument with
  | .scalar '-' :: _ :: _ =>
      match grammar.spelledOut? argument with
      | some mention => .ok (.switch mention)
      | none => grammar.abbreviatedWord argument
  | _ => .ok .plain

/-- Each argument with what it is. -/
def words : List Text → Except UsageProblem (List (Text × Word σ))
  | [] => .ok []
  | argument :: arguments =>
      if argument = "--" then
        .ok ((argument, .separator) :: arguments.map (·, .plain))
      else do
        let first ← grammar.word argument
        let others ← words arguments
        return (argument, first) :: others

end Grammar

/-! ## Switches -/

namespace Switch

variable {σ : Type}

/-- Let a switch without a value change the state. -/
def applyAlone (switch : Switch σ) (state : σ) : Except Stop σ :=
  match switch.effect with
  | .help => .error .help
  | .version => .error .version
  | .mark change => .ok (change state)
  | .store _ _ => .error (.problem (.missingValue switch.spellings))

/-- Let a switch with a value change the state. -/
def applyTo (switch : Switch σ) (value : Text) (state : σ) : Except Stop σ :=
  match switch.effect with
  | .store typeName change =>
      match change value with
      | some change => .ok (change state)
      | none => .error (.problem (.invalidValue switch.spellings typeName value))
  | _ => .error (.problem (.needlessValue switch.spellings value))

/-- Let a switch, with a value or without one, change the state. -/
def apply (switch : Switch σ) (value : Option Text) (state : σ) : Except Stop σ :=
  match value with
  | none => switch.applyAlone state
  | some value => switch.applyTo value state

end Switch

namespace Grammar

variable {σ : Type} (grammar : Grammar σ)

/-- The switches that one argument stands for: some that carry nothing, and
perhaps a last one with what it carries.  Letters that are no switches are left
over. -/
structure Cluster (σ : Type) where
  alone : List (Switch σ) := []
  last : Option (Switch σ × Option Text) := none
  leftOver : List Text := []

/-- The switches that a switch carries as letters after it.  A value may follow
the last of them, with an equals sign or without one. -/
def carriedCluster (switch : Switch σ) (isAssigned : Bool) (carried : Text) :
    Except UsageProblem (Cluster σ) :=
  if switch.takesValue then
    .ok { last := some (switch, some carried) }
  else
    match carried with
    | [] => .error (.needlessValue switch.spellings carried)
    | letter :: rest =>
        if isAssigned || letter = '-' then
          .error (.needlessValue switch.spellings carried)
        else
          match grammar.switch? ['-', letter] with
          | none => .ok { alone := [switch], leftOver := [.scalar '-' :: carried] }
          | some next => do
              let cluster ←
                match rest with
                | [] => pure { last := some (next, none) }
                | .scalar '=' :: value => carriedCluster next true value
                | rest => carriedCluster next false rest
              return { cluster with alone := switch :: cluster.alone }

/-- The switches that a mention of a switch stands for. -/
def clusterOf (mention : Mention σ) : Except UsageProblem (Cluster σ) :=
  match mention.carried with
  | none => .ok { last := some (mention.switch, none) }
  | some carried => grammar.carriedCluster mention.switch carried.isAssigned carried.text

end Grammar

/-! ## Reading from left to right -/

/-- What has been read of a command line. -/
structure Progress (σ : Type) where
  state : σ
  /-- Whether the argument besides switches has been read. -/
  isFilled : Bool := false
  /-- The arguments that nothing takes. -/
  leftOver : List Text := []

/-- The number of arguments at the beginning that one argument besides switches
takes: itself, and the double hyphens beside it. -/
def spanOfOne {σ : Type} : List (Text × Word σ) → Nat
  | (_, .plain) :: (_, .separator) :: _ => 2
  | (_, .plain) :: _ => 1
  | (_, .separator) :: rest =>
      match spanOfOne rest with
      | 0 => 0
      | count => count + 1
  | _ => 0

/-- The number of arguments at the beginning that a command takes: all of them,
if it begins there. -/
def spanOfCommand {σ : Type} (arguments : List (Text × Word σ)) : Nat :=
  if spanOfOne arguments = 0 then 0 else arguments.length

/-- Whether an argument is treated as a switch. -/
def Word.isSwitch {σ : Type} : Word σ → Bool
  | .switch _ => true
  | .unknown => true
  | _ => false

namespace Grammar

variable {σ : Type} (grammar : Grammar σ)

/-- Let the arguments at the beginning change the state as one argument, and
tell how many they are. -/
def fillOne (change : Text → σ → σ) (progress : Progress σ) (arguments : List (Text × Word σ)) :
    Progress σ × Nat :=
  let span := spanOfOne arguments
  let taken : List Text := (arguments.take span).map (·.1)
  match taken.erase "--" with
  | [] => (progress, 0)
  | value :: _ => ({ progress with state := change value progress.state, isFilled := true }, span)

/-- Let all arguments change the state as a command, and tell how many they
are. -/
def fillCommand (name : Text) (commands : List Text) (change : Text → List Text → σ → σ)
    (progress : Progress σ) (arguments : List (Text × Word σ)) :
    Except Stop (Progress σ × Nat) :=
  let span := spanOfCommand arguments
  match (arguments.take span).map (·.1) with
  | [] => .ok (progress, 0)
  | command :: rest =>
      if commands.contains command then
        let state := change command rest progress.state
        .ok ({ progress with state, isFilled := true }, span)
      else
        .error (.problem (.unknownCommand name command commands))

/-- Let arguments besides switches change the state, and tell how many do. -/
def fill (progress : Progress σ) (arguments : List (Text × Word σ)) :
    Except Stop (Progress σ × Nat) :=
  if progress.isFilled then
    .ok (progress, 0)
  else
    match grammar.remainder with
    | .nothing => .ok (progress, 0)
    | .one _ change => .ok (fillOne change progress arguments)
    | .command name commands change => fillCommand name commands change progress arguments

/-- The last switch in an argument with its value, and whether the value is the
argument that comes next. -/
def withValue (last : Switch σ × Option Text) (next : Option (Text × Word σ)) :
    Except UsageProblem ((Switch σ × Option Text) × Bool) :=
  match last with
  | (switch, some value) => .ok ((switch, some value), false)
  | (switch, none) =>
      if switch.takesValue then
        match next with
        | some (argument, .plain) => .ok ((switch, some argument), true)
        | _ => .error (.missingValue switch.spellings)
      else
        .ok ((switch, none), false)

/-- Let the switches in an argument change the state, and tell whether the last
of them takes the argument that comes next. -/
def flip (progress : Progress σ) (mention : Mention σ) (next : Option (Text × Word σ)) :
    Except Stop (Progress σ × Bool) := do
  let cluster ← (grammar.clusterOf mention).mapError .problem
  let leftOver := progress.leftOver ++ cluster.leftOver
  let applyAll := fun state : σ =>
    cluster.alone.foldlM (fun state switch => Switch.apply switch none state) state
  match cluster.last with
  | none =>
      let state ← applyAll progress.state
      return ({ progress with state, leftOver }, false)
  | some last =>
      let ((switch, value), takesNext) ← (withValue last next).mapError .problem
      let state ← applyAll progress.state
      let state ← switch.apply value state
      return ({ progress with state, leftOver }, takesNext)

/-- Read the argument at the beginning of a command line, and tell how many of
those after it are read with it.  Arguments in front of the next switch that
are not taken are left over. -/
def step (progress : Progress σ) (argument : Text) (word : Word σ)
    (rest : List (Text × Word σ)) : Except Stop (Progress σ × Nat) :=
  match word with
  | .unknown => .ok ({ progress with leftOver := progress.leftOver ++ [argument] }, 0)
  | .switch mention => do
      let (progress, takesNext) ← grammar.flip progress mention rest.head?
      return (progress, if takesNext then 1 else 0)
  | word => do
      let (progress, count) ← grammar.fill progress ((argument, word) :: rest)
      if count = 0 then
        let passed := (rest.takeWhile fun (_, word) => !word.isSwitch).map (·.1)
        let leftOver := progress.leftOver ++ argument :: passed
        return ({ progress with leftOver }, passed.length)
      else
        return (progress, count - 1)

/-- Read the rest of a command line. -/
def advance (progress : Progress σ) (arguments : List (Text × Word σ)) :
    Except Stop (Progress σ) :=
  match arguments with
  | [] => .ok progress
  | (argument, word) :: rest =>
      match grammar.step progress argument word rest with
      | .error stop => .error stop
      | .ok (progress, count) => advance progress (rest.drop count)
termination_by arguments.length
decreasing_by
  simp only [List.length_drop, List.length_cons]
  omega

/-- Read a command line: the state it leads to, and the arguments that nothing
takes. -/
def parse (start : σ) (arguments : List Text) : Except Stop (σ × List Text) := do
  let words ← (grammar.words arguments).mapError .problem
  let progress ← grammar.advance { state := start } words
  match grammar.remainder with
  | .one name _ =>
      if !progress.isFilled then throw (.problem (.missingArgument name))
  | _ => pure ()
  return (progress.state, progress.leftOver)

end Grammar

end UsageContracts
