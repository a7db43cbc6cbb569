import UsageContracts.Arguments.Parse
import UsageContracts.CommandLine.Help
import UsageContracts.Number.Numeral

/-!
# Invocations

What a command line asks for: one of the commands, and how to run it.  The
command has a grammar of its own for the arguments after its name.  Arguments
that the command does not take are reported for the whole program.
-/

namespace UsageContracts

/-- A command with its arguments. -/
inductive Command
  | classify (file : Text)
  | validate (file : Text)
  | example (pattern : Text) (output : Option Text)
  | patterns
  | serve (host : Option Text) (port : Option Int)
deriving DecidableEq

/-- What a command line asks for. -/
structure Invocation where
  settingsFile : Option Text := none
  asJson : Bool := false
  isVerbose : Bool := false
  command : Option Command := none
deriving DecidableEq

/-- What ends the program before a command runs: a text for those who ask for
it, or a problem with the command line of the program or a command. -/
inductive EarlyEnd
  | answered (text : Text)
  | refused (program usage : Text) (problem : UsageProblem)
deriving DecidableEq

/-- The switch that asks for help. -/
def helpSwitch {σ : Type} : Switch σ :=
  { spellings := ["-h", "--help"], effect := .help }

/-! ## Grammars -/

/-- What the program itself reads of a command line: what holds for all
commands, and the command with the arguments after its name. -/
structure CommonPart where
  settingsFile : Option Text := none
  asJson : Bool := false
  isVerbose : Bool := false
  command : Option (Text × List Text) := none

/-- The grammar of the program. -/
def mainGrammar : Grammar CommonPart :=
  { program := Help.program
    usage := Help.mainUsage
    help := Help.mainHelp
    switches :=
      [ helpSwitch,
        { spellings := ["-V", "--version"], effect := .version },
        { spellings := ["-c", "--config"]
          effect := .store "str" fun file =>
            some fun part => { part with settingsFile := some file } },
        { spellings := ["--json"]
          effect := .mark fun part => { part with asJson := true } },
        { spellings := ["-v", "--verbose"]
          effect := .mark fun part => { part with isVerbose := true } } ]
    remainder := .command "command" Help.commands fun name arguments part =>
      { part with command := some (name, arguments) } }

/-- The name of the program together with that of a command. -/
def programOf (command : Text) : Text :=
  Help.program ++ " " ++ command

/-- The grammar of a command that reads a document. -/
def documentGrammar (command : Text) : Grammar Text :=
  { program := programOf command
    usage := Help.documentUsage command
    help := Help.documentHelp command
    switches := [helpSwitch]
    remainder := .one "file" fun file _ => file }

/-- The grammar of the command for examples: the pattern and the file for the
output. -/
def exampleGrammar : Grammar (Text × Option Text) :=
  { program := programOf "example"
    usage := Help.exampleUsage
    help := Help.exampleHelp
    switches :=
      [ helpSwitch,
        { spellings := ["-o", "--output"]
          effect := .store "str" fun file => some fun (pattern, _) => (pattern, some file) } ]
    remainder := .one "pattern" fun pattern (_, output) => (pattern, output) }

/-- The grammar of the command for the catalogue. -/
def patternsGrammar : Grammar Unit :=
  { program := programOf "patterns"
    usage := Help.patternsUsage
    help := Help.patternsHelp
    switches := [helpSwitch]
    remainder := .nothing }

/-- The grammar of the command for the service: the host and the port. -/
def serveGrammar : Grammar (Option Text × Option Int) :=
  { program := programOf "serve"
    usage := Help.serveUsage
    help := Help.serveHelp
    switches :=
      [ helpSwitch,
        { spellings := ["--host"]
          effect := .store "str" fun host => some fun (_, port) => (some host, port) },
        { spellings := ["--port"]
          effect := .store "int" fun text =>
            match Numeral.readInteger 10 text with
            | .ok number => some fun (host, _) => (host, some number)
            | .error _ => none } ]
    remainder := .nothing }

/-! ## Reading invocations -/

/-- What ends the program when a command line of the given grammar stops. -/
def Stop.toEarlyEnd {σ : Type} (grammar : Grammar σ) : Stop → EarlyEnd
  | .help => .answered grammar.help
  | .version => .answered (Help.program ++ " " ++ Help.version ++ "\n")
  | .problem cause => .refused grammar.program grammar.usage cause

/-- Read a command line of the given grammar. -/
def Grammar.read {σ : Type} (grammar : Grammar σ) (start : σ) (arguments : List Text) :
    Except EarlyEnd (σ × List Text) :=
  (grammar.parse start arguments).mapError (·.toEarlyEnd grammar)

namespace Command

/-- Read the arguments of a command.  The result holds the arguments that the
command does not take. -/
def read (name : Text) (arguments : List Text) : Except EarlyEnd (Command × List Text) :=
  if name = "classify" then do
    let (file, leftOver) ← (documentGrammar name).read [] arguments
    return (.classify file, leftOver)
  else if name = "validate" then do
    let (file, leftOver) ← (documentGrammar name).read [] arguments
    return (.validate file, leftOver)
  else if name = "example" then do
    let ((pattern, output), leftOver) ← exampleGrammar.read ([], none) arguments
    return (.example pattern output, leftOver)
  else if name = "serve" then do
    let ((host, port), leftOver) ← serveGrammar.read (none, none) arguments
    return (.serve host port, leftOver)
  else do
    let (_, leftOver) ← patternsGrammar.read () arguments
    return (.patterns, leftOver)

end Command

namespace Invocation

/-- Read a command line. -/
def ofArguments (arguments : List Text) : Except EarlyEnd Invocation := do
  let (common, leftOver) ← mainGrammar.read {} arguments
  let (command, leftOver) ←
    match common.command with
    | none => pure (none, leftOver)
    | some (name, rest) => do
        let (command, unread) ← Command.read name rest
        pure (some command, leftOver ++ unread)
  if leftOver.isEmpty then
    return {
      settingsFile := common.settingsFile
      asJson := common.asJson
      isVerbose := common.isVerbose
      command }
  else
    throw ((Stop.problem (.leftOver leftOver)).toEarlyEnd mainGrammar)

end Invocation

end UsageContracts
