import UsageContracts.CommandLine.Run
import UsageContracts.Proofs.Outcome
import UsageContracts.Service.Respond

/-!
# Reaching commands and resources

A run carries out its command once its command line is read, its settings are loaded
and its log is open.  Whatever the argument of a command is, there is a command line
for it.
-/

namespace UsageContracts

open Outcome

/-! ## Reading command lines -/

namespace Grammar

variable {σ : Type} {grammar : Grammar σ}

theorem advance_nil (progress : Progress σ) : grammar.advance progress [] = .ok progress := by
  rw [advance]

theorem advance_cons {progress next : Progress σ} {argument : Text} {word : UsageContracts.Word σ}
    {rest : List (Text × UsageContracts.Word σ)} {count : Nat}
    (step_eq : grammar.step progress argument word rest = .ok (next, count)) :
    grammar.advance progress ((argument, word) :: rest) =
      grammar.advance next (rest.drop count) := by
  rw [advance, step_eq]

/-- An argument after a double hyphen is taken as it is. -/
theorem read_separated {name : Text} {change : Text → σ → σ}
    (remainder_eq : grammar.remainder = .one name change) (start : σ) (argument : Text) :
    grammar.read start ["--", argument] = .ok (change argument start, []) := by
  let filled : Progress σ := { state := change argument start, isFilled := true }
  have words_eq : grammar.words ["--", argument] =
      .ok [("--", .separator), (argument, .plain)] := rfl
  have fill_eq : grammar.fill { state := start } [("--", .separator), (argument, .plain)] =
      .ok (filled, 2) := by
    simp only [fill, remainder_eq]
    rfl
  have step_eq : grammar.step { state := start } "--" .separator [(argument, .plain)] =
      .ok (filled, 1) := by
    simp only [step, fill_eq, ok_bind]
    rfl
  have advance_eq : grammar.advance { state := start } [("--", .separator), (argument, .plain)] =
      .ok filled := by
    rw [advance_cons step_eq]
    exact advance_nil filled
  simp only [read, parse, words_eq, mapError_ok, ok_bind, advance_eq, remainder_eq]
  rfl

end Grammar

/-- The command line that gives a command an argument. -/
def commandLine (asJson : Bool) (name argument : Text) : List Text :=
  (if asJson then [("--json" : Text)] else []) ++ [name, "--", argument]

/-- The command line that gives a command an argument and names the settings. -/
def fullCommandLine (settingsFile : Option Text) (isVerbose asJson : Bool)
    (name argument : Text) : List Text :=
  (settingsFile.map fun file : Text => ("--config=" : Text) ++ file).toList ++
    ((if isVerbose then [("--verbose" : Text)] else []) ++ commandLine asJson name argument)

/-- A switch without a value is read apart from what follows it. -/
theorem mainGrammar_parse_switch {argument : Text} {mention : Mention CommonPart}
    {part part' : CommonPart} {arguments : List Text} {result : CommonPart × List Text}
    (notSeparator : argument ≠ "--") (word_eq : mainGrammar.word argument = .ok (.switch mention))
    (step_eq : ∀ rest, mainGrammar.step { state := part } argument (.switch mention) rest =
      .ok ({ state := part' }, 0))
    (parse_eq : mainGrammar.parse part' arguments = .ok result) :
    mainGrammar.parse part (argument :: arguments) = .ok result := by
  have words_eq : mainGrammar.words (argument :: arguments) =
      (do
        let others ← mainGrammar.words arguments
        return (argument, .switch mention) :: others) := by
    rw [Grammar.words, if_neg notSeparator, word_eq]
    rfl
  rw [Grammar.parse] at parse_eq ⊢
  rw [words_eq]
  cases others_eq : mainGrammar.words arguments with
  | error cause =>
      rw [others_eq] at parse_eq
      cases parse_eq
  | ok others =>
      rw [others_eq] at parse_eq
      simp only [ok_bind, pure_eq_ok, mapError_ok] at parse_eq ⊢
      rw [Grammar.advance_cons (step_eq others), List.drop_zero]
      exact parse_eq

/-- A command takes everything from its name on. -/
theorem mainGrammar_parse_command {name : Text} (isCommand : name ∈ Help.commands)
    (argument : Text) (part : CommonPart) :
    mainGrammar.parse part [name, "--", argument] =
      .ok ({ part with command := some (name, ["--", argument]) }, []) := by
  let words : List (Text × Word CommonPart) :=
    [(name, .plain), ("--", .separator), (argument, .plain)]
  let filled : Progress CommonPart :=
    { state := { part with command := some (name, ["--", argument]) }, isFilled := true }
  have words_eq : mainGrammar.words [name, "--", argument] = .ok words := by
    simp only [Help.commands, List.mem_cons, List.not_mem_nil, or_false] at isCommand
    rcases isCommand with rfl | rfl | rfl | rfl | rfl <;> rfl
  have fill_eq : mainGrammar.fill { state := part } words = .ok (filled, 3) := by
    have contained : Help.commands.contains name = true := List.contains_iff_mem.mpr isCommand
    have fillCommand_eq (change : Text → List Text → CommonPart → CommonPart) :
        Grammar.fillCommand "command" Help.commands change { state := part } words =
          .ok ({ state := change name ["--", argument] part, isFilled := true }, 3) := by
      have span_eq : spanOfCommand words = 3 := rfl
      simp only [Grammar.fillCommand, span_eq]
      exact if_pos contained
    exact fillCommand_eq fun name arguments part => { part with command := some (name, arguments) }
  -- One step reads the name and the rest.
  have step_eq : mainGrammar.step { state := part } name .plain words.tail = .ok (filled, 2) := by
    simp only [Grammar.step, words, List.tail_cons, fill_eq, ok_bind]
    rfl
  have advance_eq : mainGrammar.advance { state := part } words = .ok filled :=
    (Grammar.advance_cons step_eq).trans (Grammar.advance_nil _)
  rw [Grammar.parse, words_eq, mapError_ok, ok_bind, advance_eq]
  rfl

/-- The file of the settings is read after an equals sign, whatever its name is. -/
theorem mainGrammar_parse_config {file : Text} {part : CommonPart} {arguments : List Text}
    {result : CommonPart × List Text}
    (parse_eq : mainGrammar.parse { part with settingsFile := some file } arguments = .ok result) :
    mainGrammar.parse part (("--config=" ++ file) :: arguments) = .ok result := by
  let switch : Switch CommonPart :=
    { spellings := ["-c", "--config"]
      effect := .store "str" fun file => some fun part => { part with settingsFile := some file } }
  let mention : Mention CommonPart :=
    { switch, spelling := "--config", carried := some { text := file, isAssigned := true } }
  have cluster_eq : mainGrammar.clusterOf mention = .ok { last := some (switch, some file) } := by
    simp only [Grammar.clusterOf, mention]
    rw [Grammar.carriedCluster.eq_def]
    rfl
  have step_eq : ∀ rest, mainGrammar.step { state := part } ("--config=" ++ file)
      (.switch mention) rest =
        .ok ({ state := { part with settingsFile := some file } }, 0) := by
    intro rest
    simp only [Grammar.step, Grammar.flip, cluster_eq]
    rfl
  have notSeparator : "--config=" ++ file ≠ Text.ofString "--" := by
    intro separator
    have tail_eq := congrArg (List.drop 2) separator
    cases tail_eq
  exact mainGrammar_parse_switch notSeparator rfl step_eq parse_eq

theorem mainGrammar_parse_fullCommandLine (settingsFile : Option Text) (isVerbose asJson : Bool)
    {name : Text} (isCommand : name ∈ Help.commands) (argument : Text) :
    mainGrammar.parse {} (fullCommandLine settingsFile isVerbose asJson name argument) =
      .ok ({ settingsFile, asJson, isVerbose, command := some (name, ["--", argument]) }, []) := by
  have command_eq := mainGrammar_parse_command isCommand argument
    { settingsFile, asJson, isVerbose }
  have json_eq : mainGrammar.parse { settingsFile, isVerbose } (commandLine asJson name argument) =
      .ok ({ settingsFile, asJson, isVerbose, command := some (name, ["--", argument]) }, []) := by
    cases asJson with
    | false => exact command_eq
    | true => exact mainGrammar_parse_switch (by decide) rfl (fun _ => rfl) command_eq
  have verbose_eq : mainGrammar.parse { settingsFile }
      ((if isVerbose then [("--verbose" : Text)] else []) ++ commandLine asJson name argument) =
      .ok ({ settingsFile, asJson, isVerbose, command := some (name, ["--", argument]) }, []) := by
    cases isVerbose with
    | false => exact json_eq
    | true => exact mainGrammar_parse_switch (by decide) rfl (fun _ => rfl) json_eq
  cases settingsFile with
  | none => exact verbose_eq
  | some file => exact mainGrammar_parse_config verbose_eq

theorem documentGrammar_read (command file : Text) :
    (documentGrammar command).read [] ["--", file] = .ok (file, []) := by
  have remainder_eq : (documentGrammar command).remainder = .one "file" fun file _ => file := rfl
  exact Grammar.read_separated remainder_eq [] file

theorem exampleGrammar_read (pattern : Text) :
    exampleGrammar.read ([], none) ["--", pattern] = .ok ((pattern, none), []) := by
  have remainder_eq : exampleGrammar.remainder =
      .one "pattern" fun pattern parsed => (pattern, parsed.2) := rfl
  exact Grammar.read_separated remainder_eq ([], none) pattern

namespace Command

theorem read_classify (file : Text) :
    read "classify" ["--", file] = .ok (.classify file, []) := by
  rw [read, if_pos rfl, documentGrammar_read]
  rfl

theorem read_validate (file : Text) :
    read "validate" ["--", file] = .ok (.validate file, []) := by
  rw [read, if_neg (by decide), if_pos rfl, documentGrammar_read]
  rfl

theorem read_example (pattern : Text) :
    read "example" ["--", pattern] = .ok (.example pattern none, []) := by
  rw [read, if_neg (by decide), if_neg (by decide), if_pos rfl, exampleGrammar_read]
  rfl

end Command

theorem Invocation.ofArguments_fullCommandLine (settingsFile : Option Text)
    (isVerbose asJson : Bool) {name argument : Text} {command : Command}
    (isCommand : name ∈ Help.commands)
    (command_eq : Command.read name ["--", argument] = .ok (command, [])) :
    ofArguments (fullCommandLine settingsFile isVerbose asJson name argument) =
      .ok { settingsFile, asJson, isVerbose, command := some command } := by
  rw [ofArguments, Grammar.read,
    mainGrammar_parse_fullCommandLine settingsFile isVerbose asJson isCommand]
  simp only [mapError_ok, ok_bind, command_eq]
  rfl

theorem Invocation.ofArguments_commandLine (asJson : Bool) {name argument : Text}
    {command : Command} (isCommand : name ∈ Help.commands)
    (command_eq : Command.read name ["--", argument] = .ok (command, [])) :
    ofArguments (commandLine asJson name argument) = .ok { asJson, command := some command } :=
  ofArguments_fullCommandLine none false asJson isCommand command_eq

/-! ## Runs -/

namespace Surroundings

/-- Whether a run gets as far as carrying out a command: its command line is read, its
settings are loaded, and the log is open. -/
inductive Performs (surroundings : Surroundings) (arguments : List Text) (command : Command)
    (asJson : Bool) (settings : Settings) (tree : FileTree) : Prop
  | intro {invocation : Invocation} {log : Log} :
      Invocation.ofArguments arguments = .ok invocation →
      invocation.command = some command → invocation.asJson = asJson →
      Settings.load surroundings.logLevel surroundings.tree
        (invocation.settingsFile.map Path.ofText) = .ok settings →
      surroundings.openLog settings.logging invocation.isVerbose = (tree, .ok log) →
      Performs surroundings arguments command asJson settings tree

variable {surroundings : Surroundings} {arguments : List Text} {command : Command} {asJson : Bool}
  {settings : Settings} {tree : FileTree}

/-- The outcome of such a run is that of the command's plan. -/
theorem Performs.exists_run_eq
    (performs : surroundings.Performs arguments command asJson settings tree) :
    ∃ (isVerbose : Bool) (log : Log),
      let plan := command.plan { tree, input := surroundings.input } settings asJson isVerbose
      let logged := log.lines surroundings.time plan.records
      surroundings.run arguments = plan.carryOut (log.write logged tree) logged := by
  rcases performs with @⟨invocation, log, arguments_eq, command_eq, rfl, settings_eq, log_eq⟩
  refine ⟨invocation.isVerbose, log, ?_⟩
  simp only [run, arguments_eq, runInvocation, command_eq, settings_eq, runCommand, log_eq]

theorem performs_commandLine {log : Log} {name argument : Text} (isCommand : name ∈ Help.commands)
    (command_eq : Command.read name ["--", argument] = .ok (command, []))
    (settings_eq : Settings.load surroundings.logLevel surroundings.tree none = .ok settings)
    (log_eq : surroundings.openLog settings.logging false = (tree, .ok log)) :
    surroundings.Performs (commandLine asJson name argument) command asJson settings tree :=
  .intro (Invocation.ofArguments_commandLine asJson isCommand command_eq) rfl rfl settings_eq log_eq

end Surroundings

/-! ## Requests -/

/-- A request that posts something is answered as such, whatever is told of origins. -/
theorem Service.exists_respond_eq {request : Request} (posts : request.method = "POST")
    (service : Service) :
    ∃ headers, service.respond request = service.answerWith request headers := by
  have notHead : request.method ≠ "HEAD" := by
    rw [posts]
    decide
  have notOptions : (request.method == "OPTIONS") = false := by
    rw [posts]
    decide
  have full : ∃ headers, service.fullReply request = service.answerWith request headers := by
    unfold fullReply
    split
    · split
      · next asksBeforehand _ => cases notOptions.symm.trans asksBeforehand
      · exact ⟨_, rfl⟩
    · exact ⟨_, rfl⟩
  simp only [respond, if_neg notHead]
  exact full

end UsageContracts
