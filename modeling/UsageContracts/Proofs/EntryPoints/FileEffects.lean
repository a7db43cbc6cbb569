import UsageContracts.Proofs.CommandLine.Steps
import UsageContracts.Proofs.EntryPoints.Reaching

/-!
# What runs do to files

A run changes two files at most: the log file grows, and the file for the output of an
example gets what is printed otherwise.  The latter is written last, so that a run that
fails has not touched it, unless what it is to hold cannot be encoded.
-/

namespace UsageContracts

open FileTree Outcome

/-! ## The files of a run -/

namespace Invocation

/-- The same invocation without a file for the output. -/
def withoutOutput (invocation : Invocation) : Invocation :=
  { invocation with command := invocation.command.map Command.withoutOutput }

/-- Whether a command line asks for the same as an invocation, but names no file for the
output. -/
def IsGivenWithoutOutput (invocation : Invocation) (arguments : List Text) : Prop :=
  ofArguments arguments = .ok invocation.withoutOutput

end Invocation

namespace Surroundings

variable (surroundings : Surroundings)

/-- The place of the log file that the settings of an invocation name. -/
def logPlace? (invocation : Invocation) : Option FilePlace :=
  match Settings.load surroundings.logLevel surroundings.tree
    (invocation.settingsFile.map Path.ofText) with
  | .ok settings => settings.logging.place? surroundings.tree
  | .error _ => none

/-- The place of the file for the output. -/
def outputPlace? (invocation : Invocation) : Option FilePlace :=
  (invocation.command.bind Command.outputFile?).map fun file =>
    surroundings.tree.placeOf (.ofText file)

end Surroundings

/-! ## Runs -/

/-- What a run has done to files when it ends, where `printed` is the outcome of the same
run without a file for the output. -/
inductive FileEffect (before : FileTree) (log? output? : Option FilePlace) (printed : Outcome) :
    Ending → FileTree → Prop
  /-- The log file has grown, and no other file is changed. -/
  | logged {ending : Ending} {after : FileTree} :
      HasGrownAt log? before after →
      (ending = .finished 0 → output? = none) →
      (∀ cause, ending ≠ .failed (.encoding cause)) →
      FileEffect before log? output? printed ending after
  /-- The file for the output holds what is printed otherwise. -/
  | written {middle : FileTree} {place : FilePlace} :
      HasGrownAt log? before middle →
      output? = some place →
      printed.ending = .finished 0 →
      FileEffect before log? output? printed (.finished 0) (middle.put place printed.output)
  /-- The file for the output is emptied for a text that cannot be encoded. -/
  | emptied {middle : FileTree} {place : FilePlace} {cause : EncodingFault} :
      HasGrownAt log? before middle →
      output? = some place →
      printed.ending = .finished 0 →
      printed.output.contentFault? = some cause →
      FileEffect before log? output? printed (.failed (.encoding cause)) (middle.put place [])

section

variable {before after : FileTree} {log? output? : Option FilePlace} {printed : Outcome}

theorem FileEffect.of_code (grown : HasGrownAt log? before after) {code : Nat}
    (code_ne : code ≠ 0) : FileEffect before log? output? printed (.finished code) after :=
  .logged grown (fun done => absurd (Ending.finished.inj done) code_ne) fun _ => Ending.noConfusion

theorem FileEffect.of_fault (grown : HasGrownAt log? before after) {fault : RunFault}
    (notOfEncoding : fault.IsNotOfEncoding) :
    FileEffect before log? output? printed (.failed fault) after :=
  .logged grown Ending.noConfusion fun cause failed =>
    notOfEncoding cause (Ending.failed.inj failed)

/-- A plan that leaves the files has no effect but on the log. -/
theorem Plan.LeavesFiles.fileEffect {plan : Plan} (leaves : plan.LeavesFiles)
    (grown : HasGrownAt log? before after) (logged : Text) :
    FileEffect before log? none printed (plan.carryOut after logged).ending
      (plan.carryOut after logged).tree := by
  rcases leaves.carryOut after logged with ⟨tree_eq, elsewhere⟩
  rw [tree_eq]
  exact .logged grown (fun _ => rfl) elsewhere

/-- A report is written to its file last, and nothing else happens after that. -/
theorem Plan.fileEffect_of_file {plan : Plan} {report : Report} {path : Path}
    (result_eq : plan.result = .ok report) (code_eq : report.code = 0)
    (file_eq : report.file = some (path, printed.output))
    (printed_eq : printed.ending = .finished 0) (grown : HasGrownAt log? before after)
    (logged : Text) :
    FileEffect before log? (some (before.placeOf path)) printed (plan.carryOut after logged).ending
      (plan.carryOut after logged).tree := by
  have place_eq : after.placeOf path = before.placeOf path := placeOf_of_here_eq grown.here_eq path
  simp only [Plan.carryOut, result_eq, file_eq, code_eq]
  cases writing : after.write path printed.output with
  | error fault =>
      exact .of_fault grown fun _ => RunFault.noConfusion
  | ok written =>
      rcases written with ⟨written, fault?⟩
      obtain ⟨fault_eq, rfl⟩ := eq_put_of_write writing
      rw [place_eq]
      cases fault? with
      | none => exact .written grown rfl printed_eq
      | some cause => exact .emptied grown rfl printed_eq fault_eq.symm

/-- Carrying out the plan for an example changes the file for the output, if any. -/
theorem examplePlan_fileEffect (settings : OutputSettings) (pattern : Text) (output : Option Text)
    (grown : HasGrownAt log? before after) (other : FileTree) (logged logged' : Text) :
    let plan := examplePlan settings pattern output
    FileEffect before log?
      ((Command.example pattern output).outputFile?.map fun file => before.placeOf (.ofText file))
      ((examplePlan settings pattern none).carryOut other logged')
      (plan.carryOut after logged).ending (plan.carryOut after logged).tree := by
  intro plan
  rcases examplePlan_cases settings pattern with
    ⟨fault, result_eq⟩ | ⟨fault, result_eq⟩ | ⟨text, result_eq⟩
  · simp only [plan, Plan.carryOut, result_eq]
    exact .of_code grown Nat.one_ne_zero
  · simp only [plan, Plan.carryOut, result_eq]
    exact .of_fault grown fun _ => RunFault.noConfusion
  · have printed_eq : ((examplePlan settings pattern none).carryOut other logged').output = text ∧
        ((examplePlan settings pattern none).carryOut other logged').ending = .finished 0 := by
      simp only [Plan.carryOut, result_eq]
      exact ⟨rfl, rfl⟩
    rcases output with _ | _ | ⟨point, rest⟩
    case none => exact (Plan.leavesFiles_of_report (result_eq _) rfl).fileEffect grown logged
    case some.nil => exact (Plan.leavesFiles_of_report (result_eq _) rfl).fileEffect grown logged
    case some.cons =>
      refine Plan.fileEffect_of_file (result_eq _) rfl ?_ printed_eq.2 grown logged
      rw [printed_eq.1]
      rfl

/-- Carrying out the plan of a command after the log file has grown. -/
theorem Command.plan_fileEffect (command : Command) (sources : Sources) (settings : Settings)
    (asJson isVerbose : Bool) (grown : HasGrownAt log? before after) (other : FileTree)
    (logged logged' : Text) :
    let plan := command.plan sources settings asJson isVerbose
    let printing := command.withoutOutput.plan sources settings asJson isVerbose
    FileEffect before log?
      (command.outputFile?.map fun file => before.placeOf (.ofText file))
      (printing.carryOut other logged') (plan.carryOut after logged).ending
      (plan.carryOut after logged).tree := by
  cases command with
  | «example» pattern output =>
      exact examplePlan_fileEffect settings.output pattern output grown other logged logged'
  | classify file => exact (classifyPlan_leavesFiles sources asJson file).fileEffect grown logged
  | validate file => exact (validatePlan_leavesFiles sources asJson file).fileEffect grown logged
  | patterns => exact (patternsPlan_leavesFiles asJson).fileEffect grown logged
  | serve host port =>
      exact (servePlan_leavesFiles settings isVerbose host port).fileEffect grown logged

end

namespace Surroundings

/-- A run with loaded settings has opened the log, if it can, when it carries out the
plan of its command. -/
theorem runCommand_fileEffect (surroundings : Surroundings) (settings : Settings)
    (command : Command) (asJson isVerbose : Bool) :
    let outcome := surroundings.runCommand settings command asJson isVerbose
    FileEffect surroundings.tree (settings.logging.place? surroundings.tree)
      (command.outputFile?.map fun file => surroundings.tree.placeOf (.ofText file))
      (surroundings.runCommand settings command.withoutOutput asJson isVerbose)
      outcome.ending outcome.tree := by
  intro outcome
  rcases surroundings.openLog_cases settings.logging isVerbose with
    ⟨fault, opened, notOfEncoding⟩ |
      ⟨file, after, file_eq, grown, ⟨fault, opened⟩ | ⟨threshold, opened⟩⟩
  · simp only [outcome, runCommand, opened]
    exact .of_fault (.refl _ _) notOfEncoding
  · simp only [outcome, runCommand, opened]
    exact .of_fault grown fun _ => RunFault.noConfusion
  · let log : Log := { threshold, file }
    have place_eq : log.file.map after.placeOf = settings.logging.place? surroundings.tree := by
      rw [← file_eq]
      exact congrArg (Option.map · file) (funext (placeOf_of_here_eq grown.here_eq))
    have writes : ∀ lines, HasGrownAt (settings.logging.place? surroundings.tree)
        surroundings.tree (log.write lines after) := by
      intro lines
      apply grown.trans
      rw [← place_eq]
      exact log.hasGrownAt_write lines after
    simp only [outcome, runCommand, opened]
    exact command.plan_fileEffect _ settings asJson isVerbose (writes _) _ _ _

/-- Without settings no file is touched. -/
theorem runInvocation_of_load_eq_error {surroundings : Surroundings} {invocation : Invocation}
    {fault : LoadFault} (asks : invocation.command.isSome = true)
    (load_eq : Settings.load surroundings.logLevel surroundings.tree
      (invocation.settingsFile.map Path.ofText) = .error fault) :
    (surroundings.runInvocation invocation).tree = surroundings.tree ∧
      (surroundings.runInvocation invocation).ending =
        if fault matches .missing _ then .finished 1 else .failed (.load fault) := by
  rcases Option.isSome_iff_exists.mp asks with ⟨command, command_eq⟩
  simp only [runInvocation, command_eq, load_eq]
  cases fault <;> exact ⟨rfl, rfl⟩

/-- What a run of an invocation has done to the files when it ends. -/
theorem runInvocation_fileEffect (surroundings : Surroundings) (invocation : Invocation) :
    let outcome := surroundings.runInvocation invocation
    FileEffect surroundings.tree (surroundings.logPlace? invocation)
      (surroundings.outputPlace? invocation)
      (surroundings.runInvocation invocation.withoutOutput) outcome.ending outcome.tree := by
  intro outcome
  cases command_eq : invocation.command with
  | none =>
      have outputPlace_eq : surroundings.outputPlace? invocation = none := by
        simp only [outputPlace?, command_eq, Option.bind_none, Option.map_none]
      rw [outputPlace_eq]
      simp only [outcome, runInvocation, command_eq]
      exact .logged (.refl _ _) (fun _ => rfl) fun _ => Ending.noConfusion
  | some command =>
      cases load_eq : Settings.load surroundings.logLevel surroundings.tree
          (invocation.settingsFile.map Path.ofText) with
      | ok settings =>
          have effect := surroundings.runCommand_fileEffect settings command invocation.asJson
            invocation.isVerbose
          simpa only [outcome, runInvocation, Invocation.withoutOutput, logPlace?, outputPlace?,
            command_eq, load_eq, Option.bind_some, Option.map_some] using effect
      | error fault =>
          rcases runInvocation_of_load_eq_error (by rw [command_eq]; rfl) load_eq with
            ⟨tree_eq, ending_eq⟩
          rw [show outcome.tree = surroundings.tree from tree_eq,
            show outcome.ending = _ from ending_eq]
          cases fault with
          | missing path => exact .of_code (.refl _ _) Nat.one_ne_zero
          | file | yaml | settings => exact .of_fault (.refl _ _) fun _ => RunFault.noConfusion

end Surroundings

/-! ## What effects leave behind -/

namespace FileEffect

variable {before after : FileTree} {log? output? : Option FilePlace} {printed : Outcome}
  {ending : Ending} {place : FilePlace}

theorem here_eq (effect : FileEffect before log? output? printed ending after) :
    after.here = before.here := by
  cases effect with
  | logged grown _ _ => exact grown.here_eq
  | written grown _ _ => exact grown.here_eq
  | emptied grown _ _ _ => exact grown.here_eq

theorem folders_eq (effect : FileEffect before log? output? printed ending after) :
    after.folders = before.folders := by
  cases effect with
  | logged grown _ _ => exact grown.folders_eq
  | written grown _ _ => exact grown.folders_eq
  | emptied grown _ _ _ => exact grown.folders_eq

/-- Away from the file for the output, there is at most the growth of the log file. -/
theorem exists_grown (effect : FileEffect before log? output? printed ending after) :
    ∃ middle, HasGrownAt log? before middle ∧
      ∀ place, place ∉ output? → after.content? place = middle.content? place := by
  have put_eq : ∀ {middle : FileTree} {place content}, output? = some place →
      ∀ other, other ∉ output? →
        (middle.put place content).content? other = middle.content? other := by
    rintro middle place content rfl other elsewhere
    rw [content?_put, if_neg fun other_eq => elsewhere (by rw [other_eq]; rfl)]
  cases effect with
  | logged grown _ _ => exact ⟨after, grown, fun _ _ => rfl⟩
  | written grown output_eq _ => exact ⟨_, grown, put_eq output_eq⟩
  | emptied grown output_eq _ _ => exact ⟨_, grown, put_eq output_eq⟩

theorem others_eq (effect : FileEffect before log? output? printed ending after)
    (notLog : place ∉ log?) (notOutput : place ∉ output?) :
    after.content? place = before.content? place := by
  rcases effect.exists_grown with ⟨middle, grown, output_eq⟩
  exact (output_eq place notOutput).trans (grown.others_eq place notLog)

theorem log_grown (effect : FileEffect before log? output? printed ending after)
    (isLog : place ∈ log?) (notOutput : place ∉ output?) :
    HasGrown (before.content? place) (after.content? place) := by
  rcases effect.exists_grown with ⟨middle, grown, output_eq⟩
  rw [output_eq place notOutput]
  exact grown.grown place isLog

theorem unfinished (effect : FileEffect before log? output? printed ending after)
    (notLog : place ∉ log?) (notDone : ending ≠ .finished 0)
    (elsewhere : ∀ cause, ending ≠ .failed (.encoding cause)) :
    after.content? place = before.content? place := by
  cases effect with
  | logged grown _ _ => exact grown.others_eq place notLog
  | written _ _ _ => exact absurd rfl notDone
  | emptied _ _ _ _ => exact absurd rfl (elsewhere _)

theorem unencoded (effect : FileEffect before log? output? printed ending after)
    (isOutput : place ∈ output?) {cause : EncodingFault}
    (failed : ending = .failed (.encoding cause)) :
    after.content? place = some [] ∧ printed.ending = .finished 0 ∧
      printed.output.contentFault? = some cause := by
  cases effect with
  | logged _ _ elsewhere => exact absurd failed (elsewhere cause)
  | written _ _ _ => cases failed
  | emptied _ output_eq printed_eq fault_eq =>
      obtain rfl := Option.some.inj (output_eq.symm.trans isOutput)
      cases failed
      rw [content?_put, if_pos rfl]
      exact ⟨rfl, printed_eq, fault_eq⟩

theorem finished (effect : FileEffect before log? output? printed ending after)
    (isOutput : place ∈ output?) (done : ending = .finished 0) :
    printed.ending = .finished 0 ∧ after.content? place = some printed.output := by
  cases effect with
  | logged _ unnamed _ => cases (unnamed done).symm.trans isOutput
  | written _ output_eq printed_eq =>
      obtain rfl := Option.some.inj (output_eq.symm.trans isOutput)
      rw [content?_put, if_pos rfl]
      exact ⟨printed_eq, rfl⟩
  | emptied _ _ _ _ => cases done

end FileEffect

/-! ## Settings that are missing -/

theorem FileTree.problem_of_has_eq_error {tree : FileTree} {path : Path} {fault : FileFault}
    (has_eq : tree.has path = .error fault) : fault.problem = .longName := by
  unfold FileTree.has at has_eq
  split at has_eq <;> cases has_eq
  rfl

namespace Settings

variable {environment : Option Text} {tree : FileTree} {path : Path}

theorem load_of_has_eq_false (has_eq : tree.has path = .ok false) :
    load environment tree (some path) = .error (.missing path) := by
  simp only [load, Option.some_or, ofFile, has_eq]
  rfl

theorem load_of_has_eq_error {fault : FileFault} (has_eq : tree.has path = .error fault) :
    load environment tree (some path) = .error (.file fault) := by
  simp only [load, Option.some_or, ofFile, has_eq]
  rfl

end Settings

/-! ## Effects -/

namespace Surroundings

/-- Which files a run of an invocation has left as they were, and what it has made of the
others. -/
structure KeepsFiles (surroundings : Surroundings) (invocation : Invocation)
    (outcome : Outcome) : Prop where
  here_eq : outcome.tree.here = surroundings.tree.here
  folders_eq : outcome.tree.folders = surroundings.tree.folders
  /-- Other files than the log file and the file for the output are not changed. -/
  others_eq : ∀ place, place ∉ surroundings.logPlace? invocation →
    place ∉ surroundings.outputPlace? invocation →
      outcome.tree.content? place = surroundings.tree.content? place
  log_grown : ∀ place ∈ surroundings.logPlace? invocation,
    HasGrown (surroundings.tree.content? place) (outcome.tree.content? place)
  /-- A run that does not reach its end leaves the file for the output alone. -/
  unfinished : ∀ place ∈ surroundings.outputPlace? invocation, outcome.ending ≠ .finished 0 →
    (∀ cause, outcome.ending ≠ .failed (.encoding cause)) →
      outcome.tree.content? place = surroundings.tree.content? place
  /-- A run that cannot encode what the same command line prints without the file leaves the
  file empty. -/
  unencoded : ∀ place ∈ surroundings.outputPlace? invocation, ∀ cause,
    outcome.ending = .failed (.encoding cause) →
      outcome.tree.content? place = some [] ∧
        ∀ others, invocation.IsGivenWithoutOutput others →
          (surroundings.run others).ending = .finished 0 ∧
            (surroundings.run others).output.contentFault? = some cause
  /-- The file holds what the same command line prints without it. -/
  finished : ∀ place ∈ surroundings.outputPlace? invocation, outcome.ending = .finished 0 →
    ∀ others, invocation.IsGivenWithoutOutput others →
      (surroundings.run others).ending = .finished 0 ∧
        outcome.tree.content? place = some (surroundings.run others).output
  /-- There is such a command line. -/
  exists_others : (surroundings.outputPlace? invocation).isSome = true →
    ∃ others, invocation.IsGivenWithoutOutput others

variable {surroundings : Surroundings} {invocation : Invocation}

theorem run_eq_runInvocation {arguments : List Text}
    (arguments_eq : Invocation.ofArguments arguments = .ok invocation) :
    surroundings.run arguments = surroundings.runInvocation invocation := by
  simp only [run, arguments_eq]

theorem exists_isGivenWithoutOutput
    (names : (surroundings.outputPlace? invocation).isSome = true) :
    ∃ others, invocation.IsGivenWithoutOutput others := by
  rcases invocation with ⟨settingsFile, asJson, isVerbose, command?⟩
  rcases command? with _ | _ | _ | ⟨pattern, output⟩ | _ | _
  case some.example =>
    exact ⟨_, Invocation.ofArguments_fullCommandLine settingsFile isVerbose asJson (by decide)
      (Command.read_example pattern)⟩
  all_goals cases names

theorem runInvocation_keepsFiles
    (apart : ∀ place ∈ surroundings.logPlace? invocation,
      place ∉ surroundings.outputPlace? invocation) :
    surroundings.KeepsFiles invocation (surroundings.runInvocation invocation) := by
  have effect := surroundings.runInvocation_fileEffect invocation
  have notLog : ∀ place ∈ surroundings.outputPlace? invocation,
      place ∉ surroundings.logPlace? invocation :=
    fun place isOutput isLog => apart place isLog isOutput
  have run_eq : ∀ others, invocation.IsGivenWithoutOutput others →
      surroundings.run others = surroundings.runInvocation invocation.withoutOutput :=
    fun others => run_eq_runInvocation
  exact
    { here_eq := effect.here_eq
      folders_eq := effect.folders_eq
      others_eq := fun place notLog notOutput => effect.others_eq notLog notOutput
      log_grown := fun place isLog => effect.log_grown isLog (apart place isLog)
      unfinished := fun place isOutput => effect.unfinished (notLog place isOutput)
      unencoded := fun place isOutput cause failed => by
        rcases effect.unencoded isOutput failed with ⟨content_eq, printed⟩
        refine ⟨content_eq, fun others without => ?_⟩
        rw [run_eq others without]
        exact printed
      finished := fun place isOutput done others without => by
        rw [run_eq others without]
        exact effect.finished isOutput done
      exists_others := exists_isGivenWithoutOutput }

/-- Surroundings with settings, and with a file from before. -/
def withSettings (settings : Text) : Surroundings :=
  { tree := { files := [(["patterns.yaml"], settings), (["out.json"], "old\n")] } }

/-- Surroundings in which everything is logged to a file. -/
def loggingSample : Surroundings :=
  withSettings "logging:\n  level: debug\n  file: run.log\n"

/-- Surroundings in which documents are laid out with half of a surrogate pair. -/
def halfIndentSample : Surroundings :=
  withSettings "output:\n  indent: \"\\ud800\"\n"

/-- The arguments that have an example written to a file. -/
def exampleArguments : List Text :=
  ["example", "PROVIDE_ACCESS", "-o", "out.json"]

/-- What these arguments ask for. -/
def exampleInvocation : Invocation :=
  { command := some (.example "PROVIDE_ACCESS" (some "out.json")) }

end Surroundings

end UsageContracts
