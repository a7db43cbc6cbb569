import UsageContracts.CommandLine.Run
import UsageContracts.Proofs.Files.Places
import UsageContracts.Proofs.Outcome

/-!
# What the steps of a run do to files

Opening the log and writing to it makes one file grow.  Of the plans of commands, only
those for examples write a file.
-/

namespace UsageContracts

open FileTree Outcome

/-! ## The files for logs and output -/

namespace Command

/-- The file for the output of an example, if one is named. -/
def outputFile? : Command → Option Text
  | .example _ (some file) => if file.isEmpty then none else some file
  | _ => none

/-- The same command without a file for the output. -/
def withoutOutput : Command → Command
  | .example pattern _ => .example pattern none
  | command => command

end Command

/-- The place of the log file, if the settings name one. -/
def LoggingSettings.place? (settings : LoggingSettings) (tree : FileTree) : Option FilePlace :=
  match settings.filePath with
  | .ok path? => (path?.map (Path.absolute tree.here)).map tree.placeOf
  | .error _ => none

/-! ## Logs -/

/-- Whether a fault is not that a text cannot be encoded. -/
def RunFault.IsNotOfEncoding (fault : RunFault) : Prop :=
  ∀ cause, fault ≠ .encoding cause

theorem LoggingSettings.isNotOfEncoding_of_filePath {settings : LoggingSettings} {fault : RunFault}
    (filePath_eq : settings.filePath = .error fault) : fault.IsNotOfEncoding := by
  rintro cause rfl
  unfold filePath at filePath_eq
  split at filePath_eq
  · cases filePath_eq
  · split at filePath_eq <;> cases filePath_eq

theorem Log.hasGrownAt_write (log : Log) (lines : Text) (tree : FileTree) :
    HasGrownAt (log.file.map tree.placeOf) tree (log.write lines tree) := by
  unfold Log.write
  split
  · exact .refl _ tree
  · next path file_eq =>
      rw [file_eq]
      split
      · next appended => exact .append appended
      · exact .refl _ tree

namespace Surroundings

variable {surroundings : Surroundings}

theorem hasGrownAt_withLogFile {path? : Option Path} {after : FileTree}
    (opened : surroundings.withLogFile path? = .ok after) :
    HasGrownAt (path?.map surroundings.tree.placeOf) surroundings.tree after := by
  cases path? with
  | none =>
      cases opened
      exact .refl none _
  | some path => exact .append (mapError_eq_ok_iff.mp opened)

theorem isNotOfEncoding_of_withLogFile {path? : Option Path} {fault : RunFault}
    (failed : surroundings.withLogFile path? = .error fault) : fault.IsNotOfEncoding := by
  cases path? with
  | none => cases failed
  | some path =>
      rcases mapError_eq_error_iff.mp failed with ⟨cause, -, rfl⟩
      intro other
      exact RunFault.noConfusion

/-- How the log is opened: it is refused with no file touched, or the log file is there
and has grown. -/
theorem openLog_cases (surroundings : Surroundings) (settings : LoggingSettings)
    (isVerbose : Bool) :
    (∃ fault, surroundings.openLog settings isVerbose = (surroundings.tree, .error fault) ∧
      fault.IsNotOfEncoding) ∨
    ∃ file after,
      file.map surroundings.tree.placeOf = settings.place? surroundings.tree ∧
        HasGrownAt (settings.place? surroundings.tree) surroundings.tree after ∧
        ((∃ fault, surroundings.openLog settings isVerbose = (after, .error (.threshold fault))) ∨
          ∃ threshold, surroundings.openLog settings isVerbose =
            (after, .ok { threshold, file })) := by
  unfold openLog
  cases settings.levelName isVerbose with
  | error fault => exact .inl ⟨_, rfl, fun _ => RunFault.noConfusion⟩
  | ok level =>
      cases path_eq : settings.filePath with
      | error fault => exact .inl ⟨fault, rfl, LoggingSettings.isNotOfEncoding_of_filePath path_eq⟩
      | ok path? =>
          have place_eq : settings.place? surroundings.tree =
              (path?.map (Path.absolute surroundings.tree.here)).map surroundings.tree.placeOf := by
            simp only [LoggingSettings.place?, path_eq]
          cases opened : surroundings.withLogFile
              (path?.map (Path.absolute surroundings.tree.here)) with
          | error fault =>
              refine .inl ⟨fault, ?_, isNotOfEncoding_of_withLogFile opened⟩
              simp [opened]
          | ok after =>
              refine .inr ⟨_, after, place_eq.symm, place_eq ▸ hasGrownAt_withLogFile opened, ?_⟩
              cases level with
              | level threshold => exact .inr ⟨threshold, by simp [opened]⟩
              | noLevel fault => exact .inl ⟨fault, by simp [opened]⟩

end Surroundings

/-! ## Plans -/

/-- Whether a plan writes no file and does not fail for a text that cannot be encoded. -/
structure Plan.LeavesFiles (plan : Plan) : Prop where
  file_eq_none : ∀ report, plan.result = .ok report → report.file = none
  isNotOfEncoding : ∀ fault, plan.result = .error fault → fault.IsNotOfEncoding

namespace Plan

variable {plan : Plan}

theorem leavesFiles_of_report {report : Report} (result_eq : plan.result = .ok report)
    (file_eq : report.file = none) : plan.LeavesFiles where
  file_eq_none other other_eq := by
    cases result_eq.symm.trans other_eq
    exact file_eq
  isNotOfEncoding fault fault_eq := by
    cases result_eq.symm.trans fault_eq

theorem leavesFiles_of_fault {fault : RunFault} (result_eq : plan.result = .error fault)
    (notOfEncoding : fault.IsNotOfEncoding) : plan.LeavesFiles where
  file_eq_none report report_eq := by
    cases result_eq.symm.trans report_eq
  isNotOfEncoding other other_eq := by
    cases result_eq.symm.trans other_eq
    exact notOfEncoding

theorem leavesFiles_ofFault (fault : DocumentFault) {report : Text → Report}
    (file_eq : (report fault.message).file = none) : (ofFault fault report).LeavesFiles := by
  unfold ofFault
  cases fault.isReported with
  | true => exact leavesFiles_of_report rfl file_eq
  | false => exact leavesFiles_of_fault rfl fun _ => RunFault.noConfusion

/-- A plan that leaves the files leaves them when it is carried out. -/
theorem LeavesFiles.carryOut (leaves : plan.LeavesFiles) (tree : FileTree)
    (logged : Text) :
    (plan.carryOut tree logged).tree = tree ∧
      ∀ cause, (plan.carryOut tree logged).ending ≠ .failed (.encoding cause) := by
  unfold Plan.carryOut
  cases result_eq : plan.result with
  | error fault =>
      refine ⟨rfl, fun cause ending_eq => ?_⟩
      exact leaves.isNotOfEncoding fault result_eq cause (Ending.failed.inj ending_eq)
  | ok report =>
      simp only [leaves.file_eq_none report result_eq]
      exact ⟨trivial, fun cause => Ending.noConfusion⟩

end Plan

theorem classifyPlan_leavesFiles (sources : Sources) (asJson : Bool) (file : Text) :
    (classifyPlan sources asJson file).LeavesFiles := by
  unfold classifyPlan
  cases sources.policy file with
  | error fault => exact Plan.leavesFiles_ofFault fault rfl
  | ok policy => exact Plan.leavesFiles_of_report rfl rfl

theorem validatePlan_leavesFiles (sources : Sources) (asJson : Bool) (file : Text) :
    (validatePlan sources asJson file).LeavesFiles := by
  unfold validatePlan
  cases sources.policy file with
  | error fault => exact Plan.leavesFiles_ofFault fault rfl
  | ok policy => exact Plan.leavesFiles_of_report rfl rfl

theorem servePlan_leavesFiles (settings : Settings) (isVerbose : Bool) (host : Option Text)
    (port : Option Int) : (servePlan settings isVerbose host port).LeavesFiles := by
  simp only [servePlan]
  cases (settings.override isVerbose host port).review with
  | error fault => exact Plan.leavesFiles_of_fault rfl fun _ => RunFault.noConfusion
  | ok problems =>
      cases problems with
      | nil => exact Plan.leavesFiles_of_report rfl rfl
      | cons problem problems => exact Plan.leavesFiles_of_report rfl rfl

theorem patternsPlan_leavesFiles (asJson : Bool) : (patternsPlan asJson).LeavesFiles :=
  Plan.leavesFiles_of_report rfl rfl

/-- What an example comes to does not depend on where it goes. -/
theorem examplePlan_cases (settings : OutputSettings) (name : Text) :
    (∃ fault, ∀ output,
      (examplePlan settings name output).result = .ok (unknownPatternReport fault)) ∨
    (∃ fault, ∀ output, (examplePlan settings name output).result = .error (.indent fault)) ∨
    ∃ text, ∀ output,
      (examplePlan settings name output).result = .ok (exampleReport text output) := by
  simp only [examplePlan]
  cases Pattern.resolve name with
  | error fault => exact .inl ⟨fault, fun _ => rfl⟩
  | ok pattern =>
      simp only
      cases pattern.example? with
      | none => exact .inl ⟨_, fun _ => rfl⟩
      | some policy =>
          simp only
          cases Layout.ofValue settings.indent with
          | error fault => exact .inr (.inl ⟨fault, fun _ => rfl⟩)
          | ok layout => exact .inr (.inr ⟨_, fun _ => rfl⟩)

end UsageContracts
