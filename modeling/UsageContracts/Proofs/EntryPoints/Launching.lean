import UsageContracts.Proofs.CommandLine.Steps
import UsageContracts.Proofs.Settings.Review

/-!
# Launching the service

The service is launched only by a run of its command, with the settings that have been
loaded and changed by the command line, and only if they are usable.  A run that reviews
settings it cannot use tells of them instead.
-/

namespace UsageContracts

open Outcome

/-! ## Plans -/

/-- Whether no report of a plan launches the service. -/
def Plan.LaunchesNothing (plan : Plan) : Prop :=
  ∀ report, plan.result = .ok report → report.launch = none

namespace Plan

variable {plan : Plan}

theorem launchesNothing_of_report {report : Report} (result_eq : plan.result = .ok report)
    (launch_eq : report.launch = none) : plan.LaunchesNothing := by
  intro other other_eq
  cases result_eq.symm.trans other_eq
  exact launch_eq

theorem launchesNothing_of_fault {fault : RunFault} (result_eq : plan.result = .error fault) :
    plan.LaunchesNothing := by
  intro report report_eq
  cases result_eq.symm.trans report_eq

theorem launchesNothing_ofFault (fault : DocumentFault) {report : Text → Report}
    (launch_eq : (report fault.message).launch = none) :
    (ofFault fault report).LaunchesNothing := by
  unfold ofFault
  cases fault.isReported with
  | true => exact launchesNothing_of_report rfl launch_eq
  | false => exact launchesNothing_of_fault rfl

theorem LaunchesNothing.carryOut (launchesNothing : plan.LaunchesNothing) (tree : FileTree)
    (logged : Text) : (plan.carryOut tree logged).launch = none := by
  unfold Plan.carryOut
  split
  · rfl
  · next report result_eq =>
      have launch_eq := launchesNothing report result_eq
      simp only
      split
      · exact launch_eq
      · split
        · exact launch_eq
        · rfl
        · rfl

end Plan

theorem classifyPlan_launchesNothing (sources : Sources) (asJson : Bool) (file : Text) :
    (classifyPlan sources asJson file).LaunchesNothing := by
  unfold classifyPlan
  cases sources.policy file with
  | error fault => exact Plan.launchesNothing_ofFault fault rfl
  | ok policy => exact Plan.launchesNothing_of_report rfl rfl

theorem validatePlan_launchesNothing (sources : Sources) (asJson : Bool) (file : Text) :
    (validatePlan sources asJson file).LaunchesNothing := by
  unfold validatePlan
  cases sources.policy file with
  | error fault => exact Plan.launchesNothing_ofFault fault rfl
  | ok policy => exact Plan.launchesNothing_of_report rfl rfl

theorem examplePlan_launchesNothing (settings : OutputSettings) (name : Text)
    (output : Option Text) : (examplePlan settings name output).LaunchesNothing := by
  rcases examplePlan_cases settings name with
    ⟨fault, result_eq⟩ | ⟨fault, result_eq⟩ | ⟨text, result_eq⟩
  · exact Plan.launchesNothing_of_report (result_eq output) rfl
  · exact Plan.launchesNothing_of_fault (result_eq output)
  · refine Plan.launchesNothing_of_report (result_eq output) ?_
    unfold exampleReport
    split <;> rfl

theorem patternsPlan_launchesNothing (asJson : Bool) : (patternsPlan asJson).LaunchesNothing :=
  Plan.launchesNothing_of_report rfl rfl

theorem Command.plan_launchesNothing {command : Command}
    (other : ∀ host port, command ≠ .serve host port) (sources : Sources) (settings : Settings)
    (asJson isVerbose : Bool) :
    (command.plan sources settings asJson isVerbose).LaunchesNothing := by
  cases command with
  | classify file => exact classifyPlan_launchesNothing sources asJson file
  | validate file => exact validatePlan_launchesNothing sources asJson file
  | «example» pattern output => exact examplePlan_launchesNothing settings.output pattern output
  | patterns => exact patternsPlan_launchesNothing asJson
  | serve host port => exact absurd rfl (other host port)

/-! ## Final settings -/

namespace Settings

/-- How the service is launched with settings. -/
structure IsLaunchedAs (settings : Settings) (launch : Launch) : Prop where
  host_eq : launch.host = settings.service.host
  port_eq : launch.port = settings.service.port
  level_eq : launch.level = settings.logging.level
  isDebugging_iff : launch.isDebugging = true ↔ settings.logging.level = .scalar (.text "debug")
  origins_iff : ∀ origins, launch.origins = some origins ↔
    settings.service.allowsOrigins.layer.isTruthy = true ∧
      settings.service.origins.layer.isTruthy = true ∧ origins = settings.service.origins

theorem isLaunchedAs_launch (settings : Settings) :
    settings.IsLaunchedAs settings.launch where
  host_eq := rfl
  port_eq := rfl
  level_eq := rfl
  isDebugging_iff := by
    show Value.view.isText "debug" settings.logging.level = true ↔ _
    cases settings.logging.level with
    | scalar content => cases content <;> simp [View.isText, Value.view, Value.layer]
    | _ => simp [View.isText, Value.view, Value.layer]
  origins_iff origins := by
    show (if _ then _ else none) = some origins ↔ _
    rw [Option.ite_none_right_eq_some, Option.some.injEq, Bool.and_eq_true, and_assoc,
      eq_comm (a := origins)]

theorem port_override (settings : Settings) (isVerbose : Bool) (host : Option Text)
    (number : Int) : (settings.override isVerbose host (some number)).service.port =
      if number = 0 then settings.service.port else .scalar (.integer number) := by
  by_cases isZero : number = 0
  · subst isZero
    rcases host with _ | _ | _ <;> rfl
  · rw [if_neg isZero]
    simp only [override]

theorem host_override (settings : Settings) (isVerbose : Bool) (name : Text)
    (port : Option Int) : (settings.override isVerbose (some name) port).service.host =
      if name = [] then settings.service.host else .scalar (.text name) := by
  unfold override
  simp only
  cases name with
  | nil => split <;> rfl
  | cons point name => split <;> rfl

end Settings

/-! ## Reviews before launching -/

/-- What is told of the problems with settings. -/
def problemReport (problems : List SettingsProblem) : Text :=
  line "Configuration errors:" ++
    (problems.map fun problem => line ("  - " ++ problem.message)).flatten

/-- What a run comes to that has reviewed the settings for the service. -/
inductive ServeOutcome (settings : Settings) : Outcome → Prop
  | failed {fault : ReviewFault} {tree : FileTree} : settings.review = .error fault →
      ServeOutcome settings { ending := .failed (.review fault), tree }
  | refused {problems : List SettingsProblem} {tree : FileTree} :
      settings.review = .ok problems → problems ≠ [] →
      ServeOutcome settings { ending := .finished 1, errors := problemReport problems, tree }
  | launched {tree : FileTree} : settings.review = .ok [] →
      ServeOutcome settings { ending := .finished 0, tree, launch := some settings.launch }

theorem servePlan_outcome (settings : Settings) (isVerbose : Bool) (host : Option Text)
    (port : Option Int) (tree : FileTree) :
    ServeOutcome (settings.override isVerbose host port)
      ((servePlan settings isVerbose host port).carryOut tree []) := by
  simp only [servePlan, Plan.carryOut]
  cases review_eq : (settings.override isVerbose host port).review with
  | error fault => exact .failed review_eq
  | ok problems =>
      cases problems with
      | nil => exact .launched review_eq
      | cons problem problems => exact .refused review_eq (List.cons_ne_nil _ _)

/-! ## Runs -/

namespace Surroundings

/-- Whether a run gets as far as reviewing settings for the service: its command line asks
for the service, the settings are loaded, and the log is open. -/
structure Serves (surroundings : Surroundings) (arguments : List Text) (invocation : Invocation)
    (host : Option Text) (port : Option Int) (settings : Settings) : Prop where
  arguments_eq : Invocation.ofArguments arguments = .ok invocation
  command_eq : invocation.command = some (.serve host port)
  settings_eq : Settings.load surroundings.logLevel surroundings.tree
    (invocation.settingsFile.map Path.ofText) = .ok settings
  exists_log : ∃ tree log,
    surroundings.openLog settings.logging invocation.isVerbose = (tree, .ok log)

variable {surroundings : Surroundings} {arguments : List Text} {invocation : Invocation}
  {host : Option Text} {port : Option Int} {settings : Settings} {launch : Launch}

theorem Serves.outcome (serves : surroundings.Serves arguments invocation host port settings) :
    ServeOutcome (settings.override invocation.isVerbose host port)
      (surroundings.run arguments) := by
  obtain ⟨tree, log, log_eq⟩ := serves.exists_log
  simp only [run, serves.arguments_eq, runInvocation, serves.command_eq, serves.settings_eq,
    runCommand, log_eq]
  exact servePlan_outcome settings invocation.isVerbose host port _

/-- A command that launches the service is the one for it, and the log is open. -/
theorem exists_serve_of_runCommand {command : Command} {asJson isVerbose : Bool}
    (launch_eq : (surroundings.runCommand settings command asJson isVerbose).launch =
      some launch) :
    (∃ host port, command = .serve host port) ∧
      ∃ tree log, surroundings.openLog settings.logging isVerbose = (tree, .ok log) := by
  unfold runCommand at launch_eq
  rcases opened_eq : surroundings.openLog settings.logging isVerbose with ⟨tree, fault | log⟩
  · rw [opened_eq] at launch_eq
    cases launch_eq
  · refine ⟨?_, tree, log, rfl⟩
    cases command with
    | serve host port => exact ⟨host, port, rfl⟩
    | _ =>
        rw [opened_eq] at launch_eq
        cases ((Command.plan_launchesNothing (by simp) _ _ _ _).carryOut _ _).symm.trans launch_eq

/-- Only a run that gets as far as reviewing settings launches the service. -/
theorem exists_serves_of_launch (launch_eq : (surroundings.run arguments).launch = some launch) :
    ∃ invocation host port settings,
      surroundings.Serves arguments invocation host port settings := by
  unfold run at launch_eq
  split at launch_eq
  case h_2 | h_3 => cases launch_eq
  next invocation arguments_eq =>
    unfold runInvocation at launch_eq
    split at launch_eq
    · cases launch_eq
    · next command command_eq =>
        simp only at launch_eq
        split at launch_eq
        case h_2 | h_3 => cases launch_eq
        next settings settings_eq =>
          obtain ⟨⟨host, port, rfl⟩, exists_log⟩ := exists_serve_of_runCommand launch_eq
          exact ⟨invocation, host, port, settings, arguments_eq, command_eq, settings_eq,
            exists_log⟩

/-- The service is launched with the final settings, which are usable. -/
theorem Serves.eq_launch (serves : surroundings.Serves arguments invocation host port settings)
    (launch_eq : (surroundings.run arguments).launch = some launch) :
    (settings.override invocation.isVerbose host port).IsUsable ∧
      launch = (settings.override invocation.isVerbose host port).launch := by
  have outcome := serves.outcome
  generalize surroundings.run arguments = result at outcome launch_eq
  cases outcome with
  | failed _ => cases launch_eq
  | refused _ _ => cases launch_eq
  | launched review_eq =>
      exact ⟨Settings.review_eq_ok_nil_iff.mp review_eq, (Option.some.inj launch_eq).symm⟩

theorem Serves.launch_of_isUsable
    (serves : surroundings.Serves arguments invocation host port settings)
    (usable : (settings.override invocation.isVerbose host port).IsUsable) :
    (surroundings.run arguments).launch =
      some (settings.override invocation.isVerbose host port).launch := by
  have review_eq := Settings.review_eq_ok_nil_iff.mpr usable
  have outcome := serves.outcome
  generalize surroundings.run arguments = result at outcome
  cases outcome with
  | failed failed => cases review_eq.symm.trans failed
  | refused found notNil => exact (notNil (Except.ok.inj (found.symm.trans review_eq))).elim
  | launched _ => rfl

/-- A run that returns without launching the service has told of all problems. -/
theorem Serves.refused (serves : surroundings.Serves arguments invocation host port settings)
    {code : Nat} (returned : (surroundings.run arguments).ending = .finished code)
    (launch_eq : (surroundings.run arguments).launch = none) :
    code = 1 ∧ (surroundings.run arguments).output = [] ∧
      ∃ problems, (settings.override invocation.isVerbose host port).Finds problems ∧
        problems ≠ [] ∧ (surroundings.run arguments).errors = problemReport problems := by
  have outcome := serves.outcome
  generalize surroundings.run arguments = result at outcome returned launch_eq
  cases outcome with
  | failed _ => cases returned
  | @refused problems _ review_eq notNil =>
      cases returned
      exact ⟨rfl, rfl, problems, Settings.finds_of_review review_eq, notNil, rfl⟩
  | launched _ => cases launch_eq

/-- Where there are no files, a command for the service reviews the default settings. -/
theorem serves_default (arguments_eq : Invocation.ofArguments arguments = .ok invocation)
    (command_eq : invocation.command = some (.serve host port))
    (settingsFile_eq : invocation.settingsFile = none) :
    Serves {} arguments invocation host port (.default none) where
  arguments_eq := arguments_eq
  command_eq := command_eq
  settings_eq := by
    have notFound : Settings.usualPaths.find? (Settings.isThere {}) = none := by
      decide +kernel
    rw [settingsFile_eq, Settings.load, Option.map_none, Option.none_or, notFound]
  exists_log := by
    cases invocation.isVerbose <;> exact ⟨_, _, rfl⟩

/-- The service is launched only for its command and only with usable settings: those that
have been loaded, with the changes of the command line.  A run that has opened the log and
returns without launching the service tells of each setting that is not usable. -/
theorem launched_only_if_usable (surroundings : Surroundings) (arguments : List Text) :
    (∀ launch, (surroundings.run arguments).launch = some launch →
      ∃ invocation host port settings,
        surroundings.Serves arguments invocation host port settings ∧
          (settings.override invocation.isVerbose host port).IsUsable ∧
          (settings.override invocation.isVerbose host port).IsLaunchedAs launch) ∧
    ∀ invocation host port settings,
      surroundings.Serves arguments invocation host port settings →
        ((settings.override invocation.isVerbose host port).IsUsable →
          ∃ launch, (surroundings.run arguments).launch = some launch) ∧
        ∀ code, (surroundings.run arguments).ending = .finished code →
          (surroundings.run arguments).launch = none →
            code = 1 ∧ (surroundings.run arguments).output = [] ∧
              ∃ problems, (settings.override invocation.isVerbose host port).Finds problems ∧
                problems ≠ [] ∧ (surroundings.run arguments).errors = problemReport problems := by
  refine ⟨fun launch launch_eq => ?_, fun invocation host port settings serves => ⟨?_, ?_⟩⟩
  · obtain ⟨invocation, host, port, settings, serves⟩ := exists_serves_of_launch launch_eq
    obtain ⟨usable, rfl⟩ := serves.eq_launch launch_eq
    exact ⟨invocation, host, port, settings, serves, usable, Settings.isLaunchedAs_launch _⟩
  · intro usable
    exact ⟨_, serves.launch_of_isUsable usable⟩
  · intro code returned launch_eq
    exact serves.refused returned launch_eq

/-- A verbose run that launches the service, and one that tells of a port. -/
theorem launched_only_if_usable_of_samples :
    (∃ launch, (run {} ["-v", "serve"]).launch = some launch ∧
      launch.isDebugging = true ∧ launch.port.IsPortNumber) ∧
    ∃ problems, problems ≠ [] ∧
      (run {} ["serve", "--port", "70000"]).errors = problemReport problems := by
  have arguments_eq : Invocation.ofArguments ["-v", "serve"] =
      .ok { isVerbose := true, command := some (.serve none none) } := by
    decide +kernel
  have wide_eq : Invocation.ofArguments ["serve", "--port", "70000"] =
      .ok { command := some (.serve none (some 70000)) } := by
    decide +kernel
  constructor
  · have serves := serves_default arguments_eq rfl rfl
    have usable : ((Settings.default none).override true none none).IsUsable :=
      Settings.review_eq_ok_nil_iff.mp rfl
    obtain ⟨launch, launch_eq⟩ :=
      ((launched_only_if_usable {} ["-v", "serve"]).2 _ _ _ _ serves).1 usable
    obtain ⟨invocation, host, port, settings, others, final, launched⟩ :=
      (launched_only_if_usable {} ["-v", "serve"]).1 launch launch_eq
    cases Except.ok.inj (arguments_eq.symm.trans others.arguments_eq)
    refine ⟨launch, launch_eq, launched.isDebugging_iff.mpr rfl, ?_⟩
    rw [launched.port_eq]
    exact final.port
  · have returned : (run {} ["serve", "--port", "70000"]).ending = .finished 1 := by
      decide +kernel
    have launch_isNone : (run {} ["serve", "--port", "70000"]).launch.isNone = true := by
      decide +kernel
    obtain ⟨-, -, problems, -, notNil, errors_eq⟩ :=
      ((launched_only_if_usable {} ["serve", "--port", "70000"]).2 _ _ _ _
        (serves_default wide_eq rfl rfl)).2 1 returned (Option.isNone_iff_eq_none.mp launch_isNone)
    exact ⟨problems, notNil, errors_eq⟩

/-! ### Options -/

/-- A port on the command line is that of the service, and one that no port can have keeps
the service from being launched, but for the port zero, which is taken for none.  Likewise a
host on the command line is that of the service unless it is empty. -/
theorem launched_as_asked_unless_void (surroundings : Surroundings)
    (arguments_eq : Invocation.ofArguments arguments = .ok invocation)
    (command_eq : invocation.command = some (.serve host port)) :
    (∀ launch, (surroundings.run arguments).launch = some launch →
      ∃ settings, Settings.load surroundings.logLevel surroundings.tree
          (invocation.settingsFile.map Path.ofText) = .ok settings ∧
        (∀ number ∈ port, launch.port =
          if number = 0 then settings.service.port else .scalar (.integer number)) ∧
        (∀ name ∈ host, launch.host =
          if name = [] then settings.service.host else .scalar (.text name))) ∧
    ∀ number ∈ port, number ≠ 0 → ¬ (1 ≤ number ∧ number ≤ 65535) →
      (surroundings.run arguments).launch = none := by
  have serves_of_launch : ∀ launch, (surroundings.run arguments).launch = some launch →
      ∃ settings, surroundings.Serves arguments invocation host port settings := by
    intro launch launch_eq
    obtain ⟨other, otherHost, otherPort, settings, serves⟩ := exists_serves_of_launch launch_eq
    cases Except.ok.inj (arguments_eq.symm.trans serves.arguments_eq)
    cases Option.some.inj (command_eq.symm.trans serves.command_eq)
    exact ⟨settings, serves⟩
  constructor
  · intro launch launch_eq
    obtain ⟨settings, serves⟩ := serves_of_launch launch launch_eq
    obtain ⟨-, rfl⟩ := serves.eq_launch launch_eq
    refine ⟨settings, serves.settings_eq, ?_, ?_⟩
    · rintro number ⟨⟩
      exact settings.port_override _ _ number
    · rintro name ⟨⟩
      exact settings.host_override _ name _
  · rintro number ⟨⟩ notZero outside
    by_contra launched
    obtain ⟨launch, launch_eq⟩ := Option.ne_none_iff_exists'.mp launched
    obtain ⟨settings, serves⟩ := serves_of_launch launch launch_eq
    have usable := (serves.eq_launch launch_eq).1.port
    rw [settings.port_override, if_neg notZero, Value.isPortNumber_integer_iff] at usable
    exact outside usable

/-- A host and a port that the service is launched with, and a port that no service has. -/
theorem launched_as_asked_of_samples :
    (∃ launch, (run {} ["serve", "--host", "::1", "--port", "9000"]).launch = some launch ∧
      launch.host = .scalar (.text "::1") ∧ launch.port = .scalar (.integer 9000)) ∧
    (run {} ["serve", "--port", "70000"]).launch = none := by
  have arguments_eq : Invocation.ofArguments ["serve", "--host", "::1", "--port", "9000"] =
      .ok { command := some (.serve (some "::1") (some 9000)) } := by
    decide +kernel
  have wide_eq : Invocation.ofArguments ["serve", "--port", "70000"] =
      .ok { command := some (.serve none (some 70000)) } := by
    decide +kernel
  have usable : ((Settings.default none).override false (some "::1") (some 9000)).IsUsable :=
    Settings.review_eq_ok_nil_iff.mp rfl
  have launch_eq := (serves_default arguments_eq rfl rfl).launch_of_isUsable usable
  obtain ⟨settings, -, port_eq, host_eq⟩ :=
    (launched_as_asked_unless_void {} arguments_eq rfl).1 _ launch_eq
  exact ⟨⟨_, launch_eq, host_eq _ rfl, port_eq _ rfl⟩,
    (launched_as_asked_unless_void {} wide_eq rfl).2 _ rfl (by decide) (by decide)⟩

/-- The port zero is not the port that the service is launched with. -/
theorem launched_with_other_port :
    Invocation.ofArguments ["serve", "--port", "0"] =
        .ok { command := some (.serve none (some 0)) } ∧
      ∃ launch, (run {} ["serve", "--port", "0"]).launch = some launch ∧
        launch.port = .scalar (.integer 8080) ∧ launch.port ≠ .scalar (.integer 0) := by
  have arguments_eq : Invocation.ofArguments ["serve", "--port", "0"] =
      .ok { command := some (.serve none (some 0)) } := by
    decide +kernel
  have usable : ((Settings.default none).override false none (some 0)).IsUsable :=
    Settings.review_eq_ok_nil_iff.mp rfl
  have launch_eq := (serves_default arguments_eq rfl rfl).launch_of_isUsable usable
  have port_eq : ((Settings.default none).override false none (some 0)).launch.port =
      .scalar (.integer 8080) := rfl
  refine ⟨arguments_eq, _, launch_eq, port_eq, ?_⟩
  rw [port_eq]
  simp

end Surroundings

end UsageContracts
