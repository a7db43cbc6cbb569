import UsageContracts.Proofs.EntryPoints.Examples
import UsageContracts.Proofs.Settings.Review
import UsageContracts.Settings.Load

/-!
# Reviewed settings and examples

A review finds nothing exactly if the settings are usable.  An example is then printed exactly
if the log file, which is not reviewed, can be used, and if the indentation is null, a truth
value or an integer of at most 64 bits.  Any other indentation ends the run, although nothing
is found of it.
-/

namespace UsageContracts

open Outcome

/-! ## Usable indentations -/

namespace Value

/-- Whether a value is null or a number of spaces: a truth value, or an integer that is not
negative and has at most 64 bits. -/
inductive IsSpaces : Value → Prop
  | null : IsSpaces .null
  | bool {truth : Bool} : IsSpaces (.scalar (.bool truth))
  | integer {number : Int} : 0 ≤ number → number < 2 ^ 63 → IsSpaces (.scalar (.integer number))

variable {value : Value}

theorem IsSpaces.exists_layout (spaces : value.IsSpaces) :
    ∃ layout, Layout.ofValue value = .ok layout ∧ layout.IsSpaced := by
  cases spaces with
  | null => exact Policy.IsIndent.none.exists_layout
  | bool => exact ⟨_, rfl, Layout.ofSpaces_isSpaced _⟩
  | integer notNegative upper =>
      exact (Policy.IsIndent.spaces (by omega) upper).exists_layout

/-- Only null and numbers of spaces are indentations that have a layout. -/
theorem IsIndentation.isSpaces {layout : Layout} (indentation : value.IsIndentation)
    (layout_eq : Layout.ofValue value = .ok layout) : value.IsSpaces := by
  rw [Layout.ofValue.eq_def] at layout_eq
  split at layout_eq
  · exact .null
  · exact .bool
  · next number =>
      split at layout_eq
      · cases layout_eq
      · exact .integer ((isIndentation_integer_iff number).mp indentation) (by omega)
  · rcases indentation with isNull | ⟨_, ⟨⟩, -⟩
    cases isNull
  · cases layout_eq

theorem IsIndentation.exists_fault (indentation : value.IsIndentation)
    (notSpaces : ¬ value.IsSpaces) : ∃ fault, Layout.ofValue value = .error fault := by
  cases layout_eq : Layout.ofValue value with
  | ok layout => exact (notSpaces (indentation.isSpaces layout_eq)).elim
  | error fault => exact ⟨fault, rfl⟩

end Value

/-! ## Logs -/

/-- A usable level is one, whether a run is verbose or not. -/
theorem LoggingSettings.exists_levelName_eq {settings : LoggingSettings}
    (level : settings.level.IsLevelName) (isVerbose : Bool) :
    ∃ threshold, settings.levelName isVerbose = .ok (.level threshold) := by
  rcases level with ⟨name, member, level_eq⟩
  cases isVerbose with
  | true => exact ⟨10, rfl⟩
  | false =>
      simp only [levelName, level_eq]
      simp only [logLevelNames, List.mem_cons, List.not_mem_nil, or_false] at member
      rcases member with rfl | rfl | rfl | rfl
      · exact ⟨10, rfl⟩
      · exact ⟨20, rfl⟩
      · exact ⟨30, rfl⟩
      · exact ⟨40, rfl⟩

namespace Surroundings

/-- Whether the setting for a log file can be used: it names none, or one that can be
appended to. -/
def HasLogFile (surroundings : Surroundings) (settings : LoggingSettings) : Prop :=
  ∃ path? tree, settings.filePath = .ok path? ∧
    surroundings.withLogFile (path?.map (Path.absolute surroundings.tree.here)) = .ok tree

/-- With a usable level, only the log file can keep the log from being opened. -/
theorem exists_openLog_iff (surroundings : Surroundings) {settings : LoggingSettings}
    (level : settings.level.IsLevelName) (isVerbose : Bool) :
    (∃ tree log, surroundings.openLog settings isVerbose = (tree, .ok log)) ↔
      surroundings.HasLogFile settings := by
  rcases settings.exists_levelName_eq level isVerbose with ⟨threshold, level_eq⟩
  unfold openLog HasLogFile
  rw [level_eq, mapError_ok, ok_bind]
  cases settings.filePath with
  | error fault => simp
  | ok path? =>
      cases opened : surroundings.withLogFile
          (path?.map (Path.absolute surroundings.tree.here)) with
      | error fault => simp [opened]
      | ok tree => simp [opened]

/-! ## Runs -/

/-- Whether a run asks for the example of the pattern with a name, and what its settings
are. -/
structure AsksForExample (surroundings : Surroundings) (arguments : List Text) (name : Text)
    (invocation : Invocation) (settings : Settings) : Prop where
  arguments_eq : Invocation.ofArguments arguments = .ok invocation
  command_eq : invocation.command = some (.example name none)
  settings_eq : Settings.load surroundings.logLevel surroundings.tree
    (invocation.settingsFile.map Path.ofText) = .ok settings

variable {surroundings : Surroundings} {arguments : List Text} {name : Text}
  {invocation : Invocation} {settings : Settings} {pattern : Pattern}

namespace AsksForExample

theorem performs (asks : surroundings.AsksForExample arguments name invocation settings)
    {tree : FileTree} {log : Log}
    (log_eq : surroundings.openLog settings.logging invocation.isVerbose = (tree, .ok log)) :
    surroundings.Performs arguments (.example name none) invocation.asJson settings tree :=
  .intro asks.arguments_eq asks.command_eq rfl asks.settings_eq log_eq

/-- Without a log, the run ends before the example. -/
theorem fails_of_openLog (asks : surroundings.AsksForExample arguments name invocation settings)
    (notOpened : ¬ ∃ tree log,
      surroundings.openLog settings.logging invocation.isVerbose = (tree, .ok log)) :
    (∃ fault, (surroundings.run arguments).ending = .failed fault) ∧
      (surroundings.run arguments).output = [] := by
  rcases opened_eq : surroundings.openLog settings.logging invocation.isVerbose with
    ⟨tree, fault | log⟩
  · simp only [run, asks.arguments_eq, runInvocation, asks.command_eq, asks.settings_eq,
      runCommand, opened_eq]
    exact ⟨⟨fault, rfl⟩, trivial⟩
  · exact (notOpened ⟨tree, log, opened_eq⟩).elim

end AsksForExample

/-- An indentation without a layout ends the command for examples. -/
theorem Performs.fails_example {asJson : Bool} {tree : FileTree} {fault : IndentFault}
    (performs : surroundings.Performs arguments (.example name none) asJson settings tree)
    (resolved : Pattern.resolve name = .ok pattern)
    (layout_eq : Layout.ofValue settings.output.indent = .error fault) :
    (surroundings.run arguments).ending = .failed (.indent fault) ∧
      (surroundings.run arguments).output = [] := by
  rcases Pattern.exists_example?_eq (Pattern.ne_notRecognized_of_resolve resolved) with
    ⟨policy, found⟩
  rcases performs.exists_run_eq with ⟨isVerbose, log, run_eq⟩
  simp only [run_eq, Command.plan, examplePlan, resolved, found, layout_eq, Plan.carryOut, and_self]

/-- Whether a run prints a text of a contract that follows a pattern. -/
def PrintsExample (surroundings : Surroundings) (arguments : List Text) (pattern : Pattern) :
    Prop :=
  (surroundings.run arguments).ending = .finished 0 ∧
    ∃ text policy, (surroundings.run arguments).output = line text ∧
      Policy.ofText text = .ok policy ∧ policy.pattern = pattern

theorem Performs.printsExample {asJson : Bool} {tree : FileTree}
    (performs : surroundings.Performs arguments (.example name none) asJson settings tree)
    (resolved : Pattern.resolve name = .ok pattern) (spaces : settings.output.indent.IsSpaces) :
    surroundings.PrintsExample arguments pattern := by
  rcases Pattern.exists_example?_eq (Pattern.ne_notRecognized_of_resolve resolved) with
    ⟨policy, found⟩
  rcases spaces.exists_layout with ⟨layout, layout_eq, spaced⟩
  obtain ⟨ending_eq, output_eq⟩ := performs.prints_example resolved found layout_eq
  exact ⟨ending_eq, policy.dump layout, policy, output_eq, (Pattern.read_example spaced found).1,
    Pattern.pattern_of_example? found⟩

/-- With usable settings, the example is printed exactly if the log file can be used and the
indentation is a number of spaces; the run fails otherwise. -/
theorem AsksForExample.printsExample_or_fails
    (asks : surroundings.AsksForExample arguments name invocation settings)
    (resolved : Pattern.resolve name = .ok pattern) (usable : settings.IsUsable) :
    (surroundings.HasLogFile settings.logging → settings.output.indent.IsSpaces →
      surroundings.PrintsExample arguments pattern) ∧
    (¬ (surroundings.HasLogFile settings.logging ∧ settings.output.indent.IsSpaces) →
      (∃ fault, (surroundings.run arguments).ending = .failed fault) ∧
        (surroundings.run arguments).output = []) := by
  have opened_iff := surroundings.exists_openLog_iff usable.level invocation.isVerbose
  constructor
  · intro hasLogFile spaces
    obtain ⟨tree, log, log_eq⟩ := opened_iff.mpr hasLogFile
    exact (asks.performs log_eq).printsExample resolved spaces
  · intro unusable
    by_cases hasLogFile : surroundings.HasLogFile settings.logging
    · obtain ⟨tree, log, log_eq⟩ := opened_iff.mpr hasLogFile
      obtain ⟨fault, layout_eq⟩ :=
        usable.indent.exists_fault fun spaces => unusable ⟨hasLogFile, spaces⟩
      obtain ⟨ending_eq, output_eq⟩ := (asks.performs log_eq).fails_example resolved layout_eq
      exact ⟨⟨_, ending_eq⟩, output_eq⟩
    · exact asks.fails_of_openLog (hasLogFile ∘ opened_iff.mp)

end Surroundings

namespace Settings

/-- A review is finished exactly if the values can be compared and written.  It then tells of
each setting that is not usable, and of nothing exactly if all are.  With settings of which
nothing is told, the run that asks for an example prints it exactly if the log file can be
used and the indentation is a number of spaces, and fails otherwise. -/
theorem review_ends_and_passes (settings : Settings) :
    ((∃ problems, settings.review = .ok problems) ↔ settings.IsReviewed) ∧
    (∀ problems, settings.review = .ok problems →
      settings.Finds problems ∧ (problems = [] ↔ settings.IsUsable)) ∧
    (settings.review = .ok [] →
      ∀ {surroundings : Surroundings} {arguments : List Text} {name : Text}
        {invocation : Invocation} {pattern : Pattern},
      surroundings.AsksForExample arguments name invocation settings →
        Pattern.resolve name = .ok pattern →
          (surroundings.HasLogFile settings.logging → settings.output.indent.IsSpaces →
            surroundings.PrintsExample arguments pattern) ∧
          (¬ (surroundings.HasLogFile settings.logging ∧ settings.output.indent.IsSpaces) →
            (∃ fault, (surroundings.run arguments).ending = .failed fault) ∧
              (surroundings.run arguments).output = [])) := by
  refine ⟨settings.exists_review_eq_ok_iff, fun problems review_eq => ?_, fun review_eq => ?_⟩
  · exact ⟨finds_of_review review_eq, (finds_of_review review_eq).eq_nil_iff⟩
  · intro surroundings arguments name invocation pattern asks resolved
    exact asks.printsExample_or_fails resolved (review_eq_ok_nil_iff.mp review_eq)

/-- Surroundings with settings in a file. -/
def filed (text : Text) : Surroundings where
  tree := { files := [(["settings"], text)] }

/-- Settings with an indentation between two numbers of spaces. -/
def halfSpacesSample : Text :=
  "output: \x7bindent: 2.5\x7d\n"

/-- The default settings, with which an example is printed, and settings of which nothing is
told although their indentation is no number of spaces. -/
theorem review_ends_and_passes_of_samples :
    (Settings.default none).IsReviewed ∧
    Surroundings.PrintsExample {} (commandLine false "example" "provide-access") .provideAccess ∧
    ∃ fault, ((filed halfSpacesSample).run
      (fullCommandLine (some "settings") false false "example" "provide-access")).ending =
        .failed fault := by
  have isCommand : ("example" : Text) ∈ Help.commands := by
    decide
  have command_eq := Command.read_example "provide-access"
  have resolved : Pattern.resolve "provide-access" = .ok .provideAccess := by
    decide +kernel
  refine ⟨?_, ?_, ?_⟩
  · exact (review_ends_and_passes (.default none)).1.mp ⟨[], rfl⟩
  · have asks : Surroundings.AsksForExample {} (commandLine false "example" "provide-access")
        "provide-access" { command := some (.example "provide-access" none) } (.default none) :=
      { arguments_eq := Invocation.ofArguments_commandLine false isCommand command_eq
        command_eq := rfl
        settings_eq := by
          have notFound : Settings.usualPaths.find? (Settings.isThere {}) = none := by
            decide +kernel
          rw [Settings.load, Option.map_none, Option.none_or, notFound] }
    have printed := ((review_ends_and_passes (.default none)).2.2 rfl asks resolved).1
    exact printed ⟨none, _, rfl, rfl⟩ (.integer (by decide) (by decide))
  · have loaded : ((load none (filed halfSpacesSample).tree (some (.ofText "settings"))).map
        fun settings => (settings.review, (Layout.ofValue settings.output.indent).toOption.isSome))
          = .ok (.ok [], false) := by
      decide +kernel
    obtain ⟨settings, settings_eq, found_eq⟩ := exceptMap_eq_ok_iff.mp loaded
    obtain ⟨review_eq, layout_eq⟩ := Prod.mk.inj found_eq
    have notSpaces : ¬ settings.output.indent.IsSpaces := by
      intro spaces
      rcases spaces.exists_layout with ⟨layout, found, -⟩
      rw [found] at layout_eq
      cases layout_eq
    have asks : (filed halfSpacesSample).AsksForExample
        (fullCommandLine (some "settings") false false "example" "provide-access")
        "provide-access"
        { settingsFile := some "settings", command := some (.example "provide-access" none) }
        settings :=
      { arguments_eq := Invocation.ofArguments_fullCommandLine (some "settings") false false
          isCommand command_eq
        command_eq := rfl
        settings_eq := settings_eq }
    have failed := ((review_ends_and_passes settings).2.2 review_eq asks resolved).2
    exact (failed fun both => notSpaces both.2).1

/-- Settings whose port is a text. -/
def quotedPortSample : Text :=
  "api: \x7bport: '8080'\x7d\n"

/-- Not every review of settings from a file is finished. -/
theorem quotedPortSample_not_reviewed :
    ∃ settings, load none (filed quotedPortSample).tree (some (.ofText "settings")) = .ok settings ∧
      ¬ ∃ problems, settings.review = .ok problems := by
  have loaded : (load none (filed quotedPortSample).tree (some (.ofText "settings"))).map review =
      .ok (.error (.notCompared "<=" "int" "str")) := by
    decide +kernel
  obtain ⟨settings, settings_eq, review_eq⟩ := exceptMap_eq_ok_iff.mp loaded
  refine ⟨settings, settings_eq, ?_⟩
  rintro ⟨problems, finished⟩
  cases review_eq.symm.trans finished

end Settings

end UsageContracts
