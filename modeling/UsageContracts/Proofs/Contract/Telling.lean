import Mathlib.Control.Monad.Basic
import UsageContracts.CommandLine.Run
import UsageContracts.Proofs.Text.Utf8
import UsageContracts.Proofs.Yaml.Faults
import UsageContracts.Service.Respond

/-!
# Faults that users are told of

A text that is not read as a contract has a fault.  The commands and the service
tell users of the fault, unless it is one of those that are left to end the run:
an impossible scalar, or a document type that cannot be written.
-/

namespace UsageContracts

open Outcome

/-! ## Reading contracts -/

theorem readEach_eq_error {α β ε : Type} {read : Nat → α → Except ε β} {start : Nat}
    {items : List α} {fault : ε} (failed : readEach read start items = .error fault) :
    ∃ index, ∃ item ∈ items, read index item = .error fault := by
  induction items generalizing start with
  | nil => cases failed
  | cons item items ih =>
      cases read_eq : read start item with
      | error cause =>
          simp only [readEach, read_eq, error_bind, Except.error.injEq] at failed
          exact ⟨start, item, by simp, by rw [read_eq, failed]⟩
      | ok result =>
          cases rest_eq : readEach read (start + 1) items with
          | error cause =>
              simp only [readEach, read_eq, rest_eq, ok_bind, error_bind, Except.error.injEq]
                at failed
              rcases ih (failed ▸ rest_eq) with ⟨index, other, member, other_eq⟩
              exact ⟨index, other, by simp [member], other_eq⟩
          | ok results => simp [readEach, read_eq, rest_eq] at failed

namespace Policy

section

variable {α : Type} {view : View α}

theorem isReported_of_itemsOf_eq_error {name : Text} {value? : Option α} {fault : ContractFault}
    (failed : view.itemsOf name value? = .error fault) :
    (TextFault.contract fault).isReported = true := by
  unfold View.itemsOf at failed
  split at failed
  · cases failed
  · split at failed <;> cases failed
    rfl

/-- The faults of rules are told, whatever is wrong with them. -/
theorem isReported_of_readEntry_eq_error {entry : α × α} {fault : ContractFault}
    (failed : readEntry view entry = .error fault) :
    (TextFault.contract fault).isReported = true := by
  unfold readEntry at failed
  split at failed
  · next key _ =>
      split at failed
      · cases failed
      · next kind _ =>
          cases items_eq : view.itemsOf key (some entry.2) with
          | error cause =>
              simp only [items_eq, error_bind, Except.error.injEq] at failed
              subst failed
              exact isReported_of_itemsOf_eq_error items_eq
          | ok items =>
              rw [items_eq, ok_bind] at failed
              rcases readEach_eq_error failed with ⟨index, item, -, item_eq⟩
              rcases mapError_eq_error_iff.mp item_eq with ⟨cause, -, rfl⟩
              rfl
  · cases failed

/-- Whether a value is a map with rules, and with a document type that cannot
be written. -/
inductive HasUnwritableType (view : View α) (value : α) (fault : NumeralFault) : Prop
  | intro {entries : List (α × α)} {rules : List (List Rule)} {type : α} :
      view.layer value = .map entries →
      readEach (fun _ entry => readEntry view entry) 0 entries = .ok rules →
      view.find? entries "@type" = some type → (view.layer type).isTruthy = true →
      view.display type = .error fault → HasUnwritableType view value fault

/-- A value has an untold fault exactly if it has a document type that cannot be
written. -/
theorem read_unreported_iff {value : α} {fault : ContractFault} :
    (read view value = .error fault ∧ (TextFault.contract fault).isReported = false) ↔
      ∃ cause, fault = .unwritable cause ∧ HasUnwritableType view value cause := by
  constructor
  · rintro ⟨failed, unreported⟩
    have told {cause : ContractFault} (reported : (TextFault.contract cause).isReported = true) :
        cause ≠ fault := by
      rintro rfl
      simp [reported] at unreported
    unfold read at failed
    cases layer_eq : view.layer value with
    | map entries =>
        simp only [View.entriesOf, layer_eq, ok_bind] at failed
        cases rules_eq : readEach (fun _ entry => readEntry view entry) 0 entries with
        | error cause =>
            rcases readEach_eq_error rules_eq with ⟨_, entry, -, entry_eq⟩
            simp only [rules_eq, error_bind, Except.error.injEq] at failed
            exact (told (isReported_of_readEntry_eq_error entry_eq) failed).elim
        | ok rules =>
            simp only [rules_eq, ok_bind] at failed
            split at failed
            · cases failed
            · next type type_eq =>
                rcases Option.filter_eq_some_iff.mp type_eq with ⟨found, truthy⟩
                cases display_eq : view.display type with
                | error cause =>
                    simp only [View.text, display_eq, mapError_error, error_bind,
                      Except.error.injEq] at failed
                    exact ⟨cause, failed.symm, ⟨layer_eq, rules_eq, found, truthy, display_eq⟩⟩
                | ok text => simp [View.text, display_eq] at failed
    | _ =>
        simp only [View.entriesOf, layer_eq, error_bind, Except.error.injEq] at failed
        exact (told rfl failed).elim
  · rintro ⟨cause, rfl, @⟨entries, rules, type, layer_eq, rules_eq, found, truthy, unwritable⟩⟩
    have type_eq : (view.find? entries "@type").filter (fun type => (view.layer type).isTruthy) =
        some type :=
      Option.filter_eq_some_iff.mpr ⟨found, truthy⟩
    refine ⟨?_, rfl⟩
    simp only [read, View.entriesOf, layer_eq, rules_eq, ok_bind, type_eq, View.text, unwritable,
      mapError_error, error_bind]

end

/-! ## Reading texts -/

/-- Whether a text is read as a contract, or with a fault that users are told
of. -/
def IsTold (text : Text) : Prop :=
  ∀ fault, ofText text = .error fault → fault.isReported = true

/-- Whether the fault of a text is one that users are not told of: the first
fault of the text is an impossible scalar or escape, or a scalar whose content is
looked for without end, or there is none but that the document type cannot be
written. -/
inductive HasUntoldFault (text : Text) : Prop
  | impossible {fault : Yaml.Fault} :
      Yaml.read text = .error fault → fault ≠ .form → HasUntoldFault text
  | unwritableType {document : Yaml.Document} {fault : NumeralFault} :
      Yaml.read text = .ok (some document) →
      HasUnwritableType document.graph.view document.root fault → HasUntoldFault text

theorem isReported_ofYaml_iff {fault : Yaml.Fault} :
    (TextFault.ofYaml fault).isReported = true ↔ fault = .form := by
  cases fault <;> simp [TextFault.ofYaml, TextFault.isReported]

theorem not_isNull_of_hasUnwritableType {α : Type} {view : View α} {value : α}
    {fault : NumeralFault} (unwritable : HasUnwritableType view value fault) :
    (view.layer value).isNull = false := by
  rcases unwritable with ⟨layer_eq, -⟩
  rw [layer_eq]
  rfl

theorem isTold_iff (text : Text) : IsTold text ↔ ¬ HasUntoldFault text := by
  constructor
  · rintro told (⟨read_eq, notForm⟩ | @⟨document, fault, read_eq, unwritable⟩)
    · exact notForm (isReported_ofYaml_iff.mp (told _ (by rw [ofText, read_eq])))
    · have policy_eq := (read_unreported_iff.mpr ⟨_, rfl, unwritable⟩).1
      have failed : ofText text = .error (.contract (.unwritable fault)) := by
        rw [ofText, read_eq]
        simp [ofDocument, not_isNull_of_hasUnwritableType unwritable, policy_eq]
      cases told _ failed
  · intro noUntold fault failed
    rw [ofText] at failed
    split at failed
    · next cause read_eq =>
        cases failed
        exact isReported_ofYaml_iff.mpr <|
          Decidable.not_not.mp fun notForm => noUntold (.impossible read_eq notForm)
    · cases failed
      rfl
    · next document read_eq =>
        rw [ofDocument] at failed
        split at failed
        · cases failed
          rfl
        · rcases mapError_eq_error_iff.mp failed with ⟨cause, policy_eq, rfl⟩
          cases unreported : (TextFault.contract cause).isReported with
          | true => rfl
          | false =>
              rcases read_unreported_iff.mp ⟨policy_eq, unreported⟩ with ⟨_, -, unwritable⟩
              exact (noUntold (.unwritableType read_eq unwritable)).elim

/-- What is wrong with a text of proper tokens is told. -/
theorem isTold_of_hasProperTokens {text : Text} (proper : Yaml.HasProperTokens text) :
    IsTold text := by
  rw [isTold_iff]
  have orderly := Yaml.read_isOrderly proper
  rintro (⟨read_eq, notForm⟩ | ⟨read_eq, @⟨_, _, type, _, _, _, _, unwritable⟩⟩)
  · exact notForm (orderly.eq_form read_eq)
  · have writable := orderly.of_eq_ok read_eq _ rfl
    rcases Graph.exists_display writable type with ⟨content, display_eq⟩
    cases unwritable.symm.trans display_eq

end Policy

/-! ## Commands -/

namespace Sources

/-- Whether sources have a text for a command that is given a file. -/
inductive HaveText (sources : Sources) : Text → Text → Prop
  | input : HaveText sources "-" sources.input.unifyBreaks
  | file {file text : Text} : file ≠ "-" → sources.tree.has (.ofText file) = .ok true →
      sources.tree.read (.ofText file) = .ok text → HaveText sources file text

theorem HaveText.policy_eq {sources : Sources} {file text : Text}
    (has : sources.HaveText file text) :
    sources.policy file = (Policy.ofText text).mapError .text := by
  cases has with
  | input => rfl
  | file notInput has_eq read_eq => simp [policy, notInput, has_eq, read_eq]

end Sources

/-- Whether a command examines the contract in a text. -/
inductive Command.Examines (sources : Sources) : Command → Text → Prop
  | classify {file text : Text} :
      sources.HaveText file text → Examines sources (.classify file) text
  | validate {file text : Text} :
      sources.HaveText file text → Examines sources (.validate file) text

/-- How a command ends that examines a contract, by what is read: with a report
or with an untold fault. -/
def endingOf : Except TextFault Policy → Ending
  | .ok _ => .finished 0
  | .error fault =>
      if fault.isReported then .finished 1 else .failed (.document (.text fault))

/-- A fault that a plan reports without writing a file. -/
theorem Plan.ofFault_ending {fault : TextFault} {report : Text → Report}
    (code : ∀ message, (report message).code = 1) (file : ∀ message, (report message).file = none)
    (tree : FileTree) (logged : Text) :
    ((Plan.ofFault (.text fault) report).carryOut tree logged).ending =
      endingOf (.error fault) := by
  cases reported : fault.isReported with
  | true =>
      simp [Plan.carryOut, Plan.ofFault, DocumentFault.isReported, endingOf, reported, code, file]
  | false => simp [Plan.carryOut, Plan.ofFault, DocumentFault.isReported, endingOf, reported]

theorem Command.Examines.ending_eq {sources : Sources} {command : Command} {text : Text}
    (examines : command.Examines sources text) (settings : Settings) (asJson isVerbose : Bool)
    (tree : FileTree) (logged : Text) :
    ((command.plan sources settings asJson isVerbose).carryOut tree logged).ending =
      endingOf (Policy.ofText text) := by
  cases examines with
  | classify has =>
      simp only [Command.plan, classifyPlan, has.policy_eq]
      cases Policy.ofText text with
      | ok policy => rfl
      | error fault => exact Plan.ofFault_ending (fun _ => rfl) (fun _ => rfl) tree logged
  | validate has =>
      simp only [Command.plan, validatePlan, has.policy_eq]
      cases Policy.ofText text with
      | ok policy => rfl
      | error fault => exact Plan.ofFault_ending (fun _ => rfl) (fun _ => rfl) tree logged

/-- Whether a run of the program gets as far as examining the contract in a text:
its command line is read, its settings are loaded, and the log is open. -/
inductive Surroundings.Examines (surroundings : Surroundings) (arguments : List Text)
    (text : Text) : Prop
  | intro {invocation : Invocation} {command : Command} {settings : Settings} {tree : FileTree}
      {log : Log} :
      Invocation.ofArguments arguments = .ok invocation →
      invocation.command = some command →
      Settings.load surroundings.logLevel surroundings.tree
        (invocation.settingsFile.map Path.ofText) = .ok settings →
      surroundings.openLog settings.logging invocation.isVerbose = (tree, .ok log) →
      command.Examines { tree, input := surroundings.input } text →
      Examines surroundings arguments text

theorem Surroundings.Examines.ending_eq {surroundings : Surroundings} {arguments : List Text}
    {text : Text} (examines : surroundings.Examines arguments text) :
    (surroundings.run arguments).ending = endingOf (Policy.ofText text) := by
  rcases examines with ⟨arguments_eq, command_eq, settings_eq, log_eq, examines⟩
  simp only [run, arguments_eq, runInvocation, command_eq, settings_eq, runCommand, log_eq]
  exact examines.ending_eq _ _ _ _ _

theorem isTold_iff_endingOf (text : Text) :
    (endingOf (Policy.ofText text) = .finished 0 ∨ endingOf (Policy.ofText text) = .finished 1) ↔
      Policy.IsTold text := by
  unfold Policy.IsTold endingOf
  cases Policy.ofText text with
  | ok policy => simp
  | error fault => cases reported : fault.isReported <;> simp [reported]

/-! ## The service -/

/-- Whether a request submits a text to be recognised. -/
structure Request.Submits (request : Request) (text : Text) : Prop where
  resource : Resource.at? request.path = some .recognition
  method : request.method = "POST"
  policy : request.policy = .ok text

/-- The status of the reply to a request with a contract, by what is read. -/
def statusOf : Except TextFault Policy → Nat
  | .ok _ => 200
  | .error fault => if fault.isReported then 400 else 500

theorem Service.unexpectedReply_status (service : Service) (message : Text) :
    (service.unexpectedReply message).1.status = 500 := by
  unfold Service.unexpectedReply
  split <;> rfl

section

variable {request : Request} {text : Text}

theorem Request.Submits.answer_eq (submits : request.Submits text) (service : Service) :
    service.answer request =
      match Policy.ofText text with
      | .ok policy => .ok (.ok (.json policy.pattern.verdict), [])
      | .error fault => Service.faultReply (.document fault) := by
  have isUsed : Resource.recognition.isUsedBy request.method = true := by
    rw [submits.method]
    decide
  simp only [Service.answer, submits.resource, isUsed, if_true, Service.content,
    Service.recognitionContent, submits.policy, mapError_ok, ok_bind]
  cases Policy.ofText text <;> rfl

theorem Request.Submits.answerWith_status (submits : request.Submits text) (service : Service)
    (headers : List (HeaderName × Text)) :
    (service.answerWith request headers).1.status = statusOf (Policy.ofText text) := by
  rw [Service.answerWith, submits.answer_eq]
  cases Policy.ofText text with
  | ok policy => rfl
  | error fault =>
      cases reported : fault.isReported with
      | true => simp [Service.faultReply, reported, statusOf, Reply.refused]
      | false => simp [Service.faultReply, reported, statusOf, Service.unexpectedReply_status]

theorem Request.Submits.status_eq (submits : request.Submits text) (service : Service) :
    (service.respond request).1.status = statusOf (Policy.ofText text) := by
  have notHead : request.method ≠ "HEAD" := by
    rw [submits.method]
    decide
  have notOptions : (request.method == "OPTIONS") = false := by
    rw [submits.method]
    decide
  have full : (service.fullReply request).1.status = statusOf (Policy.ofText text) := by
    unfold Service.fullReply
    split
    · split
      · next asksBeforehand _ => simp [notOptions] at asksBeforehand
      · exact submits.answerWith_status service _
    · exact submits.answerWith_status service _
  simp only [Service.respond, if_neg notHead]
  exact full

end

theorem isTold_iff_statusOf (text : Text) :
    (statusOf (Policy.ofText text) = 200 ∨ statusOf (Policy.ofText text) = 400) ↔
      Policy.IsTold text := by
  unfold Policy.IsTold statusOf
  cases Policy.ofText text with
  | ok policy => simp
  | error fault => cases reported : fault.isReported <;> simp [reported]

/-! ## Telling -/

namespace Policy

/-- A text with the thirtieth of February for a title. -/
def impossibleDateSample : Text :=
  "permission:\n- title: 2021-02-30\n"

/-- A text with the last of February for a title. -/
def possibleDateSample : Text :=
  "permission:\n- title: 2021-02-28\n"

/-- A request with a text of a contract as its input. -/
def submission (text : Text) : Request :=
  { method := "POST"
    path := Resource.recognition.path
    headers := [("content-type", "application/json")]
    body := Text.utf8Bytes ((Json.object [member "policy" text]).write .compact).scalars }

/-- A command that is given a hyphen examines the input. -/
theorem examines_input (text : Text) :
    ({ input := text } : Surroundings).Examines ["classify", "-"] text.unifyBreaks := by
  have invocation_eq : Invocation.ofArguments ["classify", "-"] =
      .ok { command := some (.classify "-") } := by
    decide +kernel
  have settings_eq : Settings.load none {} none = .ok (.default none) := by
    rfl
  exact .intro invocation_eq rfl settings_eq rfl (.classify .input)

theorem submission_possibleDateSample_submits :
    (submission possibleDateSample).Submits possibleDateSample where
  resource := by decide +kernel
  method := rfl
  policy := by
    have text_eq : (submission possibleDateSample).policy.toOption = some possibleDateSample := by
      decide +kernel
    cases policy_eq : (submission possibleDateSample).policy with
    | error error =>
        rw [policy_eq] at text_eq
        cases text_eq
    | ok text =>
        rw [policy_eq] at text_eq
        cases text_eq
        rfl

end Policy

end UsageContracts
