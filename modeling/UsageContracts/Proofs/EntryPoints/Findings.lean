import UsageContracts.Proofs.Contract.Telling
import UsageContracts.Proofs.EntryPoints.Reaching
import UsageContracts.Proofs.Json.Written
import UsageContracts.Proofs.Yaml.Breaks

/-!
# Findings

What is found in a text that may be a contract does not depend on where the text is
given: to one of the commands as a file or as the input, or to the service.
-/

namespace UsageContracts

open Outcome

/-! ## Verdicts -/

namespace Pattern

/-- Whether a JSON value tells a pattern: by its name, and by whether it is one that
contracts can follow. -/
def IsToldIn (pattern : Pattern) (json : Json) : Prop :=
  ∃ isRecognized : Bool,
    json = .object
      [member "pattern" (.text pattern.name), member "recognized" (.bool isRecognized)] ∧
    (isRecognized = false ↔ pattern = .notRecognized)

theorem isToldIn_verdict (pattern : Pattern) : pattern.IsToldIn pattern.verdict :=
  ⟨_, rfl, by simp⟩

/-- What is printed for a verdict is JSON for it. -/
theorem read_printedJson_verdict (pattern : Pattern) :
    Json.read (printedJson pattern.verdict) = .ok pattern.verdict := by
  cases pattern <;> rfl

end Pattern

/-- What is found in a text that may be a contract. -/
inductive Finding
  /-- A contract that follows a pattern, or none of them. -/
  | recognised (pattern : Pattern)
  /-- No contract, for a reason of which users are told. -/
  | refused (reason : Text)
  /-- A fault of which users are not told. -/
  | unexpected (fault : TextFault)

namespace Finding

/-- What is found, by what is read. -/
def ofReading : Except TextFault Policy → Finding
  | .ok policy => .recognised policy.pattern
  | .error fault => if fault.isReported then .refused fault.message else .unexpected fault

/-- What is found in a text. -/
def ofText (text : Text) : Finding :=
  ofReading (Policy.ofText text)

/-- How a run of the command that recognises contracts ends and what it prints. -/
def IsClassified (asJson : Bool) (outcome : Outcome) : Finding → Prop
  | .recognised pattern =>
      outcome.ending = .finished 0 ∧
        (asJson = false → outcome.output = line pattern.name) ∧
        (asJson = true → ∃ json, Json.read outcome.output = .ok json ∧ pattern.IsToldIn json)
  | .refused reason =>
      outcome.ending = .finished 1 ∧ outcome.output = [] ∧
        outcome.errors = line ("Error: " ++ reason)
  | .unexpected fault =>
      outcome.ending = .failed (.document (.text fault)) ∧ outcome.output = []

/-- How a run of the command that validates contracts ends and what it prints. -/
def IsValidated (outcome : Outcome) : Finding → Prop
  | .recognised _ => outcome.ending = .finished 0
  | .refused reason =>
      outcome.ending = .finished 1 ∧ outcome.output = line ("Policy validation failed: " ++ reason)
  | .unexpected fault =>
      outcome.ending = .failed (.document (.text fault)) ∧ outcome.output = []

/-- How the service replies, and what it logs of a fault that it does not show. -/
def IsReplied (isDebugging : Bool) (reply : LoggedReply) : Finding → Prop
  | .recognised pattern =>
      reply.1.status = 200 ∧ ∃ json, reply.1.body = .json json ∧ pattern.IsToldIn json
  | .refused reason =>
      reply.1.status = 400 ∧
        reply.1.body = .json (Reply.errorObject "Bad Request" (.text reason))
  | .unexpected fault =>
      reply.1.status = 500 ∧
        (isDebugging = false →
          reply.1.body = .json (Reply.errorObject "Internal server error" .null) ∧
          reply.2.map (·.message) = ["Unhandled exception: " ++ fault.message])

end Finding

/-! ## Commands -/

namespace Sources

/-- Whether sources give a command a text as a file or as the input. -/
inductive Give (sources : Sources) : Text → Text → Prop
  | input : Give sources "-" sources.input
  | file {file text : Text} {place : FilePlace} : file ≠ "-" →
      sources.tree.entry (.ofText file) = .file place text → Give sources file text

theorem Give.haveText {sources : Sources} {file text : Text} (give : sources.Give file text) :
    sources.HaveText file text.unifyBreaks := by
  cases give with
  | input => exact .input
  | file notInput entry_eq =>
      apply HaveText.file notInput
      · rw [FileTree.has, entry_eq]
      · rw [FileTree.read, entry_eq]

theorem Give.policy_eq {sources : Sources} {file text : Text} (give : sources.Give file text) :
    sources.policy file = (Policy.ofText text).mapError .text := by
  rw [give.haveText.policy_eq, Policy.ofText_unifyBreaks]

end Sources

/-- The plan for a fault that is told is its report, and the fault itself ends a run
otherwise. -/
theorem Plan.result_ofFault (fault : TextFault) (report : Text → Report) :
    (Plan.ofFault (.text fault) report).result =
      if fault.isReported then .ok (report fault.message) else .error (.document (.text fault)) :=
  rfl

namespace Surroundings.Performs

variable {surroundings : Surroundings} {arguments : List Text} {file text : Text} {asJson : Bool}
  {settings : Settings} {tree : FileTree}

/-- A run that classifies a text tells what is found in it. -/
theorem isClassified
    (performs : surroundings.Performs arguments (.classify file) asJson settings tree)
    (give : Sources.Give { tree, input := surroundings.input } file text) :
    (Finding.ofText text).IsClassified asJson (surroundings.run arguments) := by
  rcases performs.exists_run_eq with ⟨isVerbose, log, run_eq⟩
  simp only [Command.plan, classifyPlan, give.policy_eq] at run_eq
  rw [run_eq, Finding.ofText]
  cases Policy.ofText text with
  | ok policy =>
      constructor
      · rfl
      constructor
      · rintro rfl
        rfl
      · rintro rfl
        exact ⟨_, policy.pattern.read_printedJson_verdict, policy.pattern.isToldIn_verdict⟩
  | error fault =>
      simp only [mapError_error, Finding.ofReading, Plan.carryOut, Plan.result_ofFault]
      cases fault.isReported with
      | true => exact ⟨rfl, rfl, rfl⟩
      | false => exact ⟨rfl, rfl⟩

/-- A run that validates a text tells what is found in it. -/
theorem isValidated
    (performs : surroundings.Performs arguments (.validate file) asJson settings tree)
    (give : Sources.Give { tree, input := surroundings.input } file text) :
    (Finding.ofText text).IsValidated (surroundings.run arguments) := by
  rcases performs.exists_run_eq with ⟨isVerbose, log, run_eq⟩
  simp only [Command.plan, validatePlan, give.policy_eq] at run_eq
  rw [run_eq, Finding.ofText]
  cases Policy.ofText text with
  | ok policy => exact rfl
  | error fault =>
      simp only [mapError_error, Finding.ofReading, Plan.carryOut, Plan.result_ofFault]
      cases fault.isReported with
      | true => exact ⟨rfl, rfl⟩
      | false => exact ⟨rfl, rfl⟩

end Surroundings.Performs

/-! ## The service -/

namespace Request.Submits

variable {request : Request} {text : Text}

/-- The reply to a text tells what is found in it. -/
theorem isReplied (submits : request.Submits text) (service : Service) :
    (Finding.ofText text).IsReplied service.isDebugging (service.respond request) := by
  rcases service.exists_respond_eq submits.method with ⟨headers, respond_eq⟩
  rw [respond_eq, Service.answerWith, submits.answer_eq, Finding.ofText]
  cases Policy.ofText text with
  | ok policy => exact ⟨rfl, _, rfl, policy.pattern.isToldIn_verdict⟩
  | error fault =>
      simp only [Finding.ofReading, Service.faultReply]
      cases fault.isReported with
      | true => exact ⟨rfl, rfl⟩
      | false =>
          constructor
          · exact service.unexpectedReply_status fault.message
          · intro notDebugging
            simp only [Service.unexpectedReply, notDebugging]
            exact ⟨rfl, rfl⟩

end Request.Submits

/-! ## Giving texts -/

namespace Surroundings

/-- Surroundings with a text as the input and in a file. -/
def holding (text : Text) : Surroundings where
  tree := { files := [(["contract"], text)] }
  input := text

variable {file : Text} (text : Text)

theorem holding_give (isGiven : file = "-" ∨ file = "contract") :
    Sources.Give { tree := (holding text).tree, input := (holding text).input } file text := by
  rcases isGiven with rfl | rfl
  · exact .input
  · exact .file (by decide) rfl

/-- A command gets as far as being carried out there. -/
theorem holding_performs {name argument : Text} {command : Command}
    (isCommand : name ∈ Help.commands)
    (command_eq : Command.read name ["--", argument] = .ok (command, [])) (asJson : Bool) :
    (holding text).Performs (commandLine asJson name argument) command asJson (.default none)
      (holding text).tree := by
  have settings_eq : Settings.load none (holding text).tree none = .ok (.default none) := by
    rfl
  exact performs_commandLine isCommand command_eq settings_eq rfl

end Surroundings

/-- Every character can be a part of a string, escaped or as it is. -/
theorem Json.exists_piece_eq (character : Char) :
    ∃ piece : Json.Piece, piece.point = .scalar character := by
  by_cases basic : (CodePoint.scalar character).number < 0x10000
  · rcases Json.exists_numberEscape_eq basic with ⟨piece, -, point_eq, -⟩
    exact ⟨piece, point_eq⟩
  · have far : 0x10000 ≤ character.toNat := Nat.le_of_not_lt basic
    have isPlain : ' ' ≤ character ∧ character ≠ '"' ∧ character ≠ '\\' := by
      refine ⟨?_, ?_, ?_⟩
      · exact Nat.le_trans (by decide : (' ').toNat ≤ 0x10000) far
      · rintro rfl
        contradiction
      · rintro rfl
        contradiction
    exact ⟨.plain character isPlain, rfl⟩

theorem Json.exists_content_eq {text : Text} (whole : text.IsWhole) :
    ∃ pieces : Json.Pieces, pieces.content = text := by
  induction text with
  | nil => exact ⟨[], rfl⟩
  | cons point rest ih =>
      rcases ih fun other member => whole other (List.mem_cons_of_mem _ member) with
        ⟨pieces, content_eq⟩
      cases point with
      | surrogate half => cases whole _ List.mem_cons_self
      | scalar character =>
          rcases Json.exists_piece_eq character with ⟨piece, point_eq⟩
          exact ⟨piece :: pieces, congrArg₂ List.cons point_eq content_eq⟩

/-- The body that holds a string under the name of a contract. -/
def policySource (pieces : Json.Pieces) : Json.Source :=
  .object (.plain "policy".toList (by decide), .string pieces) []

/-- A request that submits the text for which a string stands. -/
def submitting (pieces : Json.Pieces) : Request where
  method := "POST"
  path := Resource.recognition.path
  headers := [("content-type", "application/json")]
  body := Text.utf8Bytes (policySource pieces).characters

theorem read_policySource {pieces : Json.Pieces} (whole : pieces.content.IsWhole) :
    Json.read (policySource pieces).text =
      .ok (.object [member "policy" (.text pieces.content)]) := by
  have single : (["policy"] : List Text).Nodup := by
    simp
  have nameWhole : ("policy" : Text).IsWhole := Text.isWhole_ofString _
  have isReadable : (policySource pieces).IsReadable :=
    ⟨single, ⟨⟨trivial, Json.Pieces.isReadable nameWhole, trivial, trivial⟩,
      Json.Pieces.isReadable whole⟩, trivial⟩
  exact Json.read_source isReadable

theorem policyIn_text {text : Text} (whole : text.IsWhole) (notEmpty : text ≠ []) :
    Request.policyIn [member "policy" (.text text)] = .ok text := by
  have characters_eq : text.characters? = some text.scalars := by
    rw [← Text.characters?_ofCharacters, Text.ofCharacters_scalars whole]
  have lookup_eq : [member "policy" (Json.text text)].lookup ("policy" : Text) =
      some (.text text) := by
    rfl
  cases text with
  | nil => exact (notEmpty rfl).elim
  | cons point rest =>
      simp only [Request.policyIn, lookup_eq, characters_eq]
      rfl

/-- The bytes that begin with an object and a plain name are seen to be in UTF-8. -/
theorem decode?_policySource (pieces : Json.Pieces) :
    Json.decode? (Text.utf8Bytes (policySource pieces).characters) =
      some (policySource pieces).text := by
  have encoding_eq : Json.encodingOf (Text.utf8Bytes (policySource pieces).characters) =
      (.utf8, Text.utf8Bytes (policySource pieces).characters) :=
    rfl
  rw [Json.decode?, encoding_eq]
  simp only [Text.readUtf8_utf8Bytes]
  rfl

theorem Request.bodyContent_of_read {request : Request} {json : Json} {text : Text}
    (isJson : request.hasJsonBody = true) (notEmpty : request.body ≠ [])
    (decode_eq : Json.decode? request.body = some text) (read_eq : Json.read text = .ok json) :
    request.bodyContent = .ok (.json json) := by
  have notNothing : ¬ request.body.isEmpty = true := by
    rwa [List.isEmpty_iff]
  simp only [bodyContent, if_neg notNothing, if_pos isJson, decode_eq, read_eq]

theorem submitting_submits {pieces : Json.Pieces} (whole : pieces.content.IsWhole)
    (notEmpty : pieces.content ≠ []) : (submitting pieces).Submits pieces.content where
  resource := by
    have found : Resource.at? Resource.recognition.path = some .recognition := by
      decide
    exact found
  method := rfl
  policy := by
    have isJson : (submitting []).hasJsonBody = true := by
      decide
    have bodyContent_eq : (submitting pieces).bodyContent =
        .ok (.json (.object [member "policy" (.text pieces.content)])) :=
      Request.bodyContent_of_read isJson (List.cons_ne_nil _ _) (decode?_policySource pieces)
        (read_policySource whole)
    rw [Request.policy, bodyContent_eq, ok_bind]
    simp only [policyIn_text whole notEmpty, mapError_ok]

/-- Every text of characters but the empty one can be submitted. -/
theorem exists_submits {text : Text} (whole : text.IsWhole) (notEmpty : text ≠ []) :
    ∃ request : Request, request.Submits text := by
  rcases Json.exists_content_eq whole with ⟨pieces, rfl⟩
  exact ⟨_, submitting_submits whole notEmpty⟩

/-! ## Agreement -/

/-- What is found in a text is told by all commands and requests that are given the
text, in whatever settings and surroundings.  Every text can be given to the commands,
as a file and as the input, and every text of characters but the empty one to the
service. -/
theorem entry_points_agree (text : Text) :
    (∀ {surroundings : Surroundings} {arguments file asJson settings tree},
      surroundings.Performs arguments (.classify file) asJson settings tree →
      Sources.Give { tree, input := surroundings.input } file text →
      (Finding.ofText text).IsClassified asJson (surroundings.run arguments)) ∧
    (∀ {surroundings : Surroundings} {arguments file asJson settings tree},
      surroundings.Performs arguments (.validate file) asJson settings tree →
      Sources.Give { tree, input := surroundings.input } file text →
      (Finding.ofText text).IsValidated (surroundings.run arguments)) ∧
    (∀ {request : Request} (service : Service), request.Submits text →
      (Finding.ofText text).IsReplied service.isDebugging (service.respond request)) ∧
    (∀ file : Text, file = "-" ∨ file = "contract" → ∀ asJson,
      (Surroundings.holding text).Performs (commandLine asJson "classify" file) (.classify file)
        asJson (.default none) (Surroundings.holding text).tree ∧
      (Surroundings.holding text).Performs (commandLine asJson "validate" file) (.validate file)
        asJson (.default none) (Surroundings.holding text).tree ∧
      Sources.Give { tree := (Surroundings.holding text).tree, input := text } file text) ∧
    (text.IsWhole → text ≠ [] → ∃ request : Request, request.Submits text) := by
  constructor
  · intro surroundings arguments file asJson settings tree performs give
    exact performs.isClassified give
  constructor
  · intro surroundings arguments file asJson settings tree performs give
    exact performs.isValidated give
  constructor
  · intro request service submits
    exact submits.isReplied service
  constructor
  · intro file isGiven asJson
    constructor
    · exact Surroundings.holding_performs text (by decide) (Command.read_classify file) asJson
    constructor
    · exact Surroundings.holding_performs text (by decide) (Command.read_validate file) asJson
    · exact Surroundings.holding_give text isGiven
  · exact exists_submits

/-- A permission with a title on two lines, whose line ends are a carriage return and
a line feed. -/
def foldedSample : Text :=
  "permission:\r\n- title: \"a\r\n  b\"\r\n"

theorem foldedSample_agrees :
    ((Surroundings.holding foldedSample).run (commandLine false "classify" "contract")).output =
        "PROVIDE_ACCESS\n" ∧
      ((Surroundings.holding foldedSample).run (commandLine true "validate" "-")).ending =
        .finished 0 ∧
      ∃ request : Request, request.Submits foldedSample ∧
        (({} : Service).respond request).1.status = 200 := by
  have finding_eq : Finding.ofText foldedSample = .recognised .provideAccess := by
    have policy_eq : Policy.ofText foldedSample =
        .ok { rules := [{ kind := .permission, title := "a b" }] } := by
      decide +kernel
    rw [Finding.ofText, policy_eq]
    rfl
  obtain ⟨classified, validated, replied, performed, submitted⟩ := entry_points_agree foldedSample
  rw [finding_eq] at classified validated replied
  obtain ⟨performs, -, give⟩ := performed "contract" (.inr rfl) false
  obtain ⟨-, inputPerforms, inputGive⟩ := performed "-" (.inl rfl) true
  obtain ⟨request, submits⟩ := submitted (by decide) (by decide)
  exact ⟨(classified performs give).2.1 rfl, validated inputPerforms inputGive, request, submits,
    (replied {} submits).1⟩

end UsageContracts
