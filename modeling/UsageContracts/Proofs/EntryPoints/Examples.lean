import UsageContracts.Contract.Review
import UsageContracts.Proofs.Contract.Halves
import UsageContracts.Proofs.Contract.Whole
import UsageContracts.Proofs.EntryPoints.Reaching
import UsageContracts.Proofs.Pattern.Names

/-!
# Examples of patterns

The example of a pattern is a contract that follows the pattern.  Its text, in
whatever layout, is read as that contract, and as JSON it is the document that the
service replies.  Names of no pattern are refused alike wherever they are given.
-/

namespace UsageContracts

open Outcome

namespace Pattern

/-! ## Canonical contracts -/

section

variable {pattern : Pattern} {policy : Policy}

theorem exists_example?_eq (concrete : pattern ≠ .notRecognized) :
    ∃ policy, pattern.example? = some policy := by
  cases pattern with
  | notRecognized => exact (concrete rfl).elim
  | _ => exact ⟨_, rfl⟩

/-- The example of a pattern follows the pattern. -/
theorem pattern_of_example? (found : pattern.example? = some policy) :
    policy.pattern = pattern := by
  cases pattern <;> cases found <;> rfl

/-- There is nothing to warn of in an example. -/
theorem review_of_example? (found : pattern.example? = some policy) : policy.review = [] := by
  cases pattern <;> cases found <;> rfl

theorem canonical_of_example? (found : pattern.example? = some policy) :
    policy.canonical = policy := by
  cases pattern <;> cases found <;> rfl

theorem isBasic_of_example? (found : pattern.example? = some policy) : policy.IsBasic := by
  apply Policy.halved_eq_self_iff.mp
  cases pattern <;> cases found <;> rfl

theorem isWhole_of_example? (found : pattern.example? = some policy) :
    policy.IsWhole := by
  cases pattern <;> cases found <;> decide

/-- The text of an example is read as the example, and as JSON it is the document of
the example. -/
theorem read_example {layout : Layout} (spaced : layout.IsSpaced)
    (found : pattern.example? = some policy) :
    Policy.ofText (policy.dump layout) = .ok policy ∧
      Json.read (policy.dump layout) = .ok policy.toDocument := by
  have basic := isBasic_of_example? found
  constructor
  · rw [policy.ofText_dump_eq_halved spaced, canonical_of_example? found,
      Policy.halved_eq_self_iff.mpr basic]
  · exact Policy.read_dump spaced basic (isWhole_of_example? found)

end

/-! ## Names -/

section

variable {name : Text} {pattern : Pattern} {policy : Policy} {fault : PatternFault}

theorem synthesize_of_example? (found : pattern.example? = some policy) :
    synthesize (.scalar (.pattern pattern)) = .ok policy := by
  rw [synthesize]
  simp only [found]

theorem exampleOf_text (resolved : resolve name = .ok pattern)
    (found : pattern.example? = some policy) :
    exampleOf (.scalar (.text name)) = .ok policy := by
  rw [exampleOf, resolveValue_text, resolved, ok_bind, synthesize_of_example? found]

theorem exampleOf_text_of_error (refused : resolve name = .error fault) :
    exampleOf (.scalar (.text name)) = .error fault := by
  rw [exampleOf, resolveValue_text, refused, error_bind]

end

end Pattern

/-! ## Commands -/

namespace Surroundings.Performs

variable {surroundings : Surroundings} {arguments : List Text} {name : Text} {asJson : Bool}
  {settings : Settings} {tree : FileTree} {pattern : Pattern} {policy : Policy}

/-- The command for examples prints the text of an example. -/
theorem prints_example {layout : Layout}
    (performs : surroundings.Performs arguments (.example name none) asJson settings tree)
    (resolved : Pattern.resolve name = .ok pattern) (found : pattern.example? = some policy)
    (layout_eq : Layout.ofValue settings.output.indent = .ok layout) :
    (surroundings.run arguments).ending = .finished 0 ∧
      (surroundings.run arguments).output = line (policy.dump layout) := by
  rcases performs.exists_run_eq with ⟨isVerbose, log, run_eq⟩
  simp only [run_eq, Command.plan, examplePlan, resolved, found, layout_eq, Plan.carryOut,
    exampleReport, and_self]

/-- The command for examples refuses the name of no pattern and prints nothing. -/
theorem refuses_name {output : Option Text} {fault : PatternFault}
    (performs : surroundings.Performs arguments (.example name output) asJson settings tree)
    (refused : Pattern.resolve name = .error fault) :
    (surroundings.run arguments).ending = .finished 1 ∧
      (surroundings.run arguments).output = [] ∧
      (surroundings.run arguments).errors = line ("Error: " ++ fault.message) ++
        line "Run 'usage-patterns patterns' for the list of known patterns" := by
  rcases performs.exists_run_eq with ⟨isVerbose, log, run_eq⟩
  simp only [run_eq, Command.plan, examplePlan, refused, Plan.carryOut, unknownPatternReport,
    true_and]
  rfl

end Surroundings.Performs

/-! ## The service -/

/-- Whether a request asks for the example of the pattern with a name. -/
structure Request.AsksFor (request : Request) (name : Text) : Prop where
  resource : Resource.at? request.path = some .exampleDocument
  method : request.method = "POST"
  name : request.patternName = .ok name

namespace Request.AsksFor

variable {request : Request} {name : Text}

theorem answer_eq (asks : request.AsksFor name) (service : Service) :
    service.answer request =
      match Pattern.exampleOf (.scalar (.text name)) with
      | .ok policy => .ok (.ok (.json policy.toDocument), [])
      | .error fault => .ok (.refused 400 fault.message, []) := by
  have isUsed : Resource.exampleDocument.isUsedBy request.method = true := by
    rw [asks.method]
    decide
  simp only [Service.answer, asks.resource, isUsed, if_true, Service.content,
    Service.exampleContent, asks.name, mapError_ok, ok_bind]
  cases Pattern.exampleOf (.scalar (.text name)) <;> rfl

theorem replies_example {policy : Policy} (asks : request.AsksFor name)
    (found : Pattern.exampleOf (.scalar (.text name)) = .ok policy) (service : Service) :
    (service.respond request).1.status = 200 ∧
      (service.respond request).1.body = .json policy.toDocument := by
  rcases service.exists_respond_eq asks.method with ⟨headers, respond_eq⟩
  simp only [respond_eq, Service.answerWith, asks.answer_eq, found, Reply.ok, and_self]

theorem refuses_name {fault : PatternFault} (asks : request.AsksFor name)
    (refused : Pattern.exampleOf (.scalar (.text name)) = .error fault) (service : Service) :
    (service.respond request).1.status = 400 ∧
      (service.respond request).1.body =
        .json (Reply.errorObject "Bad Request" (.text fault.message)) := by
  rcases service.exists_respond_eq asks.method with ⟨headers, respond_eq⟩
  simp only [respond_eq, Service.answerWith, asks.answer_eq, refused, Reply.refused, Reply.phrase,
    and_self]

end Request.AsksFor

/-- A request for the example of the pattern with a name. -/
def exampleRequest (name : Text) : Request where
  method := "POST"
  path := Resource.exampleDocument.path
  query := [("pattern", name)]

theorem exampleRequest_asksFor (name : Text) : (exampleRequest name).AsksFor name where
  resource := by
    have found : Resource.at? Resource.exampleDocument.path = some .exampleDocument := by
      decide
    exact found
  method := rfl
  name := rfl

/-! ## Agreement -/

namespace Pattern

open Policy (IsIndent indentValue)

/-- What the program has for the name of a pattern: the contract of the pattern, its
texts, and the document of the contract. -/
structure HasExample (name : Text) (pattern : Pattern) (policy : Policy) : Prop where
  canonical : synthesize (.scalar (.pattern pattern)) = .ok policy
  byName : exampleOf (.scalar (.text name)) = .ok policy
  pattern : policy.pattern = pattern
  review : policy.review = []
  text : ∀ indent : Option Int, IsIndent (indentValue indent) → ∃ text,
    exampleText (.scalar (.text name)) (indentValue indent) = .ok text ∧
      Policy.ofText text = .ok policy ∧ Json.read text = .ok policy.toDocument
  wideIndent : ∀ indent : Option Int, ¬ IsIndent (indentValue indent) →
    exampleText (.scalar (.text name)) (indentValue indent) = .error (.indent .tooWide)
  printed : ∀ {surroundings : Surroundings} {arguments asJson settings tree text},
    surroundings.Performs arguments (.example name none) asJson settings tree →
      exampleText (.scalar (.text name)) settings.output.indent = .ok text →
        (surroundings.run arguments).ending = .finished 0 ∧
          (surroundings.run arguments).output = line text
  replied : ∀ {request : Request} {service : Service}, request.AsksFor name →
    (service.respond request).1.status = 200 ∧
      (service.respond request).1.body = .json policy.toDocument

/-- What the program has for the name of no pattern: the same message wherever the
name is given. -/
structure IsRefused (name message : Text) : Prop where
  byName : ∃ fault : PatternFault, exampleOf (.scalar (.text name)) = .error fault ∧
    fault.message = message
  text : ∀ indent, ∃ fault : ExampleFault,
    exampleText (.scalar (.text name)) indent = .error fault ∧ fault.message = message
  printed : ∀ {surroundings : Surroundings} {arguments output asJson settings tree},
    surroundings.Performs arguments (.example name output) asJson settings tree →
      (surroundings.run arguments).ending = .finished 1 ∧
        (surroundings.run arguments).output = [] ∧
        (surroundings.run arguments).errors = line ("Error: " ++ message) ++
          line "Run 'usage-patterns patterns' for the list of known patterns"
  replied : ∀ {request : Request} {service : Service}, request.AsksFor name →
    (service.respond request).1.status = 400 ∧
      (service.respond request).1.body =
        .json (Reply.errorObject "Bad Request" (.text message))

theorem ofValue_of_not_isIndent {indent : Option Int} (wide : ¬ IsIndent (indentValue indent)) :
    Layout.ofValue (indentValue indent) = .error .tooWide := by
  cases layout_eq : Layout.ofValue (indentValue indent) with
  | ok layout => exact (wide (Policy.isIndent_of_ofValue_eq_ok layout_eq).1).elim
  | error fault =>
      cases indent with
      | none => cases layout_eq
      | some number =>
          rw [indentValue, Layout.ofValue] at layout_eq
          split at layout_eq
          · rw [layout_eq]
          · cases layout_eq

variable {name : Text}

theorem exists_hasExample {pattern : Pattern} (resolved : resolve name = .ok pattern) :
    ∃ policy, HasExample name pattern policy := by
  rcases exists_example?_eq (ne_notRecognized_of_resolve resolved) with ⟨policy, found⟩
  have byName := exampleOf_text resolved found
  have text_eq (indent : Value) : exampleText (.scalar (.text name)) indent =
      ((Layout.ofValue indent).mapError .indent).map policy.dump := by
    rw [exampleText, byName, mapError_ok, ok_bind]
    cases Layout.ofValue indent <;> rfl
  refine ⟨policy, ?_⟩
  constructor
  case canonical => exact synthesize_of_example? found
  case byName => exact byName
  case pattern => exact pattern_of_example? found
  case review => exact review_of_example? found
  case text =>
    intro indent isIndent
    rcases isIndent.exists_layout with ⟨layout, layout_eq, spaced⟩
    refine ⟨policy.dump layout, ?_, read_example spaced found⟩
    rw [text_eq, layout_eq]
    rfl
  case wideIndent =>
    intro indent wide
    rw [text_eq, ofValue_of_not_isIndent wide]
    rfl
  case printed =>
    intro surroundings arguments asJson settings tree text performs printed_eq
    rw [text_eq] at printed_eq
    cases layout_eq : Layout.ofValue settings.output.indent with
    | error fault =>
        rw [layout_eq] at printed_eq
        cases printed_eq
    | ok layout =>
        rw [layout_eq] at printed_eq
        rw [← Except.ok.inj printed_eq]
        exact performs.prints_example resolved found layout_eq
  case replied =>
    intro request service asks
    exact asks.replies_example byName service

theorem isRefused_of_resolve {fault : PatternFault} (refused : resolve name = .error fault) :
    IsRefused name ("Unknown pattern: " ++ name) := by
  have byName := exampleOf_text_of_error refused
  obtain rfl := eq_unknown_of_resolve refused
  constructor
  case byName => exact ⟨_, byName, rfl⟩
  case text =>
    intro indent
    refine ⟨.pattern (.unknown name), ?_, rfl⟩
    rw [exampleText, byName]
    rfl
  case printed =>
    intro surroundings arguments output asJson settings tree performs
    exact performs.refuses_name refused
  case replied =>
    intro request service asks
    exact asks.refuses_name byName service

/-- The name of a pattern has the example of the pattern everywhere, and that of no
pattern is refused everywhere.  Every name can be given to the command and to the
service. -/
theorem example_agrees (name : Text) :
    (∀ pattern, resolveValue (.scalar (.text name)) = .ok pattern →
      ∃ policy, HasExample name pattern policy) ∧
    (∀ fault, resolveValue (.scalar (.text name)) = .error fault →
      IsRefused name ("Unknown pattern: " ++ name)) ∧
    (∀ {surroundings : Surroundings} {settings log tree} (asJson : Bool),
      Settings.load surroundings.logLevel surroundings.tree none = .ok settings →
      surroundings.openLog settings.logging false = (tree, .ok log) →
      surroundings.Performs (commandLine asJson "example" name) (.example name none) asJson
        settings tree) ∧
    (exampleRequest name).AsksFor name := by
  have isCommand : ("example" : Text) ∈ Help.commands := by
    decide
  constructor
  · intro pattern resolved
    exact exists_hasExample resolved
  constructor
  · intro fault refused
    exact isRefused_of_resolve refused
  constructor
  · intro surroundings settings log tree asJson settings_eq log_eq
    exact Surroundings.performs_commandLine isCommand (Command.read_example name) settings_eq log_eq
  · exact exampleRequest_asksFor name

/-- A spelling of a pattern's name, and the name of no pattern. -/
theorem example_agrees_on_names :
    (resolveValue (.scalar (.text " n-times usage\n")) = .ok .nTimesUsage ∧
      ∃ policy, HasExample " n-times usage\n" .nTimesUsage policy) ∧
    (resolveValue (.scalar (.text "not recognized")) = .error (.unknown "not recognized") ∧
      IsRefused "not recognized" "Unknown pattern: not recognized") := by
  have resolved : resolveValue (.scalar (.text " n-times usage\n")) = .ok .nTimesUsage := by
    decide +kernel
  have refused : resolveValue (.scalar (.text "not recognized")) =
      .error (.unknown "not recognized") := by
    decide +kernel
  exact ⟨⟨resolved, (example_agrees _).1 _ resolved⟩, refused, (example_agrees _).2.1 _ refused⟩

/-- Not every integer is an indent that an example has a text for. -/
theorem example_without_text :
    resolveValue (.scalar (.text "PROVIDE_ACCESS")) = .ok .provideAccess ∧
      ¬ ∃ text, exampleText (.scalar (.text "PROVIDE_ACCESS")) (indentValue (some (-2 ^ 63 - 1))) =
        .ok text := by
  constructor
  · decide +kernel
  · rintro ⟨text, text_eq⟩
    cases text_eq

end Pattern

end UsageContracts
