import UsageContracts.Json.Encoding
import UsageContracts.Service.Reply
import UsageContracts.Service.Request

/-!
# Input of requests

What requests have to bring along: a contract's text in the body, or a
pattern's name among the parameters.  Input that is missing or of another form
is told with its place.
-/

namespace UsageContracts

/-- What is wrong with an input. -/
inductive InputProblem
  | missing
  | notText
  | notScalarText
  | tooShort
  | notAnObject
  | notJson (problem : Json.FormProblem) (offset : Nat)
deriving DecidableEq

/-- A fault of the input: what is wrong, where, and with which value. -/
structure InputFault where
  problem : InputProblem
  place : List Json
  input : Json

/-- Why a request does not bring the input that it needs. -/
inductive InputError
  | fault (fault : InputFault)
  /-- The body cannot be taken apart for another reason than its form. -/
  | broken
  /-- The body has a fault, but it is no text with which the fault could be told. -/
  | undecoded (fault : Utf8Fault)

namespace InputProblem

/-- The name of a kind of problem. -/
def kind : InputProblem → Text
  | .missing => "missing"
  | .notText => "string_type"
  | .notScalarText => "string_unicode"
  | .tooShort => "string_too_short"
  | .notAnObject => "model_attributes_type"
  | .notJson _ _ => "json_invalid"

/-- The wording of a problem. -/
def message : InputProblem → Text
  | .missing => "Field required"
  | .notText => "Input should be a valid string"
  | .notScalarText =>
      "Input should be a valid string, unable to parse raw data as a unicode string"
  | .tooShort => "String should have at least 1 character"
  | .notAnObject =>
      "Input should be a valid dictionary or object to extract fields from"
  | .notJson _ _ => "JSON decode error"

/-- What is told besides about a problem. -/
def context : InputProblem → List (Text × Json)
  | .tooShort => [member "ctx" (.object [member "min_length" (.integer 1)])]
  | .notJson problem _ => [member "ctx" (.object [member "error" (.text problem.message)])]
  | _ => []

end InputProblem

namespace InputFault

/-- The description of a fault. -/
def description (fault : InputFault) : Json :=
  .object <|
    [ member "type" (.text fault.problem.kind),
      member "loc" (.list fault.place),
      member "msg" (.text fault.problem.message),
      member "input" fault.input ] ++
    fault.problem.context

/-- The content of the reply to a fault. -/
def content (fault : InputFault) : Json :=
  .object [member "detail" (.list [fault.description])]

end InputFault

/-! ## Bodies -/

/-- What the body of a request is. -/
inductive BodyContent
  | nothing
  /-- A body that is not said to be JSON. -/
  | other (bytes : List UInt8)
  | json (content : Json)

/-- The place of the body. -/
def bodyPlace : Json :=
  .text "body"

namespace Request

/-- Take the body apart. -/
def bodyContent (request : Request) : Except InputError BodyContent :=
  if request.body.isEmpty then
    .ok .nothing
  else if request.hasJsonBody then
    match Json.decode? request.body with
    | none => .error .broken
    | some text =>
        match Json.read text with
        | .ok json => .ok (.json json)
        | .error (.form problem offset) =>
            .error (.fault {
              problem := .notJson problem offset
              place := [bodyPlace, .integer offset]
              input := .object [] })
        | .error (.numeral _) => .error .broken
  else
    .ok (.other request.body)

/-- The text of a contract in the member of an object. -/
def policyIn (members : List (Text × Json)) : Except InputFault Text :=
  let place : List Json := [bodyPlace, .text "policy"]
  match members.lookup ("policy" : Text) with
  | none => .error { problem := .missing, place, input := .object members }
  | some (.text []) => .error { problem := .tooShort, place, input := .text [] }
  | some (.text text) =>
      if text.characters?.isNone then
        .error { problem := .notScalarText, place, input := .text text }
      else
        .ok text
  | some json => .error { problem := .notText, place, input := json }

/-- The text of a contract that a request brings along. -/
def policy (request : Request) : Except InputError Text := do
  match ← request.bodyContent with
  | .nothing =>
      throw (.fault { problem := .missing, place := [bodyPlace], input := .null })
  | .json (.object members) => (policyIn members).mapError .fault
  | .json content =>
      throw (.fault { problem := .notAnObject, place := [bodyPlace], input := content })
  | .other bytes =>
      let text ← (Text.readUtf8 false bytes).mapError .undecoded
      throw (.fault { problem := .notAnObject, place := [bodyPlace], input := .text text })

/-- The name of a pattern that a request brings along. -/
def patternName (request : Request) : Except InputError Text :=
  match request.parameter? "pattern" with
  | some name => .ok name
  | none =>
      .error (.fault {
        problem := .missing
        place := [.text "query", .text "pattern"]
        input := .null })

end Request

end UsageContracts
