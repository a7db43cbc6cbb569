import UsageContracts.CommandLine.Help
import UsageContracts.Contract.Example
import UsageContracts.Contract.Text
import UsageContracts.Contract.Verdict
import UsageContracts.Log.Record
import UsageContracts.Service.Input
import UsageContracts.Service.Origins
import UsageContracts.Text.Encoding

/-!
# Replies to requests

The service tells the pattern of a contract, gives examples, lists the patterns,
tells its health and has pages that describe it.  A reply comes with the records
that are logged on the way to it.
-/

namespace UsageContracts

/-- The pages that describe the service: its schema, two guides made from the
schema, and the place to which signing in with the first guide leads back. -/
inductive Page
  | schema
  | guide
  | signIn
  | reference
deriving DecidableEq

/-- The path of a page. -/
def Page.path : Page → Text
  | .schema => "/api/openapi.json"
  | .guide => "/api/docs"
  | .signIn => "/docs/oauth2-redirect"
  | .reference => "/api/redoc"

/-- The resources of the service. -/
inductive Resource
  | page (page : Page)
  | health
  | recognition
  | exampleDocument
  | catalogue
deriving DecidableEq

namespace Resource

/-- All resources. -/
def all : List Resource :=
  [ .page .schema, .page .guide, .page .signIn, .page .reference, .health, .recognition,
    .exampleDocument, .catalogue ]

/-- The path of a resource. -/
def path : Resource → Text
  | .page which => which.path
  | .health => "/api/health"
  | .recognition => "/api/examples/policy-pattern"
  | .exampleDocument => "/api/examples/usage-policy"
  | .catalogue => "/api/examples/patterns"

/-- The method by which a resource is used. -/
def method : Resource → Text
  | .recognition => "POST"
  | .exampleDocument => "POST"
  | _ => "GET"

/-- Whether a resource is used by a method.  Only pages give their head alone. -/
def isUsedBy (resource : Resource) (method : Text) : Bool :=
  match resource with
  | .page _ => method == "GET" || method == "HEAD"
  | resource => method == resource.method

/-- A path without what does not count at its end: slashes, and one line feed
before them. -/
def barePath (path : Text) : Text :=
  let path := (path.reverse.dropWhile fun point : CodePoint => point = '/').reverse
  if path.getLast? = some '\n' then path.dropLast else path

/-- The resource at a path. -/
def at? (path : Text) : Option Resource :=
  all.find? (·.path == barePath path)

end Resource

/-- What the service needs to know to answer. -/
structure Service where
  /-- Whether unexpected faults are shown and not logged. -/
  isDebugging : Bool := false
  /-- The origins that may use the service, if origins are looked at. -/
  origins : Option Origins := none
  /-- For how many seconds the service has been running. -/
  uptime : Binary64 := .zero false
  /-- What the pages hold. -/
  pages : Page → ReplyBody := fun _ => .text []
  /-- How a header lists the two methods for pages, in whichever order. -/
  pageMethods : Text := "GET, HEAD"

/-- A reply, with the records that are logged on the way to it. -/
abbrev LoggedReply := Reply × List LogRecord

/-- Why a resource gives no reply. -/
inductive ServiceFault
  /-- The input is not what the resource needs. -/
  | input (error : InputError)
  /-- The document is no contract, which is worth a record. -/
  | document (fault : TextFault)
  /-- There is no such pattern. -/
  | pattern (fault : PatternFault)

/-- The wording of the fault that a number has no place in a reply. -/
def nonNumberMessage : Text :=
  "Out of range float values are not JSON compliant"

namespace Service

/-! ## Resources -/

/-- The reply of the resource that tells the health of the service. -/
def healthContent (service : Service) : Json :=
  .object
    [ member "status" (.text "healthy"),
      member "version" (.text Help.version),
      member "uptime_seconds" (.float service.uptime) ]

/-- The content of the catalogue. -/
def catalogueContent : Json :=
  .object
    [ member "items" (.list Pattern.catalogue),
      member "total" (.integer Pattern.concrete.length) ]

/-- The content that tells the pattern of a contract. -/
def recognitionContent (request : Request) : Except ServiceFault Json := do
  let text ← request.policy.mapError .input
  let policy ← (Policy.ofText text).mapError .document
  return policy.pattern.verdict

/-- The content that gives the example of a pattern. -/
def exampleContent (request : Request) : Except ServiceFault Json := do
  let name ← request.patternName.mapError .input
  let policy ← (Pattern.exampleOf (.scalar (.text name))).mapError .pattern
  return policy.toDocument

/-- What a resource has for a request. -/
def content (service : Service) (resource : Resource) (request : Request) :
    Except ServiceFault ReplyBody :=
  match resource with
  | .page which => .ok (service.pages which)
  | .health => .ok (.json service.healthContent)
  | .catalogue => .ok (.json catalogueContent)
  | .recognition => .json <$> recognitionContent request
  | .exampleDocument => .json <$> exampleContent request

/-! ## Faults -/

/-- The reply to something unexpected, which is logged or shown. -/
def unexpectedReply (service : Service) (message : Text) : LoggedReply :=
  if service.isDebugging then
    ({ status := 500, body := .text message }, [])
  else
    let record : LogRecord :=
      { gravity := .error
        source := "usagecontrol.api"
        message := "Unhandled exception: " ++ message }
    (.unexpected, [record])

/-- The reply to a fault of the input, or why it is not written.  What comes with
the fault may be no value or no text that a reply can hold. -/
def inputReply : InputError → Except Text Reply
  | .broken => .ok (.refused 400 "There was an error parsing the body")
  | .undecoded fault => .error fault.message
  | .fault fault =>
      match fault.content.bareText? with
      | none => .error nonNumberMessage
      | some text =>
          match text.contentFault? with
          | some encodingFault => .error encodingFault.message
          | none => .ok { status := 422, body := .json fault.content }

/-- The reply to a fault, or the wording of an unexpected one. -/
def faultReply : ServiceFault → Except Text LoggedReply
  | .input error => (inputReply error).map (·, [])
  | .pattern fault => .ok (.refused 400 fault.message, [])
  | .document fault =>
      if fault.isReported then
        let record : LogRecord :=
          { gravity := .warning
            source := "usagecontrol.api.routes"
            message := "Failed to parse policy: " ++ fault.message }
        .ok (.refused 400 fault.message, [record])
      else
        .error fault.message

/-! ## Answering -/

/-- The methods by which a resource is used, as a header lists them. -/
def methodsFor (service : Service) : Resource → Text
  | .page _ => service.pageMethods
  | resource => resource.method

/-- The reply to a request, before origins are looked at; or the wording of an
unexpected fault. -/
def answer (service : Service) (request : Request) : Except Text LoggedReply :=
  match Resource.at? request.path with
  | none => .ok (.refused 404 (Reply.phrase 404), [])
  | some resource =>
      if resource.isUsedBy request.method then
        match service.content resource request with
        | .ok body => .ok (.ok body, [])
        | .error fault => faultReply fault
      else
        let headers := [(.allow, service.methodsFor resource)]
        .ok ({ Reply.refused 405 (Reply.phrase 405) with headers }, [])

/-- The reply to a request whose origin is looked at, with headers in front of
those of the reply.  Unexpected faults are answered without them. -/
def answerWith (service : Service) (request : Request) (headers : List (HeaderName × Text)) :
    LoggedReply :=
  match service.answer request with
  | .ok (reply, records) => ({ reply with headers := headers ++ reply.headers }, records)
  | .error message => service.unexpectedReply message

/-- The reply to a request, with its body. -/
def fullReply (service : Service) (request : Request) : LoggedReply :=
  match service.origins, request.header? "origin" with
  | some origins, some origin =>
      let hasCookie := (request.header? "cookie").isSome
      match request.method == "OPTIONS", request.header? "access-control-request-method" with
      | true, some method => (origins.preflight origin method, [])
      | _, _ => service.answerWith request (origins.headersFor origin hasCookie)
  | _, _ => service.answerWith request []

/-- The reply to a request.  Requests for the head of a reply get no body. -/
def respond (service : Service) (request : Request) : LoggedReply :=
  let (reply, records) := service.fullReply request
  if request.method = "HEAD" then
    ({ reply with body := .nothing }, records)
  else
    (reply, records)

end Service

end UsageContracts
