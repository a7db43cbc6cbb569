import UsageContracts.Service.Reply
import UsageContracts.Service.Request

/-!
# Origins

Pages of other origins may use the service if their origin is configured.
Requests that tell their origin get headers that say so, and requests that ask
beforehand are answered without being passed on.
-/

namespace UsageContracts

/-- The methods that pages of other origins may use. -/
def crossOriginMethods : List Text :=
  ["DELETE", "GET", "HEAD", "OPTIONS", "PATCH", "POST", "PUT", "QUERY"]

/-- The origins that may use the service. -/
structure Origins where
  names : List Text

namespace Origins

/-- Whether every origin may use the service. -/
def allowsAll (origins : Origins) : Bool :=
  origins.names.contains "*"

/-- Whether an origin may use the service. -/
def allows (origins : Origins) (origin : Text) : Bool :=
  origins.allowsAll || origins.names.contains origin

/-- The header that allows credentials. -/
def credentialsHeader : HeaderName × Text :=
  (.allowCredentials, "true")

/-- The reply to a request that asks beforehand whether an origin may use a
method. -/
def preflight (origins : Origins) (origin method : Text) : Reply :=
  let isAllowed := origins.allows origin
  let problems : List Text :=
    (if isAllowed then [] else [("origin" : Text)]) ++
      (if crossOriginMethods.contains method then [] else [("method" : Text)])
  let originHeaders := if isAllowed then [(HeaderName.allowOrigin, origin)] else []
  { status := if problems.isEmpty then 200 else 400
    headers :=
      originHeaders ++
        [credentialsHeader, (.allowMethods, Text.join ", " crossOriginMethods)]
    body := .text <|
      if problems.isEmpty then "OK" else "Disallowed CORS " ++ Text.join ", " problems }

/-- The headers of a reply to a request from an origin.  If all origins may use
the service, only requests with cookies are answered with the origin itself. -/
def headersFor (origins : Origins) (origin : Text) (hasCookie : Bool) :
    List (HeaderName × Text) :=
  let allowed : List (HeaderName × Text) :=
    if origins.allowsAll && !hasCookie then [(.allowOrigin, "*")]
    else if origins.allows origin then [(.allowOrigin, origin)]
    else []
  allowed ++ [credentialsHeader]

end Origins

end UsageContracts
