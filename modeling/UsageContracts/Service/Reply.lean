import UsageContracts.Json.Layout

/-!
# Replies

What the service answers.  Errors are told as an object that names the error
and gives details.
-/

namespace UsageContracts

/-- The body of a reply. -/
inductive ReplyBody
  | nothing
  | text (content : Text)
  | json (content : Json)

/-- The headers that the service decides on. -/
inductive HeaderName
  | allow
  | allowOrigin
  | allowCredentials
  | allowMethods
deriving DecidableEq

/-- A reply of the service. -/
structure Reply where
  status : Nat
  headers : List (HeaderName × Text) := []
  body : ReplyBody := .nothing

namespace HeaderName

/-- The name of a header in lower case. -/
def text : HeaderName → Text
  | .allow => "allow"
  | .allowOrigin => "access-control-allow-origin"
  | .allowCredentials => "access-control-allow-credentials"
  | .allowMethods => "access-control-allow-methods"

end HeaderName

namespace Json

/-- A text as a JSON string in which only those characters are escaped that have
to be. -/
def quoteBare (text : Text) : Text :=
  let written := text.flatMap fun point : CodePoint =>
    if point.number < 0x20 ∨ point = '"' ∨ point = '\\' then escapePoint point else [point]
  .scalar '"' :: written ++ [.scalar '"']

mutual

/-- The text of a JSON value in a reply.  There is none if the value holds a
number that is infinite or not a number. -/
def bareText? : Json → Option Text
  | .null => some "null"
  | .bool value => some (if value then "true" else "false")
  | .integer value => some (Text.signedDecimal value)
  | .float (.infinite _) => none
  | .float .nan => none
  | .float value => some (floatText value)
  | .text value => some (quoteBare value)
  | .list items => do return "[" ++ Text.join "," (← bareItems? items) ++ "]"
  | .object members => do return "\x7b" ++ Text.join "," (← bareMembers? members) ++ "\x7d"
termination_by structural json => json

/-- The texts of the items of a list. -/
def bareItems? : List Json → Option (List Text)
  | [] => some []
  | item :: items => do return (← bareText? item) :: (← bareItems? items)
termination_by structural items => items

/-- The texts of the members of an object. -/
def bareMembers? : List (Text × Json) → Option (List Text)
  | [] => some []
  | member :: members => do return (← bareMember? member) :: (← bareMembers? members)
termination_by structural members => members

/-- The text of a member of an object. -/
def bareMember? : Text × Json → Option Text
  | (name, json) => do return quoteBare name ++ ":" ++ (← bareText? json)
termination_by structural member => member

end

end Json

namespace Reply

/-- The reply that a request has been answered. -/
def ok (body : ReplyBody) : Reply :=
  { status := 200, body }

/-- The object that tells an error. -/
def errorObject (error : Text) (detail : Json) : Json :=
  .object [member "error" (.text error), member "detail" detail]

/-- The phrase of a status. -/
def phrase : Nat → Text
  | 400 => "Bad Request"
  | 404 => "Not Found"
  | 405 => "Method Not Allowed"
  | 422 => "Unprocessable Entity"
  | 500 => "Internal Server Error"
  | _ => "OK"

/-- The reply that a request is refused with a status. -/
def refused (status : Nat) (detail : Text) : Reply :=
  { status, body := .json (errorObject (phrase status) (.text detail)) }

/-- The reply that something unexpected has happened. -/
def unexpected : Reply :=
  { status := 500, body := .json (errorObject "Internal server error" .null) }

end Reply

end UsageContracts
