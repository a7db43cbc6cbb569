import UsageContracts.Text.LetterCase
import UsageContracts.Text.Numeral
import UsageContracts.Text.Utf8
import UsageContracts.Text.Blank

/-!
# Requests

A request names a resource by a path and a query, in which bytes can be written
as a percent sign and two hexadecimal digits.  Names of headers are compared
without regard to letter case.
-/

namespace UsageContracts

/-- A request to the service. -/
structure Request where
  method : Text
  path : Text
  query : List (Text × Text) := []
  headers : List (Text × Text) := []
  body : List UInt8 := []

namespace Request

/-! ## Decoding targets -/

/-- A text whose percent signs are read as bytes: either the decoded text or a
byte that belongs to a longer run. -/
inductive TargetPart
  | point (point : CodePoint)
  | byte (value : UInt8)

/-- The byte that a percent sign and two digits write. -/
def escapedByte? (first second : CodePoint) : Option UInt8 :=
  match Text.characters? [first, second] with
  | none => none
  | some digits => (Text.hexadecimalNumber? digits).map UInt8.ofNat

/-- The parts of a text with escaped bytes. -/
def targetParts : Text → List TargetPart
  | .scalar '%' :: first :: second :: rest =>
      match escapedByte? first second with
      | some byte => .byte byte :: targetParts rest
      | none => .point '%' :: targetParts (first :: second :: rest)
  | point :: rest => .point point :: targetParts rest
  | [] => []

/-- The text of parts, in which each run of bytes is read as UTF-8.  The bytes
before the parts come in reverse. -/
def textOfParts (bytes : List UInt8) : List TargetPart → Text
  | [] => Text.ofUtf8 bytes.reverse
  | .byte byte :: parts => textOfParts (byte :: bytes) parts
  | .point point :: parts => Text.ofUtf8 bytes.reverse ++ point :: textOfParts [] parts

/-- The text that is written with escaped bytes. -/
def unescape (text : Text) : Text :=
  textOfParts [] (targetParts text)

/-- The text before the first occurrence of a code point and, if there is one,
the text after it. -/
def cut (separator : CodePoint) (text : Text) : Text × Option Text :=
  let isOther := fun point : CodePoint => point != separator
  match text.dropWhile isOther with
  | [] => (text, none)
  | _ :: after => (text.takeWhile isOther, some after)

/-- A text in which plus signs stand for spaces. -/
def unescapeForm (text : Text) : Text :=
  unescape (text.map fun point : CodePoint => if point = '+' then ' ' else point)

/-- The name and the value that a part of a query gives. -/
def queryPair (part : Text) : Text × Text :=
  let (name, value) := cut '=' part
  (unescapeForm name, unescapeForm (value.getD []))

/-- The names and values in a query. -/
def queryPairs (query : Text) : List (Text × Text) :=
  ((query.splitOn '&').filter (!·.isEmpty)).map queryPair

/-- The part of a target after the name of a host, which stands between two
slashes and a third one. -/
def afterHost : Text → Text
  | .scalar '/' :: .scalar '/' :: rest => rest.dropWhile fun point : CodePoint => point ≠ '/'
  | target => target

/-- Put a segment of a path after those before it.  A single dot adds nothing
and two dots take back a segment, but not the root. -/
def addSegment (segments : List Text) (segment : Text) : List Text :=
  if segment = "." then segments
  else if segment = ".." then
    if segments = [] ∨ segments = [[]] then segments else segments.dropLast
  else segments ++ [segment]

/-- A path from the root, without dots among its segments. -/
def fromRoot (path : Text) : Text :=
  let path : Text := "/" ++ path.dropWhile fun point : CodePoint => point = '/'
  Text.join "/" ((path.splitOn '/').foldl addSegment [])

/-- The request for a target, which may hold a query. -/
def ofTarget (method target : Text) : Request :=
  let (target, _) := cut '#' target
  let (path, query) := cut '?' target
  { method
    path := unescape (fromRoot (afterHost path))
    query := queryPairs (query.getD []) }

/-! ## Looking up -/

/-- The value of a parameter; the last one counts. -/
def parameter? (request : Request) (name : Text) : Option Text :=
  request.query.reverse.lookup name

/-- The value of a header. -/
def header? (request : Request) (name : Text) : Option Text :=
  (request.headers.find? fun header => header.1.lower == name.lower).map (·.2)

/-- The type of the body: the header without parameters and in lower case. -/
def bodyType? (request : Request) : Option Text :=
  (request.header? "content-type").map fun type => (cut ';' type).1.trim.lower

/-- Whether the type of the body says that it is JSON. -/
def hasJsonBody (request : Request) : Bool :=
  match request.bodyType? with
  | none => false
  | some type =>
      match type.splitOn '/' with
      | [kind, subtype] =>
          let suffix : Text := "+json"
          kind == "application" && (subtype == "json" || suffix.isSuffixOf subtype)
      | _ => false

end Request

end UsageContracts
