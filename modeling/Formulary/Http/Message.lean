import Formulary.Failure
import Formulary.Identity
import Formulary.Json.Reader
import Formulary.Text.Encoding

/-!
# Requests and responses

What a client sends over HTTP and what comes back.  A body counts as JSON only
when the request declares it so, and is then read in the encoding that its octets
show; a body of another kind is kept as text, and an empty one is no body at all.
A body without a UTF-8 form has no octets, and cannot be sent.

A response carries a JSON value or nothing.  A handler may also break off, and
then no response is made: a value that cannot be sent makes it do so.
-/

namespace Formulary.Http

/-! ## Requests -/

/-- A request. -/
structure Request where
  method : String
  /-- The path as it is sent, percent-encoded. -/
  path : String
  headers : Headers
  /-- The body, which is sent in UTF-8. -/
  body : Text
deriving DecidableEq, Inhabited

/-- A request with a body.  A body whose type is not declared is declared as
JSON. -/
def Request.withBody (request : Request) (body : Text) : Request :=
  { request with
    headers := request.headers ++
      if (request.headers.value? "content-type").isNone
      then [("content-type", "application/json")] else []
    body := body }

/-- A media type is one for JSON: `application/json`, or `application/` with a
suffix `+json`, in letters of either case.  Parameters do not matter. -/
def isJsonType (type : String) : Bool :=
  let type := (Text.trim (type.toList.takeWhile (· ≠ ';'))).map Char.toLower
  type.takeWhile (· ≠ '/') = "application".toList &&
    match type.dropWhile (· ≠ '/') with
    | '/' :: subtype =>
      !subtype.contains '/' &&
        (subtype = "json".toList || "+json".toList.isSuffixOf subtype)
    | _ => false

/-- A body as it was read. -/
inductive Body where
  | empty
  /-- A body that is not declared as JSON. -/
  | text (s : String)
  | json (v : Value)
deriving DecidableEq

/-- Why a body could not be read. -/
inductive BodyError where
  /-- It is no JSON; something else was expected at this offset. -/
  | syntaxError (offset : Nat)
  /-- It is no text in its encoding, or holds an integer that is too long or lists
  and objects too deep. -/
  | unreadable
deriving DecidableEq, Repr

/-- The JSON text that a body is.  Its first octets show its encoding, unless it
starts with a byte order mark, which is no part of the text. -/
def jsonText? (body : String) : Option Text :=
  match body.toList with
  | '\uFEFF' :: rest => some (String.ofList rest)
  | cs =>
    let octets := cs.flatMap Text.octets
    ((Text.Encoding.ofOctets octets).decode? octets).map Text.ofPoints

/-- A body that came with headers, read. -/
def Body.read (headers : Headers) (body : String) : Except BodyError Body :=
  if body = "" then .ok .empty
  else if (headers.value? "content-type").any isJsonType then
    match (jsonText? body).map Json.read with
    | some (.ok v) => .ok (.json v)
    | some (.error (.syntaxError offset)) => .error (.syntaxError offset)
    | some (.error _) | none => .error .unreadable
  else .ok (.text body)

/-! ## Responses -/

/-- Why a handler breaks off. -/
inductive Crash where
  /-- A stored row does not fit the form in which rows are published. -/
  | unpublishable
  /-- Data of an unforeseen shape. -/
  | fault (fault : Fault)
  /-- A number that is not finite was to be repeated to the client. -/
  | notFinite
  /-- A body or a report was to hold a lone half of a surrogate pair. -/
  | unencodable
  /-- An answer was to hold a lone half of a surrogate pair. -/
  | unserializable
deriving DecidableEq

/-- A response. -/
inductive Response where
  | json (status : Nat) (body : Value)
  | empty (status : Nat)
  | crash (cause : Crash)
deriving DecidableEq

namespace Response

/-- A response that says why there is no answer. -/
def detail (status : Nat) (v : Value) : Response :=
  if v.isEncodable then .json status (.object [("detail", v)]) else .crash .unencodable

/-- A request that nothing stands behind. -/
def notFound : Response := .detail 404 (.str "Not Found")

/-- A request by a method that its path does not take. -/
def methodNotAllowed : Response := .detail 405 (.str "Method Not Allowed")

/-- A request for the same path without the slashes at its end. -/
def redirect : Response := .empty 307

/-- A request without an identity. -/
def unauthorized : Response := .detail 401 (.str "Unauthorized")

/-- A body that could not be read. -/
def ofBodyError : BodyError → Response
  | .syntaxError offset => .detail 422 (.list [.object [
      ("type", .str "json_invalid"),
      ("loc", .list [.str "body", .int offset]),
      ("msg", .str "JSON decode error")]])
  | .unreadable => .detail 400 (.str "There was an error parsing the body")

/-- A body with issues.  The inputs that they are about are repeated to the
client, in JSON without special numbers and without lone halves. -/
def ofIssues (issues : List Issue) : Response :=
  if issues.any fun issue => !issue.input.isFinite then .crash .notFinite
  else if issues.any fun issue => !issue.input.isEncodable then .crash .unencodable
  else .detail 422 (.list (issues.map fun issue =>
    { issue with place := .key "body" :: issue.place }.toValue))

/-- An operation that failed. -/
def ofFailure : Failure → Response
  | .notFound entity id => .detail 404 (.str (notFoundMessage entity.title id))
  | .refused reason complaints =>
    .detail 422 (Failure.refusalDetail reason.message (.list (complaints.map Complaint.toValue)))
  | .internal => .detail 500 (.str Failure.internalDetail)
  | .unreadable issues => .ofIssues issues
  | .fault fault => .crash (.fault fault)

end Response

end Formulary.Http
