import Formulary.Service.Operation
import Formulary.Text.Blank
import Formulary.Text.Percent

/-!
# Routes

Which paths stand for what, and which operation a method asks for there.  A path
is compared after its percent-encoding is undone; a line feed at its very end
does not matter, and an id is anything but a slash.
-/

namespace Formulary.Http

/-- What a path stands for. -/
inductive Route where
  | self
  | templates
  | template (id : String)
  | templateSchema (id : String)
  | documents
  | document (id : String)
  | resolvedDocument (id : String)
deriving DecidableEq, Repr

/-- What a method asks for at a route. -/
inductive Endpoint where
  /-- The identity that the request carries. -/
  | identity
  /-- An operation without a payload. -/
  | plain (operation : Operation)
  /-- An operation on the payload in the body. -/
  | withPayload (operation : Value → Operation)

/-- The path of a request, decoded. -/
def decodedPath (path : String) : String := Text.percentDecoded path.toList

/-- The parts of a path between its slashes. -/
def segments (path : List Char) : List (List Char) := path.splitOn '/'

/-- A last part of a path is a fixed word. -/
def isWord (s : List Char) (word : String) : Bool := String.ofList (Text.dropLineEnd s) = word

namespace Route

/-- The routes below one of the two collections. -/
def ofCollection? (collection : Route) (one : String → Route) (view : String)
    (viewed : String → Route) : List (List Char) → Option Route
  | [] => some collection
  | [id] => if id.isEmpty then none else some (one (String.ofList id))
  | [id, word] =>
    if !id.isEmpty && isWord word view then some (viewed (String.ofList id)) else none
  | _ => none

/-- The route of a decoded path. -/
def ofPath? (path : String) : Option Route :=
  match segments path.toList with
  | [[], api, last] =>
    if String.ofList api ≠ "api" then none
    else if isWord last "self" then some .self
    else if isWord last "document-templates" then some .templates
    else if isWord last "documents" then some .documents
    else none
  | [] :: api :: collection :: rest =>
    if String.ofList api ≠ "api" then none
    else if String.ofList collection = "document-templates" then
      ofCollection? .templates .template "schema" .templateSchema rest
    else if String.ofList collection = "documents" then
      ofCollection? .documents .document "resolved" .resolvedDocument rest
    else none
  | _ => none

/-- A path that is none, but leads to a route without the slashes at its end. -/
def isRedirected (path : String) : Bool :=
  let s := path.toList.reverse
  s.head? = some '/' && (ofPath? (String.ofList (s.dropWhile (· = '/')).reverse)).isSome

/-- What a method asks for at a route, if the route takes it. -/
def endpoint? : Route → (method : String) → Option Endpoint
  | .self, "GET" => some .identity
  | .templates, "GET" => some (.plain .listTemplates)
  | .templates, "POST" => some (.withPayload .createTemplate)
  | .template id, "GET" => some (.plain (.getTemplate (some id)))
  | .template id, "PUT" => some (.withPayload (.updateTemplate (some id)))
  | .template id, "DELETE" => some (.plain (.deleteTemplate (some id)))
  | .templateSchema id, "GET" => some (.plain (.getSchema (some id)))
  | .documents, "GET" => some (.plain .listDocuments)
  | .documents, "POST" => some (.withPayload (.createDocument true))
  | .document id, "GET" => some (.plain (.getDocument (some id)))
  | .document id, "PUT" => some (.withPayload (.updateDocument true (some id)))
  | .document id, "DELETE" => some (.plain (.deleteDocument (some id)))
  | .resolvedDocument id, "GET" => some (.plain (.resolveDocument (some id)))
  | _, _ => none

end Route

end Formulary.Http
