import MarineFix.Decode.Decoder
import MarineFix.Record.Message
import MarineFix.Service.Body
/-!
The service decodes a sentence, lists the known kinds, and shows pages about both.
-/

namespace MarineFix.Service

structure Request where
  method : Text
  path : Text
  body : Text

/-- A path leads to one of the services or to a page. -/
inductive Route where
  | decode
  | sentences
  | description
deriving DecidableEq

inductive Reply where
  | record (record : Record)
  | rejected (failure : Failure)
  | kinds (kinds : List Text)
  | invalidRequest
  | unreadable
  | description
  | redirected
  | notFound
  | methodNotAllowed

/-- The methods are compared letter by letter, so their case counts. -/
def Route.methods : Route → List Text
  | .decode => ["POST".toList]
  | .sentences => ["GET".toList]
  | .description => ["GET".toList, "HEAD".toList]

def routes : List (Text × Route) :=
  [("/decode".toList, .decode),
    ("/sentences".toList, .sentences),
    ("/openapi.json".toList, .description),
    ("/docs".toList, .description),
    ("/docs/oauth2-redirect".toList, .description),
    ("/redoc".toList, .description)]

/-- One line feed at the end is not part of a path. -/
def dropLineFeed (path : Text) : Text := if path.getLast? = some '\n' then path.dropLast else path

/-- A path has a route only when it is spelled in full. -/
def route? (path : Text) : Option Route := routes.lookup (dropLineFeed path)

def dropSlashes (path : Text) : Text := (path.reverse.dropWhile (· == '/')).reverse

/-- A path redirects to its route without slashes at the end. -/
def redirects (path : Text) : Bool :=
  path.getLast? == some '/' && (route? (dropSlashes path)).isSome

/-- The sentence of a body is a string member of an object. -/
def sentence? (body : Json) : Option Text :=
  match body.member? "sentence".toList with
  | some (.scalar (.string sentence)) => some sentence
  | _ => none

/-- An empty body is no request, and a refused one is not read. -/
def decodeBody (decoder : Decoder) (body : Text) : Reply :=
  match (bodyText body).bind Json.ofText with
  | .error .malformed => .invalidRequest
  | .error .refused => .unreadable
  | .ok json =>
      match sentence? json with
      | none => .invalidRequest
      | some sentence =>
          match decoder.decode sentence with
          | .ok record => .record record
          | .error failure => .rejected failure

def respond (decoder : Decoder) (request : Request) : Reply :=
  match route? request.path with
  | none => if redirects request.path then .redirected else .notFound
  | some route =>
      if route.methods.contains request.method then
        match route with
        | .decode => decodeBody decoder request.body
        | .sentences => .kinds decoder.table.supported
        | .description => .description
      else .methodNotAllowed

namespace Reply

def status : Reply → Nat
  | .record _ => 200
  | .kinds _ => 200
  | .description => 200
  | .redirected => 307
  | .unreadable => 400
  | .notFound => 404
  | .methodNotAllowed => 405
  | .rejected _ => 422
  | .invalidRequest => 422

def detail (value : Json) : Json := .object [("detail".toList, value)]

def string (text : Text) : Json := .scalar (.string text)

/-- A redirection and a page for readers have no JSON body. -/
def body? : Reply → Option Json
  | .record decoded =>
      some (.object (decoded.members.map fun member => (member.1, .scalar member.2)))
  | .kinds names => some (.array (names.map string))
  | .rejected failure =>
      some (detail (.object [("error".toList, string failure.category.name),
        ("message".toList, string failure.message)]))
  | .invalidRequest => some (string "invalid request".toList)
  | .unreadable => some (detail (string "There was an error parsing the body".toList))
  | .notFound => some (detail (string "Not Found".toList))
  | .methodNotAllowed => some (detail (string "Method Not Allowed".toList))
  | .description => none
  | .redirected => none

end Reply

end MarineFix.Service
