import BuildHook.Json.Printer
import BuildHook.Text.Utf8

/-!
# HTTP messages

The part of requests and responses that the service looks at and decides on.
-/

namespace BuildHook.Http

/-- A request. -/
structure Request where
  method : String
  target : String
  headers : List (String × Bytes)
  body : Bytes

/-- The same letter in lower case, for the letters of ASCII, which are all that names of headers
can hold. -/
def lowered (name : String) : String := name.map Char.toLower

namespace Request

/-- The value of the first header of a name; case counts for nothing. -/
def header? (request : Request) (name : String) : Option Bytes :=
  (request.headers.find? fun header => lowered header.1 == lowered name).map (·.2)

/-- The value of the first header of a name, or nothing. -/
def header (request : Request) (name : String) : Bytes := (request.header? name).getD []

/-- Characters of the scheme in front of an absolute target. -/
def isSchemeChar (c : Char) : Bool := c.isAlphanum || c = '+' || c = '-' || c = '.'

/-- The target without its fragment, and without the scheme and the host of an absolute one. -/
def resource (request : Request) : List Char :=
  let target := request.target.toList.takeWhile (· != '#')
  match target.dropWhile isSchemeChar with
  | ':' :: '/' :: '/' :: rest =>
    let resource := rest.dropWhile fun c => c != '/' && c != '?'
    if resource.head? = some '/' then resource else '/' :: resource
  | _ => target

/-- The path of the target. -/
def path (request : Request) : String := String.ofList (request.resource.takeWhile (· != '?'))

/-- The query of the target, empty if there is none. -/
def query (request : Request) : String :=
  String.ofList ((request.resource.dropWhile (· != '?')).drop 1)

end Request

/-- A response. Of its headers only those that the service sets itself. -/
structure Response where
  status : Nat
  contentType : Option String
  allow : Option String
  body : String
  deriving DecidableEq

namespace Response

/-- A response without content. -/
def bare (status : Nat) (allow : Option String) : Response := ⟨status, none, allow, ""⟩

/-- A response with a JSON value. -/
def json (status : Nat) (value : Json) : Response :=
  ⟨status, some "application/json", none, value.render⟩

/-- A response with plain text. -/
def plain (status : Nat) (text : String) : Response :=
  ⟨status, some "text/plain; charset=utf-8", none, text⟩

/-- The same response without its content. -/
def withoutBody (response : Response) : Response := { response with body := "" }

end Response

end BuildHook.Http
