import GatewayNat.Json.Basic
import GatewayNat.Text.Blank
import GatewayNat.Text.Case

/-!
# Requests and responses

A request has a method, a path that is already decoded, headers and the octets
of a body.  Names of headers are found in capitals or not, and the first header
of a name counts.

A response has a status, headers and a body, which is a JSON value or a text.
-/

namespace GatewayNat.Http

/-- A request. -/
structure Request where
  method : String
  path : String
  headers : List (String × String)
  body : List UInt8
  deriving DecidableEq, Repr

namespace Request

/-- The value of the first header of a name, which is given in small letters. -/
def header? (request : Request) (name : String) : Option String :=
  (request.headers.find? fun header => Text.lowerAscii header.1 = name).map (·.2)

/-- A character of a path as an address has it.  Tabs and line ends do not belong to an address. -/
def addressChar : Char → List Char
  | '?' => "%3F".toList
  | '#' => "%23".toList
  | '\\' => "%5C".toList
  | '\t' | '\n' | '\r' => []
  | c => [c]

/-- A path with a slash in front, unless it is empty. -/
def rooted : List Char → List Char
  | [] => []
  | '/' :: rest => '/' :: rest
  | path => '/' :: path

/-- The path as it stands in the request's address. -/
def addressPath (request : Request) : String :=
  String.ofList ((rooted request.path.toList).flatMap addressChar)

end Request

/-- The body of a response. -/
inductive Body where
  | json (value : Json)
  | text (s : String)
  deriving DecidableEq, Repr

/-- A response.  Names of headers are in small letters. -/
structure Response where
  status : Nat
  headers : Table String String
  body : Body
  deriving DecidableEq, Repr

namespace Response

/-- A response with a JSON body. -/
def ofJson (status : Nat) (value : Json) : Response :=
  ⟨status, [("content-type", "application/json")], .json value⟩

/-- A response with a text. -/
def ofText (status : Nat) (text : String) : Response :=
  ⟨status, [("content-type", "text/plain; charset=utf-8")], .text text⟩

/-- A response with a JSON body that only says what is the matter. -/
def ofDetail (status : Nat) (detail : String) : Response :=
  ofJson status (.obj [("detail", .str detail)])

/-- The response with a header set. -/
def withHeader (name value : String) (response : Response) : Response :=
  { response with headers := response.headers.set name value }

/-- The response with headers set. -/
def withHeaders (headers : List (String × String)) (response : Response) : Response :=
  headers.foldl (fun r header => r.withHeader header.1 header.2) response

end Response

end GatewayNat.Http
