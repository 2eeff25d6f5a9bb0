import GatewayNat.Http.Message
import GatewayNat.Json.Shown

/-!
# Requests from other origins

A page of another origin may read an answer if its origin is allowed.

* The allowed origins are a value.  A list allows its items, an object its names
  and a text its parts.  Whatever allows `*` allows every origin.  No other value
  can be asked for an origin.
* Every response says that it depends on the origin.  The response to a request
  with an origin allows credentials, and it names the origin if that is allowed.
* A request with the method `OPTIONS`, an origin and a header that asks for a
  method is a question in advance.  It is answered here: with 200 if the origin
  and the method are allowed and no private network is asked for, otherwise with
  400 and what is not allowed.  The answer allows every header asked for.
-/

namespace GatewayNat.Http

/-- Whether a list occurs in another. -/
def occursIn {α : Type} [BEq α] (part : List α) : List α → Bool
  | [] => part.isEmpty
  | c :: rest => part.isPrefixOf (c :: rest) || occursIn part rest

/-- Whether a value of origins has an origin among them. -/
def listsOrigin (origins : Json) (origin : String) : Bool :=
  match origins with
  | .arr items => items.contains (.str origin)
  | .obj members => Table.has members origin
  | .str text => occursIn (Text.pointsOf origin) text.points
  | _ => false

/-- Whether a value can be asked for an origin. -/
def listsOrigins : Json → Bool
  | .arr _ | .obj _ | .str _ => true
  | _ => false

/-- The wording for a value that cannot be asked for an origin. -/
def noOriginsMessage (value : Json) : String :=
  "argument of type '" ++ value.kindName ++ "' is not iterable"

/-- Whether the origins allow an origin. -/
def allowsOrigin (origins : Json) (origin : String) : Bool :=
  listsOrigin origins "*" || listsOrigin origins origin

/-- The methods that other origins may use. -/
def allowedMethods : List String :=
  ["DELETE", "GET", "HEAD", "OPTIONS", "PATCH", "POST", "PUT", "QUERY"]

/-- The headers that allow an origin to read a response. -/
def allowHeaders (origins : Json) (origin : String) : List (String × String) :=
  ("access-control-allow-credentials", "true") ::
    if allowsOrigin origins origin then [("access-control-allow-origin", origin)] else []

/-- The origin and the method of a question in advance. -/
def Request.inAdvance? (request : Request) : Option (String × String) :=
  if request.method = "OPTIONS" then
    match request.header? "origin", request.header? "access-control-request-method" with
    | some origin, some method => some (origin, method)
    | _, _ => none
  else none

/-- What a question in advance asks for and is not allowed. -/
def disallowed (origins : Json) (request : Request) (origin method : String) : List String :=
  (if allowsOrigin origins origin then [] else ["origin"]) ++
    (if allowedMethods.contains method then [] else ["method"]) ++
    (if (request.header? "access-control-request-private-network").isSome then
      ["private-network"] else [])

/-- The headers of every answer in advance. -/
def inAdvanceHeaders : List (String × String) :=
  [("vary", "Origin, Access-Control-Request-Method, Access-Control-Request-Headers, " ++
      "Access-Control-Request-Private-Network"),
    ("access-control-allow-methods", ", ".intercalate allowedMethods),
    ("access-control-max-age", "600")]

/-- The answer to a question in advance. -/
def answerInAdvance (origins : Json) (request : Request) (origin method : String) : Response :=
  let failures := disallowed origins request origin method
  let base :=
    if failures.isEmpty then Response.ofText 200 "OK"
    else Response.ofText 400 ("Disallowed CORS " ++ ", ".intercalate failures)
  let echoed :=
    match request.header? "access-control-request-headers" with
    | some names => [("access-control-allow-headers", names)]
    | none => []
  base.withHeaders (inAdvanceHeaders ++ allowHeaders origins origin ++ echoed)

/-- The response as other origins see it. -/
def Response.forOrigins (origins : Json) (request : Request) (response : Response) : Response :=
  (response.withHeader "vary" "Origin").withHeaders
    (match request.header? "origin" with
      | some origin => allowHeaders origins origin
      | none => [])

end GatewayNat.Http
