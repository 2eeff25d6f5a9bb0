import GatewayNat.Text.Blank

/-!
# Routes

A path leads to at most one route, and a route answers one method.  A line end
at the very end of a path is no part of it.  The gateway of a compilation is one
step of the path and is not empty.

The pages that tell about the service itself, `/docs` with
`/docs/oauth2-redirect`, `/redoc` and `/openapi.json`, are left out.  They lead
nowhere here.
-/

namespace GatewayNat.Http

/-- Where a path leads to. -/
inductive Route where
  | root
  | liveness
  | health
  | idRange
  | compile (gateway : String)
  deriving DecidableEq, Repr

namespace Route

/-- The path without a line end at its very end. -/
def withoutLineEnd (path : List Char) : List Char :=
  if path.getLast? = some '\n' then path.dropLast else path

/-- The steps of a path. -/
def pathSteps (path : String) : List String :=
  (Text.splitOn '/' (withoutLineEnd path.toList)).map String.ofList

/-- The route of the steps of a path. -/
def ofSteps? : List String → Option Route
  | ["", ""] => some .root
  | ["", "health"] => some .liveness
  | ["", "api", "v1", "health"] => some .health
  | ["", "api", "v1", "nat", "id-range"] => some .idRange
  | ["", "api", "v1", "nat", gateway, "compile"] =>
    if gateway = "" then none else some (.compile gateway)
  | _ => none

/-- The route of a path. -/
def ofPath? (path : String) : Option Route := ofSteps? (pathSteps path)

/-- The method that a route answers. -/
def method : Route → String
  | .compile _ => "POST"
  | _ => "GET"

end Route

end GatewayNat.Http
