import GatewayNat.Http.Origin
import GatewayNat.Service.Endpoint

/-!
# Exchanges

An exchange is a request with everything that the service does about it.

* A question in advance from another origin is answered without an endpoint and
  leaves no record.
* Any other request is traced by an id: the first `X-Trace-ID` header if it is
  not empty, else a fresh id.  Its endpoint answers it, a record tells the
  status, and the response carries the id.
* An outage of the endpoint is told by two records and answered with 500.  The
  answer carries the id in its body, and the wording of the outage only if the
  settings allow it.

If the allowed origins of the settings are a value that cannot be asked for an
origin, no request is answered and nothing is recorded.
-/

namespace GatewayNat

open Http

/-- A request as the service dealt with it. -/
structure Exchange where
  /-- The response, if the request was answered. -/
  response : Option Response
  /-- The outage of the service, if there was one. -/
  outage : Option Outage
  /-- The records that the journal kept. -/
  records : List Journal.Record
  service : Service

/-- The id that traces a request. -/
def traceId (around : Surroundings) (request : Request) : String :=
  match request.header? "x-trace-id" with
  | some id => if id = "" then around.freshId else id
  | none => around.freshId

namespace Service

/-- The start of a message about a request. -/
def requestLabel (trace : String) (request : Request) : String :=
  "[" ++ trace ++ "] " ++ request.method ++ " " ++ request.addressPath ++ " -> "

/-- The record of a request that was answered. -/
def answeredRecord (around : Surroundings) (trace : String) (request : Request) (status : Nat) :
    Journal.Record where
  component := .requests
  level := if 400 ≤ status then .warning else .info
  message := requestLabel trace request ++ toString status ++ " (" ++ around.elapsed ++ "ms)"

/-- The record of a request whose endpoint failed. -/
def failedRecord (around : Surroundings) (trace : String) (request : Request) (outage : Outage) :
    Journal.Record where
  component := .requests
  level := .error
  message := requestLabel trace request ++ "EXCEPTION after " ++ around.elapsed ++ "ms: " ++
    outage.message

/-- The record of an outage of an endpoint. -/
def outageRecord (trace : String) (outage : Outage) : Journal.Record where
  component := .application
  level := .error
  message := "[" ++ trace ++ "] Unhandled exception: " ++ outage.kind.name ++ ": " ++
    outage.message

/-- The answer for an outage of an endpoint. -/
def outageResponse (settings : Settings) (trace : String) (outage : Outage) : Response :=
  .ofJson 500
    (.obj [("detail", .str (if settings.debug then outage.message else "Internal Server Error")),
      ("trace_id", .str trace), ("error", .str outage.kind.name)])

/-- Ends an exchange whose endpoint replied. -/
def conclude (around : Surroundings) (trace : String) (request : Request) (s : Service)
    (reply : Reply) : Exchange :=
  match reply.result with
  | .ok response =>
    let records := reply.records ++ [answeredRecord around trace request response.status]
    { response :=
        some ((response.withHeader "x-trace-id" trace).forOrigins s.settings.corsOrigins request)
      outage := none
      records := s.kept records
      service := reply.service.write around records }
  | .error outage =>
    let records := reply.records ++
      [failedRecord around trace request outage, outageRecord trace outage]
    { response := some (outageResponse s.settings trace outage)
      outage := some outage
      records := s.kept records
      service := reply.service.write around records }

/-- Deals with a request where the allowed origins can be asked. -/
def handleListed (around : Surroundings) (request : Request) (s : Service) : Exchange :=
  match request.inAdvance? with
  | some (origin, method) =>
    ⟨some (answerInAdvance s.settings.corsOrigins request origin method), none, [], s⟩
  | none =>
    let trace := traceId around request
    s.conclude around trace request (s.endpoint trace request)

/-- Deals with a request. -/
def handle (around : Surroundings) (request : Request) (s : Service) : Exchange :=
  if listsOrigins s.settings.corsOrigins then s.handleListed around request
  else ⟨none, some ⟨.type, noOriginsMessage s.settings.corsOrigins⟩, [], s⟩

end Service

end GatewayNat
