import GatewayNat.Compiler
import GatewayNat.Http.Message
import GatewayNat.Http.Payload
import GatewayNat.Http.Route
import GatewayNat.Json.Body
import GatewayNat.Report
import GatewayNat.Service.Basic

/-!
# Endpoints

An endpoint answers the requests of one route, or it fails with an outage.  It
says which records it wrote and what became of the service.

A compilation is answered in these steps, and the first that fails decides.

* The body is read.  Malformed JSON is answered with 422, and a body that is no
  text with 400.
* The directory is found.  Without one the answer is 503.  A directory file with
  values that lie too deep in others is an outage.
* The payload is checked.  Its issues are answered with 422.
* The intent is compiled.  An unknown gateway is answered with 404 and any other
  rejection with 422.  An outage of the directory is an outage of the endpoint.

A body with an error and a number that is not finite or a text with lone
surrogates cannot be written and is an outage too.  In a report such a number is
written as null, and a report whose values lie too deep in each other is an
outage.

The answer about an issue shows the offending value, but of its members only
those that are told to clients.
-/

namespace GatewayNat

open Http

/-- What an endpoint did. -/
structure Reply where
  result : Except Outage Response
  records : List Journal.Record
  service : Service

namespace Service

/-- The version of the service. -/
def version : String := "1.0.0"

/-- The answer for a directory file that cannot be loaded. -/
def notLoadedDetail : String := "Gateway directory could not be loaded"

/-- The answer for a compilation without a directory. -/
def notConfiguredDetail : String :=
  "Gateway directory is not configured (set GATEWAY_DIRECTORY_FILE)"

/-- A response with a JSON body.  Its numbers must be finite, and its texts must have octets. -/
def strictResponse (status : Nat) (value : Json) : Except Outage Response :=
  if !value.allFinite then .error ⟨.value, "Out of range float values are not JSON compliant"⟩
  else
    match Text.Utf8.encodeFault? value.body with
    | some fault => .error ⟨.unencodable, fault.message⟩
    | none => .ok (.ofJson status value)

/-! ## Endpoints that tell about the service -/

/-- What the service is. -/
def rootEndpoint (s : Service) : Response :=
  .ofJson 200
    (.obj [("message", .str (s.settings.appName ++ " API")), ("version", .str version),
      ("docs", .str "/docs")])

/-- That the service runs. -/
def livenessEndpoint : Response := .ofJson 200 (.obj [("status", .str "ok")])

/-- The range of ids for NAT rules. -/
def idRangeEndpoint (s : Service) : Response := .ofJson 200 s.settings.natIds.toJson

/-- The health of a service that has a configured directory or none. -/
def healthBody (s : Service) (directory : Option StaticDirectory) : Json :=
  .obj [("ok", .bool true), ("directory", .bool directory.isSome),
    ("gateways", .int ((directory.map fun d => d.gatewayIds.length).getD 0)),
    ("environment", .str s.settings.appEnv)]

/-- Whether the service can use its configured directory. -/
def healthEndpoint (s : Service) : Reply :=
  let provided := s.configured.use s.files
  let after := { s with configured := provided.configured }
  match provided.provision with
  | .unset => ⟨.ok (.ofJson 200 (s.healthBody none)), provided.records, after⟩
  | .ready directory => ⟨.ok (.ofJson 200 (s.healthBody (some directory))), provided.records, after⟩
  | .failed error =>
    match loadOutage? error with
    | some outage => ⟨.error outage, provided.records, after⟩
    | none =>
      ⟨.ok (.ofDetail 503 notLoadedDetail),
        provided.records ++
          [⟨.healthEndpoint, .error, "Gateway directory health check failed: " ++ error.message⟩],
        after⟩

/-! ## The directory of a compilation -/

/-- Why a compilation has no directory. -/
inductive AccessFault where
  | notConfigured
  | notLoaded
  | failed (outage : Outage)
  deriving DecidableEq, Repr

/-- The result of an endpoint that has no directory. -/
def AccessFault.result : AccessFault → Except Outage Response
  | .notConfigured => .ok (.ofDetail 503 notConfiguredDetail)
  | .notLoaded => .ok (.ofDetail 503 notLoadedDetail)
  | .failed outage => .error outage

/-- The directory that a compilation asks. -/
structure Access where
  /-- The directory with the calls made to it so far, or why there is none. -/
  directory : Except AccessFault (Directory × List Call)
  records : List Journal.Record
  service : Service

/-- Finds the directory for a compilation. -/
def access (s : Service) : Access :=
  match s.standIn with
  | some standIn => ⟨.ok (standIn.directory, standIn.past), [], s⟩
  | none =>
    let provided := s.configured.use s.files
    let after := { s with configured := provided.configured }
    match provided.provision with
    | .unset => ⟨.error .notConfigured, provided.records, after⟩
    | .ready directory => ⟨.ok (directory.toDirectory, []), provided.records, after⟩
    | .failed error =>
      match loadOutage? error with
      | some outage => ⟨.error (.failed outage), provided.records, after⟩
      | none =>
        ⟨.error .notLoaded,
          provided.records ++
            [⟨.directoryProvider, .error, "Failed to load gateway directory: " ++ error.message⟩],
          after⟩

/-- The service after calls to the directory that stands in. -/
def noteCalls (s : Service) (calls : List Call) : Service :=
  { s with standIn := s.standIn.map fun standIn => { standIn with past := standIn.past ++ calls } }

/-! ## Answers about a payload -/

/-- A step into a value, as a value. -/
def stepJson : Step → Json
  | .name name => .str name
  | .item index => .int index

/-- Whether clients are told a member of a name. -/
def isTold (name : Text) : Bool := (Text.dropStart? "_sa" name).isNone

mutual

/-- What clients are told of a value. -/
def told : Json → Json
  | .arr items => .arr (toldItems items)
  | .obj members => .obj (toldMembers members)
  | other => other

/-- What clients are told of items. -/
def toldItems : List Json → List Json
  | [] => []
  | item :: rest => told item :: toldItems rest

/-- What clients are told of members. -/
def toldMembers : List (Text × Json) → List (Text × Json)
  | [] => []
  | (name, value) :: rest =>
    if isTold name then (name, told value) :: toldMembers rest else toldMembers rest

end

/-- An issue of a body, as a value. -/
def issueJson (issue : Issue) : Json :=
  .obj [("type", .str issue.problem.code),
    ("loc", .arr (.str "body" :: issue.path.map stepJson)),
    ("msg", .str issue.problem.message), ("input", told issue.input)]

/-- The answer for a body that cannot be read. -/
def payloadFaultResponse : PayloadFault → Response
  | .unreadable => .ofDetail 400 "There was an error parsing the body"
  | .malformed reason position =>
    .ofJson 422
      (.obj [("detail", .arr [.obj [("type", .str "json_invalid"),
        ("loc", .arr [.str "body", .int position]), ("msg", .str "JSON decode error"),
        ("input", .obj []), ("ctx", .obj [("error", .str reason.message)])]])])

/-- The service intent of a payload.  A payload that is no JSON text is shown as a text in its
issue, and octets that are no text are an outage. -/
def payloadIntent : Payload → Except Outage (Checked ServiceIntent)
  | .absent => .ok (.fail .missing .null)
  | .value (.obj members) => .ok (ServiceIntent.checkFields members)
  | .value other => .ok (.fail .notFields other)
  | .raw octets =>
    match Text.Utf8.decode octets with
    | .ok text => .ok (.fail .notFields (.str text))
    | .error fault => .error ⟨.undecodable, fault.message⟩

/-! ## Compilation -/

/-- The status for a rejection. -/
def rejectionStatus : Rejection → Nat
  | .gatewayNotFound _ => 404
  | _ => 422

/-- The body for a rejection. -/
def rejectionBody (trace : String) (rejection : Rejection) : Json :=
  .obj [("detail", .obj [("message", .str rejection.message), ("error", .str rejection.kind),
    ("context", .obj rejection.context), ("trace_id", .str trace)])]

/-- The record of a rejection. -/
def rejectionRecord (trace gateway : String) (rejection : Rejection) : Journal.Record where
  component := .compileEndpoint
  level := .warning
  message := ("[" ++ trace ++ "] " : Text) ++
    match rejection with
    | .gatewayNotFound _ => rejection.message
    | _ => ("NAT compilation failed for gateway " ++ gateway ++ ": " : Text) ++ rejection.message

/-- The report of a compiled document. -/
def report (gateway : String) (document : Document) : CompileReport :=
  ⟨gateway, document.rules.length, document.toMembers Label.reported⟩

/-- The number of values in each other that a report can be written with. -/
def reportDepth : Nat := 255

/-- The response with a report. -/
def reportResponse (report : CompileReport) : Except Outage Response :=
  match Json.membersFault? reportDepth report.config with
  | some fault => .error ⟨.serialization, "Error serializing to JSON: " ++ fault.message⟩
  | none => .ok (.ofJson 200 report.toJson.nullNonFinite)

/-- The answer to a compilation, with the records after it. -/
def compilationAnswer (trace gateway : String) :
    Except Failure Document → Except Outage Response × List Journal.Record
  | .ok document => (reportResponse (report gateway document), [])
  | .error (.rejected rejection) =>
    (strictResponse (rejectionStatus rejection) (rejectionBody trace rejection),
      [rejectionRecord trace gateway rejection])
  | .error (.outage outage) => (.error outage, [])

/-- Compiles a service intent that has been read. -/
def compileIntent (trace gateway : String) (intent : ServiceIntent) (d : Directory)
    (past : List Call) (s : Service) : Reply :=
  let compilation := compile d past gateway intent.toJson s.settings.natIds
  let answer := compilationAnswer trace gateway compilation.result
  ⟨answer.1, Event.records compilation.events ++ answer.2,
    s.noteCalls (Event.calls compilation.events)⟩

/-- Answers a payload with the directory of an access. -/
def compilePayload (trace gateway : String) (payload : Payload) (s : Service) : Reply :=
  let access := s.access
  match access.directory with
  | .error fault => ⟨fault.result, access.records, access.service⟩
  | .ok (d, past) =>
    match payloadIntent payload with
    | .error outage => ⟨.error outage, access.records, access.service⟩
    | .ok (.invalid first more) =>
      ⟨strictResponse 422 (.obj [("detail", .arr ((first :: more).map issueJson))]),
        access.records, access.service⟩
    | .ok (.valid intent) =>
      let reply := compileIntent trace gateway intent d past access.service
      { reply with records := access.records ++ reply.records }

/-- Compiles the intent of a request for a gateway. -/
def compileEndpoint (trace gateway : String) (request : Request) (s : Service) : Reply :=
  match request.payload with
  | .error fault => ⟨.ok (payloadFaultResponse fault), [], s⟩
  | .ok payload => s.compilePayload trace gateway payload

/-! ## All endpoints -/

/-- Answers a request that is traced by an id. -/
def endpoint (trace : String) (request : Request) (s : Service) : Reply :=
  match Route.ofPath? request.path with
  | none => ⟨.ok (.ofDetail 404 "Not Found"), [], s⟩
  | some route =>
    if request.method ≠ route.method then
      ⟨.ok ((Response.ofDetail 405 "Method Not Allowed").withHeader "allow" route.method), [], s⟩
    else
      match route with
      | .root => ⟨.ok s.rootEndpoint, [], s⟩
      | .liveness => ⟨.ok livenessEndpoint, [], s⟩
      | .health => s.healthEndpoint
      | .idRange => ⟨.ok s.idRangeEndpoint, [], s⟩
      | .compile gateway => s.compileEndpoint trace gateway request

end Service

end GatewayNat
