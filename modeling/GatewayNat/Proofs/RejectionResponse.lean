import GatewayNat.Proofs.Endpoint
import GatewayNat.Service.Exchange

/-!
# Responses to rejected compilations

The response to a rejected compilation tells the rejection: its wording, its
kind and its context.  That works as long as they can be sent.

* A value can be sent if its numbers are finite and its texts, names included,
  have no lone surrogates (`Json.Sendable`).  These are exactly the values with
  a strict response (`Service.strictResponse_of_sendable`,
  `Service.strictResponse_of_not_sendable`).
* A rejection that can be told is answered with 404 if it is of a gateway and
  with 422 otherwise.  One that cannot is answered with 500
  (`handle_rejected`).
* A context shows values of the intent as they are.  So an intent whose rule
  type is no number makes a rejection that cannot be told, and so does a network
  with lone surrogates.  Other rejections of a compilation can always be told.
-/

namespace GatewayNat

open Http

/-! ## Texts with octets -/

namespace Text

/-- The text has no lone surrogates. -/
def Plain (t : Text) : Prop := t.rest = []

@[simp] theorem plain_ofString (s : String) : (ofString s).Plain := rfl

theorem appendRuns_ne_nil (t : Text) (run : Surrogate × String)
    (more : List (Surrogate × String)) : appendRuns t run more ≠ [] := by
  cases more <;> simp [appendRuns]

/-- A text is plain exactly if its parts are. -/
@[simp] theorem plain_append_iff {s t : Text} : (s ++ t).Plain ↔ s.Plain ∧ t.Plain := by
  obtain ⟨start, rest⟩ := s
  cases rest with
  | nil => simp [Plain, HAppend.hAppend, Append.append, append]
  | cons run more =>
    simp [Plain, HAppend.hAppend, Append.append, append, appendRuns_ne_nil]

@[simp] theorem plain_mapStrings_iff {f : String → String} {t : Text} :
    (t.mapStrings f).Plain ↔ t.Plain := by
  simp [Plain, mapStrings]

/-- Exactly the plain texts have octets. -/
theorem encodeFault?_eq_none_iff {t : Text} : Utf8.encodeFault? t = none ↔ t.Plain := by
  unfold Utf8.encodeFault? Plain
  cases t.rest <;> simp

end Text

/-! ## Values that can be sent -/

namespace Json

mutual

/-- All numbers are finite and all texts are plain. -/
def Sendable : Json → Prop
  | .float x => x.isFinite = true
  | .str s => s.Plain
  | .arr items => SendableItems items
  | .obj members => SendableMembers members
  | _ => True

/-- All items can be sent. -/
def SendableItems : List Json → Prop
  | [] => True
  | item :: rest => Sendable item ∧ SendableItems rest

/-- All names are plain and all values can be sent. -/
def SendableMembers : List (Text × Json) → Prop
  | [] => True
  | (name, value) :: rest => name.Plain ∧ Sendable value ∧ SendableMembers rest

end

@[simp] theorem sendable_null : null.Sendable := trivial

@[simp] theorem sendable_int (n : Int) : (int n).Sendable := trivial

@[simp] theorem sendable_str_iff {s : Text} : (str s).Sendable ↔ s.Plain := Iff.rfl

theorem sendableMembers_iff_forall {members : Members} :
    SendableMembers members ↔ ∀ entry ∈ members, entry.1.Plain ∧ entry.2.Sendable := by
  induction members with
  | nil => simp [SendableMembers]
  | cons entry rest ih =>
    obtain ⟨name, value⟩ := entry
    rw [SendableMembers, ih, List.forall_mem_cons, and_assoc]

theorem plain_bodyText_iff {t : Text} : (bodyText t).Plain ↔ t.Plain := by
  simp [bodyText]

theorem plain_bodyItems_cons_iff {item next : Json} {rest : List Json} :
    (bodyItems (item :: next :: rest)).Plain ↔
      item.body.Plain ∧ (bodyItems (next :: rest)).Plain := by
  simp [bodyItems]

theorem plain_bodyMembers_singleton_iff {name : Text} {value : Json} :
    (bodyMembers [(name, value)]).Plain ↔ name.Plain ∧ value.body.Plain := by
  simp [bodyMembers, plain_bodyText_iff]

theorem plain_bodyMembers_cons_iff {name : Text} {value : Json} {next : Text × Json}
    {rest : List (Text × Json)} :
    (bodyMembers ((name, value) :: next :: rest)).Plain ↔
      name.Plain ∧ value.body.Plain ∧ (bodyMembers (next :: rest)).Plain := by
  simp [bodyMembers, plain_bodyText_iff, and_assoc]

mutual

/-- A value can be sent exactly if its text has octets and none of its numbers is a word. -/
theorem sendable_iff : ∀ value : Json,
    value.Sendable ↔ value.allFinite = true ∧ value.body.Plain
  | .null => by simp [Sendable, allFinite, body]
  | .bool b => by simp [Sendable, allFinite, body]
  | .int n => by simp [Sendable, allFinite, body]
  | .float x => by simp [Sendable, allFinite, body]
  | .str s => by simp [Sendable, allFinite, body, plain_bodyText_iff]
  | .arr items => by
    simp [Sendable, allFinite, body, sendableItems_iff items]
  | .obj members => by
    simp [Sendable, allFinite, body, sendableMembers_iff members]

theorem sendableItems_iff : ∀ items : List Json,
    SendableItems items ↔ allFiniteItems items = true ∧ (bodyItems items).Plain
  | [] => by simp [SendableItems, allFiniteItems, bodyItems]
  | [item] => by simp [SendableItems, allFiniteItems, bodyItems, sendable_iff item]
  | item :: next :: rest => by
    rw [SendableItems, allFiniteItems, plain_bodyItems_cons_iff, Bool.and_eq_true,
      sendable_iff item, sendableItems_iff (next :: rest)]
    exact and_and_and_comm

theorem sendableMembers_iff : ∀ members : List (Text × Json),
    SendableMembers members ↔ allFiniteMembers members = true ∧ (bodyMembers members).Plain
  | [] => by simp [SendableMembers, allFiniteMembers, bodyMembers]
  | [(name, value)] => by
    rw [SendableMembers, sendable_iff value, plain_bodyMembers_singleton_iff]
    simp only [SendableMembers, allFiniteMembers, Bool.and_true, and_true]
    exact and_left_comm
  | (name, value) :: next :: rest => by
    rw [SendableMembers, allFiniteMembers, plain_bodyMembers_cons_iff, Bool.and_eq_true,
      sendable_iff value, sendableMembers_iff (next :: rest), and_and_and_comm]
    exact and_left_comm

end

end Json

/-! ## Strict responses -/

namespace Service

theorem strictResponse_of_sendable {status : Nat} {value : Json} (sendable : value.Sendable) :
    strictResponse status value = .ok (.ofJson status value) := by
  obtain ⟨finite, plain⟩ := (Json.sendable_iff _).mp sendable
  rw [strictResponse, finite, Text.encodeFault?_eq_none_iff.mpr plain]
  rfl

theorem strictResponse_of_not_sendable (status : Nat) {value : Json}
    (unsendable : ¬value.Sendable) : ∃ outage, strictResponse status value = .error outage := by
  unfold strictResponse
  by_cases finite : value.allFinite = true
  · cases fault : Text.Utf8.encodeFault? value.body with
    | none =>
      have plain := Text.encodeFault?_eq_none_iff.mp fault
      exact absurd ((Json.sendable_iff _).mpr ⟨finite, plain⟩) unsendable
    | some fault => exact ⟨_, by rw [finite]; rfl⟩
  · exact ⟨_, by simp [finite]; rfl⟩

end Service

/-! ## Rejections that can be told -/

namespace Rejection

/-- The wording and the context of the rejection can be sent. -/
structure Tellable (rejection : Rejection) : Prop where
  message : rejection.message.Plain
  context : Json.SendableMembers rejection.context

theorem tellable_iff_and {rejection : Rejection} :
    rejection.Tellable ↔ rejection.message.Plain ∧ Json.SendableMembers rejection.context :=
  ⟨fun told => ⟨told.message, told.context⟩, fun ⟨message, context⟩ => ⟨message, context⟩⟩

theorem sendable_rejectionBody_iff (trace : String) {rejection : Rejection} :
    (Service.rejectionBody trace rejection).Sendable ↔ rejection.Tellable := by
  simp only [Service.rejectionBody, Json.Sendable, Json.SendableMembers, Text.plain_ofString,
    true_and, and_true]
  exact tellable_iff_and.symm

/-- A context can be sent exactly if its values can be, with nulls or without. -/
theorem sendableMembers_context_iff {notice : Notice}
    (names : ∀ entry ∈ notice.details, entry.1.Plain) :
    Json.SendableMembers notice.context ↔ ∀ entry ∈ notice.details, entry.2.Sendable := by
  rw [Json.sendableMembers_iff_forall, Notice.context]
  constructor
  · intro sendable entry member
    by_cases absent : entry.2 = .null
    · rw [absent]
      exact Json.sendable_null
    · exact (sendable entry (List.mem_filter.mpr ⟨member, by simpa using absent⟩)).2
  · intro sendable entry member
    have inside := List.mem_of_mem_filter member
    exact ⟨names entry inside, sendable entry inside⟩

/-- A rejection of the compilation can be told exactly if its attributes can be sent. -/
theorem tellable_iff_attributes {rejection : Rejection}
    (own : ∀ message context, rejection ≠ .other message context) :
    rejection.Tellable ↔ ∀ entry ∈ rejection.attributes, entry.2.Sendable := by
  have names : ∀ entry ∈ rejection.notice.details, entry.1.Plain := by
    cases rejection with
    | other message context => exact absurd rfl (own message context)
    | _ => simp [notice, Notice.details, Notice.attributes]
  rw [tellable_iff_and, context, sendableMembers_context_iff names, message, attributes]
  -- the wording is made of the attributes, so it is plain if they are
  cases rejection with
  | other message context => exact absurd rfl (own message context)
  | unknownNetwork gateway network rule =>
    -- the wording tells the rule only if there is one
    cases rule <;> simp [notice, Notice.message, Notice.details, Notice.attributes, Json.plainText,
      Json.ofInt?]
  | invalidField rule field reason =>
    cases rule <;> simp [notice, Notice.message, Notice.details, Notice.attributes, Json.plainText,
      Json.ofInt?]
  | _ => simp [notice, Notice.message, Notice.details, Notice.attributes, Json.plainText]

end Rejection

/-! ## Headers -/

namespace Http.Response

theorem find?_withHeader_of_ne {name other value : String} (response : Response)
    (different : name ≠ other) :
    (response.withHeader name value).headers.find? other = response.headers.find? other := by
  rw [withHeader, Table.find?_set, if_neg different]

theorem find?_withHeaders_of_forall_ne {other : String} {headers : List (String × String)}
    (response : Response) (different : ∀ header ∈ headers, header.1 ≠ other) :
    (response.withHeaders headers).headers.find? other = response.headers.find? other := by
  induction headers generalizing response with
  | nil => rfl
  | cons header rest ih =>
    obtain ⟨first, later⟩ := List.forall_mem_cons.mp different
    have tail := ih (response.withHeader header.1 header.2) later
    rw [find?_withHeader_of_ne response first] at tail
    exact tail

theorem status_withHeaders (headers : List (String × String)) (response : Response) :
    (response.withHeaders headers).status = response.status ∧
      (response.withHeaders headers).body = response.body := by
  induction headers generalizing response with
  | nil => exact ⟨rfl, rfl⟩
  | cons header rest ih => exact ih (response.withHeader header.1 header.2)

/-- Telling other origins about a response leaves its status and its body. -/
theorem status_forOrigins (origins : Json) (request : Request) (response : Response) :
    (response.forOrigins origins request).status = response.status ∧
      (response.forOrigins origins request).body = response.body :=
  status_withHeaders _ _

theorem ne_traceId_of_mem_allowHeaders {origins : Json} {origin : String}
    {header : String × String} (member : header ∈ allowHeaders origins origin) :
    header.1 ≠ "x-trace-id" := by
  unfold allowHeaders at member
  split at member
  · simp only [List.mem_cons, List.not_mem_nil, or_false] at member
    rcases member with rfl | rfl
    · simp
    · simp
  · simp only [List.mem_cons, List.not_mem_nil, or_false] at member
    rw [member]
    decide

/-- The headers for other origins are no trace ids. -/
theorem find?_traceId_forOrigins (origins : Json) (request : Request) (response : Response) :
    (response.forOrigins origins request).headers.find? "x-trace-id" =
      response.headers.find? "x-trace-id" := by
  rw [forOrigins, find?_withHeaders_of_forall_ne, find?_withHeader_of_ne _ (by decide)]
  split
  · exact fun header member => ne_traceId_of_mem_allowHeaders member
  · simp

end Http.Response

/-! ## Requests for a compilation -/

/-- A request that asks a service to compile a value for a gateway, with a directory. -/
structure CompileRequest (request : Request) (s : Service) (gateway : String) (value : Json)
    (d : Directory) (past : List Call) : Prop where
  /-- The service can ask its setting for an origin. -/
  listed : listsOrigins s.settings.corsOrigins = true
  posted : request.method = "POST"
  routed : Route.ofPath? request.path = some (.compile gateway)
  payload : request.payload = .ok (.value value)
  accepted : ∃ intent, ServiceIntent.check value = .valid intent
  provided : s.access.directory = .ok (d, past)

namespace Service

variable (around : Surroundings) {request : Request} {s : Service} {gateway : String}
  {value : Json} {d : Directory} {past : List Call} {rejection : Rejection}

theorem handle_of_compileRequest (asked : CompileRequest request s gateway value d past) :
    s.handle around request =
      s.conclude around (traceId around request) request
        (s.compilePayload (traceId around request) gateway (.value value)) := by
  have notInAdvance : request.inAdvance? = none := by
    rw [Request.inAdvance?, asked.posted, if_neg (by decide)]
  have answered : s.endpoint (traceId around request) request =
      s.compilePayload (traceId around request) gateway (.value value) := by
    simp only [endpoint, asked.routed, asked.posted, Route.method, ne_eq, not_true_eq_false,
      if_false, compileEndpoint, asked.payload]
  rw [handle, if_pos asked.listed, handleListed, notInAdvance]
  simp only [answered]

theorem rejectionStatus_eq :
    rejectionStatus rejection = if rejection.kind = "GatewayNotFoundError" then 404 else 422 := by
  cases rejection <;> rfl

/-- What the endpoint replies to a rejected compilation. -/
theorem result_compilePayload_of_rejected (trace : String)
    (asked : CompileRequest request s gateway value d past)
    (rejected : (compile d past gateway value s.settings.natIds).result =
      .error (.rejected rejection)) :
    (s.compilePayload trace gateway (.value value)).result =
      strictResponse (rejectionStatus rejection) (rejectionBody trace rejection) := by
  obtain ⟨intent, read⟩ := asked.accepted
  rw [compilePayload_of_valid trace gateway asked.provided read]
  simp only [rejected, compilationAnswer]

theorem conclude_of_ok (trace : String) {reply : Reply} {response : Response}
    (answered : reply.result = .ok response) :
    (s.conclude around trace request reply).response =
        some ((response.withHeader "x-trace-id" trace).forOrigins s.settings.corsOrigins request) ∧
      (s.conclude around trace request reply).outage = none := by
  simp only [conclude, answered, and_self]

theorem conclude_of_error (trace : String) {reply : Reply} {outage : Outage}
    (failed : reply.result = .error outage) :
    (s.conclude around trace request reply).response =
        some (outageResponse s.settings trace outage) ∧
      (s.conclude around trace request reply).outage = some outage := by
  simp only [conclude, failed, and_self]

/-- A rejection that can be told is told. -/
theorem handle_of_tellable (asked : CompileRequest request s gateway value d past)
    (rejected : (compile d past gateway value s.settings.natIds).result =
      .error (.rejected rejection)) (tellable : rejection.Tellable) :
    ∃ response, (s.handle around request).response = some response ∧
      (s.handle around request).outage = none ∧
      response.status = rejectionStatus rejection ∧
      response.headers.find? "x-trace-id" = some (traceId around request) ∧
      response.body = .json (rejectionBody (traceId around request) rejection) := by
  have sendable := (Rejection.sendable_rejectionBody_iff (traceId around request)).mpr tellable
  have replied := result_compilePayload_of_rejected (traceId around request) asked rejected
  rw [strictResponse_of_sendable sendable] at replied
  rw [handle_of_compileRequest around asked]
  obtain ⟨response, outage⟩ := conclude_of_ok around (traceId around request) replied
  refine ⟨_, response, outage, ?status, ?header, ?body⟩
  case status => exact (Response.status_forOrigins _ _ _).1
  case header =>
    rw [Response.find?_traceId_forOrigins, Response.withHeader, Table.find?_set, if_pos rfl]
  case body => exact (Response.status_forOrigins _ _ _).2

/-- A rejection that cannot be told is an outage. -/
theorem handle_of_not_tellable (asked : CompileRequest request s gateway value d past)
    (rejected : (compile d past gateway value s.settings.natIds).result =
      .error (.rejected rejection)) (untellable : ¬rejection.Tellable) :
    ∃ response outage, (s.handle around request).response = some response ∧
      (s.handle around request).outage = some outage ∧ response.status = 500 := by
  have unsendable :=
    mt (Rejection.sendable_rejectionBody_iff (traceId around request)).mp untellable
  obtain ⟨outage, failed⟩ := strictResponse_of_not_sendable (rejectionStatus rejection) unsendable
  have replied := result_compilePayload_of_rejected (traceId around request) asked rejected
  rw [failed] at replied
  rw [handle_of_compileRequest around asked]
  obtain ⟨response, raised⟩ := conclude_of_error around (traceId around request) replied
  exact ⟨_, outage, response, raised, rfl⟩

end Service

/-! ## Requests to a service with one network -/

namespace TwoRules

/-- A request to compile a JSON text. -/
def post (text : String) : Request where
  method := "POST"
  path := "/api/v1/nat/edge/compile"
  headers := [("content-type", "application/json"), ("x-trace-id", "t")]
  body := text.toUTF8.toList

/-- What a step is given from outside. -/
def surroundings : Surroundings := ⟨"fresh", "0", ⟨"", ""⟩⟩

theorem compileRequest_post {text : String} {value : Json}
    (payload : (post text).payload = .ok (.value value))
    (accepted : ∃ intent, ServiceIntent.check value = .valid intent) :
    CompileRequest (post text) service "edge" value directory [] where
  listed := rfl
  posted := rfl
  routed := show Route.ofPath? "/api/v1/nat/edge/compile" = _ by decide
  payload := payload
  accepted := accepted
  provided := access_service

end TwoRules

open Service in
/-- A rejected compilation is answered with its rejection and with the status of a client error, if
the rejection can be told.  If it cannot, the answer is that of an outage. -/
theorem handle_rejected (around : Surroundings) {request : Request} {s : Service}
    {gateway : String} {value : Json} {d : Directory} {past : List Call} {rejection : Rejection}
    (asked : CompileRequest request s gateway value d past)
    (rejected : (compile d past gateway value s.settings.natIds).result =
      .error (.rejected rejection)) :
    let exchange := s.handle around request
    let trace := traceId around request
    (rejection.Tellable → ∃ response, exchange.response = some response ∧ exchange.outage = none ∧
      response.status = (if rejection.kind = "GatewayNotFoundError" then 404 else 422) ∧
      response.headers.find? "x-trace-id" = some trace ∧
      response.body = .json (.obj [("detail", .obj [("message", .str rejection.message),
        ("error", .str rejection.kind), ("context", .obj rejection.context),
        ("trace_id", .str trace)])])) ∧
      (¬rejection.Tellable → ∃ response outage, exchange.response = some response ∧
        exchange.outage = some outage ∧ response.status = 500) := by
  intro exchange trace
  constructor
  · intro tellable
    obtain ⟨response, answered, outage, status, header, body⟩ :=
      handle_of_tellable around asked rejected tellable
    exact ⟨response, answered, outage, status.trans rejectionStatus_eq, header, body⟩
  · intro untellable
    exact handle_of_not_tellable around asked rejected untellable

/-- A rule without a type is answered with 422. -/
theorem status_of_untyped_rule :
    let request := TwoRules.post "\x7b\"nat_rules\":[\x7b\x7d]\x7d"
    let value : Json := .obj [("nat_rules", .arr [.obj []])]
    (CompileRequest request TwoRules.service "edge" value TwoRules.directory [] ∧
        (compile TwoRules.directory [] "edge" value TwoRules.service.settings.natIds).result =
          .error (.rejected (.missingField 0 "rule_type"))) ∧
      ∃ response, (TwoRules.service.handle TwoRules.surroundings request).response = some response ∧
        response.status = 422 := by
  intro request value
  have asked : CompileRequest request TwoRules.service "edge" value TwoRules.directory [] :=
    TwoRules.compileRequest_post (by decide +kernel) ⟨⟨"true", [[]]⟩, by decide⟩
  have rejected : (compile TwoRules.directory [] "edge" value
      TwoRules.service.settings.natIds).result =
        .error (.rejected (.missingField 0 "rule_type")) := by decide
  have tellable : (Rejection.missingField 0 "rule_type").Tellable :=
    (Rejection.tellable_iff_attributes (by simp)).mpr
      (by simp [Rejection.attributes, Rejection.notice, Notice.attributes])
  obtain ⟨told, -⟩ := handle_rejected TwoRules.surroundings asked rejected
  obtain ⟨response, answered, -, status, -⟩ := told tellable
  exact ⟨⟨asked, rejected⟩, response, answered, status⟩

/-- A rule type that is no number is shown in the context of its rejection, so the rejection cannot
be told. -/
theorem not_forall_client_error :
    ¬∀ (around : Surroundings) (request : Request) (s : Service) (gateway : String) (value : Json)
      (d : Directory) (past : List Call) (rejection : Rejection),
      CompileRequest request s gateway value d past →
        (compile d past gateway value s.settings.natIds).result = .error (.rejected rejection) →
          ∃ response, (s.handle around request).response = some response ∧
            (response.status = 404 ∨ response.status = 422) := by
  intro all
  have asked : CompileRequest (TwoRules.post "\x7b\"nat_rules\":[\x7b\"rule_type\":NaN\x7d]\x7d")
      TwoRules.service "edge"
      (.obj [("nat_rules", .arr [.obj [("rule_type", .float .nan)]])]) TwoRules.directory [] :=
    TwoRules.compileRequest_post (by decide +kernel)
      ⟨⟨"true", [[("rule_type", .float .nan)]]⟩, by decide⟩
  have rejected : (compile TwoRules.directory [] "edge"
      (.obj [("nat_rules", .arr [.obj [("rule_type", .float .nan)]])])
      TwoRules.service.settings.natIds).result =
        .error (.rejected (.unsupportedRuleType 0 (.float .nan))) := by decide
  have untellable : ¬(Rejection.unsupportedRuleType 0 (.float .nan)).Tellable := by
    intro tellable
    have sendable := (Rejection.tellable_iff_attributes (by simp)).mp tellable
    have finite : Binary64.nan.isFinite = true := sendable _ (.tail _ (.head _))
    cases finite
  obtain ⟨response, answered, status⟩ := all TwoRules.surroundings _ _ _ _ _ _ _ asked rejected
  obtain ⟨other, -, failed, -, outageStatus⟩ :=
    Service.handle_of_not_tellable TwoRules.surroundings asked rejected untellable
  rw [answered, Option.some.injEq] at failed
  rw [failed, outageStatus] at status
  simp at status

end GatewayNat
