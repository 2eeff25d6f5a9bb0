import GatewayNat.Proofs.Health
import GatewayNat.Proofs.Tracing

/-!
# Trace ids

Three parts of the service tell the trace id of a request, and each comes by it
on its own (`Service.handleInLayers`).

* The layer that traces requests takes the id of the request or a fresh one.  It
  leaves the id where the other parts find it.
* The endpoint of a compilation looks for the id there.  It has a word of its
  own in case there is none.
* The outermost layer, which answers outages, looks for the id there too.  It
  has another fresh id in case there is none.

What the last two have in case of need is never used
(`Service.handleInLayers_eq_handle`).  So one id is told about a request, in all
records that have one, in the header and in the body (`run_shares_trace`).
-/

namespace GatewayNat

open Http

/-! ## Layers -/

/-- What the parts that deal with a request share. -/
structure Shared where
  traceId : Option String

/-- What became of a request in a layer. -/
structure Passage where
  result : Except Outage Response
  records : List Journal.Record
  service : Service
  shared : Shared

theorem Table.set_of_find? {κ α : Type} [DecidableEq κ] {table : Table κ α} {name : κ} {value : α}
    (found : table.find? name = some value) : table.set name value = table := by
  induction table with
  | nil => cases found
  | cons entry rest ih =>
    obtain ⟨key, old⟩ := entry
    rw [find?] at found
    rw [set]
    split at found
    · next same =>
      cases found
      rw [if_pos same]
    · next different => rw [if_neg different, ih found]

theorem Files.append_nil (files : Files) (name : String) : files.append name [] = files := by
  unfold append
  split
  · next octets found => rw [List.append_nil, Table.set_of_find? found]
  · rfl

namespace Service

variable {s : Service} {request : Request} (around : Surroundings)

theorem write_nil (s : Service) : s.write around [] = s := by
  unfold write
  split
  · rfl
  · rw [show logOctets around (s.kept []) = [] from rfl, Files.append_nil]

/-- The endpoint of a request.  It has a word for the trace id in case none is shared. -/
def routed (word : String) (request : Request) (s : Service) (shared : Shared) : Passage :=
  let reply := s.endpoint (shared.traceId.getD word) request
  ⟨reply.result, reply.records, reply.service, shared⟩

/-- The layer that traces a request. -/
def traced (request : Request) (inner : Shared → Passage) (_ : Shared) : Passage :=
  let trace := traceId around request
  let passage := inner ⟨some trace⟩
  match passage.result with
  | .ok response =>
    { passage with
      result := .ok (response.withHeader "x-trace-id" trace)
      records := passage.records ++ [answeredRecord around trace request response.status] }
  | .error outage =>
    { passage with
      records := passage.records ++ [failedRecord around trace request outage] }

/-- The layer that deals with other origins. -/
def opened (request : Request) (s : Service) (inner : Shared → Passage) (shared : Shared) :
    Passage :=
  match request.inAdvance? with
  | some (origin, method) =>
    ⟨.ok (answerInAdvance s.settings.corsOrigins request origin method), [], s, shared⟩
  | none =>
    let passage := inner shared
    { passage with
      result := passage.result.map fun response =>
        response.forOrigins s.settings.corsOrigins request }

/-- Deals with a request layer by layer.  The outermost layer answers outages.  It has an id to
spare in case none is shared. -/
def handleInLayers (word spare : String) (request : Request) (s : Service) : Exchange :=
  let passage := opened request s (traced around request (routed word request s)) ⟨none⟩
  match passage.result with
  | .ok response =>
    ⟨some response, none, s.kept passage.records, passage.service.write around passage.records⟩
  | .error outage =>
    let trace := passage.shared.traceId.getD spare
    let records := passage.records ++ [outageRecord trace outage]
    ⟨some (outageResponse s.settings trace outage), some outage, s.kept records,
      passage.service.write around records⟩

/-- Whatever the layers have in case of need, they deal with a request in the same way. -/
theorem handleInLayers_eq_handle (word spare : String)
    (listed : listsOrigins s.settings.corsOrigins = true) :
    s.handleInLayers around word spare request = s.handle around request := by
  cases asked : request.inAdvance? with
  | some question =>
    obtain ⟨origin, method⟩ := question
    rw [handle_inAdvance around listed asked]
    simp only [handleInLayers, opened, asked, write_nil]
    rfl
  | none =>
    rw [handle_concluded around listed asked]
    cases result : (s.endpoint (traceId around request) request).result with
    | ok response =>
      simp only [handleInLayers, opened, asked, traced, routed, Option.getD_some, result,
        Except.map, conclude]
    | error outage =>
      simp only [handleInLayers, opened, asked, traced, routed, Option.getD_some, result,
        Except.map, conclude, List.append_assoc, List.cons_append, List.nil_append]

end Service

/-! ## Where a trace id is told -/

namespace Journal.Record

/-- The record is of the endpoint of a compilation. -/
def isOfEndpoint (record : Record) : Bool := record.component = .compileEndpoint

/-- The record is of the application itself. -/
def isOfApplication (record : Record) : Bool := record.component = .application

/-- The record is of none of the parts that tell a trace id. -/
def IsUntraced (record : Record) : Prop :=
  record.isOfRequest = false ∧ record.isOfEndpoint = false ∧ record.isOfApplication = false

theorem isUntraced_of_component {record : Record}
    (other : record.component ∈ [Component.compiler, .resolver, .directoryFile,
      .directoryProvider, .healthEndpoint]) : record.IsUntraced := by
  simp only [List.mem_cons, List.not_mem_nil, or_false] at other
  rcases other with same | same | same | same | same <;>
    exact ⟨by simp [isOfRequest, same], by simp [isOfEndpoint, same],
      by simp [isOfApplication, same]⟩

theorem not_isUntraced_of_component {record : Record}
    (own : record.component ∈ [Component.requests, .compileEndpoint, .application]) :
    ¬record.IsUntraced := by
  rintro ⟨notRequests, notEndpoint, notApplication⟩
  simp only [List.mem_cons, List.not_mem_nil, or_false] at own
  rcases own with same | same | same
  · simp [isOfRequest, same] at notRequests
  · simp [isOfEndpoint, same] at notEndpoint
  · simp [isOfApplication, same] at notApplication

end Journal.Record

namespace Http.Response

/-- The trace id in the body itself. -/
def traceInBody? (response : Response) : Option Json := response.member? "trace_id"

/-- The trace id in the detail of the body. -/
def traceInDetail? (response : Response) : Option Json :=
  match response.member? "detail" with
  | some (.obj members) => Table.find? members "trace_id"
  | _ => none

/-- The body tells no trace id. -/
def IsUntraced (response : Response) : Prop :=
  response.traceInBody? = none ∧ response.traceInDetail? = none

/-- Where a trace id is told depends on the body only. -/
theorem traces_congr {one other : Response} (same : one.body = other.body) :
    one.traceInBody? = other.traceInBody? ∧ one.traceInDetail? = other.traceInDetail? := by
  simp only [traceInBody?, traceInDetail?, member?, same, and_self]

theorem isUntraced_ofDetail (status : Nat) (detail : String) :
    (Response.ofDetail status detail).IsUntraced := by
  constructor <;> rfl

end Http.Response

namespace Exchange

/-- The response of an exchange tells the trace id in a header.  It is told in the detail of the
body too if the endpoint has a record with it.  One record is about the request. -/
structure TellsInHeader (exchange : Exchange) (trace : String) (response : Response) : Prop where
  header : response.headers.find? "x-trace-id" = some trace
  body : response.traceInBody? = none
  detail : response.traceInDetail? =
    if exchange.records.any Journal.Record.isOfEndpoint then some (.str trace) else none
  line : ∃ line, exchange.records.filter Journal.Record.isOfRequest = [line] ∧
    line.level = if 400 ≤ response.status then .warning else .info
  application : exchange.records.filter Journal.Record.isOfApplication = []

/-- The response of an exchange tells the trace id in the body itself, as the answer to an outage
does.  One record is about the request, and the application has one about the outage. -/
structure TellsInBody (exchange : Exchange) (trace : String) (response : Response) : Prop where
  status : response.status = 500
  header : response.headers.find? "x-trace-id" = none
  body : response.traceInBody? = some (.str trace)
  detail : response.traceInDetail? = none
  line : ∃ line, exchange.records.filter Journal.Record.isOfRequest = [line]
  application : ∃ line, exchange.records.filter Journal.Record.isOfApplication = [line]

end Exchange

/-- How a reply tells the trace id of its request.  A record of the endpoint starts with it, and
then the detail of the body tells it too. -/
structure Reply.Tells (trace : String) (reply : Reply) : Prop where
  apart : ∀ record ∈ reply.records,
    record.isOfRequest = false ∧ record.isOfApplication = false
  marked : ∀ record ∈ reply.records, record.isOfEndpoint = true →
    record.IsMarked trace ∧ record.level = .warning
  inBody : ∀ response, reply.result = .ok response → response.traceInBody? = none
  inDetail : ∀ response, reply.result = .ok response →
    response.traceInDetail? =
      if reply.records.any Journal.Record.isOfEndpoint then some (.str trace) else none

section Tells

variable {trace : String} {reply : Reply}

theorem any_isOfEndpoint_of_isUntraced {records : List Journal.Record}
    (untraced : ∀ record ∈ records, record.IsUntraced) :
    records.any Journal.Record.isOfEndpoint = false := by
  rw [List.any_eq_false]
  intro record member
  simp [(untraced record member).2.1]

/-- A reply without a trace id tells no other one. -/
theorem Reply.tells_of_isUntraced (untraced : ∀ record ∈ reply.records, record.IsUntraced)
    (untold : ∀ response, reply.result = .ok response → response.IsUntraced) :
    reply.Tells trace where
  apart record member := ⟨(untraced record member).1, (untraced record member).2.2⟩
  marked record member own := by
    rw [(untraced record member).2.1] at own
    cases own
  inBody response answered := (untold response answered).1
  inDetail response answered := by
    rw [any_isOfEndpoint_of_isUntraced untraced]
    exact (untold response answered).2

/-- Records without a trace id may come before a reply. -/
theorem Reply.Tells.prepend {records : List Journal.Record} (tells : reply.Tells trace)
    (untraced : ∀ record ∈ records, record.IsUntraced) :
    Reply.Tells trace { reply with records := records ++ reply.records } where
  apart record member := by
    rcases List.mem_append.mp member with before | own
    · exact ⟨(untraced record before).1, (untraced record before).2.2⟩
    · exact tells.apart record own
  marked record member own := by
    rcases List.mem_append.mp member with before | inReply
    · rw [(untraced record before).2.1] at own
      cases own
    · exact tells.marked record inReply own
  inBody := tells.inBody
  inDetail response answered := by
    rw [tells.inDetail response answered, List.any_append,
      any_isOfEndpoint_of_isUntraced untraced, Bool.false_or]

end Tells

namespace Service

variable {s : Service} {request : Request} {trace gateway : String}

theorem isUntraced_of_strictResponse_issues {status : Nat} {issues : List Json}
    {response : Response}
    (answered : strictResponse status (.obj [("detail", .arr issues)]) = .ok response) :
    response.IsUntraced := by
  rw [eq_of_strictResponse answered]
  constructor <;> rfl

theorem isUntraced_of_reportResponse {report : CompileReport} {response : Response}
    (answered : reportResponse report = .ok response) : response.IsUntraced := by
  unfold reportResponse at answered
  split at answered
  · cases answered
  · cases answered
    constructor <;> rfl

theorem isUntraced_payloadFaultResponse (fault : PayloadFault) :
    (payloadFaultResponse fault).IsUntraced := by
  cases fault <;> constructor <;> rfl

theorem isUntraced_of_mem_access {record : Journal.Record} (member : record ∈ s.access.records) :
    record.IsUntraced := by
  apply Journal.Record.isUntraced_of_component
  rcases component_of_mem_access member with same | same <;> simp [same]

theorem isMarked_rejectionRecord (rejection : Rejection) :
    (rejectionRecord trace gateway rejection).IsMarked trace := ⟨_, rfl⟩

/-- The answer to a rejection tells the trace id in its detail, as its record does. -/
theorem tells_compilationAnswer (result : Except Failure Document) (after : Service) :
    Reply.Tells trace
      ⟨(compilationAnswer trace gateway result).1, (compilationAnswer trace gateway result).2,
        after⟩ := by
  cases result with
  | ok document =>
    apply Reply.tells_of_isUntraced
    · exact fun record member => absurd member List.not_mem_nil
    · exact fun response answered => isUntraced_of_reportResponse answered
  | error failure =>
    cases failure with
    | outage outage =>
      apply Reply.tells_of_isUntraced
      · exact fun record member => absurd member List.not_mem_nil
      · rintro response ⟨⟩
    | rejected rejection =>
      refine ⟨?_, ?_, ?_, ?_⟩
      · intro record member
        rw [List.mem_singleton.mp member]
        exact ⟨rfl, rfl⟩
      · intro record member _
        rw [List.mem_singleton.mp member]
        exact ⟨isMarked_rejectionRecord rejection, rfl⟩
      · intro response answered
        rw [eq_of_strictResponse answered]
        rfl
      · intro response answered
        rw [eq_of_strictResponse answered]
        rfl

theorem tells_compileIntent (intent : ServiceIntent) (d : Directory) (past : List Call) :
    (s.compileIntent trace gateway intent d past).Tells trace := by
  apply (tells_compilationAnswer _ _).prepend
  intro record member
  apply Journal.Record.isUntraced_of_component
  rcases component_of_mem_compile member with same | same <;> simp [same]

theorem tells_compilePayload (payload : Payload) :
    (s.compilePayload trace gateway payload).Tells trace := by
  unfold compilePayload
  simp only
  split
  · next fault _ =>
    apply Reply.tells_of_isUntraced
    · exact fun record => isUntraced_of_mem_access
    · intro response answered
      cases fault <;> cases answered <;> exact Response.isUntraced_ofDetail _ _
  · split
    · apply Reply.tells_of_isUntraced
      · exact fun record => isUntraced_of_mem_access
      · rintro response ⟨⟩
    · apply Reply.tells_of_isUntraced
      · exact fun record => isUntraced_of_mem_access
      · exact fun response => isUntraced_of_strictResponse_issues
    · exact (tells_compileIntent _ _ _).prepend fun record => isUntraced_of_mem_access

theorem tells_healthEndpoint : s.healthEndpoint.Tells trace := by
  apply Reply.tells_of_isUntraced
  · intro record member
    apply Journal.Record.isUntraced_of_component
    rcases component_of_mem_healthEndpoint member with same | same <;> simp [same]
  · intro response answered
    unfold healthEndpoint at answered
    simp only at answered
    split at answered
    · cases answered
      constructor <;> rfl
    · cases answered
      constructor <;> rfl
    · split at answered
      · cases answered
      · cases answered
        exact Response.isUntraced_ofDetail _ _

/-- Every endpoint tells the trace id that it is given, and no other one. -/
theorem tells_endpoint : (s.endpoint trace request).Tells trace := by
  have alone : ∀ response : Response, response.IsUntraced →
      Reply.Tells trace ⟨.ok response, [], s⟩ := by
    intro response untold
    apply Reply.tells_of_isUntraced
    · exact fun record member => absurd member List.not_mem_nil
    · rintro answer ⟨⟩
      exact untold
  unfold endpoint
  split
  · exact alone _ (Response.isUntraced_ofDetail _ _)
  · split
    · exact alone _ ⟨rfl, rfl⟩
    · split
      · exact alone _ ⟨rfl, rfl⟩
      · exact alone _ ⟨rfl, rfl⟩
      · exact tells_healthEndpoint
      · exact alone _ ⟨rfl, rfl⟩
      · unfold compileEndpoint
        split
        · exact alone _ (isUntraced_payloadFaultResponse _)
        · exact tells_compilePayload _

/-! ## Conclusions -/

section Conclusion

variable (around : Surroundings) {reply : Reply}

theorem isMarked_outageRecord (outage : Outage) : (outageRecord trace outage).IsMarked trace := by
  refine ⟨("Unhandled exception: " ++ outage.kind.name ++ ": " ++ outage.message : String), ?_⟩
  have parts : "] Unhandled exception: " = "] " ++ "Unhandled exception: " := rfl
  simp only [outageRecord, ← Text.ofString_append, String.append_assoc]
  rw [parts, String.append_assoc]

theorem isMarked_of_mem_closingRecords {result : Except Outage Response}
    {record : Journal.Record}
    (member : record ∈ closingRecords around trace request result) : record.IsMarked trace := by
  have first : (closingRecord around trace request result).IsMarked trace :=
    isMarked_closingRecord around result
  cases result with
  | ok response =>
    rw [List.mem_singleton.mp member]
    exact first
  | error outage =>
    rcases List.mem_cons.mp member with same | other
    · rw [same]
      exact first
    · rw [List.mem_singleton.mp other]
      exact isMarked_outageRecord outage

theorem outage_conclude (reply : Reply) : (s.conclude around trace request reply).outage =
    match reply.result with
    | .ok _ => none
    | .error outage => some outage :=
  congrArg Exchange.outage (conclude_eq around trace reply)

variable (low : s.threshold ≤ Journal.Level.info.rank)

include low

theorem records_conclude (reply : Reply) :
    (s.conclude around trace request reply).records =
      s.kept reply.records ++ closingRecords around trace request reply.result := by
  rw [conclude_eq]
  simp only
  rw [kept_append, kept_closingRecords around low]

/-- All records of the parts that tell a trace id start with the same one. -/
theorem isMarked_of_mem_conclude (tells : reply.Tells trace) {record : Journal.Record}
    (member : record ∈ (s.conclude around trace request reply).records)
    (traced : ¬record.IsUntraced) : record.IsMarked trace := by
  rw [records_conclude around low, List.mem_append] at member
  rcases member with inReply | closing
  · have written : record ∈ reply.records := List.mem_of_mem_filter inReply
    cases own : record.isOfEndpoint with
    | true => exact (tells.marked record written own).1
    | false =>
      obtain ⟨notRequests, notApplication⟩ := tells.apart record written
      exact absurd ⟨notRequests, own, notApplication⟩ traced
  · exact isMarked_of_mem_closingRecords around closing

/-- The journal keeps the records of an endpoint that tell a trace id. -/
theorem any_isOfEndpoint_conclude (tells : reply.Tells trace) :
    (s.conclude around trace request reply).records.any Journal.Record.isOfEndpoint =
      reply.records.any Journal.Record.isOfEndpoint := by
  have closing : (closingRecords around trace request reply.result).any
      Journal.Record.isOfEndpoint = false := by
    cases reply.result <;> rfl
  rw [records_conclude around low, List.any_append, closing, Bool.or_false, Bool.eq_iff_iff,
    List.any_eq_true, List.any_eq_true]
  constructor
  · rintro ⟨record, member, own⟩
    exact ⟨record, List.mem_of_mem_filter member, own⟩
  · rintro ⟨record, member, own⟩
    have high : s.threshold ≤ record.level.rank := by
      rw [(tells.marked record member own).2]
      exact low.trans (by decide)
    exact ⟨record, List.mem_filter.mpr ⟨member, decide_eq_true high⟩, own⟩

/-- The application itself writes of outages only. -/
theorem filter_isOfApplication_conclude (tells : reply.Tells trace) :
    (s.conclude around trace request reply).records.filter Journal.Record.isOfApplication =
      match reply.result with
      | .ok _ => []
      | .error outage => [outageRecord trace outage] := by
  have noOther : (s.kept reply.records).filter Journal.Record.isOfApplication = [] := by
    rw [List.filter_eq_nil_iff]
    intro record member
    simp [(tells.apart record (List.mem_of_mem_filter member)).2]
  rw [records_conclude around low, List.filter_append, noOther, List.nil_append]
  cases reply.result <;> rfl

theorem tellsInHeader_conclude (tells : reply.Tells trace) {answer : Response}
    (replied : reply.result = .ok answer) :
    (s.conclude around trace request reply).TellsInHeader trace
      (respond s.settings trace request reply.result) := by
  have sameBody : (respond s.settings trace request reply.result).body = answer.body := by
    rw [replied, body_respond_ok]
  obtain ⟨inBody, inDetail⟩ := Response.traces_congr sameBody
  refine ⟨?header, ?body, ?detail, ⟨_, filter_conclude around low ?others, ?level⟩, ?application⟩
  case header => rw [find?_traceId_respond, replied]
  case body => rw [inBody, tells.inBody answer replied]
  case detail =>
    rw [inDetail, tells.inDetail answer replied, any_isOfEndpoint_conclude around low tells]
  case others => exact fun record member => (tells.apart record member).1
  case level =>
    rw [status_respond, replied]
    rfl
  case application => rw [filter_isOfApplication_conclude around low tells, replied]

theorem tellsInBody_conclude (tells : reply.Tells trace) {outage : Outage}
    (failed : reply.result = .error outage) :
    (s.conclude around trace request reply).TellsInBody trace
      (respond s.settings trace request reply.result) := by
  refine ⟨?status, ?header, ?body, ?detail, ⟨_, filter_conclude around low ?others⟩,
    outageRecord trace outage, ?application⟩
  case status => rw [status_respond, failed]
  case header => rw [find?_traceId_respond, failed]
  case body =>
    rw [failed]
    rfl
  case detail =>
    rw [failed]
    rfl
  case others => exact fun record member => (tells.apart record member).1
  case application => rw [filter_isOfApplication_conclude around low tells, failed]

/-- The response to a concluded request tells the trace id. -/
theorem tells_conclude (tells : reply.Tells trace) :
    let exchange := s.conclude around trace request reply
    let response := respond s.settings trace request reply.result
    match exchange.outage with
    | none => exchange.TellsInHeader trace response
    | some _ => exchange.TellsInBody trace response := by
  intro exchange response
  rw [show exchange.outage = _ from outage_conclude around reply]
  cases result : reply.result with
  | ok answer => exact tellsInHeader_conclude around low tells result
  | error outage => exact tellsInBody_conclude around low tells result

end Conclusion

end Service

open Service

/-- One trace id is told about a request, by whichever part tells one.  It is the one that the
request carries, or a fresh one.  The records that have a trace id start with it, the header of a
reply and the body of the answer to an outage tell it, and so does the detail of a rejection.  What
the parts have in case no id is shared is never used. -/
theorem run_shares_trace {environment : Environment} {files : Files} {s : Service}
    (booted : boot environment files = .ok s)
    (level : s.settings.logLevel = "INFO" ∨ s.settings.logLevel = "DEBUG")
    (listed : listsOrigins s.settings.corsOrigins = true) (actions : List Action)
    (around : Surroundings) (request : Request) (behind : request.inAdvance? = none) :
    let exchange := (s.run actions).handle around request
    let trace := traceId around request
    (∀ id, request.header? "x-trace-id" = some id → id ≠ "" → trace = id) ∧
    ((request.header? "x-trace-id").getD "" = "" → trace = around.freshId) ∧
    (∀ word spare, (s.run actions).handleInLayers around word spare request = exchange) ∧
    (∀ record ∈ exchange.records,
      record.component ∈ [.requests, .compileEndpoint, .application] → record.IsMarked trace) ∧
    ∃ response, exchange.response = some response ∧
      match exchange.outage with
      | none => exchange.TellsInHeader trace response
      | some _ => exchange.TellsInBody trace response := by
  intro exchange trace
  obtain ⟨settings, threshold⟩ := sameSetup_run s actions
  rw [← settings] at listed
  have low : (s.run actions).threshold ≤ Journal.Level.info.rank :=
    threshold.le.trans (threshold_le_of_level booted level)
  have concluded : exchange = _ := handle_concluded around listed behind
  set reply := (s.run actions).endpoint trace request with replied
  have tells : reply.Tells trace := tells_endpoint
  refine ⟨fun id => traceId_of_header, traceId_of_no_header,
    fun word spare => handleInLayers_eq_handle around word spare listed, ?records,
    respond (s.run actions).settings trace request reply.result,
    response_handle around listed behind, ?answer⟩
  case records =>
    intro record member own
    rw [concluded] at member
    exact isMarked_of_mem_conclude around low tells member
      (Journal.Record.not_isUntraced_of_component own)
  case answer =>
    rw [concluded]
    exact tells_conclude around low tells

namespace TracedRequest

/-- A request to compile a rule without a type, which tells an id. -/
def untypedRule : Request := TwoRules.post "\x7b\"nat_rules\":[\x7b\x7d]\x7d"

/-- What a service does about the request when a directory stands in. -/
def rejection (s : Service) : Exchange :=
  (s.run [.putIn (some TwoRules.directory)]).handle TwoRules.surroundings untypedRule

theorem rejection_of_boot {s : Service} (booted : boot [] [] = .ok s) :
    (rejection s).outage = none ∧
      (rejection s).records.any Journal.Record.isOfEndpoint = true := by
  have evaluated : (boot [] []).toOption.map (fun s =>
      ((rejection s).outage, (rejection s).records.any Journal.Record.isOfEndpoint)) =
        some (none, true) := by
    decide +kernel
  rw [booted] at evaluated
  exact Prod.mk.inj (Option.some.inj evaluated)

end TracedRequest

open TracedRequest in
/-- The header of a rejection and its detail tell the same id. -/
theorem shares_trace_untypedRule : ∃ s, boot [] [] = .ok s ∧ s.settings.logLevel = "INFO" ∧
    listsOrigins s.settings.corsOrigins = true ∧ untypedRule.inAdvance? = none ∧
      ∃ response, (rejection s).response = some response ∧
        response.headers.find? "x-trace-id" = some "t" ∧
        response.traceInDetail? = some (.str "t") := by
  obtain ⟨s, booted, level, listed⟩ := boots
  obtain ⟨outage, rejected⟩ := rejection_of_boot booted
  have behind : untypedRule.inAdvance? = none := by decide
  obtain ⟨-, -, -, -, response, answered, told⟩ :=
    run_shares_trace booted (.inl level) listed [.putIn (some TwoRules.directory)]
      TwoRules.surroundings untypedRule behind
  rw [rejection] at outage rejected
  rw [outage] at told
  have detail := told.detail
  rw [if_pos rejected] at detail
  exact ⟨s, booted, level, listed, behind, response, answered, told.header, detail⟩

end GatewayNat
