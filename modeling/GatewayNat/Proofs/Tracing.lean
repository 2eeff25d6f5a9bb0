import GatewayNat.Proofs.Exchanges

/-!
# Traces of requests

A request that reaches an endpoint is traced by an id, which is the one that it
carries or a fresh one.  The journal has one record of the request as a whole,
and that starts with the id.  No endpoint writes such a record
(`Service.not_isOfRequest_of_mem_endpoint`), so it is the one of the conclusion.

* A reply is sent with the id in a header.
* The answer for an outage has no such header.  Its body tells the id.
* A question in advance is answered before the request is traced.  The answer
  tells no id, and there is no record of it.
* If the allowed origins cannot be asked there is no answer and no record.

The journal has to keep records of the rank of `INFO`, as it does for the levels
`INFO` and `DEBUG` (`run_traces`).  So not every request is traced
(`not_forall_traced`).
-/

namespace GatewayNat

open Http

namespace Journal.Record

/-- The record starts with a trace id. -/
def IsMarked (record : Record) (trace : String) : Prop :=
  ∃ rest : Text, record.message = (("[" ++ trace ++ "] " : String) : Text) ++ rest

/-- The record is about a request as a whole. -/
def isOfRequest (record : Record) : Bool := record.component = .requests

end Journal.Record

/-! ## Who writes what -/

theorem Event.mem_records_iff {record : Journal.Record} {events : List Event} :
    record ∈ records events ↔ .record record ∈ events := by
  simp only [records, List.mem_filterMap]
  constructor
  · rintro ⟨event, member, same⟩
    cases event with
    | call c => cases same
    | record r =>
      cases same
      exact member
  · intro member
    exact ⟨_, member, rfl⟩

namespace Resolver

variable {d : Directory} {past : List Call} {r : Resolver} {record : Journal.Record}

theorem not_record_mem_enter : Event.record record ∉ (r.enter d past).events := by
  unfold enter
  split
  · simp
  · split <;> simp

/-- A resolver writes records of its own only. -/
theorem component_of_mem_searchEvents {networks : List Text}
    (member : .record record ∈ r.searchEvents d past networks) :
    record.component = .resolver := by
  cases networks with
  | nil => cases member
  | cons first more =>
    rw [searchEvents, List.mem_cons, List.mem_append] at member
    rcases member with same | inside | looked
    · cases same
      rfl
    · exact absurd inside not_record_mem_enter
    · split at looked
      · cases looked
      · obtain ⟨entry, -, announced⟩ := List.mem_flatMap.mp (List.mem_of_mem_tail looked)
        simp only [lookupEvents, List.mem_cons, List.not_mem_nil, or_false, reduceCtorEq,
          Event.record.injEq] at announced
        rw [announced]
        rfl

end Resolver

/-- A compilation writes records of the compiler and of its resolver. -/
theorem component_of_mem_compile {d : Directory} {past : List Call} {gatewayId : Text}
    {intent : Json} {range : IdRange} {record : Journal.Record}
    (member : record ∈ Event.records (compile d past gatewayId intent range).events) :
    record.component = .compiler ∨ record.component = .resolver := by
  rw [Event.mem_records_iff] at member
  unfold compile at member
  split at member
  · simp only [Compiler.compileService] at member
    split at member
    · rw [List.mem_cons, Compiler.events_compileRules] at member
      rcases member with same | inside
      · cases same
        exact .inl rfl
      · exact .inr (Resolver.component_of_mem_searchEvents inside)
    · rw [List.mem_cons, List.mem_append, Compiler.events_compileRules, List.mem_singleton]
        at member
      rcases member with same | inside | same
      · cases same
        exact .inl rfl
      · exact .inr (Resolver.component_of_mem_searchEvents inside)
      · cases same
        exact .inl rfl
  · cases member

theorem ConfiguredDirectory.component_of_mem_use {files : Files} {c : ConfiguredDirectory}
    {record : Journal.Record} (member : record ∈ (c.use files).records) :
    record.component = .directoryFile := by
  unfold use at member
  split at member
  · cases member
  · cases member
  · split at member
    · rw [List.mem_singleton.mp member]
      rfl
    · cases member

namespace Service

variable {s : Service} {request : Request} {trace : String} {record : Journal.Record}

theorem component_of_mem_access (member : record ∈ s.access.records) :
    record.component = .directoryFile ∨ record.component = .directoryProvider := by
  unfold access at member
  split at member
  · cases member
  · simp only at member
    split at member
    · exact .inl (ConfiguredDirectory.component_of_mem_use member)
    · exact .inl (ConfiguredDirectory.component_of_mem_use member)
    · split at member
      · exact .inl (ConfiguredDirectory.component_of_mem_use member)
      · rcases List.mem_append.mp member with used | told
        · exact .inl (ConfiguredDirectory.component_of_mem_use used)
        · rw [List.mem_singleton.mp told]
          exact .inr rfl

theorem component_of_mem_healthEndpoint (member : record ∈ s.healthEndpoint.records) :
    record.component = .directoryFile ∨ record.component = .healthEndpoint := by
  unfold healthEndpoint at member
  simp only at member
  split at member
  · exact .inl (ConfiguredDirectory.component_of_mem_use member)
  · exact .inl (ConfiguredDirectory.component_of_mem_use member)
  · split at member
    · exact .inl (ConfiguredDirectory.component_of_mem_use member)
    · rcases List.mem_append.mp member with used | told
      · exact .inl (ConfiguredDirectory.component_of_mem_use used)
      · rw [List.mem_singleton.mp told]
        exact .inr rfl

theorem component_of_mem_compileIntent {gateway : String} {intent : ServiceIntent} {d : Directory}
    {past : List Call} (member : record ∈ (s.compileIntent trace gateway intent d past).records) :
    record.component = .compiler ∨ record.component = .resolver ∨
      record.component = .compileEndpoint := by
  rw [compileIntent, List.mem_append] at member
  rcases member with compiled | told
  · exact (component_of_mem_compile compiled).imp_right .inl
  · unfold compilationAnswer at told
    split at told
    · cases told
    · rw [List.mem_singleton.mp told]
      exact .inr (.inr rfl)
    · cases told

theorem not_isOfRequest_of_mem_compilePayload {gateway : String} {payload : Payload}
    (member : record ∈ (s.compilePayload trace gateway payload).records) :
    record.isOfRequest = false := by
  have ofAccess : ∀ record ∈ s.access.records, record.isOfRequest = false := by
    intro record member
    rcases component_of_mem_access member with same | same <;>
      simp [Journal.Record.isOfRequest, same]
  unfold compilePayload at member
  simp only at member
  split at member
  · exact ofAccess record member
  · split at member
    · exact ofAccess record member
    · exact ofAccess record member
    · rcases List.mem_append.mp member with found | compiled
      · exact ofAccess record found
      · rcases component_of_mem_compileIntent compiled with same | same | same <;>
          simp [Journal.Record.isOfRequest, same]

/-- No endpoint writes a record of a request as a whole. -/
theorem not_isOfRequest_of_mem_endpoint (member : record ∈ (s.endpoint trace request).records) :
    record.isOfRequest = false := by
  unfold endpoint at member
  split at member
  · cases member
  · split at member
    · cases member
    · split at member
      · cases member
      · cases member
      · rcases component_of_mem_healthEndpoint member with same | same <;>
          simp [Journal.Record.isOfRequest, same]
      · cases member
      · unfold compileEndpoint at member
        split at member
        · cases member
        · exact not_isOfRequest_of_mem_compilePayload member

/-! ## The record of a request -/

variable (around : Surroundings)

/-- The record that concludes a request. -/
def closingRecord (trace : String) (request : Request) :
    Except Outage Response → Journal.Record
  | .ok response => answeredRecord around trace request response.status
  | .error outage => failedRecord around trace request outage

theorem isMarked_closingRecord (result : Except Outage Response) :
    (closingRecord around trace request result).IsMarked trace := by
  cases result with
  | ok response =>
    refine ⟨(request.method ++ " " ++ request.addressPath ++ " -> " ++ toString response.status ++
      " (" ++ around.elapsed ++ "ms)" : String), ?_⟩
    simp [closingRecord, answeredRecord, requestLabel, ← Text.ofString_append, String.append_assoc]
  | error outage =>
    refine ⟨(request.method ++ " " ++ request.addressPath ++ " -> " ++ "EXCEPTION after " ++
      around.elapsed ++ "ms: " ++ outage.message : String), ?_⟩
    simp [closingRecord, failedRecord, requestLabel, ← Text.ofString_append, String.append_assoc]

/-- A journal that keeps records of the rank of `INFO` keeps those of a conclusion. -/
theorem kept_closingRecords (low : s.threshold ≤ Journal.Level.info.rank)
    (result : Except Outage Response) :
    s.kept (closingRecords around trace request result) =
      closingRecords around trace request result := by
  rw [kept, List.filter_eq_self]
  have atLeast : ∀ record ∈ closingRecords around trace request result,
      Journal.Level.info.rank ≤ record.level.rank := by
    cases result with
    | ok response =>
      simp only [closingRecords, List.mem_singleton, forall_eq, answeredRecord]
      split <;> decide
    | error outage =>
      have below : Journal.Level.info.rank ≤ Journal.Level.error.rank := by decide
      simp only [closingRecords, List.forall_mem_cons, failedRecord, outageRecord]
      exact ⟨below, below, by simp⟩
  intro record member
  exact decide_eq_true (low.trans (atLeast record member))

theorem filter_closingRecords (result : Except Outage Response) :
    (closingRecords around trace request result).filter Journal.Record.isOfRequest =
      [closingRecord around trace request result] := by
  cases result <;> rfl

/-- The journal keeps one record of a request as a whole. -/
theorem filter_conclude (low : s.threshold ≤ Journal.Level.info.rank) {reply : Reply}
    (others : ∀ record ∈ reply.records, record.isOfRequest = false) :
    (s.conclude around trace request reply).records.filter Journal.Record.isOfRequest =
      [closingRecord around trace request reply.result] := by
  have noOther : (s.kept reply.records).filter Journal.Record.isOfRequest = [] := by
    rw [List.filter_eq_nil_iff]
    intro record member
    simp [others record (List.mem_of_mem_filter member)]
  rw [conclude_eq]
  simp only [kept_append, List.filter_append, noOther, List.nil_append]
  rw [kept_closingRecords around low, filter_closingRecords]

/-- The response to a concluded request tells the trace id: in a header, or in the body after an
outage. -/
theorem response_conclude_tells (s : Service) (trace : String) (request : Request)
    (reply : Reply) :
    let exchange := s.conclude around trace request reply
    ∃ response, exchange.response = some response ∧
      (exchange.outage = none → response.headers.find? "x-trace-id" = some trace) ∧
      ∀ outage, exchange.outage = some outage →
        response.status = 500 ∧ response.headers.find? "x-trace-id" = none ∧
          ∃ detail, response.body = .json (.obj [("detail", .str detail),
            ("trace_id", .str trace), ("error", .str outage.kind.name)]) := by
  rw [conclude_eq]
  refine ⟨_, rfl, ?_⟩
  rw [find?_traceId_respond, status_respond]
  cases reply.result with
  | ok response =>
    refine ⟨fun _ => rfl, ?_⟩
    rintro outage ⟨⟩
  | error raised =>
    refine ⟨?_, ?_⟩
    · rintro ⟨⟩
    · rintro outage ⟨⟩
      exact ⟨rfl, rfl, _, rfl⟩

/-- The answer to a question in advance tells no trace id. -/
theorem find?_traceId_answerInAdvance (origins : Json) (request : Request)
    (origin method : String) :
    (answerInAdvance origins request origin method).headers.find? "x-trace-id" = none := by
  unfold answerInAdvance
  rw [Response.find?_withHeaders_of_forall_ne]
  · split
    · decide
    · show Table.find? [("content-type", "text/plain; charset=utf-8")] "x-trace-id" = none
      decide
  · intro header member
    rcases List.mem_append.mp member with front | echoed
    · rcases List.mem_append.mp front with always | allowed
      · simp only [inAdvanceHeaders, List.mem_cons, List.not_mem_nil, or_false] at always
        rcases always with rfl | rfl | rfl <;> simp
      · exact Response.ne_traceId_of_mem_allowHeaders allowed
    · split at echoed
      · rw [List.mem_singleton.mp echoed]
        simp
      · cases echoed

/-- The rank that the levels `INFO` and `DEBUG` choose. -/
theorem threshold_le_of_level {environment : Environment} {files : Files}
    (booted : boot environment files = .ok s)
    (level : s.settings.logLevel = "INFO" ∨ s.settings.logLevel = "DEBUG") :
    s.threshold ≤ Journal.Level.info.rank := by
  have chosen := threshold_boot booted
  rcases level with same | same
  · rw [same, show Journal.threshold "INFO" = .ok 20 by decide] at chosen
    exact (Except.ok.inj chosen).symm.le
  · rw [same, show Journal.threshold "DEBUG" = .ok 10 by decide] at chosen
    rw [← Except.ok.inj chosen]
    decide

end Service

theorem traceId_of_header {around : Surroundings} {request : Request} {id : String}
    (told : request.header? "x-trace-id" = some id) (filled : id ≠ "") :
    traceId around request = id := by
  rw [traceId, told]
  exact if_neg filled

theorem traceId_of_no_header {around : Surroundings} {request : Request}
    (untold : (request.header? "x-trace-id").getD "" = "") :
    traceId around request = around.freshId := by
  unfold traceId
  cases told : request.header? "x-trace-id" with
  | none => rfl
  | some id =>
    rw [told, Option.getD_some] at untold
    exact if_pos untold

open Service

/-- Which requests are traced, and how, after any actions.  A request that reaches an endpoint has
one record, which starts with its trace id, and its response tells the id: in a header, or in the
body if the endpoint failed.  A question in advance has neither, and nor has a request to a service
whose origins cannot be asked. -/
theorem run_traces {environment : Environment} {files : Files} {s : Service}
    (booted : boot environment files = .ok s)
    (level : s.settings.logLevel = "INFO" ∨ s.settings.logLevel = "DEBUG")
    (actions : List Action) (around : Surroundings) (request : Request) :
    let exchange := (s.run actions).handle around request
    let trace := traceId around request
    let lines := exchange.records.filter Journal.Record.isOfRequest
    (∀ id, request.header? "x-trace-id" = some id → id ≠ "" → trace = id) ∧
      ((request.header? "x-trace-id").getD "" = "" → trace = around.freshId) ∧
      (listsOrigins s.settings.corsOrigins = false →
        exchange.response = none ∧ exchange.records = []) ∧
      (listsOrigins s.settings.corsOrigins = true → request.inAdvance?.isSome →
        exchange.records = [] ∧ ∃ response, exchange.response = some response ∧
          response.headers.find? "x-trace-id" = none) ∧
      (listsOrigins s.settings.corsOrigins = true → request.inAdvance? = none →
        ∃ response record, exchange.response = some response ∧ lines = [record] ∧
          record.IsMarked trace ∧
          (exchange.outage = none → response.headers.find? "x-trace-id" = some trace) ∧
          ∀ outage, exchange.outage = some outage →
            response.status = 500 ∧ response.headers.find? "x-trace-id" = none ∧
              ∃ detail, response.body = .json (.obj [("detail", .str detail),
                ("trace_id", .str trace), ("error", .str outage.kind.name)])) := by
  intro exchange trace lines
  obtain ⟨settings, threshold⟩ := sameSetup_run s actions
  rw [← settings]
  refine ⟨fun id => traceId_of_header, traceId_of_no_header, ?unlisted, ?inAdvance, ?traced⟩
  case unlisted =>
    intro unlisted
    rw [show exchange = _ from handle_unlisted around unlisted]
    exact ⟨rfl, rfl⟩
  case inAdvance =>
    intro listed asked
    obtain ⟨⟨origin, method⟩, asked⟩ := Option.isSome_iff_exists.mp asked
    rw [show exchange = _ from handle_inAdvance around listed asked]
    exact ⟨rfl, _, rfl, find?_traceId_answerInAdvance _ _ _ _⟩
  case traced =>
    intro listed asked
    have low : (s.run actions).threshold ≤ Journal.Level.info.rank :=
      threshold.le.trans (threshold_le_of_level booted level)
    have concluded : exchange = _ := handle_concluded around listed asked
    have one : lines =
        [closingRecord around trace request ((s.run actions).endpoint trace request).result] := by
      rw [show lines = exchange.records.filter Journal.Record.isOfRequest from rfl, concluded]
      exact filter_conclude around low fun record => not_isOfRequest_of_mem_endpoint
    obtain ⟨response, answered, header, body⟩ := response_conclude_tells around (s.run actions)
      trace request ((s.run actions).endpoint trace request)
    rw [← concluded] at answered header body
    exact ⟨response, _, answered, one, isMarked_closingRecord around _, header, body⟩

namespace TracedRequest

/-- A request for the health of the directory that tells an id. -/
def healthRequest : Request := ⟨"GET", "/api/v1/health", [("x-trace-id", "t")], []⟩

/-- A question in advance that tells an id. -/
def inAdvance : Request :=
  ⟨"OPTIONS", "/api/v1/health", [("origin", "http://localhost:3000"),
    ("access-control-request-method", "GET"), ("x-trace-id", "t")], []⟩

/-- What happens before a request: a start and a question in advance. -/
def before : List Action := [.start TwoRules.surroundings, .exchange TwoRules.surroundings inAdvance]

/-- A service boots with the default settings. -/
theorem boots : ∃ s, boot [] [] = .ok s ∧ s.settings.logLevel = "INFO" ∧
    listsOrigins s.settings.corsOrigins = true := by
  have evaluated : (boot [] []).toOption.map (fun s =>
      (s.settings.logLevel, listsOrigins s.settings.corsOrigins)) =
        some (("INFO" : Text), true) := by
    decide +kernel
  cases booted : boot [] [] with
  | error error =>
    rw [booted] at evaluated
    cases evaluated
  | ok s =>
    rw [booted] at evaluated
    obtain ⟨level, listed⟩ := Prod.mk.inj (Option.some.inj evaluated)
    exact ⟨s, rfl, level, listed⟩

end TracedRequest

open TracedRequest in
/-- A request that tells an id has one record, and the record starts with the id. -/
theorem traces_healthRequest :
    ∃ s, boot [] [] = .ok s ∧ s.settings.logLevel = "INFO" ∧
      ∃ response record,
        ((s.run before).handle TwoRules.surroundings healthRequest).response = some response ∧
          ((s.run before).handle TwoRules.surroundings healthRequest).records.filter
            Journal.Record.isOfRequest = [record] ∧ record.IsMarked "t" := by
  obtain ⟨s, booted, level, listed⟩ := boots
  have traced := run_traces booted (.inl level) before TwoRules.surroundings healthRequest
  obtain ⟨response, record, answered, one, marked, -⟩ := traced.2.2.2.2 listed (by decide)
  exact ⟨s, booted, level, response, record, answered, one, marked⟩

open TracedRequest in
/-- A question in advance is not traced. -/
theorem not_forall_traced :
    ¬∀ (environment : Environment) (files : Files) (s : Service) (around : Surroundings)
      (request : Request), boot environment files = .ok s →
        (s.settings.logLevel = "INFO" ∨ s.settings.logLevel = "DEBUG") →
          ∃ response record, (s.handle around request).response = some response ∧
            response.headers.find? "x-trace-id" = some (traceId around request) ∧
            (s.handle around request).records.filter Journal.Record.isOfRequest = [record] ∧
              record.IsMarked (traceId around request) := by
  intro all
  obtain ⟨s, booted, level, listed⟩ := boots
  obtain ⟨response, record, answered, told, -⟩ :=
    all [] [] s TwoRules.surroundings inAdvance booted (.inl level)
  have asked : inAdvance.inAdvance? = some ("http://localhost:3000", "GET") := by decide
  rw [handle_inAdvance TwoRules.surroundings listed asked] at answered
  cases answered
  rw [find?_traceId_answerInAdvance] at told
  cases told

end GatewayNat
