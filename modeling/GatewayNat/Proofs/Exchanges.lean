import GatewayNat.Proofs.Snapshot

/-!
# Exchanges

An exchange is of one of three kinds.

* If the allowed origins cannot be asked, nothing happens (`Service.handle_unlisted`).
* A question in advance is answered and leaves the service as it is
  (`Service.handle_inAdvance`).
* Any other request is concluded with the reply of its endpoint
  (`Service.handle_concluded`).  The response to it goes by the settings, the trace
  id and the result of the endpoint alone (`Service.respond`), and the journal keeps
  the records of the endpoint with those of the conclusion after them
  (`Service.closingRecords`).

No action changes the settings of a service or what its journal keeps
(`Service.sameSetup_run`).  Of the directory that stands in, a request changes only
the calls that are noted (`Service.standIn_compilePayload`).
-/

namespace GatewayNat

open Http

namespace Service

variable {s t u : Service} {request : Request} (around : Surroundings)

/-! ## The three kinds of exchanges -/

theorem handle_unlisted (unlisted : listsOrigins s.settings.corsOrigins = false) :
    s.handle around request =
      ⟨none, some ⟨.type, noOriginsMessage s.settings.corsOrigins⟩, [], s⟩ := by
  rw [handle, if_neg (by simp [unlisted])]

theorem handle_inAdvance {origin method : String}
    (listed : listsOrigins s.settings.corsOrigins = true)
    (asked : request.inAdvance? = some (origin, method)) :
    s.handle around request =
      ⟨some (answerInAdvance s.settings.corsOrigins request origin method), none, [], s⟩ := by
  rw [handle, if_pos listed, handleListed, asked]

theorem handle_concluded (listed : listsOrigins s.settings.corsOrigins = true)
    (asked : request.inAdvance? = none) :
    s.handle around request =
      s.conclude around (traceId around request) request
        (s.endpoint (traceId around request) request) := by
  rw [handle, if_pos listed, handleListed, asked]

/-! ## Conclusions -/

/-- The response that is made of the result of an endpoint. -/
def respond (settings : Settings) (trace : String) (request : Request) :
    Except Outage Response → Response
  | .ok response =>
    (response.withHeader "x-trace-id" trace).forOrigins settings.corsOrigins request
  | .error outage => outageResponse settings trace outage

/-- The records that are written about the result of an endpoint. -/
def closingRecords (trace : String) (request : Request) :
    Except Outage Response → List Journal.Record
  | .ok response => [answeredRecord around trace request response.status]
  | .error outage => [failedRecord around trace request outage, outageRecord trace outage]

theorem kept_append (s : Service) (first second : List Journal.Record) :
    s.kept (first ++ second) = s.kept first ++ s.kept second :=
  List.filter_append ..

theorem conclude_eq (trace : String) (reply : Reply) :
    s.conclude around trace request reply =
      let records := reply.records ++ closingRecords around trace request reply.result
      { response := some (respond s.settings trace request reply.result)
        outage := match reply.result with
          | .ok _ => none
          | .error outage => some outage
        records := s.kept records
        service := reply.service.write around records } := by
  unfold conclude
  cases reply.result <;> rfl

theorem response_handle (listed : listsOrigins s.settings.corsOrigins = true)
    (asked : request.inAdvance? = none) :
    (s.handle around request).response =
      some (respond s.settings (traceId around request) request
        (s.endpoint (traceId around request) request).result) := by
  rw [handle_concluded around listed asked, conclude_eq]

theorem status_respond (settings : Settings) (trace : String) (result : Except Outage Response) :
    (respond settings trace request result).status =
      match result with
      | .ok response => response.status
      | .error _ => 500 := by
  cases result with
  | ok response => exact (Response.status_forOrigins _ _ _).1
  | error outage => rfl

theorem body_respond_ok (settings : Settings) (trace : String) (response : Response) :
    (respond settings trace request (.ok response)).body = response.body :=
  (Response.status_forOrigins _ _ _).2

/-- The trace id is told in a header, unless the endpoint failed. -/
theorem find?_traceId_respond (settings : Settings) (trace : String)
    (result : Except Outage Response) :
    (respond settings trace request result).headers.find? "x-trace-id" =
      match result with
      | .ok _ => some trace
      | .error _ => none := by
  cases result with
  | ok response =>
    rw [respond, Response.find?_traceId_forOrigins, Response.withHeader, Table.find?_set,
      if_pos rfl]
  | error outage =>
    show Table.find? [("content-type", "application/json")] "x-trace-id" = none
    decide

/-! ## What endpoints leave -/

theorem sameWork_access : SameWork s s.access.service := by
  unfold access
  cases stands : s.standIn with
  | some standIn => exact ⟨rfl, rfl, rfl⟩
  | none =>
    simp only
    split
    · exact ⟨rfl, rfl, stands.symm⟩
    · exact ⟨rfl, rfl, stands.symm⟩
    · split <;> exact ⟨rfl, rfl, stands.symm⟩

theorem sameWork_healthEndpoint : SameWork s s.healthEndpoint.service := by
  unfold healthEndpoint
  simp only
  split
  · exact ⟨rfl, rfl, rfl⟩
  · exact ⟨rfl, rfl, rfl⟩
  · split <;> exact ⟨rfl, rfl, rfl⟩

/-- The calls of a payload to the directory that stands in. -/
def callsOf (gateway : String) (payload : Payload) (range : IdRange) (standIn : StandIn) :
    List Call :=
  match payloadIntent payload with
  | .ok (.valid intent) =>
    Event.calls (compile standIn.directory standIn.past gateway intent.toJson range).events
  | _ => []

theorem standIn_compilePayload (trace gateway : String) (payload : Payload) :
    (s.compilePayload trace gateway payload).service.standIn = s.standIn.map fun standIn =>
      ⟨standIn.directory, standIn.past ++ callsOf gateway payload s.settings.natIds standIn⟩ := by
  cases stands : s.standIn with
  | none =>
    have alone : s.access.service.standIn = none := sameWork_access.standIn.trans stands
    simp only [compilePayload, Option.map_none]
    split
    · exact alone
    · split
      · exact alone
      · exact alone
      · simp only [compileIntent, noteCalls, alone, Option.map_none]
  | some standIn =>
    have provided : s.access = ⟨.ok (standIn.directory, standIn.past), [], s⟩ := by
      rw [access, stands]
    simp only [compilePayload, provided, Option.map_some, callsOf]
    cases payloadIntent payload with
    | error outage => simp [stands]
    | ok checked =>
      cases checked with
      | invalid first more => simp [stands]
      | valid intent => simp [compileIntent, noteCalls, stands]

/-! ## What no action changes -/

/-- Services with the same settings that keep the same records. -/
structure SameSetup (s t : Service) : Prop where
  settings : t.settings = s.settings
  threshold : t.threshold = s.threshold

theorem SameSetup.trans (first : SameSetup s t) (second : SameSetup t u) : SameSetup s u :=
  ⟨second.settings.trans first.settings, second.threshold.trans first.threshold⟩

theorem SameWork.sameSetup (same : SameWork s t) : SameSetup s t :=
  ⟨same.settings, same.threshold⟩

theorem sameSetup_compilePayload (trace gateway : String) (payload : Payload) :
    SameSetup s (s.compilePayload trace gateway payload).service := by
  refine sameWork_access.sameSetup.trans ?_
  unfold compilePayload
  simp only
  split
  · exact ⟨rfl, rfl⟩
  · split <;> exact ⟨rfl, rfl⟩

theorem sameSetup_endpoint (trace : String) (request : Request) :
    SameSetup s (s.endpoint trace request).service := by
  unfold endpoint
  split
  · exact ⟨rfl, rfl⟩
  · split
    · exact ⟨rfl, rfl⟩
    · split
      · exact ⟨rfl, rfl⟩
      · exact ⟨rfl, rfl⟩
      · exact sameWork_healthEndpoint.sameSetup
      · exact ⟨rfl, rfl⟩
      · unfold compileEndpoint
        split
        · exact ⟨rfl, rfl⟩
        · exact sameSetup_compilePayload _ _ _

theorem sameSetup_handle (request : Request) :
    SameSetup s (s.handle around request).service := by
  unfold handle handleListed
  split
  · split
    · exact ⟨rfl, rfl⟩
    · exact (sameSetup_endpoint _ _).trans (sameWork_conclude around _ _ _).sameSetup
  · exact ⟨rfl, rfl⟩

theorem sameSetup_after (s : Service) (action : Action) : SameSetup s (s.after action) := by
  cases action with
  | start around => exact (sameWork_start around).sameSetup
  | exchange around request => exact sameSetup_handle around request
  | writeFile name node => exact ⟨rfl, rfl⟩
  | removeFile name => exact ⟨rfl, rfl⟩
  | putIn directory => exact ⟨rfl, rfl⟩
  | forget => exact ⟨rfl, rfl⟩

/-- No actions change the settings of a service or what its journal keeps. -/
theorem sameSetup_run (s : Service) (actions : List Action) : SameSetup s (s.run actions) := by
  induction actions generalizing s with
  | nil => exact ⟨rfl, rfl⟩
  | cons action rest ih => exact (sameSetup_after s action).trans (ih (s.after action))

/-- The journal of a service that booted keeps what its settings choose. -/
theorem threshold_boot {environment : Environment} {files : Files}
    (booted : boot environment files = .ok s) :
    Journal.threshold s.settings.logLevel = .ok s.threshold := by
  unfold boot at booted
  split at booted
  · cases booted
  · split at booted
    · cases booted
    · next chosen =>
      split at booted
      · cases booted
      · cases booted
        exact chosen

end Service

end GatewayNat
