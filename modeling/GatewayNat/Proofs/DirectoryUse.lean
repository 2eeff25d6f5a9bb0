import GatewayNat.Proofs.RejectionResponse

/-!
# Uses of the configured directory

Two kinds of requests use the configured directory: those that ask for its
health, and those that ask for a compilation while no other directory stands in
for it and their body can be read (`Service.asksDirectory`).

Such a request sees the directory through what a use of it finds, and through
nothing else.

* If a directory is found, the health that is told is that of the directory, and
  a compilation asks the directory (`Service.result_healthEndpoint`,
  `Service.directory_access`).
* If none can be loaded, the answer is 503, or an outage if the file has values
  that lie too deep in others (`Service.result_endpoint_of_error`).  With a
  directory there is no such answer (`Service.status_endpoint_of_found`).

No other request sees the configured directory or the files, and none changes
what is in memory (`Service.endpoint_placed`, `Service.configured_endpoint`).
-/

namespace GatewayNat

open Http

/-! ## What a use finds -/

/-- What a use finds: the directory in memory, or what the file holds now. -/
def StaticDirectory.found (path : Text) (memory : Option StaticDirectory) (files : Files) :
    Except LoadError StaticDirectory :=
  match memory with
  | some directory => .ok directory
  | none => loadNamed files path

/-- What a use provides if it finds a directory, or fails to load one. -/
def Provision.ofFound : Except LoadError StaticDirectory → Provision
  | .ok directory => .ready directory
  | .error error => .failed error

namespace ConfiguredDirectory

variable {path : Text} {memory : Option StaticDirectory} {files : Files}

theorem provision_use : (use files ⟨some path, memory⟩).provision =
    .ofFound (StaticDirectory.found path memory files) := by
  unfold use StaticDirectory.found
  cases memory with
  | some directory => rfl
  | none => cases held : StaticDirectory.loadNamed files path <;> simp only [held] <;> rfl

/-- A use keeps in memory what it finds. -/
theorem configured_use : (use files ⟨some path, memory⟩).configured =
    ⟨some path, (StaticDirectory.found path memory files).toOption⟩ := by
  unfold use StaticDirectory.found
  cases memory with
  | some directory => rfl
  | none => cases held : StaticDirectory.loadNamed files path <;> simp only [held] <;> rfl

end ConfiguredDirectory

/-- The service in another place: with other files, another log file and another configured
directory. -/
def Service.placed (files : Files) (logFile : Option String) (configured : ConfiguredDirectory)
    (s : Service) : Service :=
  { s with files, logFile, configured }

/-- The reply of a service in another place. -/
def Reply.placed (files : Files) (logFile : Option String) (configured : ConfiguredDirectory)
    (reply : Reply) : Reply :=
  { reply with service := reply.service.placed files logFile configured }

namespace Service

/-! ## Which requests use the directory -/

/-- Whether a request uses the configured directory. -/
def asksDirectory (s : Service) (request : Request) : Bool :=
  match Route.ofPath? request.path with
  | some .health => request.method = "GET"
  | some (.compile _) => request.method = "POST" && s.standIn.isNone && request.payload.isOk
  | _ => false

variable {s : Service} {request : Request} {gateway : String} {payload : Payload}

theorem asksDirectory_iff : s.asksDirectory request = true ↔
    (Route.ofPath? request.path = some .health ∧ request.method = "GET") ∨
      ∃ gateway payload, Route.ofPath? request.path = some (.compile gateway) ∧
        request.method = "POST" ∧ s.standIn = none ∧ request.payload = .ok payload := by
  unfold asksDirectory
  cases Route.ofPath? request.path with
  | none => simp
  | some route =>
    cases route with
    | root => simp
    | liveness => simp
    | idRange => simp
    | health => simp
    | compile gateway => cases request.payload <;> simp [Except.isOk, Except.toBool]

variable (trace : String)

theorem endpoint_of_health (routed : Route.ofPath? request.path = some .health)
    (get : request.method = "GET") : s.endpoint trace request = s.healthEndpoint := by
  simp [endpoint, routed, get, Route.method]

theorem endpoint_of_compile (routed : Route.ofPath? request.path = some (.compile gateway))
    (posted : request.method = "POST") (read : request.payload = .ok payload) :
    s.endpoint trace request = s.compilePayload trace gateway payload := by
  simp [endpoint, routed, posted, Route.method, compileEndpoint, read]

/-! ## What the requests are answered -/

/-- The answer if the directory cannot be loaded. -/
def loadFailure (error : LoadError) : Except Outage Response :=
  match loadOutage? error with
  | some outage => .error outage
  | none => .ok (.ofDetail 503 notLoadedDetail)

/-- The answer to a payload if there is a directory. -/
def payloadAnswer (trace gateway : String) (payload : Payload) (d : Directory) (past : List Call)
    (range : IdRange) : Except Outage Response :=
  match payloadIntent payload with
  | .error outage => .error outage
  | .ok (.invalid first more) =>
    strictResponse 422 (.obj [("detail", .arr ((first :: more).map issueJson))])
  | .ok (.valid intent) =>
    (compilationAnswer trace gateway (compile d past gateway intent.toJson range).result).1

/-- A compilation is answered by the directory that is provided for it. -/
theorem result_endpoint_of_provided {d : Directory} {past : List Call}
    (routed : Route.ofPath? request.path = some (.compile gateway))
    (posted : request.method = "POST") (read : request.payload = .ok payload)
    (provided : s.access.directory = .ok (d, past)) :
    (s.endpoint trace request).result =
      payloadAnswer trace gateway payload d past s.settings.natIds := by
  rw [endpoint_of_compile trace routed posted read, ← access_service_settings s]
  simp only [compilePayload, provided, payloadAnswer]
  cases payloadIntent payload with
  | error outage => rfl
  | ok checked => cases checked <;> rfl

theorem eq_of_strictResponse {status : Nat} {value : Json} {response : Response}
    (answered : strictResponse status value = .ok response) : response = .ofJson status value := by
  unfold strictResponse at answered
  split at answered
  · cases answered
  · split at answered
    · cases answered
    · cases answered
      rfl

theorem status_of_strictResponse {status : Nat} {value : Json} {response : Response}
    (answered : strictResponse status value = .ok response) : response.status = status := by
  rw [eq_of_strictResponse answered]
  rfl

/-- The statuses of answers to a payload if there is a directory. -/
theorem status_of_payloadAnswer {d : Directory} {past : List Call} {range : IdRange}
    {response : Response}
    (answered : payloadAnswer trace gateway payload d past range = .ok response) :
    response.status ∈ [200, 404, 422] := by
  unfold payloadAnswer at answered
  split at answered
  · cases answered
  · rw [status_of_strictResponse answered]
    decide
  · unfold compilationAnswer at answered
    split at answered
    · simp only [reportResponse] at answered
      split at answered
      · cases answered
      · cases answered
        exact .head _
    · rw [status_of_strictResponse answered, rejectionStatus_eq]
      split
      · exact .tail _ (.head _)
      · exact .tail _ (.tail _ (.head _))
    · cases answered

section Found

variable {path : Text} {memory : Option StaticDirectory}
  (configured : s.configured = ⟨some path, memory⟩)

include configured

/-- A directory that is found has its health told. -/
theorem result_healthEndpoint : s.healthEndpoint.result =
    match StaticDirectory.found path memory s.files with
    | .ok directory => .ok (.ofJson 200 (s.healthBody (some directory)))
    | .error error => loadFailure error := by
  have provided : (ConfiguredDirectory.use s.files ⟨some path, memory⟩).provision = _ :=
    ConfiguredDirectory.provision_use
  simp only [healthEndpoint, configured, provided]
  cases StaticDirectory.found path memory s.files with
  | ok directory => rfl
  | error error =>
    simp only [Provision.ofFound, loadFailure]
    cases loadOutage? error <;> rfl

/-- A directory that is found is asked by a compilation, if no other one stands in. -/
theorem directory_access (alone : s.standIn = none) : s.access.directory =
    match StaticDirectory.found path memory s.files with
    | .ok directory => .ok (directory.toDirectory, [])
    | .error error => .error (match loadOutage? error with
      | some outage => .failed outage
      | none => .notLoaded) := by
  have provided : (ConfiguredDirectory.use s.files ⟨some path, memory⟩).provision = _ :=
    ConfiguredDirectory.provision_use
  simp only [access, alone, configured, provided]
  cases StaticDirectory.found path memory s.files with
  | ok directory => rfl
  | error error =>
    simp only [Provision.ofFound]
    cases loadOutage? error <;> rfl

end Found

/-! ## What does not matter to a request -/

/-- A use that is the same in another place, and does nothing but find. -/
def StillUse (s : Service) (files : Files) (configured : ConfiguredDirectory) : Prop :=
  ∃ provision, s.configured.use s.files = ⟨provision, [], s.configured⟩ ∧
    configured.use files = ⟨provision, [], configured⟩

section Placed

variable {files : Files} {logFile : Option String} {configured : ConfiguredDirectory}

theorem healthEndpoint_placed (still : s.StillUse files configured) :
    (s.placed files logFile configured).healthEndpoint =
      s.healthEndpoint.placed files logFile configured := by
  obtain ⟨provision, here, there⟩ := still
  unfold healthEndpoint
  simp only [placed, here, there]
  cases provision with
  | unset => rfl
  | ready directory => rfl
  | failed error =>
    simp only []
    cases loadOutage? error <;> rfl

theorem access_placed (still : s.standIn = none → s.StillUse files configured) :
    (s.placed files logFile configured).access =
      ⟨s.access.directory, s.access.records,
        s.access.service.placed files logFile configured⟩ := by
  unfold access
  cases alone : s.standIn with
  | some standIn =>
    simp only [placed, alone]
  | none =>
    obtain ⟨provision, here, there⟩ := still alone
    simp only [placed, alone, here, there]
    cases provision with
    | unset => rfl
    | ready directory => rfl
    | failed error =>
      simp only []
      cases loadOutage? error <;> rfl

theorem compilePayload_placed (still : s.standIn = none → s.StillUse files configured) :
    (s.placed files logFile configured).compilePayload trace gateway payload =
      (s.compilePayload trace gateway payload).placed files logFile configured := by
  simp only [compilePayload, access_placed still]
  cases s.access.directory with
  | error fault => rfl
  | ok found =>
    cases payloadIntent payload with
    | error outage => rfl
    | ok checked => cases checked <;> rfl

/-- A request is answered in another place as here, if a use is the same there or the request does
not use the directory. -/
theorem endpoint_placed
    (still : s.asksDirectory request = true → s.StillUse files configured) :
    (s.placed files logFile configured).endpoint trace request =
      (s.endpoint trace request).placed files logFile configured := by
  unfold endpoint
  cases routed : Route.ofPath? request.path with
  | none => rfl
  | some route =>
    simp only []
    split
    · rfl
    · next right =>
      rw [Decidable.not_not] at right
      cases route with
      | root => rfl
      | liveness => rfl
      | idRange => rfl
      | health =>
        exact healthEndpoint_placed (still (asksDirectory_iff.mpr (.inl ⟨routed, right⟩)))
      | compile gateway =>
        simp only [compileEndpoint]
        cases read : request.payload with
        | error fault => rfl
        | ok payload =>
          apply compilePayload_placed
          intro alone
          exact still (asksDirectory_iff.mpr (.inr ⟨gateway, payload, routed, right, alone, read⟩))

end Placed

/-! ## What a request does to the directory in memory -/

theorem configured_write (around : Surroundings) (records : List Journal.Record) :
    (s.write around records).configured = s.configured := by
  unfold write
  cases s.logFile <;> rfl

theorem configured_healthEndpoint :
    s.healthEndpoint.service.configured = (s.configured.use s.files).configured := by
  unfold healthEndpoint
  simp only []
  split
  · rfl
  · rfl
  · split <;> rfl

theorem configured_access (alone : s.standIn = none) :
    s.access.service.configured = (s.configured.use s.files).configured := by
  unfold access
  simp only [alone]
  split
  · rfl
  · rfl
  · split <;> rfl

theorem configured_compilePayload :
    (s.compilePayload trace gateway payload).service.configured =
      s.access.service.configured := by
  unfold compilePayload
  simp only []
  split
  · rfl
  · split <;> rfl

/-- A request changes what is in memory exactly as a use does, if it uses the directory at all. -/
theorem configured_endpoint : (s.endpoint trace request).service.configured =
    if s.asksDirectory request then (s.configured.use s.files).configured
    else s.configured := by
  by_cases asks : s.asksDirectory request = true
  · rw [if_pos asks]
    rcases asksDirectory_iff.mp asks with
      ⟨routed, get⟩ | ⟨gateway, payload, routed, posted, alone, read⟩
    · rw [endpoint_of_health trace routed get, configured_healthEndpoint]
    · rw [endpoint_of_compile trace routed posted read, configured_compilePayload,
        configured_access alone]
  · rw [if_neg asks]
    -- the service is in its own place
    have same : s.endpoint trace request =
        (s.endpoint trace request).placed s.files s.logFile s.configured :=
      endpoint_placed trace (absurd · asks)
    exact congrArg (fun reply => reply.service.configured) same

/-! ## Exchanges -/

/-- Whether a request is answered with a use of the configured directory. -/
def usesDirectory (s : Service) (request : Request) : Bool :=
  listsOrigins s.settings.corsOrigins && s.asksDirectory request

theorem usesDirectory_iff : s.usesDirectory request = true ↔
    listsOrigins s.settings.corsOrigins = true ∧ s.asksDirectory request = true := by
  rw [usesDirectory, Bool.and_eq_true]

variable (around : Surroundings)

theorem inAdvance?_of_asksDirectory (asks : s.asksDirectory request = true) :
    request.inAdvance? = none := by
  rcases asksDirectory_iff.mp asks with ⟨-, get⟩ | ⟨-, -, -, posted, -, -⟩
  · rw [Request.inAdvance?, get, if_neg (by decide)]
  · rw [Request.inAdvance?, posted, if_neg (by decide)]

theorem handle_of_usesDirectory (uses : s.usesDirectory request = true) :
    s.handle around request =
      s.conclude around (traceId around request) request
        (s.endpoint (traceId around request) request) := by
  obtain ⟨listed, asks⟩ := usesDirectory_iff.mp uses
  rw [handle, if_pos listed, handleListed, inAdvance?_of_asksDirectory asks]

theorem configured_conclude (reply : Reply) :
    (s.conclude around trace request reply).service.configured = reply.service.configured := by
  unfold conclude
  split
  · exact configured_write around _
  · exact configured_write around _

/-- An exchange changes what is in memory exactly as a use does, if it uses the directory. -/
theorem configured_handle : (s.handle around request).service.configured =
    if s.usesDirectory request then (s.configured.use s.files).configured
    else s.configured := by
  by_cases uses : s.usesDirectory request = true
  · obtain ⟨-, asks⟩ := usesDirectory_iff.mp uses
    rw [handle_of_usesDirectory around uses, configured_conclude, configured_endpoint, if_pos asks,
      if_pos uses]
  · rw [if_neg uses]
    unfold handle handleListed
    split
    · next listed =>
      split
      · rfl
      · have idle : ¬s.asksDirectory request = true := fun asks =>
          uses (usesDirectory_iff.mpr ⟨listed, asks⟩)
        rw [configured_conclude, configured_endpoint, if_neg idle]
    · rfl

/-- The response to a request goes by what its endpoint replied. -/
theorem status_conclude (s : Service) (request : Request) (reply : Reply) :
    ∃ response, (s.conclude around trace request reply).response = some response ∧
      response.status = match reply.result with
        | .ok replied => replied.status
        | .error _ => 500 := by
  cases replied : reply.result with
  | ok response =>
    exact ⟨_, (conclude_of_ok around trace replied).1, (Response.status_forOrigins _ _ _).1⟩
  | error outage => exact ⟨_, (conclude_of_error around trace replied).1, rfl⟩

section Found

variable {path : Text} {memory : Option StaticDirectory}
  (configured : s.configured = ⟨some path, memory⟩)

include configured

/-- The statuses of answers if a directory is found. -/
theorem status_endpoint_of_found {directory : StaticDirectory} {response : Response}
    (asks : s.asksDirectory request = true)
    (found : StaticDirectory.found path memory s.files = .ok directory)
    (answered : (s.endpoint trace request).result = .ok response) :
    response.status ∈ [200, 404, 422] := by
  rcases asksDirectory_iff.mp asks with
    ⟨routed, get⟩ | ⟨gateway, payload, routed, posted, alone, read⟩
  · rw [endpoint_of_health trace routed get, result_healthEndpoint configured, found] at answered
    cases answered
    exact .head _
  · have provided := directory_access configured alone
    rw [found] at provided
    rw [result_endpoint_of_provided trace routed posted read provided] at answered
    exact status_of_payloadAnswer trace answered

/-- If no directory can be loaded, all that the request is answered is that. -/
theorem result_endpoint_of_error {error : LoadError} (asks : s.asksDirectory request = true)
    (failed : StaticDirectory.found path memory s.files = .error error) :
    (s.endpoint trace request).result = loadFailure error := by
  rcases asksDirectory_iff.mp asks with
    ⟨routed, get⟩ | ⟨gateway, payload, routed, posted, alone, read⟩
  · rw [endpoint_of_health trace routed get, result_healthEndpoint configured, failed]
  · have provided := directory_access configured alone
    rw [failed] at provided
    rw [endpoint_of_compile trace routed posted read]
    simp only [compilePayload, provided, loadFailure]
    cases loadOutage? error <;> rfl

/-- A use is answered with 503 exactly if no directory can be loaded, but for outages. -/
theorem unavailable_iff (uses : s.usesDirectory request = true) :
    (∃ response, (s.handle around request).response = some response ∧ response.status = 503) ↔
      ∃ error, StaticDirectory.found path memory s.files = .error error ∧
        loadOutage? error = none := by
  obtain ⟨-, asks⟩ := usesDirectory_iff.mp uses
  obtain ⟨response, answered, status⟩ :=
    status_conclude (traceId around request) around s request
      (s.endpoint (traceId around request) request)
  rw [handle_of_usesDirectory around uses, answered]
  simp only [Option.some.injEq, exists_eq_left']
  rw [status]
  cases found : StaticDirectory.found path memory s.files with
  | ok directory =>
    refine iff_of_false ?_ (by simp)
    cases replied : (s.endpoint (traceId around request) request).result with
    | ok response =>
      have known := status_endpoint_of_found _ configured asks found replied
      intro same
      simp [same] at known
    | error outage => simp
  | error error =>
    rw [result_endpoint_of_error _ configured asks found, loadFailure]
    cases outage : loadOutage? error with
    | none => exact iff_of_true rfl ⟨error, rfl, outage⟩
    | some raised =>
      refine iff_of_false (by simp) ?_
      rintro ⟨other, same, none⟩
      cases same
      rw [outage] at none
      cases none

end Found

end Service

end GatewayNat
