import GatewayNat.Proofs.AppendedLog
import GatewayNat.Proofs.Exchanges

/-!
# What requests see

A request for the health of the directory and a compilation see the same thing of
the configured directory: that there is none, a directory, or a load that fails
(`Service.sees`).  Both are answered by this and by the settings alone
(`Service.result_healthEndpoint_of_sees`, `Service.result_compilation_of_sees`).

A request does not change what the next one sees (`Service.sees_handle`).

* Without a configured directory there is nothing to change.
* A directory that is loaded stays in memory.
* If a load fails, all that the request changes is the log
  (`Service.handle_of_failed`).  Unless that is the directory file, the next load fails in
  the same way.  If it is, the records end plainly, so the next load fails too.
-/

namespace GatewayNat

open Http

/-! ## Uses of the configured directory -/

namespace ConfiguredDirectory

variable {c : ConfiguredDirectory} {files : Files}

/-- A use fails exactly if nothing is in memory and the load fails. -/
theorem provision_use_eq_failed_iff {error : LoadError} :
    (c.use files).provision = .failed error ↔
      ∃ path, c = ⟨some path, none⟩ ∧ StaticDirectory.loadNamed files path = .error error := by
  constructor
  · intro failed
    obtain ⟨path?, memory⟩ := c
    unfold use at failed
    split at failed
    · cases failed
    · cases failed
    · next path configured remembered =>
      simp only at configured remembered
      subst configured remembered
      cases loaded : StaticDirectory.loadNamed files path with
      | ok directory =>
        rw [loaded] at failed
        cases failed
      | error other =>
        rw [loaded] at failed
        cases failed
        exact ⟨path, rfl, loaded⟩
  · rintro ⟨path, rfl, loaded⟩
    simp only [use, loaded]

/-- A use that fails changes nothing and writes nothing. -/
theorem use_of_failed {error : LoadError} (failed : (c.use files).provision = .failed error) :
    c.use files = ⟨.failed error, [], c⟩ := by
  obtain ⟨path, rfl, loaded⟩ := provision_use_eq_failed_iff.mp failed
  simp only [use, loaded]

/-- Any other use finds the same again later. -/
theorem provision_use_use {later : Files}
    (fine : ∀ error, (c.use files).provision ≠ .failed error) :
    ((c.use files).configured.use later).provision = (c.use files).provision := by
  obtain ⟨path?, memory⟩ := c
  cases path? with
  | none => rfl
  | some path =>
    cases memory with
    | some directory => rfl
    | none =>
      cases loaded : StaticDirectory.loadNamed files path with
      | ok directory => simp only [use, loaded]
      | error error =>
        exact absurd (provision_use_eq_failed_iff.mpr ⟨path, rfl, loaded⟩) (fine error)

end ConfiguredDirectory

namespace Service

variable {s : Service} {request : Request}

/-! ## What a request sees -/

/-- What requests see of a use: the directory, if one is configured, or a load that fails, with its
outage if it is one. -/
def seen : Provision → Except (Option Outage) (Option StaticDirectory)
  | .unset => .ok none
  | .ready directory => .ok (some directory)
  | .failed error => .error (loadOutage? error)

/-- What requests see of the configured directory. -/
def sees (s : Service) : Except (Option Outage) (Option StaticDirectory) :=
  seen (s.configured.use s.files).provision

/-- The answer for a load that fails. -/
def failureAnswer : Option Outage → Except Outage Response
  | none => .ok (.ofDetail 503 notLoadedDetail)
  | some outage => .error outage

theorem result_healthEndpoint_of_sees : s.healthEndpoint.result =
    match s.sees with
    | .ok directory => .ok (.ofJson 200 (s.healthBody directory))
    | .error outage => failureAnswer outage := by
  simp only [healthEndpoint, sees]
  cases (s.configured.use s.files).provision with
  | unset => rfl
  | ready directory => rfl
  | failed error =>
    simp only [seen]
    cases loadOutage? error <;> rfl

theorem directory_access_of_sees (alone : s.standIn = none) : s.access.directory =
    match s.sees with
    | .ok none => .error .notConfigured
    | .ok (some directory) => .ok (directory.toDirectory, [])
    | .error none => .error .notLoaded
    | .error (some outage) => .error (.failed outage) := by
  simp only [access, alone, sees]
  cases (s.configured.use s.files).provision with
  | unset => rfl
  | ready directory => rfl
  | failed error =>
    simp only [seen]
    cases loadOutage? error <;> rfl

section Compilation

variable {gateway : String} {payload : Payload} (trace : String)
  (routed : Route.ofPath? request.path = some (.compile gateway))
  (posted : request.method = "POST") (read : request.payload = .ok payload)
  (alone : s.standIn = none)

include routed posted read alone

theorem result_compilation_of_sees : (s.endpoint trace request).result =
    match s.sees with
    | .ok none => .ok (.ofDetail 503 notConfiguredDetail)
    | .ok (some directory) =>
      payloadAnswer trace gateway payload directory.toDirectory [] s.settings.natIds
    | .error outage => failureAnswer outage := by
  have provided := directory_access_of_sees alone
  cases saw : s.sees with
  | ok found =>
    rw [saw] at provided
    cases found with
    | none =>
      rw [endpoint_of_compile trace routed posted read]
      simp only [compilePayload, provided]
      rfl
    | some directory => exact result_endpoint_of_provided trace routed posted read provided
  | error failure =>
    rw [saw] at provided
    rw [endpoint_of_compile trace routed posted read]
    cases failure with
    | none =>
      simp only [compilePayload, provided]
      rfl
    | some outage =>
      simp only [compilePayload, provided]
      rfl

end Compilation

/-! ## Records of a load that fails -/

theorem endsPlainly_message (error : LoadError) : error.message.EndsPlainly := by
  cases error with
  | unnamed name => exact (Text.endsPlainly_quoted name).afterString _
  | unreadable path fault =>
    cases fault with
    | zeroCharacter =>
      show (("embedded null byte" : String) : Text).EndsPlainly
      exact Text.endsPlainly_of_getLast? (by decide)
    | absent => exact (Text.endsPlainly_quoted path).afterString _
    | «exists» => exact (Text.endsPlainly_quoted path).afterString _
    | belowFile => exact (Text.endsPlainly_quoted path).afterString _
    | isDirectory => exact (Text.endsPlainly_quoted path).afterString _
    | tooLong => exact (Text.endsPlainly_quoted path).afterString _
  | undecodable fault =>
    have reason : (fault.reason.message : Text).EndsPlainly := by
      cases fault.reason <;> exact Text.endsPlainly_of_getLast? (by decide)
    exact reason.afterString _
  | malformed path reason place =>
    have closed : (")" : Text).EndsPlainly := Text.endsPlainly_of_getLast? (by decide)
    exact (closed.afterString _).after _
  | tooManyDigits count => exact .afterString (Text.endsPlainly_of_getLast? (by decide)) _
  | tooDeep container => cases container <;> exact Text.endsPlainly_of_getLast? (by decide)
  | notMapping path => exact .after (Text.endsPlainly_of_getLast? (by decide)) _
  | notInterface path gateway network =>
    exact .after (Text.endsPlainly_of_getLast? (by decide)) _

theorem message_of_loadOutage? {error : LoadError} {outage : Outage}
    (out : loadOutage? error = some outage) : (outage.message : Text) = error.message := by
  cases error with
  | tooDeep container =>
    cases out
    rfl
  | unnamed name => cases out
  | unreadable path fault => cases out
  | undecodable fault => cases out
  | malformed path reason place => cases out
  | tooManyDigits count => cases out
  | notMapping path => cases out
  | notInterface path gateway network => cases out

theorem endsPlainly_of_mem_closingRecords (around : Surroundings) (trace : String)
    (request : Request) {result : Except Outage Response}
    (plain : ∀ outage, result = .error outage → (outage.message : Text).EndsPlainly)
    {record : Journal.Record} (member : record ∈ closingRecords around trace request result) :
    record.message.EndsPlainly := by
  cases result with
  | ok response =>
    rw [List.mem_singleton.mp member]
    have ended : ("ms)" : Text).EndsPlainly := Text.endsPlainly_of_getLast? (by decide)
    exact ended.after _
  | error outage =>
    have told := plain outage rfl
    simp only [closingRecords, List.mem_cons, List.not_mem_nil, or_false] at member
    rcases member with rfl | rfl
    · exact told.after _
    · exact told.after _

section Failed

variable {error : LoadError} (failed : (s.configured.use s.files).provision = .failed error)

include failed

theorem sees_of_failed : s.sees = .error (loadOutage? error) := by
  rw [sees, failed, seen]

/-- A request that finds no directory is answered with that. -/
theorem result_endpoint_of_failed (trace : String) (asks : s.asksDirectory request = true) :
    (s.endpoint trace request).result = failureAnswer (loadOutage? error) := by
  rcases asksDirectory_iff.mp asks with
    ⟨routed, get⟩ | ⟨gateway, payload, routed, posted, alone, read⟩
  · rw [endpoint_of_health trace routed get, result_healthEndpoint_of_sees, sees_of_failed failed]
  · rw [result_compilation_of_sees trace routed posted read alone, sees_of_failed failed]

theorem healthEndpoint_of_failed : s.healthEndpoint.service = s ∧
    ∀ record ∈ s.healthEndpoint.records, record.message.EndsPlainly := by
  simp only [healthEndpoint, ConfiguredDirectory.use_of_failed failed]
  cases loadOutage? error with
  | some outage => exact ⟨rfl, by simp⟩
  | none =>
    refine ⟨rfl, ?_⟩
    simp only [List.nil_append, List.mem_singleton, forall_eq]
    exact (endsPlainly_message error).after _

theorem access_of_failed (alone : s.standIn = none) : s.access.service = s ∧
    ∀ record ∈ s.access.records, record.message.EndsPlainly := by
  have same : { s with standIn := none } = s := by rw [← alone]
  simp only [access, alone, ConfiguredDirectory.use_of_failed failed]
  cases loadOutage? error with
  | some outage => exact ⟨same, by simp⟩
  | none =>
    refine ⟨same, ?_⟩
    simp only [List.nil_append, List.mem_singleton, forall_eq]
    exact (endsPlainly_message error).after _

/-- A request that finds no directory leaves the service as it is, and its records end plainly. -/
theorem endpoint_of_failed (trace : String) (asks : s.asksDirectory request = true) :
    (s.endpoint trace request).service = s ∧
      ∀ record ∈ (s.endpoint trace request).records, record.message.EndsPlainly := by
  rcases asksDirectory_iff.mp asks with
    ⟨routed, get⟩ | ⟨gateway, payload, routed, posted, alone, read⟩
  · rw [endpoint_of_health trace routed get]
    exact healthEndpoint_of_failed failed
  · rw [endpoint_of_compile trace routed posted read]
    obtain ⟨fault, provided⟩ : ∃ fault, s.access.directory = .error fault := by
      rw [directory_access_of_sees alone, sees_of_failed failed]
      cases loadOutage? error <;> exact ⟨_, rfl⟩
    simp only [compilePayload, provided]
    exact access_of_failed failed alone

/-- All that such a request changes is the log. -/
theorem handle_of_failed (around : Surroundings) (uses : s.usesDirectory request = true) :
    ∃ records, (s.handle around request).service = s.write around records ∧
      ∀ record ∈ records, record.message.EndsPlainly := by
  obtain ⟨-, asks⟩ := usesDirectory_iff.mp uses
  obtain ⟨untouched, plain⟩ := endpoint_of_failed failed (traceId around request) asks
  have plainOutage (outage : Outage)
      (out : (s.endpoint (traceId around request) request).result = .error outage) :
      (outage.message : Text).EndsPlainly := by
    rw [result_endpoint_of_failed failed _ asks] at out
    cases raised : loadOutage? error with
    | none =>
      rw [raised] at out
      cases out
    | some other =>
      rw [raised] at out
      cases out
      rw [message_of_loadOutage? raised]
      exact endsPlainly_message error
  rw [handle_of_usesDirectory around uses, conclude_eq, untouched]
  refine ⟨_, rfl, fun record member => ?_⟩
  rcases List.mem_append.mp member with replied | closing
  · exact plain record replied
  · exact endsPlainly_of_mem_closingRecords around _ request plainOutage closing

end Failed

/-! ## What a request leaves -/

/-- The outage that a use of the configured directory is, if it is one. -/
def useOutage? (s : Service) : Option Outage :=
  match s.sees with
  | .ok _ => none
  | .error outage => outage

/-- The log is written to the directory file. -/
def LogsToDirectory (s : Service) : Prop :=
  ∃ path : String, s.configured.path = some (.ofString path) ∧
    s.logFile = some (Files.entryName (Files.normal path))

/-- A load that fails is the same outage after a request, or no outage as before.  This is in doubt
only if the log is written to the directory file. -/
def KeepsFailure (s : Service) (around : Surroundings) (request : Request) : Prop :=
  s.LogsToDirectory → ∀ failure, s.sees = .error failure →
    (s.handle around request).service.useOutage? = failure

/-- After records that end plainly, a load fails as before, if it is not the outage that has
changed. -/
theorem sees_write_of_failed (around : Surroundings) {error : LoadError}
    {records : List Journal.Record}
    (failed : (s.configured.use s.files).provision = .failed error)
    (plain : ∀ record ∈ records, record.message.EndsPlainly)
    (same : s.LogsToDirectory → (s.write around records).useOutage? = loadOutage? error) :
    (s.write around records).sees = s.sees := by
  obtain ⟨path, configured, here⟩ := ConfiguredDirectory.provision_use_eq_failed_iff.mp failed
  have kept : (s.write around records).configured = ⟨some path, none⟩ :=
    (configured_write around records).trans configured
  cases again : StaticDirectory.loadNamed (s.write around records).files path with
  | ok directory =>
    have before := loadNamed_write around plain again
    rw [here] at before
    cases before
  | error other =>
    have failedAgain := ConfiguredDirectory.provision_use_eq_failed_iff.mpr ⟨path, kept, again⟩
    have sawAgain := sees_of_failed failedAgain
    rw [sawAgain, sees_of_failed failed]
    by_cases logs : s.LogsToDirectory
    · have outage := same logs
      rw [useOutage?, sawAgain] at outage
      exact congrArg _ outage
    · have elsewhere : ∀ name : String, path = name →
          s.logFile ≠ some (Files.entryName (Files.normal name)) := by
        rintro name rfl log
        exact logs ⟨name, by rw [configured], log⟩
      rw [loadNamed_write_of_ne around elsewhere, here] at again
      cases again
      rfl

/-- After a request that uses the configured directory, all others see what it saw. -/
theorem sees_handle (around : Surroundings) (uses : s.usesDirectory request = true)
    (same : s.KeepsFailure around request) :
    (s.handle around request).service.sees = s.sees := by
  have found (fine : ∀ error, (s.configured.use s.files).provision ≠ .failed error) :
      (s.handle around request).service.sees = s.sees := by
    rw [sees, configured_handle, if_pos uses, ConfiguredDirectory.provision_use_use fine, sees]
  cases provided : (s.configured.use s.files).provision with
  | unset => exact found (by simp [provided])
  | ready directory => exact found (by simp [provided])
  | failed error =>
    have saw := sees_of_failed provided
    obtain ⟨records, left, plain⟩ := handle_of_failed provided around uses
    rw [left]
    refine sees_write_of_failed around provided plain fun logs => ?_
    rw [← left]
    exact same logs _ saw

theorem standIn_handle (around : Surroundings) (uses : s.usesDirectory request = true)
    (alone : s.standIn = none) : (s.handle around request).service.standIn = none := by
  obtain ⟨-, asks⟩ := usesDirectory_iff.mp uses
  rw [handle_of_usesDirectory around uses]
  refine (sameWork_conclude around _ _ _).standIn.trans ?_
  rcases asksDirectory_iff.mp asks with
    ⟨routed, get⟩ | ⟨gateway, payload, routed, posted, -, read⟩
  · rw [endpoint_of_health _ routed get]
    exact sameWork_healthEndpoint.standIn.trans alone
  · rw [endpoint_of_compile _ routed posted read, standIn_compilePayload, alone]
    rfl

/-- A request for the health and a compilation go by the settings and by what they see. -/
theorem response_eq_of_sees {t : Service} (around : Surroundings)
    (settings : t.settings = s.settings) (saw : t.sees = s.sees) (alone : s.standIn = none)
    (aloneToo : t.standIn = none) (asks : s.asksDirectory request = true) :
    (t.handle around request).response = (s.handle around request).response := by
  cases listed : listsOrigins s.settings.corsOrigins with
  | false =>
    have listedToo : listsOrigins t.settings.corsOrigins = false := by rw [settings, listed]
    rw [handle_unlisted around listed, handle_unlisted around listedToo]
  | true =>
    have asked := inAdvance?_of_asksDirectory asks
    have listedToo : listsOrigins t.settings.corsOrigins = true := by rw [settings, listed]
    rw [response_handle around listed asked, response_handle around listedToo asked, settings]
    congr 2
    rcases asksDirectory_iff.mp asks with
      ⟨routed, get⟩ | ⟨gateway, payload, routed, posted, -, read⟩
    · rw [endpoint_of_health _ routed get, endpoint_of_health _ routed get,
        result_healthEndpoint_of_sees, result_healthEndpoint_of_sees, saw]
      simp only [healthBody, settings]
    · rw [result_compilation_of_sees _ routed posted read alone,
        result_compilation_of_sees _ routed posted read aloneToo, saw, settings]

end Service

end GatewayNat
