import GatewayNat.Proofs.Concealment
import GatewayNat.Proofs.Seen

/-!
# Runs that clients cannot tell apart

Two services with the same settings are led through actions that are alike
(`Service.Action.Alike`).  They get the same requests and the same fresh ids.  The
directories that stand in may fail with other wordings, and the directory file
may be any file that cannot be loaded in place of another one.  All other files,
the times and the places in the program may differ as they like.

* What is in memory stays the same, and the directories that stand in are asked
  the same calls (`Service.LikeFor`, `Service.likeFor_after`).
* The endpoints reply the same, but for the wording of an outage
  (`Service.result_endpoint_of_likeFor`).
* No wording of an outage is told if the settings say so
  (`Service.respond_concealed`).

So all responses are the same, by induction on the actions
(`Service.responses_of_likeFor`).
-/

namespace GatewayNat

open Http

/-! ## What may differ -/

/-- The directory file is the same, or it can be loaded in neither tree and this is no outage. -/
def SameContent (path : Text) (files filesToo : Files) : Prop :=
  StaticDirectory.loadNamed filesToo path = StaticDirectory.loadNamed files path ∨
    ∃ error errorToo, StaticDirectory.loadNamed files path = .error error ∧
      StaticDirectory.loadNamed filesToo path = .error errorToo ∧
        Service.loadOutage? error = none ∧ Service.loadOutage? errorToo = none

/-- Events with the same content of the directory file. -/
inductive DirectoryEvent.Alike (path : Text) : DirectoryEvent → DirectoryEvent → Prop where
  | use {files filesToo : Files} (same : SameContent path files filesToo) :
      Alike path (.use files) (.use filesToo)
  | forget : Alike path .forget .forget

/-- The directory that stands in, without the wordings of its outages. -/
def StandIn.concealed (standIn : StandIn) : StandIn :=
  ⟨standIn.directory.concealed, standIn.past⟩

namespace Service

/-- Actions that clients see alike. -/
inductive Action.Alike : Action → Action → Prop where
  | start (around aroundToo : Surroundings) : Alike (.start around) (.start aroundToo)
  | exchange {around aroundToo : Surroundings} (fresh : aroundToo.freshId = around.freshId)
      (request : Request) : Alike (.exchange around request) (.exchange aroundToo request)
  | changeFile {action other : Action} (changes : action.changesFile = true)
      (changesToo : other.changesFile = true) : Alike action other
  | putIn {directory other : Option Directory}
      (same : other.map Directory.concealed = directory.map Directory.concealed) :
      Alike (.putIn directory) (.putIn other)
  | forget : Alike .forget .forget

/-- Services that clients see alike: they have the same settings and the same directory in memory,
and the directories that stand in differ in wordings only. -/
structure LikeFor (s t : Service) : Prop where
  settings : t.settings = s.settings
  configured : t.configured = s.configured
  standIn : t.standIn.map StandIn.concealed = s.standIn.map StandIn.concealed

end Service

/-! ## Uses of the directory file -/

namespace ConfiguredDirectory

variable {c : ConfiguredDirectory} {files filesToo : Files}
  (same : ∀ path, c.path = some path → SameContent path files filesToo)

include same

theorem seen_use_of_sameContent :
    Service.seen (c.use filesToo).provision = Service.seen (c.use files).provision := by
  obtain ⟨path?, memory⟩ := c
  cases path? with
  | none => rfl
  | some path =>
    rw [provision_use, provision_use]
    cases memory with
    | some directory => rfl
    | none =>
      rcases same path rfl with equal | ⟨error, errorToo, here, there, fine, fineToo⟩
      · rw [StaticDirectory.found, StaticDirectory.found, equal]
      · simp only [StaticDirectory.found, here, there, Provision.ofFound, Service.seen, fine,
          fineToo]

theorem configured_use_of_sameContent : (c.use filesToo).configured = (c.use files).configured := by
  obtain ⟨path?, memory⟩ := c
  cases path? with
  | none => rfl
  | some path =>
    rw [configured_use, configured_use]
    cases memory with
    | some directory => rfl
    | none =>
      rcases same path rfl with equal | ⟨error, errorToo, here, there, -, -⟩
      · rw [StaticDirectory.found, StaticDirectory.found, equal]
      · simp only [StaticDirectory.found, here, there, Except.toOption]

end ConfiguredDirectory

namespace Service

variable {s t : Service} {request : Request} {trace gateway : String} {payload : Payload}

/-! ## What endpoints reply -/

theorem compilationAnswer_concealed (result : Except Failure Document) :
    (compilationAnswer trace gateway (result.mapError Failure.concealed)).1.mapError
        Outage.concealed =
      (compilationAnswer trace gateway result).1.mapError Outage.concealed := by
  cases result with
  | ok document => rfl
  | error failure => cases failure <;> rfl

theorem payloadAnswer_of_concealed_eq {d e : Directory} (alike : e.concealed = d.concealed)
    (past : List Call) (range : IdRange) :
    (payloadAnswer trace gateway payload e past range).mapError Outage.concealed =
      (payloadAnswer trace gateway payload d past range).mapError Outage.concealed := by
  unfold payloadAnswer
  split
  · rfl
  · rfl
  · next intent read =>
    have same := Compiler.compile_of_concealed_eq range past alike gateway intent.toJson
    have results := congrArg Compilation.result same
    simp only [Compilation.concealed] at results
    rw [← compilationAnswer_concealed, results, compilationAnswer_concealed]

namespace LikeFor

theorem trans {u : Service} (first : LikeFor s t) (second : LikeFor t u) : LikeFor s u :=
  ⟨second.settings.trans first.settings, second.configured.trans first.configured,
    second.standIn.trans first.standIn⟩

variable (like : LikeFor s t)

include like

theorem symm : LikeFor t s := ⟨like.settings.symm, like.configured.symm, like.standIn.symm⟩

theorem isNone_standIn : t.standIn.isNone = s.standIn.isNone := by
  have same := congrArg Option.isNone like.standIn
  simpa using same

theorem asksDirectory : t.asksDirectory request = s.asksDirectory request := by
  simp only [Service.asksDirectory, like.isNone_standIn]

theorem usesDirectory : t.usesDirectory request = s.usesDirectory request := by
  simp only [Service.usesDirectory, like.settings, like.asksDirectory]

theorem sees (same : ∀ path, s.configured.path = some path → SameContent path s.files t.files) :
    t.sees = s.sees := by
  rw [Service.sees, Service.sees, like.configured]
  exact ConfiguredDirectory.seen_use_of_sameContent same

end LikeFor

/-- A compilation with a directory that stands in. -/
theorem result_compilePayload_of_standIn {standIn : StandIn} (stands : s.standIn = some standIn) :
    (s.compilePayload trace gateway payload).result =
      payloadAnswer trace gateway payload standIn.directory standIn.past s.settings.natIds := by
  have provided : s.access = ⟨.ok (standIn.directory, standIn.past), [], s⟩ := by
    rw [access, stands]
  simp only [compilePayload, provided, payloadAnswer]
  cases payloadIntent payload with
  | error outage => rfl
  | ok checked => cases checked <;> rfl

/-- The endpoints reply the same, but for the wording of an outage. -/
theorem result_endpoint_of_likeFor (trace : String) (request : Request) (like : LikeFor s t)
    (same : s.asksDirectory request = true →
      ∀ path, s.configured.path = some path → SameContent path s.files t.files) :
    (t.endpoint trace request).result.mapError Outage.concealed =
      (s.endpoint trace request).result.mapError Outage.concealed := by
  by_cases asks : s.asksDirectory request = true
  · have saw := like.sees (same asks)
    rcases asksDirectory_iff.mp asks with
      ⟨routed, get⟩ | ⟨gateway, payload, routed, posted, alone, read⟩
    · rw [endpoint_of_health trace routed get, endpoint_of_health trace routed get,
        result_healthEndpoint_of_sees, result_healthEndpoint_of_sees, saw]
      simp only [healthBody, like.settings]
    · have aloneToo : t.standIn = none := by
        rw [← Option.isNone_iff_eq_none, like.isNone_standIn, alone]
        rfl
      rw [result_compilation_of_sees trace routed posted read alone,
        result_compilation_of_sees trace routed posted read aloneToo, saw, like.settings]
  · unfold endpoint
    cases routed : Route.ofPath? request.path with
    | none => rfl
    | some route =>
      simp only []
      split
      · rfl
      · next right =>
        rw [Decidable.not_not] at right
        cases route with
        | root => simp only [rootEndpoint, like.settings]
        | liveness => rfl
        | idRange => simp only [idRangeEndpoint, like.settings]
        | health => exact absurd (asksDirectory_iff.mpr (.inl ⟨routed, right⟩)) asks
        | compile gateway =>
          simp only [compileEndpoint]
          cases read : request.payload with
          | error fault => rfl
          | ok payload =>
            -- a directory stands in, since the request would ask the configured one otherwise
            cases stands : s.standIn with
            | none =>
              exact absurd
                (asksDirectory_iff.mpr (.inr ⟨gateway, payload, routed, right, stands, read⟩)) asks
            | some standIn =>
              have alike := like.standIn
              rw [stands] at alike
              obtain ⟨other, standsToo, concealed⟩ := Option.map_eq_some_iff.mp alike
              obtain ⟨directory, past⟩ := StandIn.mk.injEq .. ▸ concealed
              simp only [result_compilePayload_of_standIn stands,
                result_compilePayload_of_standIn standsToo, like.settings, past]
              exact payloadAnswer_of_concealed_eq directory _ _

/-! ## What stands in after a request -/

theorem callsOf_of_concealed_eq {standIn other : StandIn}
    (alike : other.concealed = standIn.concealed) (range : IdRange) :
    callsOf gateway payload range other = callsOf gateway payload range standIn := by
  obtain ⟨directory, past⟩ := StandIn.mk.injEq .. ▸ alike
  unfold callsOf
  split
  · next intent read =>
    have same := Compiler.compile_of_concealed_eq range other.past directory gateway intent.toJson
    have events := congrArg Compilation.events same
    simp only [Compilation.concealed] at events
    rw [events, past]
  · rfl

/-- The directories that stand in are asked the same calls. -/
theorem standIn_endpoint_of_likeFor (like : LikeFor s t) :
    (t.endpoint trace request).service.standIn.map StandIn.concealed =
      (s.endpoint trace request).service.standIn.map StandIn.concealed := by
  unfold endpoint
  cases Route.ofPath? request.path with
  | none => exact like.standIn
  | some route =>
    simp only []
    split
    · exact like.standIn
    · cases route with
      | root => exact like.standIn
      | liveness => exact like.standIn
      | idRange => exact like.standIn
      | health =>
        simp only [sameWork_healthEndpoint.standIn]
        exact like.standIn
      | compile gateway =>
        simp only [compileEndpoint]
        cases request.payload with
        | error fault => exact like.standIn
        | ok payload =>
          simp only [standIn_compilePayload, like.settings]
          have alike := like.standIn
          cases stands : s.standIn with
          | none =>
            rw [stands] at alike
            rw [Option.map_eq_none_iff.mp alike]
          | some standIn =>
            rw [stands] at alike
            obtain ⟨other, standsToo, concealed⟩ := Option.map_eq_some_iff.mp alike
            obtain ⟨directory, past⟩ := StandIn.mk.injEq .. ▸ concealed
            simp only [standsToo, Option.map_some, StandIn.concealed, directory, past,
              callsOf_of_concealed_eq concealed]

/-! ## Exchanges -/

/-- No wording of an outage is told if the settings say so. -/
theorem respond_concealed {settings : Settings} (quiet : settings.debug = false)
    (result : Except Outage Response) :
    respond settings trace request (result.mapError Outage.concealed) =
      respond settings trace request result := by
  cases result with
  | ok response => rfl
  | error outage =>
    show outageResponse settings trace outage.concealed = outageResponse settings trace outage
    simp only [outageResponse, quiet, Outage.concealed, Bool.false_eq_true, if_false]

section Exchange

variable {around aroundToo : Surroundings} (like : LikeFor s t)
  (fresh : aroundToo.freshId = around.freshId)

include fresh in
theorem traceId_of_fresh : traceId aroundToo request = traceId around request := by
  simp only [traceId, fresh]

include like fresh

theorem standIn_handle_of_likeFor :
    (t.handle aroundToo request).service.standIn.map StandIn.concealed =
      (s.handle around request).service.standIn.map StandIn.concealed := by
  cases listed : listsOrigins s.settings.corsOrigins with
  | false =>
    rw [handle_unlisted around listed, handle_unlisted aroundToo (by rw [like.settings, listed])]
    exact like.standIn
  | true =>
    have listedToo : listsOrigins t.settings.corsOrigins = true := by rw [like.settings, listed]
    cases asked : request.inAdvance? with
    | some question =>
      rw [handle_inAdvance around listed asked, handle_inAdvance aroundToo listedToo asked]
      exact like.standIn
    | none =>
      rw [handle_concluded around listed asked, handle_concluded aroundToo listedToo asked,
        (sameWork_conclude aroundToo _ _ _).standIn, (sameWork_conclude around _ _ _).standIn,
        traceId_of_fresh fresh]
      exact standIn_endpoint_of_likeFor like

variable (same : s.usesDirectory request = true →
  ∀ path, s.configured.path = some path → SameContent path s.files t.files)

include same

theorem likeFor_handle :
    LikeFor (s.handle around request).service (t.handle aroundToo request).service where
  settings := by
    rw [(sameSetup_handle aroundToo request).settings, (sameSetup_handle around request).settings,
      like.settings]
  configured := by
    rw [configured_handle, configured_handle, like.usesDirectory, like.configured]
    split
    · next uses => exact ConfiguredDirectory.configured_use_of_sameContent (same uses)
    · rfl
  standIn := standIn_handle_of_likeFor like fresh

theorem response_handle_of_likeFor (quiet : s.settings.debug = false) :
    (t.handle aroundToo request).response = (s.handle around request).response := by
  cases listed : listsOrigins s.settings.corsOrigins with
  | false =>
    rw [handle_unlisted around listed, handle_unlisted aroundToo (by rw [like.settings, listed])]
  | true =>
    have listedToo : listsOrigins t.settings.corsOrigins = true := by rw [like.settings, listed]
    cases asked : request.inAdvance? with
    | some question =>
      rw [handle_inAdvance around listed asked, handle_inAdvance aroundToo listedToo asked,
        like.settings]
    | none =>
      have replied := result_endpoint_of_likeFor (traceId around request) request like
        fun asks => same (usesDirectory_iff.mpr ⟨listed, asks⟩)
      rw [response_handle around listed asked, response_handle aroundToo listedToo asked,
        traceId_of_fresh fresh, like.settings, ← respond_concealed quiet, replied,
        respond_concealed quiet]

end Exchange

/-! ## Runs -/

theorem likeFor_of_changesFile {action : Action} (changes : action.changesFile = true) :
    LikeFor s (s.after action) := by
  have unchanged : SameWork s (s.after action) := sameWork_of_changesFile changes
  refine ⟨unchanged.settings, ?_, congrArg _ unchanged.standIn⟩
  cases action with
  | writeFile name node => rfl
  | removeFile name => rfl
  | start around => cases changes
  | exchange around request => cases changes
  | putIn directory => cases changes
  | forget => cases changes

/-- The directory file has one name throughout a run. -/
theorem path_after (action : Action) : (s.after action).configured.path = s.configured.path := by
  have used (c : ConfiguredDirectory) (files : Files) : (c.use files).configured.path = c.path := by
    unfold ConfiguredDirectory.use
    split
    · rfl
    · rfl
    · split <;> rfl
  cases action with
  | start around => rw [after, configured_start, used]
  | exchange around request =>
    rw [after, configured_handle]
    split
    · exact used _ _
    · rfl
  | writeFile name node => rfl
  | removeFile name => rfl
  | putIn directory => rfl
  | forget => rfl

section Step

variable {action other : Action} (like : LikeFor s t) (alike : action.Alike other)

include like alike

/-- Actions that are alike use the directory file together. -/
theorem isSome_event?_of_likeFor : (t.event? other).isSome = (s.event? action).isSome := by
  cases alike with
  | start around aroundToo => rfl
  | exchange fresh request =>
    simp only [event?, like.usesDirectory]
    split <;> rfl
  | changeFile changes changesToo =>
    cases action <;> cases changes <;> cases other <;> cases changesToo <;> rfl
  | putIn same => rfl
  | forget => rfl

variable (same : ∀ files filesToo, s.event? action = some (.use files) →
    t.event? other = some (.use filesToo) →
      ∀ path, s.configured.path = some path → SameContent path files filesToo)

include same

/-- A step of two runs. -/
theorem likeFor_after : LikeFor (s.after action) (t.after other) := by
  cases alike with
  | start around aroundToo =>
    refine ⟨?_, ?_, ?_⟩
    · rw [(sameSetup_after t _).settings, (sameSetup_after s _).settings, like.settings]
    · rw [after, after, configured_start, configured_start, like.configured]
      exact ConfiguredDirectory.configured_use_of_sameContent (same _ _ rfl rfl)
    · rw [after, after, (sameWork_start aroundToo).standIn, (sameWork_start around).standIn,
        like.standIn]
  | exchange fresh request =>
    refine likeFor_handle like fresh fun uses => same _ _ ?_ ?_
    · rw [event?, if_pos uses]
    · rw [event?, if_pos (like.usesDirectory.trans uses)]
  | changeFile changes changesToo =>
    exact ((likeFor_of_changesFile changes).symm.trans like).trans
      (likeFor_of_changesFile changesToo)
  | @putIn directory directoryToo concealed =>
    refine ⟨like.settings, like.configured, ?_⟩
    have fresh (d : Option Directory) : (d.map fun d => (⟨d, []⟩ : StandIn)).map StandIn.concealed =
        (d.map Directory.concealed).map fun d => ⟨d, []⟩ := by
      cases d <;> rfl
    exact (fresh directoryToo).trans ((congrArg _ concealed).trans (fresh directory).symm)
  | forget =>
    exact ⟨like.settings, congrArg ConfiguredDirectory.forget like.configured, like.standIn⟩

theorem responses_cons_of_likeFor (quiet : s.settings.debug = false)
    {rest restToo : List Action}
    (later : (t.after other).responses restToo = (s.after action).responses rest) :
    t.responses (other :: restToo) = s.responses (action :: rest) := by
  cases alike with
  | start around aroundToo => exact later
  | @exchange around aroundToo fresh request =>
    have response := response_handle_of_likeFor like fresh
      (fun uses => same _ _ (by rw [event?, if_pos uses])
        (by rw [event?, if_pos (like.usesDirectory.trans uses)])) quiet
    simp only [responses]
    rw [response]
    exact congrArg _ later
  | changeFile changes changesToo =>
    cases action <;> cases changes <;> cases other <;> cases changesToo <;> exact later
  | putIn concealed => exact later
  | forget => exact later

end Step

/-- The responses of two runs that are alike are the same. -/
theorem responses_of_likeFor (like : LikeFor s t) (quiet : s.settings.debug = false)
    {actions others : List Action} (alike : List.Forall₂ Action.Alike actions others)
    (same : ∀ path, s.configured.path = some path →
      List.Forall₂ (DirectoryEvent.Alike path) (s.history actions) (t.history others)) :
    t.responses others = s.responses actions := by
  induction alike generalizing s t with
  | nil => rfl
  | @cons action other rest restToo step _ ih =>
    have together := isSome_event?_of_likeFor like step
    have here : ∀ files filesToo, s.event? action = some (.use files) →
        t.event? other = some (.use filesToo) →
          ∀ path, s.configured.path = some path → SameContent path files filesToo := by
      intro files filesToo used usedToo path named
      have events := same path named
      rw [history, history, used, usedToo] at events
      cases events with
      | cons first _ =>
        cases first with
        | use content => exact content
    have next := likeFor_after like step here
    refine responses_cons_of_likeFor like step here quiet (ih next ?_ ?_)
    · rw [(sameSetup_after s action).settings]
      exact quiet
    · intro path named
      have events := same path ((path_after action).symm.trans named)
      rw [history, history] at events
      cases used : s.event? action with
      | none =>
        rw [used] at events together
        have idle : t.event? other = none := by simpa using together
        rw [idle] at events
        exact events
      | some event =>
        rw [used] at events together
        obtain ⟨eventToo, usedToo⟩ := Option.isSome_iff_exists.mp together
        rw [usedToo] at events
        cases events with
        | cons _ later => exact later

/-! ## What clients are told of a failure -/

section Failures

variable (around : Surroundings) {value : Json} {d : Directory} {past : List Call}
  {outage : Outage}

/-- An outage of the directory of a compilation is told by its kind and the trace id. -/
theorem response_of_raised (quiet : s.settings.debug = false)
    (asked : CompileRequest request s gateway value d past)
    (raised : d.raised? past (Event.calls
      (compile d past gateway value s.settings.natIds).events) = some (.outage outage)) :
    ∃ response, (s.handle around request).response = some response ∧ response.status = 500 ∧
      response.body = .json (.obj [("detail", .str "Internal Server Error"),
        ("trace_id", .str (traceId around request)), ("error", .str outage.kind.name)]) := by
  obtain ⟨intent, read⟩ := asked.accepted
  have failed := Compiler.result_of_raised raised
  have replied : (s.compilePayload (traceId around request) gateway (.value value)).result =
      .error outage := by
    rw [compilePayload_of_valid _ gateway asked.provided read]
    simp only [failed, compilationAnswer]
  refine ⟨outageResponse s.settings (traceId around request) outage, ?_, rfl, ?_⟩
  · rw [handle_of_compileRequest around asked, (conclude_of_error around _ replied).1]
  · simp only [outageResponse, quiet]
    rfl

/-- A load that fails is told with a fixed wording. -/
theorem response_of_not_loaded {error : LoadError} (uses : s.usesDirectory request = true)
    (failed : (s.configured.use s.files).provision = .failed error)
    (fine : loadOutage? error = none) :
    ∃ response, (s.handle around request).response = some response ∧ response.status = 503 ∧
      response.body = .json (.obj [("detail", .str notLoadedDetail)]) := by
  obtain ⟨listed, asks⟩ := usesDirectory_iff.mp uses
  have replied : (s.endpoint (traceId around request) request).result =
      .ok (.ofDetail 503 notLoadedDetail) := by
    rw [result_endpoint_of_failed failed _ asks, fine]
    rfl
  refine ⟨_, response_handle around listed (inAdvance?_of_asksDirectory asks), ?_, ?_⟩
  · rw [status_respond, replied]
    rfl
  · rw [replied, body_respond_ok]
    rfl

end Failures

theorem standIn_boot {environment : Environment} {files : Files}
    (booted : boot environment files = .ok s) : s.standIn = none := by
  unfold boot at booted
  split at booted
  · cases booted
  · split at booted
    · cases booted
    · split at booted
      · cases booted
      · cases booted
        rfl

theorem likeFor_boot {environment environmentToo : Environment} {files filesToo : Files}
    (booted : boot environment files = .ok s)
    (bootedToo : boot environmentToo filesToo = .ok t) (settings : t.settings = s.settings) :
    LikeFor s t where
  settings := settings
  configured := by rw [configured_boot booted, configured_boot bootedToo, settings]
  standIn := by rw [standIn_boot booted, standIn_boot bootedToo]

end Service

namespace TwoWordings

open DirectoryFile

/-- A directory that fails with the kind of a load that fails. -/
def failing (wording : String) : Directory where
  gateway _ _ := .error (.outage ⟨.system, wording⟩)
  interface _ _ _ := .ok none

/-- A request to compile a rule. -/
def compilation : Request :=
  TwoRules.post ("\x7b\"nat_rules\":[\x7b\"rule_type\":\"SNAT\",\"network_id\":\"web\"," ++
    "\"original_ip\":\"10.0.0.1\",\"translated_ip\":\"192.0.2.1\"\x7d]\x7d")

/-- The directory file cannot be loaded, and then a directory fails. -/
def actions (text wording : String) : List Service.Action :=
  [.writeFile "gateways.json" (.file text.toUTF8.toList),
    .exchange TwoRules.surroundings healthRequest, .putIn (some (failing wording)),
    .exchange TwoRules.surroundings compilation]

theorem alike_actions (text other wording otherWording : String) :
    List.Forall₂ Service.Action.Alike (actions text wording) (actions other otherWording) := by
  refine .cons (.changeFile rfl rfl) (.cons (.exchange rfl _) (.cons (.putIn rfl) (.cons ?_ .nil)))
  exact .exchange rfl _

end TwoWordings

end GatewayNat
