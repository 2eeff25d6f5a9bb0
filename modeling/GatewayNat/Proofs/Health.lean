import Mathlib.Data.Finset.Card
import GatewayNat.Proofs.Seen

/-!
# Health and compilations

A request for the health of the directory and a compilation see the same thing, so
their answers go together (`Service.AnsweredAlike`).

* Both tell that the directory is not available if it cannot be loaded.
* If none is configured the health tells so with 200, and the compilation with 503.
* Otherwise the health tells the number of the gateways that the compilation can
  ask for.  A directory in memory has every gateway once, after any actions
  (`Service.hasDistinct_run`).

Neither of them changes how the other one is answered (`Service.run_agrees`).

A load that is an outage is one for both requests.  This is the only case where the
health is told with neither 200 nor 503 (`not_forall_agreeing`).
-/

namespace GatewayNat

open Http

namespace Http.Response

/-- A member of a JSON body. -/
def member? (response : Response) (name : String) : Option Json :=
  match response.body with
  | .json (.obj members) => Table.find? members name
  | _ => none

/-- The response tells that the service is not available, and why. -/
def IsUnavailable (response : Response) (detail : String) : Prop :=
  response.status = 503 ∧ response.member? "detail" = some (.str detail)

/-- The response tells whether there is a directory, and the number of gateways. -/
def TellsHealth (response : Response) (directory : Bool) (gateways : Nat) : Prop :=
  response.status = 200 ∧ response.member? "directory" = some (.bool directory) ∧
    response.member? "gateways" = some (.int gateways)

end Http.Response

/-! ## Distinct gateways -/

/-- A directory in memory has every gateway once. -/
def ConfiguredDirectory.HasDistinct (c : ConfiguredDirectory) : Prop :=
  ∀ d, c.loaded = some d → d.gateways.names.Nodup

theorem ConfiguredDirectory.hasDistinct_use {c : ConfiguredDirectory} {files : Files}
    (distinct : c.HasDistinct) : (c.use files).configured.HasDistinct := by
  unfold use
  split
  · exact distinct
  · exact distinct
  · split
    · next held =>
      rintro d ⟨⟩
      exact StaticDirectory.nodup_names_of_loadNamed held
    · exact distinct

namespace Service

variable {s : Service} {request : Request}

theorem hasDistinct_after (distinct : s.configured.HasDistinct) (action : Action) :
    (s.after action).configured.HasDistinct := by
  cases action with
  | start around =>
    rw [after, configured_start]
    exact ConfiguredDirectory.hasDistinct_use distinct
  | exchange around request =>
    rw [after, configured_handle]
    split
    · exact ConfiguredDirectory.hasDistinct_use distinct
    · exact distinct
  | writeFile name node => exact distinct
  | removeFile name => exact distinct
  | putIn directory => exact distinct
  | forget => rintro d ⟨⟩

theorem hasDistinct_run (distinct : s.configured.HasDistinct) (actions : List Action) :
    (s.run actions).configured.HasDistinct := by
  induction actions generalizing s with
  | nil => exact distinct
  | cons action rest ih => exact ih (hasDistinct_after distinct action)

theorem hasDistinct_boot {environment : Environment} {files : Files}
    (booted : boot environment files = .ok s) : s.configured.HasDistinct := by
  rw [configured_boot booted]
  rintro d ⟨⟩

end Service

/-! ## Agreement -/

theorem StaticDirectory.gateway_eq_ok_iff {d : StaticDirectory} {id : Text} :
    d.toDirectory.gateway [] id = .ok () ↔ id ∈ d.gateways.names := by
  rw [← Table.find?_isSome_iff]
  simp only [toDirectory, findGateway, networks?]
  cases d.gateways.find? id <;> simp [Except.map]

namespace Service

/-- How the answers to a request for the health of the directory and to a compilation go
together. -/
structure AnsweredAlike (s : Service) (h c : Response) : Prop where
  notLoaded : h.status = 503 ↔ c.IsUnavailable notLoadedDetail
  notConfigured : h.TellsHealth false 0 ↔ c.IsUnavailable notConfiguredDetail
  /-- Otherwise both fail with the outage of the load, or the health has the number of the gateways
  of the directory that the compilation asks. -/
  otherwise : h.status = 503 ∨ h.TellsHealth false 0 ∨
    (s.useOutage?.isSome ∧ h.status = 500 ∧ c.status = 500) ∨
    ∃ (d : Directory) (ids : Finset Text), s.access.directory = .ok (d, []) ∧
      (∀ id, id ∈ ids ↔ d.gateway [] id = .ok ()) ∧ h.TellsHealth true ids.card ∧ c.status ≠ 503

/-- How a request for the health of the directory and a compilation are answered. -/
structure Agrees (s : Service) (around aroundToo : Surroundings) (health compilation : Request) :
    Prop where
  /-- If the allowed origins cannot be asked, neither is answered. -/
  unlisted : listsOrigins s.settings.corsOrigins = false →
    (s.handle around health).response = none ∧ (s.handle aroundToo compilation).response = none
  answered : listsOrigins s.settings.corsOrigins = true → ∃ h c,
    (s.handle around health).response = some h ∧
      (s.handle aroundToo compilation).response = some c ∧ s.AnsweredAlike h c
  /-- A request for the health does not change the answer to a compilation, unless its records in
  the directory file make a load that fails an outage, or no outage any more. -/
  healthFirst : s.KeepsFailure around health →
    ((s.handle around health).service.handle aroundToo compilation).response =
      (s.handle aroundToo compilation).response
  /-- Nor does a compilation change the answer to a request for the health. -/
  compilationFirst : s.KeepsFailure aroundToo compilation →
    ((s.handle aroundToo compilation).service.handle around health).response =
      (s.handle around health).response

variable {s : Service} {around aroundToo : Surroundings} {request health compilation : Request}
  {gateway : String} {payload : Payload}

/-! ### What the answers tell -/

section Respond

variable (settings : Settings) (trace : String)

theorem status_respond_payloadAnswer (d : Directory) (past : List Call) (range : IdRange) :
    (respond settings trace request (payloadAnswer trace gateway payload d past range)).status ≠
      503 := by
  rw [status_respond]
  cases answered : payloadAnswer trace gateway payload d past range with
  | error outage => simp
  | ok response =>
    have known := status_of_payloadAnswer trace answered
    intro same
    simp [same] at known

theorem tellsHealth_respond_iff {response : Response} {directory : Bool} {gateways : Nat} :
    (respond settings trace request (.ok response)).TellsHealth directory gateways ↔
      response.TellsHealth directory gateways := by
  simp only [Response.TellsHealth, Response.member?, status_respond, body_respond_ok]

theorem isUnavailable_respond_iff {response : Response} {detail : String} :
    (respond settings trace request (.ok response)).IsUnavailable detail ↔
      response.IsUnavailable detail := by
  simp only [Response.IsUnavailable, Response.member?, status_respond, body_respond_ok]

end Respond

theorem isUnavailable_ofDetail_iff {detail told : String} :
    (Response.ofDetail 503 told).IsUnavailable detail ↔ told = detail := by
  simp [Response.IsUnavailable, Response.ofDetail, Response.ofJson, Response.member?, Table.find?,
    Text.ofString_inj]

theorem tellsHealth_healthBody_iff {found : Option StaticDirectory} {directory : Bool}
    {gateways : Nat} : (Response.ofJson 200 (s.healthBody found)).TellsHealth directory gateways ↔
      found.isSome = directory ∧
        (found.map fun d => d.gateways.names.length).getD 0 = gateways := by
  have told : (Response.ofJson 200 (s.healthBody found)).member? "directory" =
      some (.bool found.isSome) := rfl
  have counted : (Response.ofJson 200 (s.healthBody found)).member? "gateways" =
      some (.int ((found.map fun d => d.gateways.names.length).getD 0 : Nat)) := by
    cases found with
    | none => rfl
    | some d =>
      have sorted : (d.gateways.names.mergeSort Text.le).length = d.gateways.names.length :=
        List.length_mergeSort _
      rw [Option.map_some, Option.getD_some, ← sorted]
      rfl
  rw [Response.TellsHealth, told, counted]
  simp only [Option.some.injEq, Json.bool.injEq, Json.int.injEq, Nat.cast_inj]
  exact and_iff_right rfl

/-! ### What is seen, case by case -/

theorem nodup_of_sees {directory : StaticDirectory} (distinct : s.configured.HasDistinct)
    (saw : s.sees = .ok (some directory)) : directory.gateways.names.Nodup := by
  unfold sees ConfiguredDirectory.use at saw
  split at saw
  · cases saw
  · next remembered =>
    cases saw
    exact distinct _ remembered
  · split at saw
    · next held =>
      cases saw
      exact StaticDirectory.nodup_names_of_loadNamed held
    · cases saw

section Cases

variable (trace traceToo : String)

theorem answeredAlike_of_none : s.AnsweredAlike
    (respond s.settings trace health (.ok (.ofJson 200 (s.healthBody none))))
    (respond s.settings traceToo compilation (.ok (.ofDetail 503 notConfiguredDetail))) where
  notLoaded := by
    rw [isUnavailable_respond_iff, isUnavailable_ofDetail_iff, status_respond]
    show 200 = 503 ↔ notConfiguredDetail = notLoadedDetail
    decide
  notConfigured := by
    rw [isUnavailable_respond_iff, isUnavailable_ofDetail_iff, tellsHealth_respond_iff,
      tellsHealth_healthBody_iff]
    decide
  otherwise := by
    rw [tellsHealth_respond_iff, tellsHealth_healthBody_iff]
    exact .inr (.inl ⟨rfl, rfl⟩)

theorem answeredAlike_of_directory {directory : StaticDirectory}
    (distinct : directory.gateways.names.Nodup)
    (provided : s.access.directory = .ok (directory.toDirectory, [])) : s.AnsweredAlike
      (respond s.settings trace health (.ok (.ofJson 200 (s.healthBody (some directory)))))
      (respond s.settings traceToo compilation
        (payloadAnswer traceToo gateway payload directory.toDirectory [] s.settings.natIds)) := by
  have available : (respond s.settings traceToo compilation (payloadAnswer traceToo gateway payload
      directory.toDirectory [] s.settings.natIds)).status ≠ 503 :=
    status_respond_payloadAnswer _ _ _ _ _
  refine ⟨iff_of_false ?_ fun refused => available refused.1,
    iff_of_false ?_ fun refused => available refused.1, .inr (.inr (.inr ?_))⟩
  · rw [status_respond]
    show 200 ≠ 503
    decide
  · rw [tellsHealth_respond_iff, tellsHealth_healthBody_iff]
    rintro ⟨⟨⟩, -⟩
  · refine ⟨_, directory.gateways.names.toFinset, provided, ?_, ?_, available⟩
    · intro id
      rw [List.mem_toFinset, StaticDirectory.gateway_eq_ok_iff]
    · rw [tellsHealth_respond_iff, tellsHealth_healthBody_iff,
        List.toFinset_card_of_nodup distinct]
      exact ⟨rfl, rfl⟩

theorem answeredAlike_of_failure {failure : Option Outage} (saw : s.sees = .error failure) :
    s.AnsweredAlike (respond s.settings trace health (failureAnswer failure))
      (respond s.settings traceToo compilation (failureAnswer failure)) := by
  cases failure with
  | none =>
    refine ⟨?_, ?_, .inl ?_⟩
    · rw [failureAnswer, isUnavailable_respond_iff, isUnavailable_ofDetail_iff, status_respond]
      exact iff_of_true rfl rfl
    · rw [failureAnswer, isUnavailable_respond_iff, isUnavailable_ofDetail_iff,
        tellsHealth_respond_iff]
      refine iff_of_false ?_ (by decide)
      rintro ⟨⟨⟩, -⟩
    · rw [failureAnswer, status_respond]
      rfl
  | some outage =>
    have out : s.useOutage? = some outage := by rw [useOutage?, saw]
    refine ⟨iff_of_false ?_ ?_, iff_of_false ?_ ?_, .inr (.inr (.inl ⟨?_, rfl, rfl⟩))⟩
    · rintro ⟨⟩
    · rintro ⟨⟨⟩, -⟩
    · rintro ⟨⟨⟩, -⟩
    · rintro ⟨⟨⟩, -⟩
    · rw [out]
      rfl

end Cases

/-! ### Both requests -/

/-- What a request leaves for another one. -/
theorem response_after {next : Request} (alone : s.standIn = none)
    (asks : s.asksDirectory request = true) (asksToo : s.asksDirectory next = true)
    (same : s.KeepsFailure around request) :
    ((s.handle around request).service.handle aroundToo next).response =
      (s.handle aroundToo next).response := by
  cases listed : listsOrigins s.settings.corsOrigins with
  | false => rw [handle_unlisted around listed]
  | true =>
    have uses := usesDirectory_iff.mpr ⟨listed, asks⟩
    exact response_eq_of_sees aroundToo (sameSetup_handle around request).settings
      (sees_handle around uses same) alone (standIn_handle around uses alone) asksToo

/-- In any state with distinct gateways in memory, both requests are answered alike. -/
theorem agrees (distinct : s.configured.HasDistinct) (alone : s.standIn = none)
    (healthRouted : Route.ofPath? health.path = some .health) (get : health.method = "GET")
    (routed : Route.ofPath? compilation.path = some (.compile gateway))
    (posted : compilation.method = "POST") (read : compilation.payload = .ok payload) :
    s.Agrees around aroundToo health compilation := by
  have asks : s.asksDirectory health = true := asksDirectory_iff.mpr (.inl ⟨healthRouted, get⟩)
  have asksToo : s.asksDirectory compilation = true :=
    asksDirectory_iff.mpr (.inr ⟨gateway, payload, routed, posted, alone, read⟩)
  refine ⟨?unlisted, ?answered, response_after alone asks asksToo,
    response_after alone asksToo asks⟩
  case unlisted =>
    intro unlisted
    rw [handle_unlisted around unlisted, handle_unlisted aroundToo unlisted]
    exact ⟨rfl, rfl⟩
  case answered =>
    intro listed
    refine ⟨_, _, response_handle around listed (inAdvance?_of_asksDirectory asks),
      response_handle aroundToo listed (inAdvance?_of_asksDirectory asksToo), ?_⟩
    rw [endpoint_of_health _ healthRouted get, result_healthEndpoint_of_sees,
      result_compilation_of_sees _ routed posted read alone]
    have provided := directory_access_of_sees alone
    cases saw : s.sees with
    | ok found =>
      rw [saw] at provided
      cases found with
      | none => exact answeredAlike_of_none _ _
      | some directory =>
        exact answeredAlike_of_directory _ _ (nodup_of_sees distinct saw) provided
    | error failure => exact answeredAlike_of_failure _ _ saw

/-- After any actions that leave no other directory to stand in, a request for the health of the
directory and a compilation are answered alike. -/
theorem run_agrees {environment : Environment} {files : Files}
    (booted : boot environment files = .ok s) (actions : List Action)
    (alone : (s.run actions).standIn = none) (around aroundToo : Surroundings)
    (healthRouted : Route.ofPath? health.path = some .health) (get : health.method = "GET")
    (routed : Route.ofPath? compilation.path = some (.compile gateway))
    (posted : compilation.method = "POST") (read : compilation.payload = .ok payload) :
    (s.run actions).Agrees around aroundToo health compilation :=
  agrees (hasDistinct_run (hasDistinct_boot booted) actions) alone healthRouted get routed posted
    read

end Service

namespace DirectoryFile

open Service

/-- A request to compile no rules. -/
def compilation : Request := TwoRules.post "\x7b\x7d"

theorem payload_compilation : compilation.payload = .ok (.value (.obj [])) := by decide +kernel

/-- A service boots with an empty tree of files, and with the name of a directory file. -/
theorem boots : ∃ s, boot environment [] = .ok s ∧ s.files = [] ∧ s.standIn = none ∧
    s.configured = ⟨some "gateways.json", none⟩ ∧
      listsOrigins s.settings.corsOrigins = true := by
  have evaluated : (boot environment []).toOption.map (fun s =>
      (s.files, s.standIn.isNone, s.configured, listsOrigins s.settings.corsOrigins)) =
        some ([], true, ⟨some "gateways.json", none⟩, true) := by decide +kernel
  cases booted : boot environment [] with
  | error error =>
    rw [booted] at evaluated
    cases evaluated
  | ok s =>
    rw [booted] at evaluated
    obtain ⟨files, others⟩ := Prod.mk.inj (Option.some.inj evaluated)
    obtain ⟨alone, others⟩ := Prod.mk.inj others
    obtain ⟨configured, listed⟩ := Prod.mk.inj others
    exact ⟨s, rfl, files, Option.isNone_iff_eq_none.mp alone, configured, listed⟩

end DirectoryFile

open DirectoryFile in
/-- Both requests are answered alike after the directory file was loaded and removed. -/
theorem agrees_of_removed : ∃ s : Service, Service.boot environment [] = .ok s ∧
    (s.run actions).standIn = none ∧ Route.ofPath? healthRequest.path = some .health ∧
      healthRequest.method = "GET" ∧
      Route.ofPath? compilation.path = some (.compile "edge") ∧ compilation.method = "POST" ∧
      compilation.payload = .ok (.value (.obj [])) ∧
      (s.run actions).Agrees TwoRules.surroundings TwoRules.surroundings healthRequest
        compilation := by
  obtain ⟨s, booted, -, -, -, -⟩ := boots
  have evaluated : (Service.boot environment []).toOption.map
      (fun s => (s.run actions).standIn.isNone) = some true := by decide +kernel
  rw [booted] at evaluated
  have alone := Option.isNone_iff_eq_none.mp (Option.some.inj evaluated)
  have routed : Route.ofPath? healthRequest.path = some .health := by decide
  have routedToo : Route.ofPath? compilation.path = some (.compile "edge") := by
    show Route.ofPath? "/api/v1/nat/edge/compile" = _
    decide
  exact ⟨s, booted, alone, routed, rfl, routedToo, rfl, payload_compilation,
    Service.run_agrees booted actions alone _ _ routed rfl routedToo rfl payload_compilation⟩

/-! ## A load that is an outage -/

/-- Brackets that open more lists than may lie in each other. -/
theorem Json.readValue_brackets (rest : List CodePoint) (room : Nat) {fuel position : Nat}
    (enough : 2 * room < fuel) :
    readValue fuel room ⟨List.replicate (room + 1) (.char '[') ++ rest, position⟩ =
      .error (.tooDeep .list) := by
  induction room generalizing fuel position with
  | zero =>
    obtain ⟨more, rfl⟩ := Nat.exists_eq_succ_of_ne_zero (Nat.ne_of_gt enough)
    rfl
  | succ room ih =>
    obtain ⟨more, rfl⟩ : ∃ more, fuel = more + 2 := ⟨fuel - 2, by omega⟩
    have inner : readValue more room ⟨List.replicate (room + 1) (.char '[') ++ rest, position + 1⟩ =
        .error (.tooDeep .list) := ih (by omega)
    have opened : readValue (more + 2) (room + 1)
        ⟨List.replicate (room + 2) (.char '[') ++ rest, position⟩ =
          readItems (more + 1) room []
            ⟨List.replicate (room + 1) (.char '[') ++ rest, position + 1⟩ := rfl
    rw [opened, readItems.eq_def]
    simp only [inner]

namespace DirectoryFile

/-- The octets of a number of brackets. -/
def brackets (number : Nat) : List UInt8 := List.replicate number 0x5b

theorem decodeFrom_brackets (number : Nat) (done : List Char) (start : Nat) :
    Text.Utf8.decodeFrom .chars done start (brackets number) =
      .ok (done.reverse ++ List.replicate number '[') := by
  induction number generalizing done start with
  | zero => simp [brackets, Text.Utf8.decodeFrom]
  | succ number ih =>
    have first : Text.Utf8.decodeFrom .chars done start (brackets (number + 1)) =
        Text.Utf8.decodeFrom .chars ('[' :: done) (start + 1) (brackets number) := by
      rw [brackets, List.replicate_succ, Text.Utf8.decodeFrom.eq_def]
      rfl
    rw [first, ih, List.reverse_cons, List.append_assoc]
    rfl

theorem lineFeeds_brackets (number : Nat) :
    Files.lineFeeds (List.replicate number '[') = List.replicate number '[' := by
  induction number with
  | zero => rfl
  | succ number ih =>
    have first : Files.lineFeeds (List.replicate (number + 1) '[') =
        '[' :: Files.lineFeeds (List.replicate number '[') := by
      rw [List.replicate_succ, Files.lineFeeds] <;> simp
    rw [first, ih]
    rfl

theorem textOf_brackets (number : Nat) :
    Files.textOf (brackets number) = .ok (String.ofList (List.replicate number '[')) := by
  rw [Files.textOf, Text.Utf8.decode, decodeFrom_brackets]
  simp only [List.reverse_nil, List.nil_append, Except.map, Files.withLineFeeds,
    String.toList_ofList, lineFeeds_brackets]

theorem read_brackets {number : Nat} (many : number = Json.maxDepth + 1) :
    Json.read (String.ofList (List.replicate number '[') : String) = .error (.tooDeep .list) := by
  have points : ((String.ofList (List.replicate number '[') : String) : Text).points =
      List.replicate number (.char '[') := by
    simp [Text.points_ofString]
  have enough : 2 * Json.maxDepth <
      2 * (List.replicate number (CodePoint.char '[')).length + 1 := by
    rw [List.length_replicate, many]
    omega
  have deep := @Json.readValue_brackets [] Json.maxDepth _ 0 enough
  rw [List.append_nil, ← many] at deep
  obtain ⟨rest, first⟩ : ∃ rest, List.replicate number (CodePoint.char '[') = .char '[' :: rest :=
    ⟨_, by rw [many, List.replicate_succ]⟩
  have unmarked : Json.readUnmarked (String.ofList (List.replicate number '[') : String) =
      .error (.tooDeep .list) := by
    have start : Json.skipFrom 0 (.char '[' :: rest) = ⟨.char '[' :: rest, 0⟩ := rfl
    rw [first] at deep
    simp only [Json.readUnmarked, points, first, start, deep]
  rw [Json.read, points, first]
  exact unmarked

/-- Too many lists in each other cannot be loaded. -/
theorem loadNamed_brackets {number : Nat} (many : number = Json.maxDepth + 1) :
    StaticDirectory.loadNamed (Files.put [] "gateways.json" (.file (brackets number)))
      "gateways.json" = .error (.tooDeep .list) := by
  have name : Files.normal "gateways.json" = "gateways.json" := by decide
  have octets (held : List UInt8) :
      Files.octets (Files.put [] "gateways.json" (.file held)) "gateways.json" = .ok held := rfl
  simp only [StaticDirectory.loadNamed, Text.toString?_ofString, StaticDirectory.load, name, octets,
    textOf_brackets, StaticDirectory.ofText, read_brackets many]

end DirectoryFile

open Service DirectoryFile in
/-- The directory file has values that lie too deep in others, so the health is told with 500. -/
theorem not_forall_agreeing :
    ¬∀ (environment : Environment) (files : Files) (s : Service) (actions : List Action)
      (around aroundToo : Surroundings) (health compilation : Request) (gateway : String)
      (payload : Payload) (h c : Response), boot environment files = .ok s →
        (s.run actions).standIn = none → Route.ofPath? health.path = some .health →
        health.method = "GET" → Route.ofPath? compilation.path = some (.compile gateway) →
        compilation.method = "POST" → compilation.payload = .ok payload →
        ((s.run actions).handle around health).response = some h →
        ((s.run actions).handle aroundToo compilation).response = some c →
          (h.status = 503 ↔ c.IsUnavailable notLoadedDetail) ∧
            (h.TellsHealth false 0 ↔ c.IsUnavailable notConfiguredDetail) ∧
              (h.status = 503 ∨ h.TellsHealth false 0 ∨
                ∃ gateways, h.TellsHealth true gateways ∧ c.status ≠ 503) := by
  intro all
  obtain ⟨s, booted, files, alone, configured, listed⟩ := boots
  obtain ⟨number, many⟩ : ∃ number, number = Json.maxDepth + 1 := ⟨_, rfl⟩
  have saw : (s.writeFile "gateways.json" (.file (brackets number))).sees =
      .error (loadOutage? (.tooDeep .list)) := by
    rw [sees, writeFile]
    simp only [configured, files]
    rw [ConfiguredDirectory.provision_use, StaticDirectory.found, loadNamed_brackets many]
    rfl
  have routed : Route.ofPath? healthRequest.path = some .health := by decide
  have routedToo : Route.ofPath? compilation.path = some (.compile "edge") := by
    show Route.ofPath? "/api/v1/nat/edge/compile" = _
    decide
  obtain ⟨h, answered, status⟩ : ∃ h, ((s.writeFile "gateways.json"
      (.file (brackets number))).handle TwoRules.surroundings healthRequest).response = some h ∧
        h.status = 500 := by
    refine ⟨_, response_handle _ listed (by decide), ?_⟩
    rw [endpoint_of_health _ routed rfl, result_healthEndpoint_of_sees, saw]
    rfl
  have asked : compilation.inAdvance? = none := by decide
  obtain ⟨-, -, told⟩ := all environment [] s
    [.writeFile "gateways.json" (.file (brackets number))] TwoRules.surroundings
    TwoRules.surroundings healthRequest compilation "edge" _ h _ booted alone routed rfl routedToo
    rfl payload_compilation answered (response_handle _ listed asked)
  rcases told with same | ⟨same, -⟩ | ⟨gateways, ⟨same, -⟩, -⟩
  · rw [status] at same
    cases same
  · rw [status] at same
    cases same
  · rw [status] at same
    cases same

end GatewayNat
