import GatewayNat.Proofs.DirectoryUse
import GatewayNat.Service.Boot

/-!
# The snapshot of the directory file

A running service is started, deals with requests, and is told to forget the
directory.  Its files are written and removed, and another directory may stand
in for the configured one (`Service.Action`).

The starts and the requests that use the configured directory and the times when
it is forgotten make a history (`Service.history`).  The snapshot of a history is
the directory of the earliest use since the last forgetting at which the file
could be loaded (`snapshot`).  What is in memory is the snapshot at any time, by
induction on the actions (`Service.configured_run`).  Each action prolongs the
history by at most one event, and changes memory as the snapshot of a history
changes with this event (`Service.configured_after`).

So a use finds the snapshot, or what the file holds now if there is none
(`Service.run_readsSnapshot`).  Once there is a snapshot, the files do not matter
until it is forgotten (`Service.responses_of_sameWork`).
-/

namespace GatewayNat

open Http

/-! ## Histories -/

/-- What happens to the configured directory. -/
inductive DirectoryEvent where
  /-- A use, with the files as they are then. -/
  | use (files : Files)
  | forget
  deriving DecidableEq, Repr

/-- The files at the uses since the last forgetting, oldest first. -/
def filesInUse (history : List DirectoryEvent) : List Files :=
  history.foldl (fun used event =>
    match event with
    | .use files => used ++ [files]
    | .forget => []) []

/-- The directory of the earliest use since the last forgetting at which the file could be
loaded. -/
def snapshot (path : Text) (history : List DirectoryEvent) : Option StaticDirectory :=
  (filesInUse history).findSome? fun files => (StaticDirectory.loadNamed files path).toOption

/-- What is in memory after an event. -/
def DirectoryEvent.after (path : Text) (memory : Option StaticDirectory) :
    DirectoryEvent → Option StaticDirectory
  | .use files => (StaticDirectory.found path memory files).toOption
  | .forget => none

theorem snapshot_nil (path : Text) : snapshot path [] = none := rfl

/-- An event changes the snapshot as it changes memory. -/
theorem snapshot_concat (path : Text) (history : List DirectoryEvent) (event : DirectoryEvent) :
    snapshot path (history ++ [event]) = event.after path (snapshot path history) := by
  cases event with
  | forget => simp [snapshot, filesInUse, DirectoryEvent.after]
  | use files =>
    have uses : filesInUse (history ++ [.use files]) = filesInUse history ++ [files] := by
      simp [filesInUse]
    rw [DirectoryEvent.after, snapshot, uses, List.findSome?_append, ← snapshot]
    cases snapshot path history with
    | some directory => rfl
    | none => simp [StaticDirectory.found]

/-! ## Actions -/

namespace Service

/-- What a service does, and what is done to it. -/
inductive Action where
  | start (around : Surroundings)
  | exchange (around : Surroundings) (request : Request)
  | writeFile (name : String) (node : Node)
  | removeFile (name : String)
  | putIn (directory : Option Directory)
  | forget

/-- The service after an action.  One that failed to start is left as it is then. -/
def after (s : Service) : Action → Service
  | .start around => (s.start around).service
  | .exchange around request => (s.handle around request).service
  | .writeFile name node => s.writeFile name node
  | .removeFile name => s.removeFile name
  | .putIn directory => s.putIn directory
  | .forget => s.forgetDirectory

/-- The service after some actions. -/
def run (s : Service) (actions : List Action) : Service := actions.foldl after s

/-- What an action is to the configured directory. -/
def event? (s : Service) : Action → Option DirectoryEvent
  | .start around => some (.use (s.write around s.openingRecords).files)
  | .exchange _ request => if s.usesDirectory request then some (.use s.files) else none
  | .forget => some .forget
  | .writeFile _ _ | .removeFile _ | .putIn _ => none

/-- What actions are to the configured directory. -/
def history (s : Service) : List Action → List DirectoryEvent
  | [] => []
  | action :: rest => (s.event? action).toList ++ (s.after action).history rest

/-- The responses to the requests among some actions. -/
def responses (s : Service) : List Action → List (Option Response)
  | [] => []
  | .exchange around request :: rest =>
    (s.handle around request).response :: (s.handle around request).service.responses rest
  | action :: rest => (s.after action).responses rest

/-- Whether an action only changes a file. -/
def Action.changesFile : Action → Bool
  | .writeFile _ _ | .removeFile _ => true
  | _ => false

/-! ## What is in memory -/

variable {s : Service} {path : Text} {memory : Option StaticDirectory}

theorem configured_start (around : Surroundings) : (s.start around).service.configured =
    (s.configured.use (s.write around s.openingRecords).files).configured := by
  simp only [start]
  rw [configured_write]

/-- An action changes what is in memory as the event that it is. -/
theorem configured_after (configured : s.configured = ⟨some path, memory⟩) (action : Action) :
    (s.after action).configured =
      ⟨some path, ((s.event? action).map (·.after path memory)).getD memory⟩ := by
  cases action with
  | start around =>
    rw [after, configured_start, configured, ConfiguredDirectory.configured_use]
    rfl
  | exchange around request =>
    rw [after, configured_handle, event?]
    split
    · rw [configured, ConfiguredDirectory.configured_use]
      rfl
    · exact configured
  | writeFile name node => exact configured
  | removeFile name => exact configured
  | putIn directory => exact configured
  | forget => rw [after, forgetDirectory, configured]; rfl

/-- What is in memory is the snapshot of the history. -/
theorem configured_run {past : List DirectoryEvent}
    (configured : s.configured = ⟨some path, snapshot path past⟩) (actions : List Action) :
    (s.run actions).configured = ⟨some path, snapshot path (past ++ s.history actions)⟩ := by
  -- what happened before is any history, since the one of the rest goes on from it
  induction actions generalizing s past with
  | nil => simpa [run, history] using configured
  | cons action rest ih =>
    have stepped : (s.after action).configured =
        ⟨some path, snapshot path (past ++ (s.event? action).toList)⟩ := by
      rw [configured_after configured]
      cases s.event? action with
      | none => simp
      | some event => simp [snapshot_concat]
    rw [history, ← List.append_assoc]
    exact ih stepped

/-- A service boots with nothing in memory. -/
theorem configured_boot {environment : Environment} {files : Files}
    (booted : boot environment files = .ok s) :
    s.configured = .ofSetting s.settings.directoryFile := by
  unfold boot at booted
  split at booted
  · cases booted
  · split at booted
    · cases booted
    · split at booted
      · cases booted
      · cases booted
        rfl

/-! ## Services in other places -/

/-- Services that differ at most in their files and in the configured directory. -/
structure SameWork (s t : Service) : Prop where
  settings : t.settings = s.settings
  threshold : t.threshold = s.threshold
  standIn : t.standIn = s.standIn

variable {t u : Service}

theorem SameWork.symm (same : SameWork s t) : SameWork t s :=
  ⟨same.settings.symm, same.threshold.symm, same.standIn.symm⟩

theorem SameWork.trans (first : SameWork s t) (second : SameWork t u) : SameWork s u :=
  ⟨second.settings.trans first.settings, second.threshold.trans first.threshold,
    second.standIn.trans first.standIn⟩

theorem SameWork.eq_placed (same : SameWork s t) :
    t = s.placed t.files t.logFile t.configured := by
  obtain ⟨settings, threshold, standIn⟩ := same
  cases t
  cases settings
  cases threshold
  cases standIn
  rfl

theorem sameWork_write (around : Surroundings) (records : List Journal.Record) :
    SameWork s (s.write around records) := by
  unfold write
  cases s.logFile <;> exact ⟨rfl, rfl, rfl⟩

theorem sameWork_start (around : Surroundings) : SameWork s (s.start around).service := by
  have opened : SameWork s (s.write around s.openingRecords) := sameWork_write around _
  have used : SameWork (s.write around s.openingRecords)
      { s.write around s.openingRecords with
        configured := (s.configured.use (s.write around s.openingRecords).files).configured } :=
    ⟨rfl, rfl, rfl⟩
  exact (opened.trans used).trans (sameWork_write around _)

theorem sameWork_conclude (around : Surroundings) (trace : String) (request : Request)
    (reply : Reply) :
    SameWork reply.service (s.conclude around trace request reply).service := by
  unfold conclude
  split
  · exact sameWork_write around _
  · exact sameWork_write around _

section Placed

variable (around : Surroundings) {request : Request} {files : Files} {logFile : Option String}
  {configured : ConfiguredDirectory}

theorem conclude_placed (trace : String) (reply : Reply) :
    let here := s.conclude around trace request reply
    let there := (s.placed files logFile configured).conclude around trace request
      (reply.placed files logFile configured)
    there.response = here.response ∧ SameWork here.service there.service := by
  intro here there
  constructor
  · simp only [here, there, conclude, Reply.placed]
    cases reply.result <;> rfl
  · have moved : SameWork reply.service (reply.placed files logFile configured).service :=
      ⟨rfl, rfl, rfl⟩
    exact ((sameWork_conclude around trace request reply).symm.trans moved).trans
      (sameWork_conclude around trace request _)

/-- A request is answered in another place as here, if a use is the same there or the request does
not use the directory. -/
theorem handle_placed
    (still : s.usesDirectory request = true → s.StillUse files configured) :
    let here := s.handle around request
    let there := (s.placed files logFile configured).handle around request
    there.response = here.response ∧ SameWork here.service there.service := by
  intro here there
  simp only [here, there, handle]
  by_cases listed : listsOrigins s.settings.corsOrigins = true
  · have listedThere : listsOrigins (s.placed files logFile configured).settings.corsOrigins =
        true := listed
    rw [if_pos listed, if_pos listedThere, handleListed, handleListed]
    cases request.inAdvance? with
    | some question => exact ⟨rfl, rfl, rfl, rfl⟩
    | none =>
      simp only []
      rw [endpoint_placed _ fun asks => still (usesDirectory_iff.mpr ⟨listed, asks⟩)]
      exact conclude_placed around _ _
  · have unlistedThere : ¬listsOrigins (s.placed files logFile configured).settings.corsOrigins =
        true := listed
    rw [if_neg listed, if_neg unlistedThere]
    exact ⟨rfl, rfl, rfl, rfl⟩

end Placed

/-! ## After a success -/

/-- An action that only changes a file leaves everything else. -/
theorem sameWork_of_changesFile {action : Action} (changes : action.changesFile = true) :
    SameWork s (s.after action) := by
  cases action with
  | writeFile name node => exact ⟨rfl, rfl, rfl⟩
  | removeFile name => exact ⟨rfl, rfl, rfl⟩
  | start around => cases changes
  | exchange around request => cases changes
  | putIn directory => cases changes
  | forget => cases changes

section Remembered

variable {directory : StaticDirectory} {action : Action}
  (remembered : s.configured = ⟨some path, some directory⟩)

include remembered

/-- What is in memory stays there until it is forgotten. -/
theorem configured_after_of_remembered (kept : action ≠ .forget) :
    (s.after action).configured = ⟨some path, some directory⟩ := by
  rw [configured_after remembered]
  cases action with
  | forget => exact absurd rfl kept
  | exchange around request =>
    rw [event?]
    split <;> rfl
  | start around => rfl
  | writeFile name node => rfl
  | removeFile name => rfl
  | putIn directory => rfl

variable (rememberedToo : t.configured = ⟨some path, some directory⟩)

include rememberedToo

theorem handle_of_sameWork (same : SameWork s t) (around : Surroundings) (request : Request) :
    (t.handle around request).response = (s.handle around request).response ∧
      SameWork (s.handle around request).service (t.handle around request).service := by
  have still : s.StillUse t.files t.configured := by
    rw [StillUse, remembered, rememberedToo]
    exact ⟨_, rfl, rfl⟩
  rw [same.eq_placed]
  exact handle_placed around fun _ => still

theorem sameWork_after (same : SameWork s t) (action : Action) :
    SameWork (s.after action) (t.after action) := by
  cases action with
  | start around => exact ((sameWork_start around).symm.trans same).trans (sameWork_start around)
  | exchange around request =>
    exact (handle_of_sameWork remembered rememberedToo same around request).2
  | writeFile name node => exact ⟨same.settings, same.threshold, same.standIn⟩
  | removeFile name => exact ⟨same.settings, same.threshold, same.standIn⟩
  | putIn directory => exact ⟨same.settings, same.threshold, rfl⟩
  | forget => exact ⟨same.settings, same.threshold, same.standIn⟩

/-- Until the directory is forgotten, no change of a file can be seen in a response. -/
theorem responses_of_sameWork (same : SameWork s t) {actions : List Action}
    (kept : ∀ action ∈ actions, action ≠ .forget) :
    t.responses (actions.filter fun action => !action.changesFile) = s.responses actions := by
  induction actions generalizing s t with
  | nil => rfl
  | cons action rest ih =>
    obtain ⟨here, later⟩ := List.forall_mem_cons.mp kept
    have stays := configured_after_of_remembered remembered here
    by_cases changes : action.changesFile = true
    · -- the other service does not take this step
      have unchanged : SameWork s (s.after action) := sameWork_of_changesFile changes
      rw [List.filter_cons_of_neg (by simp [changes])]
      rw [ih stays rememberedToo (unchanged.symm.trans same) later]
      cases action with
      | exchange around request => cases changes
      | _ => rfl
    · rw [List.filter_cons_of_pos (by simp [changes])]
      have staysToo := configured_after_of_remembered rememberedToo here
      have together := ih stays staysToo (sameWork_after remembered rememberedToo same action) later
      cases action with
      | exchange around request =>
        rw [responses, responses,
          (handle_of_sameWork remembered rememberedToo same around request).1]
        exact congrArg _ together
      | _ => exact together

end Remembered

/-! ## What a service sees of its directory file -/

/-- How a service goes by a directory in memory and the file of a name. -/
structure ReadsSnapshot (t : Service) (path : Text) (memory : Option StaticDirectory) :
    Prop where
  /-- A start fails exactly if values of the file lie too deep in others, and tells what a use finds
  if it does not. -/
  start : ∀ around,
    let found := StaticDirectory.found path memory (t.write around t.openingRecords).files
    (∀ outage, (t.start around).outage = some outage ↔
      ∃ error, found = .error error ∧ loadOutage? error = some outage) ∧
      ((∀ error, found = .error error → loadOutage? error = none) →
        ∃ news, (t.start around).records =
          t.kept (t.openingRecords ++ (news ++ [readinessRecord (.ofFound found)])))
  /-- The health that is told is that of the directory that a use finds. -/
  health : ∀ trace request, Route.ofPath? request.path = some .health → request.method = "GET" →
    (t.endpoint trace request).result =
      match StaticDirectory.found path memory t.files with
      | .ok directory => .ok (.ofJson 200 (t.healthBody (some directory)))
      | .error error => loadFailure error
  /-- A compilation is answered as if the directory that a use finds stood in. -/
  compile : ∀ trace request gateway payload,
    Route.ofPath? request.path = some (.compile gateway) → request.method = "POST" →
      t.standIn = none → request.payload = .ok payload →
        (t.endpoint trace request).result =
          match StaticDirectory.found path memory t.files with
          | .ok directory =>
            ((t.putIn (some directory.toDirectory)).endpoint trace request).result
          | .error error => loadFailure error
  /-- A use is answered with 503 exactly if there is nothing in memory and the file cannot be
  loaded now. -/
  unavailable : ∀ around request, t.usesDirectory request = true →
    ((∃ response, (t.handle around request).response = some response ∧ response.status = 503) ↔
      memory = none ∧
        ∃ error, StaticDirectory.loadNamed t.files path = .error error ∧ loadOutage? error = none)
  /-- A use that fails changes nothing. -/
  failed : ∀ action files error, t.event? action = some (.use files) →
    StaticDirectory.found path memory files = .error error →
      (t.after action).configured = t.configured
  /-- With a directory in memory no change of a file can be seen, until it is forgotten. -/
  lasting : memory.isSome = true → ∀ actions : List Action,
    (∀ action ∈ actions, action ≠ .forget) →
      t.responses (actions.filter fun action => !action.changesFile) = t.responses actions
  /-- Other requests neither see nor change what is in memory, and see no file. -/
  apart : ∀ around request, t.usesDirectory request = false →
    (t.handle around request).service.configured = t.configured ∧
      ∀ files logFile configured,
        ((t.placed files logFile configured).handle around request).response =
          (t.handle around request).response

theorem provisionOutage?_ofFound_eq_some_iff {found : Except LoadError StaticDirectory}
    {outage : Outage} : provisionOutage? (.ofFound found) = some outage ↔
      ∃ error, found = .error error ∧ loadOutage? error = some outage := by
  cases found with
  | error error => simp [Provision.ofFound, provisionOutage?]
  | ok directory => simp [Provision.ofFound, provisionOutage?]

/-- A start ends with the outage of its use of the directory. -/
theorem outage_start (configured : s.configured = ⟨some path, memory⟩) (around : Surroundings) :
    (s.start around).outage = provisionOutage? (.ofFound (StaticDirectory.found path memory
      (s.write around s.openingRecords).files)) := by
  rw [← ConfiguredDirectory.provision_use, ← configured]
  rfl

theorem start_tells (configured : s.configured = ⟨some path, memory⟩) (around : Surroundings)
    (fine : (s.start around).outage = none) :
    ∃ news, (s.start around).records = s.kept (s.openingRecords ++ (news ++
      [readinessRecord (.ofFound (StaticDirectory.found path memory
        (s.write around s.openingRecords).files))])) := by
  rw [← ConfiguredDirectory.provision_use, ← configured]
  simp only [start] at fine ⊢
  rw [fine]
  exact ⟨_, rfl⟩

/-- A compilation is answered as if the directory that is found stood in. -/
theorem result_compile {trace : String} {request : Request} {gateway : String} {payload : Payload}
    (configured : s.configured = ⟨some path, memory⟩)
    (routed : Route.ofPath? request.path = some (.compile gateway))
    (posted : request.method = "POST") (alone : s.standIn = none)
    (read : request.payload = .ok payload) :
    (s.endpoint trace request).result =
      match StaticDirectory.found path memory s.files with
      | .ok directory =>
        ((s.putIn (some directory.toDirectory)).endpoint trace request).result
      | .error error => loadFailure error := by
  cases found : StaticDirectory.found path memory s.files with
  | error error =>
    exact result_endpoint_of_error trace configured
      (asksDirectory_iff.mpr (.inr ⟨gateway, payload, routed, posted, alone, read⟩)) found
  | ok directory =>
    have provided := directory_access configured alone
    rw [found] at provided
    have providedThere : (s.putIn (some directory.toDirectory)).access.directory =
        .ok (directory.toDirectory, []) := rfl
    exact (result_endpoint_of_provided trace routed posted read provided).trans
      (result_endpoint_of_provided trace routed posted read providedThere).symm

/-- A service with a directory in memory, or with none, goes by it. -/
theorem readsSnapshot (configured : s.configured = ⟨some path, memory⟩) :
    s.ReadsSnapshot path memory where
  start := by
    intro around found
    have ended := outage_start configured around
    constructor
    · intro outage
      rw [ended]
      exact provisionOutage?_ofFound_eq_some_iff
    · intro fine
      refine start_tells configured around ?_
      rw [ended, Option.eq_none_iff_forall_ne_some]
      intro outage failed
      obtain ⟨error, missing, deep⟩ := provisionOutage?_ofFound_eq_some_iff.mp failed
      rw [fine error missing] at deep
      cases deep
  health := by
    intro trace request routed get
    rw [endpoint_of_health trace routed get]
    exact result_healthEndpoint configured
  compile := by
    intro trace request gateway payload routed posted alone read
    exact result_compile configured routed posted alone read
  unavailable := by
    intro around request uses
    rw [unavailable_iff around configured uses]
    cases memory with
    | some directory => simp [StaticDirectory.found]
    | none => simp [StaticDirectory.found]
  failed := by
    intro action files error used missing
    rw [configured_after configured, used, configured]
    cases memory with
    | some directory => cases missing
    | none => simp [DirectoryEvent.after, missing, Except.toOption]
  lasting := by
    intro loaded actions kept
    obtain ⟨directory, rfl⟩ := Option.isSome_iff_exists.mp loaded
    exact responses_of_sameWork configured configured ⟨rfl, rfl, rfl⟩ kept
  apart := by
    intro around request idle
    rw [configured_handle, if_neg (by simp [idle])]
    refine ⟨rfl, ?_⟩
    intro files logFile other
    exact (handle_placed around (by simp [idle])).1

/-- After any actions, a service that booted with a directory file goes by the snapshot of its
history. -/
theorem run_readsSnapshot {environment : Environment} {files : Files}
    (booted : boot environment files = .ok s)
    (set : s.settings.directoryFile = some path) (named : path ≠ "")
    (actions : List Action) :
    (s.run actions).ReadsSnapshot path (snapshot path (s.history actions)) := by
  have empty : s.configured = ⟨some path, snapshot path []⟩ := by
    rw [configured_boot booted, set]
    simp [ConfiguredDirectory.ofSetting, named, snapshot_nil]
  exact readsSnapshot (configured_run empty actions)

end Service

namespace DirectoryFile

/-- An environment that names a directory file. -/
def environment : Environment := [("GATEWAY_DIRECTORY_FILE", "gateways.json")]

/-- A request for the health of the directory. -/
def healthRequest : Request := ⟨"GET", "/api/v1/health", [], []⟩

/-- The file is written between two requests, and is removed after them. -/
def actions : List Service.Action :=
  [.exchange TwoRules.surroundings healthRequest,
    .writeFile "gateways.json" (.file "\x7b\"edge\":\x7b\x7d\x7d".toUTF8.toList),
    .exchange TwoRules.surroundings healthRequest, .removeFile "gateways.json"]

end DirectoryFile

open DirectoryFile in
/-- The first use fails, and the second is the snapshot, although the file is gone. -/
theorem readsSnapshot_of_removed :
    ∃ s : Service, Service.boot environment [] = .ok s ∧
      s.settings.directoryFile = some "gateways.json" ∧ "gateways.json" ≠ "" ∧
      (s.run actions).ReadsSnapshot "gateways.json" (some ⟨[("edge", [])]⟩) := by
  have evaluated : (Service.boot environment []).toOption.map (fun s =>
      (s.settings.directoryFile, snapshot "gateways.json" (s.history actions))) =
        some (some ("gateways.json" : Text), some ⟨[("edge", [])]⟩) := by decide +kernel
  cases booted : Service.boot environment [] with
  | error error =>
    rw [booted] at evaluated
    cases evaluated
  | ok s =>
    rw [booted] at evaluated
    obtain ⟨set, seen⟩ := Prod.mk.inj (Option.some.inj evaluated)
    have reads := Service.run_readsSnapshot booted set (by decide) actions
    rw [seen] at reads
    exact ⟨s, rfl, set, by decide, reads⟩

end GatewayNat
