import GatewayNat.Proofs.Faults
import GatewayNat.Proofs.Identifiers
import GatewayNat.Proofs.ServiceReading
import GatewayNat.Service.Endpoint

/-!
# The endpoint of compilations

The endpoint reads the intent of a payload, writes it again and compiles what it
wrote.  So an intent is read twice.

* An intent that was read is written so that it is read as before
  (`ServiceIntent.check_toJson`).  The rules are written as they are.
* So the second reading cannot be seen.  The endpoint makes the calls of a
  compilation of the payload itself, and answers what comes of that
  (`endpoint_refines_compile`).
* A payload that is no service intent is answered without a compilation.  The
  compilation would reject it without a call.

It does not matter which directory is found, as long as one is.
-/

namespace GatewayNat

/-! ## Reading twice -/

/-- An intent is read as it was written. -/
theorem ServiceIntent.check_toJson (intent : ServiceIntent) : check intent.toJson = .valid intent :=
  check_eq_valid_iff.mpr
    ⟨intent.toMembers, rfl, .inr (.inr ⟨intent.enabled, rfl⟩), rfl, .inr rfl⟩

/-- A value that is read as an intent compiles like that intent. -/
theorem compile_toJson {d : Directory} {past : List Call} {gatewayId : Text} {value : Json}
    {range : IdRange} {intent : ServiceIntent} (read : ServiceIntent.check value = .valid intent) :
    compile d past gatewayId intent.toJson range = compile d past gatewayId value range := by
  rw [compile, compile, read, ServiceIntent.check_toJson]

/-- A document has a rule for each rule of its intent. -/
theorem length_rules_of_compile {d : Directory} {past : List Call} {gatewayId : Text}
    {value : Json} {range : IdRange} {document : Document}
    (compiled : (compile d past gatewayId value range).result = .ok document) :
    document.rules.length = (Compiler.rulesOf value).length := by
  have ids := congrArg List.length (Compiler.ids_of_compile compiled)
  rwa [Document.ids, List.length_map, List.length_mapIdx] at ids

/-- A value that is no service intent is rejected for a field, before anything is done. -/
theorem compile_of_invalid {d : Directory} {past : List Call} {gatewayId : Text} {value : Json}
    {range : IdRange} {first : Issue} {more : List Issue}
    (refused : ServiceIntent.check value = .invalid first more) :
    (compile d past gatewayId value range).events = [] ∧
      ∃ rule field reason, (compile d past gatewayId value range).result =
        .error (.rejected (.invalidField rule field reason)) := by
  obtain ⟨rule, field, reason, same⟩ := Rejection.exists_ofServiceIssue first
  refine ⟨?_, rule, field, reason, ?_⟩
  · rw [compile, refused]
  · rw [compile, refused, ← same]

/-! ## Reports -/

/-- All labels of the interfaces are texts. -/
def Document.HasTextLabels (document : Document) : Prop :=
  ∀ interface ∈ document.interfaces, ∀ entry ∈ interface, ∃ text, entry.1 = .text text

theorem Descriptor.toMembers_reported {interface : Descriptor}
    (texts : ∀ entry ∈ interface, ∃ text, entry.1 = .text text) :
    interface.toMembers Label.reported = interface.toMembers Label.plain := by
  apply List.map_congr_left
  intro entry member
  obtain ⟨text, same⟩ := texts entry member
  simp only [same, Label.reported]

/-- A report has the members of the document, if no label has a text of its own there. -/
theorem Document.toMembers_reported {document : Document} (texts : document.HasTextLabels) :
    document.toMembers Label.reported = document.toMembers Label.plain := by
  have each : ∀ rule ∈ document.rules,
      rule.toJson Label.reported = rule.toJson Label.plain := by
    intro rule member
    have interface := Descriptor.toMembers_reported
      (texts rule.gatewayRule.interface (List.mem_map_of_mem member))
    simp only [CompiledRule.toJson, GatewayRule.toMembers, interface]
  rw [toMembers, toMembers, List.map_congr_left each]

/-! ## Payloads -/

namespace Service

variable {value : Json} {intent : ServiceIntent}

theorem access_service_settings (s : Service) : s.access.service.settings = s.settings := by
  unfold access
  cases s.standIn with
  | some standIn => rfl
  | none =>
    simp only
    split
    · rfl
    · rfl
    · split <;> rfl

theorem payloadIntent_of_valid (read : ServiceIntent.check value = .valid intent) :
    payloadIntent (.value value) = .ok (.valid intent) := by
  obtain ⟨members, rfl, -⟩ := ServiceIntent.check_eq_valid_iff.mp read
  exact congrArg Except.ok read

theorem payloadIntent_of_invalid {first : Issue} {more : List Issue}
    (refused : ServiceIntent.check value = .invalid first more) :
    ∃ other rest, payloadIntent (.value value) = .ok (.invalid other rest) := by
  cases value with
  | obj members => exact ⟨first, more, congrArg Except.ok refused⟩
  | null => exact ⟨_, _, rfl⟩
  | bool b => exact ⟨_, _, rfl⟩
  | int n => exact ⟨_, _, rfl⟩
  | float x => exact ⟨_, _, rfl⟩
  | str s => exact ⟨_, _, rfl⟩
  | arr items => exact ⟨_, _, rfl⟩

variable {s : Service} {d : Directory} {past : List Call} (trace gateway : String)

/-- A payload that is a service intent is answered by what comes of compiling it. -/
theorem compilePayload_of_valid (provided : s.access.directory = .ok (d, past))
    (read : ServiceIntent.check value = .valid intent) :
    s.compilePayload trace gateway (.value value) =
      let library := compile d past gateway value s.settings.natIds
      let answer := compilationAnswer trace gateway library.result
      ⟨answer.1, s.access.records ++ (Event.records library.events ++ answer.2),
        s.access.service.noteCalls (Event.calls library.events)⟩ := by
  simp only [compilePayload, provided, payloadIntent_of_valid read, compileIntent,
    compile_toJson read, access_service_settings]

/-- A payload that is no service intent leaves the service as it is. -/
theorem compilePayload_of_invalid {first : Issue} {more : List Issue}
    (provided : s.access.directory = .ok (d, past))
    (refused : ServiceIntent.check value = .invalid first more) :
    (s.compilePayload trace gateway (.value value)).service = s.access.service ∧
      (s.compilePayload trace gateway (.value value)).records = s.access.records := by
  obtain ⟨other, rest, unread⟩ := payloadIntent_of_invalid refused
  simp only [compilePayload, provided, unread, and_self]

end Service

/-! ## A service with one network -/

namespace TwoRules

/-- The settings of a service that nothing is set for. -/
def settings : Settings where
  appName := "Edge NAT Compiler"
  appEnv := "local"
  debug := false
  firewallIds := ⟨1, 65536⟩
  natIds := ⟨65537, 131072⟩
  directoryFile := none
  corsOrigins := .arr [.str "http://localhost:3000", .str "http://localhost:8000"]
  logLevel := "INFO"
  logFile := none

/-- A service that is told of one network. -/
def service : Service where
  settings := settings
  threshold := Journal.Level.info.rank
  files := []
  configured := ⟨none, none⟩
  standIn := some ⟨directory, []⟩
  logFile := none

theorem access_service : service.access.directory = .ok (directory, []) := rfl

end TwoRules

/-! ## What the endpoint does -/

open Service in
/-- The endpoint reads an intent twice and still does what a compilation of the payload does.  It
makes the same calls.  It answers a document with a report on it, and a failure with the failure.
It makes no call for a payload that a compilation rejects at once. -/
theorem endpoint_refines_compile (trace gateway : String) (value : Json) (s : Service)
    (d : Directory) (past : List Call) (provided : s.access.directory = .ok (d, past)) :
    let library := compile d past gateway value s.settings.natIds
    let reply := s.compilePayload trace gateway (.value value)
    (∀ intent, ServiceIntent.check value = .valid intent →
      compile d past gateway intent.toJson s.settings.natIds = library ∧
        reply.service = s.access.service.noteCalls (Event.calls library.events) ∧
        (∀ document, library.result = .ok document →
          (document.HasTextLabels → .obj (document.toMembers Label.reported) = document.toJson) ∧
            ∃ (members : Members) (rules : List Members), value = .obj members ∧
              members.ListsRules rules ∧
              reply.result =
                reportResponse ⟨gateway, rules.length, document.toMembers Label.reported⟩) ∧
        (∀ rejection, library.result = .error (.rejected rejection) →
          reply.result =
            strictResponse (rejectionStatus rejection) (rejectionBody trace rejection)) ∧
        (∀ outage, library.result = .error (.outage outage) → reply.result = .error outage)) ∧
      ∀ first more, ServiceIntent.check value = .invalid first more →
        reply.service = s.access.service ∧ reply.records = s.access.records ∧
          library.events = [] ∧
          ∃ rule field reason,
            library.result = .error (.rejected (.invalidField rule field reason)) := by
  intro library reply
  constructor
  · intro intent read
    have reached := compilePayload_of_valid trace gateway provided read
    have answered : reply.result = (compilationAnswer trace gateway library.result).1 :=
      congrArg Reply.result reached
    refine ⟨compile_toJson read, congrArg Reply.service reached, ?_, ?_, ?_⟩
    · intro document compiled
      refine ⟨fun texts => congrArg Json.obj (Document.toMembers_reported texts), ?_⟩
      obtain ⟨members, object, -, -, listed⟩ := ServiceIntent.check_eq_valid_iff.mp read
      have length := length_rules_of_compile compiled
      rw [Compiler.rulesOf, read] at length
      refine ⟨members, intent.rules, object, listed, ?_⟩
      rw [answered, compiled, compilationAnswer, report, length]
    · intro rejection rejected
      rw [answered, rejected, compilationAnswer]
    · intro outage failed
      rw [answered, failed, compilationAnswer]
  · intro first more refused
    obtain ⟨service, records⟩ :=
      compilePayload_of_invalid trace gateway provided refused
    exact ⟨service, records, compile_of_invalid refused⟩

/-- Two rules on one network cost the endpoint one look-up. -/
theorem endpoint_calls_of_two_rules :
    TwoRules.service.access.directory = .ok (TwoRules.directory, []) ∧
      (TwoRules.service.compilePayload "t" "edge" (.value (TwoRules.intent "9"))).service =
        TwoRules.service.noteCalls [.gateway "edge", .interface "edge" "web"] := by
  refine ⟨TwoRules.access_service, ?_⟩
  obtain ⟨accepted, -⟩ := endpoint_refines_compile "t" "edge" (TwoRules.intent "9")
    TwoRules.service TwoRules.directory [] TwoRules.access_service
  obtain ⟨-, noted, -⟩ :=
    accepted ⟨"true", [("id", .str "9") :: TwoRules.rule, TwoRules.rule]⟩ (by decide)
  have calls : Event.calls (compile TwoRules.directory [] "edge" (TwoRules.intent "9")
      TwoRules.service.settings.natIds).events = [.gateway "edge", .interface "edge" "web"] := by
    decide
  exact noted.trans (congrArg TwoRules.service.noteCalls calls)

end GatewayNat
