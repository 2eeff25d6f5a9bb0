import GatewayNat.Proofs.Allocation
import GatewayNat.Proofs.Endpoint
import GatewayNat.Proofs.Resolution

/-!
# The records of a compilation

What a compilation writes down agrees with what it does.

* An intent that cannot be read leaves no record.
* Any other intent leaves a record with the number of its rules first.
* Each network that is looked for is announced by one record, right before the
  calls for it.  The first one stands before the call for the gateway as well.
  A network that was found is not looked for again.
* A document, and nothing else, is told by a last record, with the number of its
  rules and the number of networks that were found.

The networks that are looked for are those of the rules that reach resolution
(`Directory.sought`).  A document has found those of all rules
(`Compiler.sought_of_compile`), so the number in the last record is that of the
networks of the intent, of the announcements and of the look-ups
(`compile_records`).
-/

namespace GatewayNat

/-- Whether a call asks for the interface on a network. -/
def Call.isLookup : Call → Bool
  | .gateway _ => false
  | .interface _ _ => true

/-- Whether a record is of the lowest level. -/
def Journal.Record.isDebug (record : Record) : Bool := record.level = .debug

namespace Event

@[simp] theorem records_cons_call (c : Call) (events : List Event) :
    records (.call c :: events) = records events := rfl

@[simp] theorem records_cons_record (record : Journal.Record) (events : List Event) :
    records (.record record :: events) = record :: records events := rfl

@[simp] theorem records_map_call (calls : List Call) : records (calls.map .call) = [] := by
  induction calls with
  | nil => rfl
  | cons c more ih => exact ih

@[simp] theorem calls_map_call (made : List Call) : calls (made.map .call) = made := by
  induction made with
  | nil => rfl
  | cons c more ih => exact congrArg (c :: ·) ih

end Event

namespace Directory

variable {d : Directory} {past : List Call} {gatewayId : Text} {networks : List Text}

/-- The networks that are looked for, of those that rules ask for in turn: each once, up to the
first that has no interface.  Without the gateway it is only the first. -/
def sought (d : Directory) (past : List Call) (gatewayId : Text) (networks : List Text) :
    List Text :=
  match d.gateway past gatewayId with
  | .error _ => networks.take 1
  | .ok () => (d.lookUps gatewayId (past ++ [.gateway gatewayId]) networks.eraseDups).names

/-- The calls for a network.  The first network comes with the call for the gateway, and without
the gateway there is no look-up. -/
def callsFor (d : Directory) (past : List Call) (gatewayId : Text) (first : Bool)
    (network : Text) : List Call :=
  (if first then [.gateway gatewayId] else []) ++
    match d.gateway past gatewayId with
    | .error _ => []
    | .ok () => [.interface gatewayId network]

/-- Networks in turn, each announced right before its calls. -/
def search (d : Directory) (past : List Call) (gatewayId : Text) :
    (first : Bool) → List Text → List Event
  | _, [] => []
  | first, network :: more =>
    .record ((Resolver.new gatewayId).lookupRecord network) ::
      ((d.callsFor past gatewayId first network).map .call ++ search d past gatewayId false more)

/-- One announcement for each network. -/
theorem records_search (first : Bool) : Event.records (d.search past gatewayId first networks) =
    networks.map (Resolver.new gatewayId).lookupRecord := by
  induction networks generalizing first with
  | nil => rfl
  | cons network more ih => simp [search, ih]

theorem countP_isDebug_search (first : Bool) :
    (Event.records (d.search past gatewayId first networks)).countP Journal.Record.isDebug =
      networks.length := by
  rw [records_search, ← List.length_map (f := (Resolver.new gatewayId).lookupRecord),
    List.countP_eq_length, List.forall_mem_map]
  intro network _
  rfl

/-- One look-up for each network, if the gateway is found. -/
theorem countP_isLookup_search (granted : d.gateway past gatewayId = .ok ()) (first : Bool) :
    (Event.calls (d.search past gatewayId first networks)).countP Call.isLookup =
      networks.length := by
  induction networks generalizing first with
  | nil => rfl
  | cons network more ih =>
    simp only [search, Event.calls_cons_record, Event.calls_append, Event.calls_map_call,
      List.countP_append, ih, List.length_cons, callsFor, granted]
    cases first <;> simp [Call.isLookup, Nat.add_comm]

/-- After the first network the gateway is known. -/
theorem search_false (granted : d.gateway past gatewayId = .ok ()) :
    d.search past gatewayId false networks =
      networks.flatMap (Resolver.new gatewayId).lookupEvents := by
  induction networks with
  | nil => rfl
  | cons network more ih =>
    simp [search, callsFor, granted, ih, Resolver.lookupEvents]

/-- Networks are looked for in the order in which they first appear. -/
theorem sought_prefix : d.sought past gatewayId networks <+: networks.eraseDups := by
  unfold sought
  split
  · cases networks with
    | nil => exact List.nil_prefix
    | cons first more =>
      rw [List.eraseDups_cons]
      exact List.prefix_append [first] _
  · exact lookUps_names_prefix

end Directory

namespace Resolver

variable {d : Directory} {past : List Call} {gatewayId : Text}

theorem events_enter_new :
    ((new gatewayId).enter d past).events = [.call (.gateway gatewayId)] := by
  unfold enter new
  cases d.gateway past gatewayId <;> rfl

/-- A resolver that remembers nothing searches for each of the networks once. -/
theorem searchEvents_new {networks : List Text} :
    (new gatewayId).searchEvents d past networks.eraseDups =
      d.search past gatewayId true (d.sought past gatewayId networks) := by
  cases networks with
  | nil =>
    unfold Directory.sought
    cases d.gateway past gatewayId <;> rfl
  | cons first more =>
    rw [List.eraseDups_cons, searchEvents, asked_new, enter_new_result, events_enter_new]
    cases granted : d.gateway past gatewayId with
    | error failure => simp [Directory.sought, Directory.search, Directory.callsFor, granted,
        Except.map]
    | ok u =>
      simp only [Directory.sought, granted, List.eraseDups_cons, Directory.lookUps, Table.names,
        List.map_cons, Directory.search, Directory.callsFor, Directory.search_false granted,
        Except.map, List.flatMap_map, List.flatMap_cons]
      rfl

end Resolver

namespace Compiler

variable {d : Directory} {range : IdRange} {past : List Call} {index : Nat} {next : Int}
  {r : Resolver} {rules : List Members}

/-- If all rules are compiled, the resolver has found all their networks. -/
theorem names_compileRules {compiled : List CompiledRule}
    (ok : (compileRules d range past index next r rules).result = .ok compiled) :
    (compileRules d range past index next r rules).resolver.interfaces.names =
      r.interfaces.names ++ r.news (admitRules range index next rules).networks := by
  induction rules generalizing past index next r compiled with
  | nil => simp [compileRules, admitRules, Admission.networks, Resolver.news]
  | cons members rest ih =>
    cases admitted : admitRule range index next members with
    | error failure =>
      rw [compileRules_cons_of_refused admitted] at ok
      cases ok
    | ok entry =>
      obtain ⟨rule, id, after⟩ := entry
      rw [admitRules_cons_of_ok admitted, Admission.networks_cons]
      cases Resolver.encounter d past r rule.networkId with
      | known descriptor remembered =>
        rw [compileRules_cons_of_ok admitted (Resolver.resolve_of_find? remembered)] at ok ⊢
        rw [Resolver.news_cons_of_knows (Resolver.knows_of_find? remembered)]
        obtain ⟨tail, compiledRest, -⟩ := Except.map_eq_ok_iff.mp ok
        exact ih compiledRest
      | shut failure unknown refused =>
        rw [compileRules_cons_of_error admitted
          (Resolver.resolve_of_enter_error unknown refused)] at ok
        cases ok
      | missing gatewayId unknown granted absent =>
        rw [compileRules_cons_of_error admitted
          (Resolver.resolve_of_no_interface unknown granted absent)] at ok
        cases ok
      | found gatewayId descriptor unknown granted answered =>
        rw [compileRules_cons_of_ok admitted
          (Resolver.resolve_of_interface unknown granted answered)] at ok ⊢
        obtain ⟨tail, compiledRest, -⟩ := Except.map_eq_ok_iff.mp ok
        have fresh : rule.networkId ∉ r.interfaces.names := by
          rw [← Table.find?_isSome_iff, unknown]
          simp
        have rest := ih compiledRest
        rw [Resolver.news_cons_of_not_knows (Resolver.not_knows_of_find? unknown) descriptor]
        refine rest.trans ?_
        rw [Resolver.names_learn, Resolver.inside_interfaces, if_neg fresh, List.append_assoc]
        rfl

variable {gatewayId : Text} {intent : Json} {service : ServiceIntent} {document : Document}

/-- A document needs the gateway as soon as there is a rule. -/
theorem gateway_of_compile
    (compiled : (compile d past gatewayId intent range).result = .ok document)
    (asked : (admission range intent).networks ≠ []) : d.gateway past gatewayId = .ok () := by
  cases granted : d.gateway past gatewayId with
  | ok u => rfl
  | error failure =>
    have stopped : (compile d past gatewayId intent range).result = .error failure :=
      (compile_eq_error_iff fun _ => .ok none).mpr
        ⟨_, binding_of_gateway_error _ asked granted, rfl⟩
    rw [compiled] at stopped
    cases stopped

/-- For a document, all networks are looked for. -/
theorem sought_of_compile
    (compiled : (compile d past gatewayId intent range).result = .ok document) :
    d.sought past gatewayId (admission range intent).networks =
      (admission range intent).networks.eraseDups := by
  by_cases asked : (admission range intent).networks = []
  · rw [asked]
    unfold Directory.sought
    split <;> rfl
  · have granted := gateway_of_compile compiled asked
    have found := find?_lookUps_of_compile compiled
    obtain ⟨rest, whole⟩ : d.sought past gatewayId (admission range intent).networks <+:
        (admission range intent).networks.eraseDups := Directory.sought_prefix
    have distinct := nodup_eraseDups (admission range intent).networks
    cases rest with
    | nil => rw [← whole, List.append_nil]
    | cons network more =>
      -- a network that is left out is one of a rule, so its look-up has an answer
      have leftOut : network ∈ (admission range intent).networks := by
        rw [← List.mem_eraseDups, ← whole]
        simp
      have answered := List.mem_map_of_mem (f := (d.lookUps gatewayId
        (past ++ [.gateway gatewayId]) (admission range intent).networks.eraseDups).find?) leftOut
      rw [found] at answered
      obtain ⟨interface, -, told⟩ := List.mem_map.mp answered
      have lookedUp : network ∈ d.sought past gatewayId (admission range intent).networks := by
        rw [Directory.sought, granted]
        exact (Table.find?_isSome_iff _ _).mp (by rw [← told]; rfl)
      rw [← whole, List.nodup_append] at distinct
      exact absurd rfl (distinct.2.2 _ lookedUp _ (.head _))

/-- If every rule is admitted, every rule asks for its network. -/
theorem networks_of_fault_eq_none (read : ServiceIntent.check intent = .valid service)
    (faultless : (admission range intent).fault = none) :
    (admission range intent).networks =
      service.rules.map fun rule => (rule.get "network_id").written := by
  rw [admission_of_valid read] at faultless ⊢
  rw [Admission.networks, admitRules_rules_of_fault_eq_none faultless]
  refine List.ext_getElem (by simp) ?_
  intro index before after
  simp only [List.getElem_map, List.getElem_mapIdx]
  rfl

/-- What a compilation does, from its start. -/
theorem events_compile_of_valid (read : ServiceIntent.check intent = .valid service) :
    let run := compile d past gatewayId intent range
    let sought := d.sought past gatewayId (admission range intent).networks
    run.events = .record (startRecord gatewayId service.rules.length) ::
      (d.search past gatewayId true sought ++
        match run.result with
        | .ok document => [.record (finishRecord gatewayId document.rules.length sought.length)]
        | .error _ => []) := by
  intro run sought
  have searched : (compileRules d range past 0 range.minimum (.new gatewayId)
      service.rules).events = _ := events_compileRules
  rw [Resolver.news_new, ← admission_of_valid read, Resolver.searchEvents_new] at searched
  have unfolded : run = compileService d past gatewayId service range := by
    rw [show run = compile d past gatewayId intent range from rfl, compile, read]
  cases result :
      (compileRules d range past 0 range.minimum (.new gatewayId) service.rules).result with
  | error failure =>
    simp only [unfolded, compileService, result, searched, List.append_nil]
    rfl
  | ok compiled =>
    have done : run.result = .ok ⟨service.enabled, compiled⟩ := by
      simp only [unfolded, compileService, result]
    have names := names_compileRules result
    rw [Resolver.news_new, ← admission_of_valid read, ← sought_of_compile done] at names
    have size : sought.length = (compileRules d range past 0 range.minimum (.new gatewayId)
        service.rules).resolver.size := by
      rw [Resolver.size, ← List.length_map (f := Prod.fst)]
      exact congrArg List.length names.symm
    simp only [unfolded, compileService, result, searched, size]
    rfl

end Compiler

/-- The records of a compilation agree with what it did.  Nothing is recorded if the intent cannot
be read.  Otherwise the first record tells the number of rules, then each network that is looked for
is announced right before its calls, and a last record tells of a document.  The number of networks
in it is that of the different networks of all rules, of the announcements and of the look-ups. -/
theorem compile_records (d : Directory) (past : List Call) (gatewayId : Text) (intent : Json)
    (range : IdRange) :
    let run := compile d past gatewayId intent range
    let networks := (Compiler.admission range intent).networks
    let sought := d.sought past gatewayId networks
    (∀ first more, ServiceIntent.check intent = .invalid first more → run.events = []) ∧
      ∀ service, ServiceIntent.check intent = .valid service →
        run.events = .record (Compiler.startRecord gatewayId service.rules.length) ::
          (d.search past gatewayId true sought ++
            match run.result with
            | .ok document =>
              [.record (Compiler.finishRecord gatewayId document.rules.length sought.length)]
            | .error _ => []) ∧
        sought <+: networks.eraseDups ∧
        (Event.records run.events).countP Journal.Record.isDebug = sought.length ∧
        ∀ document, run.result = .ok document →
          document.rules.length = service.rules.length ∧
          sought = (service.rules.map fun rule => (rule.get "network_id").written).eraseDups ∧
          (Event.calls run.events).countP Call.isLookup = sought.length := by
  intro run networks sought
  refine ⟨fun first more refused => (compile_of_invalid refused).1, ?_⟩
  intro service read
  have events : run.events = _ := Compiler.events_compile_of_valid read
  refine ⟨events, Directory.sought_prefix, ?announced, ?document⟩
  case announced =>
    have higher : ¬(Compiler.startRecord gatewayId service.rules.length).isDebug = true :=
      Bool.false_ne_true
    rw [show run.events = _ from events, Event.records_cons_record,
      List.countP_cons_of_neg higher, Event.records_append, List.countP_append,
      Directory.countP_isDebug_search]
    -- the last record is of a higher level
    cases run.result <;> rfl
  case document =>
    intro document compiled
    have faultless := Compiler.fault_eq_none_of_compile compiled
    have length := length_rules_of_compile compiled
    rw [Compiler.rulesOf_of_valid read] at length
    have all : sought = networks.eraseDups := Compiler.sought_of_compile compiled
    refine ⟨length, ?_, ?_⟩
    · rw [all, ← Compiler.networks_of_fault_eq_none read faultless]
    · have lookedUp : (Event.calls (d.search past gatewayId true sought)).countP Call.isLookup =
          sought.length := by
        by_cases asked : networks = []
        · rw [all, asked]
          rfl
        · exact Directory.countP_isLookup_search (Compiler.gateway_of_compile compiled asked) true
      rw [show run.events = _ from events, show run.result = _ from compiled,
        Event.calls_cons_record, Event.calls_append, List.countP_append]
      exact lookedUp

/-- The second rule on a network is not announced. -/
example :
    Event.records (compile TwoRules.directory [] "edge" (TwoRules.intent "9") ⟨1, 2⟩).events =
      [⟨.compiler, .info, "Compiling 2 NAT rules for gateway edge"⟩,
        ⟨.resolver, .debug, "Looking up interface for network web on gateway edge"⟩,
        ⟨.compiler, .info, "Compiled 2 NAT rules for gateway edge (1 networks resolved)"⟩] := by
  decide

end GatewayNat
