import GatewayNat.Proofs.Lookup

/-!
# The calls of a compilation

A compilation asks the directory for its gateway at most once and for the
interface on each network at most once, whatever the directory answers
(`compile_asks_once`).

* It makes no call if no rule is admitted.
* It asks for the gateway first.  A failure of the directory ends the run and is
  its result.
* It asks for the networks of the admitted rules in the order in which they
  first appear, and stops after the first one that has no interface.
* Rules on one network carry the one answer that was given for it.

`Compiler.admission` is what comes of an intent without its directory, and
`Compiler.binding` is what the directory makes of it.  A compilation is the two,
one after the other (`Compiler.result_compile`).
-/

namespace GatewayNat

namespace Compiler

/-- The admission of the rules of a service intent, none if the intent cannot be read. -/
def admission (range : IdRange) (intent : Json) : Admission :=
  match ServiceIntent.check intent with
  | .valid service => admitRules range 0 range.minimum service.rules
  | .invalid issue _ => ⟨[], some (.rejected (.ofServiceIssue issue))⟩

/-- The flag of a service intent that can be read. -/
def enabledOf (intent : Json) : Text :=
  match ServiceIntent.check intent with
  | .valid service => service.enabled
  | .invalid _ _ => "true"

variable {range : IdRange} {intent : Json} {service : ServiceIntent}

theorem admission_of_valid (read : ServiceIntent.check intent = .valid service) :
    admission range intent = admitRules range 0 range.minimum service.rules := by
  rw [admission, read]

theorem enabledOf_of_valid (read : ServiceIntent.check intent = .valid service) :
    enabledOf intent = service.enabled := by
  rw [enabledOf, read]

/-- All rules are admitted only if there are rules to admit. -/
theorem exists_valid_of_fault_eq_none (faultless : (admission range intent).fault = none) :
    ∃ service, ServiceIntent.check intent = .valid service := by
  unfold admission at faultless
  split at faultless
  · next service read => exact ⟨service, read⟩
  · cases faultless

end Compiler

namespace Resolver

variable {d : Directory} {past : List Call} {gatewayId : Text}

@[simp] theorem new_gatewayId : (new gatewayId).gatewayId = gatewayId := rfl

theorem enter_new_result :
    ((new gatewayId).enter d past).result = (d.gateway past gatewayId).map fun _ => gatewayId := by
  unfold enter new
  cases d.gateway past gatewayId <;> rfl

theorem calls_enter_new :
    Event.calls ((new gatewayId).enter d past).events = [.gateway gatewayId] := by
  unfold enter new
  cases d.gateway past gatewayId <;> rfl

theorem asked_new : (new gatewayId).asked d past = past ++ [.gateway gatewayId] := by
  rw [asked, calls_enter_new]

end Resolver

theorem Event.calls_flatMap_lookupEvents (r : Resolver) (found : Table Text Answer) :
    Event.calls (found.flatMap fun entry => r.lookupEvents entry.1) =
      found.map fun entry => .interface r.gatewayId entry.1 := by
  induction found with
  | nil => rfl
  | cons entry more ih =>
    rw [List.flatMap_cons, Event.calls_append, ih]
    rfl

namespace Resolver

variable {d : Directory} {past : List Call} {gatewayId : Text}

/-- The calls of a resolver that starts with nothing. -/
theorem calls_searchEvents_new {networks : List Text} :
    Event.calls ((new gatewayId).searchEvents d past networks.eraseDups) =
      if networks = [] then []
      else .gateway gatewayId ::
        match d.gateway past gatewayId with
        | .error _ => []
        | .ok () =>
          (d.lookUps gatewayId (past ++ [.gateway gatewayId]) networks.eraseDups).map fun entry =>
            .interface gatewayId entry.1 := by
  cases networks with
  | nil => rfl
  | cons first more =>
    rw [if_neg (by simp), List.eraseDups_cons]
    rw [searchEvents, Event.calls_cons_record, Event.calls_append, calls_enter_new, asked_new,
      enter_new_result]
    cases d.gateway past gatewayId with
    | error failure => rfl
    | ok u =>
      have all := Event.calls_flatMap_lookupEvents (new gatewayId)
        (d.lookUps gatewayId (past ++ [.gateway gatewayId])
          (first :: (more.filter fun other => !other == first).eraseDups))
      rw [Directory.lookUps] at all
      simpa [Except.map, Directory.lookUps, lookupEvents, new] using all

end Resolver

/-! ## A compilation from its start -/

/-- The answers that a compilation goes by: those of one look-up for each of the networks, and of
another table for all others. -/
def Directory.snapshot (d : Directory) (past : List Call) (gatewayId : Text)
    (networks : List Text) (other : Text → Answer) (network : Text) : Answer :=
  match d.gateway past gatewayId with
  | .error failure => .error failure
  | .ok () =>
    ((d.lookUps gatewayId (past ++ [.gateway gatewayId]) networks.eraseDups).find? network).getD
      (other network)

theorem Resolver.answers_new {d : Directory} {past : List Call} {gatewayId : Text}
    {networks : List Text} {other : Text → Answer} :
    (new gatewayId).answers d past networks.eraseDups other =
      d.snapshot past gatewayId networks other := by
  funext network
  unfold answers Directory.snapshot
  rw [enter_new_result, asked_new]
  cases d.gateway past gatewayId <;> rfl

/-- An interface that no other table has is the answer of a look-up. -/
theorem Directory.find?_lookUps_of_snapshot {d : Directory} {past : List Call} {gatewayId : Text}
    {networks : List Text} {network : Text} {descriptor : Descriptor}
    (answered : Answer.interface? (d.snapshot past gatewayId networks (fun _ => .ok none) network) =
      some descriptor) :
    (d.lookUps gatewayId (past ++ [.gateway gatewayId]) networks.eraseDups).find? network =
      some (.ok (some descriptor)) := by
  rw [Answer.interface?_eq_some_iff] at answered
  unfold snapshot at answered
  split at answered
  · cases answered
  · cases found : (d.lookUps gatewayId (past ++ [.gateway gatewayId]) networks.eraseDups).find?
        network with
    | none =>
      rw [found] at answered
      cases answered
    | some answer =>
      rw [found] at answered
      exact congrArg some answered

namespace Directory

variable {d : Directory} {past : List Call} {gatewayId network : Text} {networks : List Text}

/-- What a look-up tells is what the directory answers at some time. -/
theorem exists_interface_of_mem_lookUps {answer : Answer}
    (member : (network, answer) ∈ d.lookUps gatewayId past networks) :
    ∃ earlier, answer = d.interface earlier gatewayId network := by
  induction networks generalizing past with
  | nil => cases member
  | cons first more ih =>
    rw [lookUps] at member
    cases member with
    | head => exact ⟨past, rfl⟩
    | tail _ later =>
      split at later
      · exact ih later
      · cases later

/-- A failure that a directory answers a call with, at some time. -/
def Raises (d : Directory) (failure : Failure) : Prop :=
  (∃ past gatewayId, d.gateway past gatewayId = .error failure) ∨
    ∃ past gatewayId network, d.interface past gatewayId network = .error failure

/-- A failure among the answers is one of the directory. -/
theorem raises_of_snapshot {failure : Failure}
    (answered : d.snapshot past gatewayId networks (fun _ => .ok none) network =
      .error failure) : d.Raises failure := by
  unfold snapshot at answered
  split at answered
  · next refused =>
    cases answered
    exact .inl ⟨_, _, refused⟩
  · cases told : (d.lookUps gatewayId (past ++ [.gateway gatewayId]) networks.eraseDups).find?
        network with
    | none =>
      rw [told] at answered
      cases answered
    | some answer =>
      obtain ⟨earlier, rfl⟩ := exists_interface_of_mem_lookUps (Table.mem_of_find? told)
      rw [told] at answered
      exact .inr ⟨_, _, _, answered⟩

end Directory

namespace Compiler

variable {d : Directory} {past : List Call} {gatewayId : Text} {intent : Json} {range : IdRange}

/-- The calls of a compilation are those of looking up each network of its admitted rules once. -/
theorem calls_compile :
    Event.calls (compile d past gatewayId intent range).events =
      if (admission range intent).networks = [] then []
      else .gateway gatewayId ::
        match d.gateway past gatewayId with
        | .error _ => []
        | .ok () =>
          (d.lookUps gatewayId (past ++ [.gateway gatewayId])
            (admission range intent).networks.eraseDups).map fun entry =>
              .interface gatewayId entry.1 := by
  rw [← Resolver.calls_searchEvents_new]
  unfold compile admission
  cases ServiceIntent.check intent with
  | invalid issue more => rfl
  | valid service =>
    simp only [compileService]
    rw [← Resolver.news_new gatewayId, ← events_compileRules]
    split
    · rfl
    · rw [Event.calls_cons_record, Event.calls_append]
      simp

/-- The admitted rules of an intent, bound by the answers of a compilation. -/
def binding (d : Directory) (past : List Call) (gatewayId : Text) (range : IdRange) (intent : Json)
    (other : Text → Answer) : Except Stop (List CompiledRule) :=
  bindRules (d.snapshot past gatewayId (admission range intent).networks other) gatewayId
    (admission range intent).fault 0 (admission range intent).rules

/-- A compilation is an admission followed by a binding. -/
theorem result_compile (other : Text → Answer) :
    (compile d past gatewayId intent range).result =
      ((binding d past gatewayId range intent other).mapError Stop.failure).map
        (Document.mk (enabledOf intent)) := by
  unfold compile binding admission enabledOf
  cases ServiceIntent.check intent with
  | invalid issue more => rfl
  | valid service =>
    simp only
    rw [← Resolver.answers_new, ← Resolver.news_new gatewayId]
    have bound : (compileRules d range past 0 range.minimum (.new gatewayId) service.rules).result =
        _ := result_compileRules other
    rw [Resolver.new_gatewayId] at bound
    rw [← bound]
    simp only [compileService]
    split
    · next failed => rw [failed]; rfl
    · next compiled => rw [compiled]; rfl

theorem compile_eq_ok_iff (other : Text → Answer) {document : Document} :
    (compile d past gatewayId intent range).result = .ok document ↔
      binding d past gatewayId range intent other = .ok document.rules ∧
        document.enabled = enabledOf intent := by
  obtain ⟨enabled, rules⟩ := document
  rw [result_compile other, Except.map_eq_ok_iff]
  simp only [Except.mapError_eq_ok_iff, Document.mk.injEq]
  constructor
  · rintro ⟨_, bound, rfl, rfl⟩
    exact ⟨bound, rfl⟩
  · rintro ⟨bound, rfl⟩
    exact ⟨rules, bound, rfl, rfl⟩

/-- A compilation that succeeds admits every rule. -/
theorem fault_eq_none_of_compile {document : Document}
    (compiled : (compile d past gatewayId intent range).result = .ok document) :
    (admission range intent).fault = none := by
  obtain ⟨bound, -⟩ := (compile_eq_ok_iff fun _ => .ok none).mp compiled
  exact (bindRules_eq_ok_iff.mp bound).1

theorem compile_eq_error_iff (other : Text → Answer) {failure : Failure} :
    (compile d past gatewayId intent range).result = .error failure ↔
      ∃ stop, binding d past gatewayId range intent other = .error stop ∧
        stop.failure = failure := by
  rw [result_compile other, Except.map_eq_error_iff, Except.mapError_eq_error_iff]

/-! ## How a binding ends -/

/-- A gateway that cannot be found stops the binding as soon as a rule is admitted. -/
theorem binding_of_gateway_error {failure : Failure} (other : Text → Answer)
    (asked : (admission range intent).networks ≠ [])
    (refused : d.gateway past gatewayId = .error failure) :
    binding d past gatewayId range intent other = .error (.raised failure) := by
  unfold binding
  cases admitted : (admission range intent).rules with
  | nil =>
    rw [Admission.networks, admitted] at asked
    exact absurd rfl asked
  | cons entry rest =>
    obtain ⟨rule, id⟩ := entry
    simp only [bindRules, Directory.snapshot, refused, Answer.interface?]
    rfl

/-- A look-up without an interface stops the binding. -/
theorem binding_of_mem_lookUps {network : Text} {answer : Answer} (other : Text → Answer)
    (granted : d.gateway past gatewayId = .ok ())
    (member : (network, answer) ∈ d.lookUps gatewayId (past ++ [.gateway gatewayId])
      (admission range intent).networks.eraseDups)
    (missing : Answer.interface? answer = none) :
    binding d past gatewayId range intent other =
      .error (.ofAnswer gatewayId network ((admission range intent).networks.idxOf network)
        answer) := by
  rw [binding, ← Resolver.answers_new, ← Resolver.news_new gatewayId]
  rw [← Resolver.news_new gatewayId, ← Resolver.asked_new (d := d)] at member
  have entered : ((Resolver.new gatewayId).enter d past).result = .ok gatewayId := by
    rw [Resolver.enter_new_result, granted]
    rfl
  have bound : bindRules ((Resolver.new gatewayId).answers d past
      ((Resolver.new gatewayId).news (admission range intent).networks) other)
      gatewayId (admission range intent).fault 0 (admission range intent).rules =
        .error (.ofAnswer gatewayId network (0 + (admission range intent).networks.idxOf network)
          answer) :=
    bindRules_of_mem_lookUps other rfl entered member missing
  rw [bound, Nat.zero_add]

/-- If no answer is missing, a binding ends as the admission does. -/
theorem binding_of_found (other : Text → Answer)
    (granted : (admission range intent).networks ≠ [] → d.gateway past gatewayId = .ok ())
    (found : ∀ entry ∈ d.lookUps gatewayId (past ++ [.gateway gatewayId])
      (admission range intent).networks.eraseDups, (Answer.interface? entry.2).isSome) :
    binding d past gatewayId range intent other =
      match (admission range intent).fault with
      | none => .ok ((admission range intent).rules.map
          (bound (d.snapshot past gatewayId (admission range intent).networks other)))
      | some failure => .error (.own failure) := by
  have all : ∀ entry ∈ (admission range intent).rules, (Answer.interface?
      (d.snapshot past gatewayId (admission range intent).networks other
        entry.1.networkId)).isSome := by
    intro entry member
    have asked : entry.1.networkId ∈ (admission range intent).networks :=
      List.mem_map_of_mem member
    obtain ⟨descriptor, answered⟩ :=
      Directory.find?_lookUps_isSome found (List.mem_eraseDups.mpr asked)
    simp only [Directory.snapshot, granted (List.ne_nil_of_mem asked), answered]
    rfl
  refine (bindRules_of_forall_isSome all).trans ?_
  cases (admission range intent).fault <;> rfl

/-- The rules of a document carry the answers of the look-ups. -/
theorem find?_lookUps_of_compile {document : Document}
    (compiled : (compile d past gatewayId intent range).result = .ok document) :
    (admission range intent).networks.map (d.lookUps gatewayId (past ++ [.gateway gatewayId])
        (admission range intent).networks.eraseDups).find? =
      document.interfaces.map fun interface => some (.ok (some interface)) := by
  obtain ⟨rules, -⟩ := (compile_eq_ok_iff fun _ => .ok none).mp compiled
  obtain ⟨-, found, same⟩ := bindRules_eq_ok_iff.mp rules
  rw [Document.interfaces, same, List.map_map, List.map_map]
  refine Eq.trans List.map_map (List.map_congr_left ?_)
  intro entry member
  obtain ⟨descriptor, answered⟩ := Option.isSome_iff_exists.mp (found entry member)
  simp only [Function.comp_apply, Directory.find?_lookUps_of_snapshot answered, bound, answered]
  rfl

end Compiler

/-! ## What a compilation asks -/

/-- A compilation asks for its gateway once and then for each network of its admitted rules once,
in the order in which they first appear, until there is no answer with an interface.  What it is
told first is what it goes by: every rule of a document has the one interface that was found on its
network. -/
theorem compile_asks_once (d : Directory) (past : List Call) (gatewayId : Text) (intent : Json)
    (range : IdRange) :
    let run := compile d past gatewayId intent range
    let networks := (Compiler.admission range intent).networks
    let found := d.lookUps gatewayId (past ++ [.gateway gatewayId]) networks.eraseDups
    Event.calls run.events =
        (if networks = [] then []
        else .gateway gatewayId ::
          match d.gateway past gatewayId with
          | .error _ => []
          | .ok () => found.map fun entry => .interface gatewayId entry.1) ∧
      (∀ failure, networks ≠ [] → d.gateway past gatewayId = .error failure →
        run.result = .error failure) ∧
      (∀ network failure, d.gateway past gatewayId = .ok () → (network, .error failure) ∈ found →
        run.result = .error failure) ∧
      (∀ network, d.gateway past gatewayId = .ok () → (network, .ok none) ∈ found →
        run.result =
          .error (.rejected (.unknownNetwork gatewayId network (some (networks.idxOf network))))) ∧
      ((networks ≠ [] → d.gateway past gatewayId = .ok ()) →
        (∀ entry ∈ found, (Answer.interface? entry.2).isSome) →
        match (Compiler.admission range intent).fault with
        | none => ∃ document, run.result = .ok document
        | some failure => run.result = .error failure) ∧
      (∀ document, run.result = .ok document →
        networks.map found.find? =
          document.interfaces.map fun interface => some (.ok (some interface))) := by
  intro run networks found
  refine ⟨?calls, ?gateway, ?raised, ?unknown, ?answered, ?document⟩
  case calls => exact Compiler.calls_compile
  case gateway =>
    intro failure asked refused
    rw [Compiler.compile_eq_error_iff fun _ => .ok none]
    exact ⟨_, Compiler.binding_of_gateway_error _ asked refused, rfl⟩
  case raised =>
    intro network failure granted member
    rw [Compiler.compile_eq_error_iff fun _ => .ok none]
    exact ⟨_, Compiler.binding_of_mem_lookUps _ granted member rfl, rfl⟩
  case unknown =>
    intro network granted member
    rw [Compiler.compile_eq_error_iff fun _ => .ok none]
    exact ⟨_, Compiler.binding_of_mem_lookUps _ granted member rfl, rfl⟩
  case answered =>
    intro granted all
    have ends := Compiler.binding_of_found (fun _ => .ok none) granted all
    cases fault : (Compiler.admission range intent).fault with
    | none =>
      rw [fault] at ends
      exact ⟨⟨_, _⟩, (Compiler.compile_eq_ok_iff _).mpr ⟨ends, rfl⟩⟩
    | some failure =>
      rw [fault] at ends
      exact (Compiler.compile_eq_error_iff _).mpr ⟨_, ends, rfl⟩
  case document =>
    intro document compiled
    exact Compiler.find?_lookUps_of_compile compiled

/-- A directory that never gives the same interface twice is asked for one only. -/
example :
    let rule : Json := .obj [("rule_type", .str "SNAT"), ("network_id", .str "web"),
      ("original_ip", .str "10.0.0.1"), ("translated_ip", .str "192.0.2.1")]
    let d : Directory :=
      ⟨fun _ _ => .ok (), fun past _ _ => .ok (some [(.text "name", .int past.length)])⟩
    let run := compile d [] "edge" (.obj [("nat_rules", .arr [rule, rule])]) ⟨1, 2⟩
    Event.calls run.events = [.gateway "edge", .interface "edge" "web"] ∧
      run.result.map Document.interfaces =
        .ok [[(.text "name", .int 1)], [(.text "name", .int 1)]] := by
  decide

end GatewayNat
