import GatewayNat.Proofs.Calls

/-!
# Directories that forget

A steady directory answers a call by its arguments alone (`Directory.steady`).
A static directory is one, and so is a directory that fails the same way each
time.

With a steady directory the memory of a compilation cannot be seen.  Binding goes
by what the directory says of each network (`Compiler.binding_steady`).  If it
stops, the failure is the directory's exactly if some call was refused
(`Compiler.binding_of_refuses`, `Compiler.binding_of_not_refuses`).
-/

namespace GatewayNat

namespace Directory

/-- The directory that answers a call by its arguments alone. -/
def steady (gateway : Text → Except Failure Unit) (interface : Text → Text → Answer) : Directory :=
  ⟨fun _ => gateway, fun _ => interface⟩

/-- What a directory without memory says of a network, once the gateway is looked for. -/
def said (gateway : Text → Except Failure Unit) (interface : Text → Text → Answer)
    (gatewayId network : Text) : Answer :=
  match gateway gatewayId with
  | .error failure => .error failure
  | .ok () => interface gatewayId network

/-- Whether a directory answers a call with a failure when it is asked nothing before. -/
def refuses (d : Directory) : Call → Bool
  | .gateway gatewayId => !(d.gateway [] gatewayId).isOk
  | .interface gatewayId network => !(d.interface [] gatewayId network).isOk

variable {gateway : Text → Except Failure Unit} {interface : Text → Text → Answer}
  {past : List Call} {gatewayId network : Text} {networks : List Text}

theorem refuses_gateway_iff :
    (steady gateway interface).refuses (.gateway gatewayId) = true ↔
      ∃ failure, gateway gatewayId = .error failure := by
  simp only [refuses, steady]
  cases gateway gatewayId <;> simp [Except.isOk, Except.toBool]

theorem refuses_interface_iff :
    (steady gateway interface).refuses (.interface gatewayId network) = true ↔
      ∃ failure, interface gatewayId network = .error failure := by
  simp only [refuses, steady]
  cases interface gatewayId network <;> simp [Except.isOk, Except.toBool]

theorem eq_of_mem_lookUps_steady {answer : Answer}
    (member : (network, answer) ∈ (steady gateway interface).lookUps gatewayId past networks) :
    answer = interface gatewayId network := by
  induction networks generalizing past with
  | nil => cases member
  | cons first more ih =>
    rw [lookUps] at member
    cases member with
    | head => rfl
    | tail _ later =>
      split at later
      · exact ih later
      · cases later

theorem find?_lookUps_steady :
    (((steady gateway interface).lookUps gatewayId past networks).find? network).getD
      (interface gatewayId network) = interface gatewayId network := by
  cases found : ((steady gateway interface).lookUps gatewayId past networks).find? network with
  | none => rfl
  | some answer => exact eq_of_mem_lookUps_steady (Table.mem_of_find? found)

theorem snapshot_steady :
    (steady gateway interface).snapshot past gatewayId networks (interface gatewayId) =
      said gateway interface gatewayId := by
  funext network
  unfold snapshot said
  rw [find?_lookUps_steady]
  rfl

end Directory

namespace Compiler

variable {gateway : Text → Except Failure Unit} {interface : Text → Text → Answer}
  {past : List Call} {gatewayId : Text} {intent : Json} {range : IdRange}

/-- Binding goes by what the directory says. -/
theorem binding_steady :
    binding (.steady gateway interface) past gatewayId range intent (interface gatewayId) =
      bindRules (Directory.said gateway interface gatewayId) gatewayId
        (admission range intent).fault 0 (admission range intent).rules := by
  rw [binding, Directory.snapshot_steady]

/-- A refused call stops the binding. -/
theorem binding_of_refuses {call : Call} (other : Text → Answer)
    (member : call ∈ Event.calls
      (compile (.steady gateway interface) past gatewayId intent range).events)
    (refused : (Directory.steady gateway interface).refuses call = true) :
    ∃ failure, binding (.steady gateway interface) past gatewayId range intent other =
      .error (.raised failure) := by
  rw [calls_compile] at member
  split at member
  · cases member
  · next asked =>
    cases granted : gateway gatewayId with
    | error failure => exact ⟨failure, binding_of_gateway_error other asked granted⟩
    | ok u =>
      simp only [Directory.steady, granted] at member
      cases member with
      | head =>
        obtain ⟨failure, failed⟩ := Directory.refuses_gateway_iff.mp refused
        rw [granted] at failed
        cases failed
      | tail _ later =>
        obtain ⟨⟨network, answer⟩, lookedUp, rfl⟩ := List.mem_map.mp later
        obtain ⟨failure, failed⟩ := Directory.refuses_interface_iff.mp refused
        rw [← Directory.eq_of_mem_lookUps_steady lookedUp] at failed
        subst failed
        exact ⟨failure, binding_of_mem_lookUps other granted lookedUp rfl⟩

/-- If no call is refused, a stop is the compilation's own. -/
theorem binding_of_not_refuses {stop : Stop} (other : Text → Answer)
    (answered : ∀ call ∈ Event.calls
      (compile (.steady gateway interface) past gatewayId intent range).events,
        (Directory.steady gateway interface).refuses call ≠ true)
    (stopped : binding (.steady gateway interface) past gatewayId range intent other =
      .error stop) :
    ∃ failure, stop = .own failure := by
  rw [calls_compile] at answered
  have granted : (admission range intent).networks ≠ [] →
      (Directory.steady gateway interface).gateway past gatewayId = .ok () := by
    intro asked
    rw [if_neg asked] at answered
    cases granted : gateway gatewayId with
    | error failure =>
      exact absurd (Directory.refuses_gateway_iff.mpr ⟨failure, granted⟩) (answered _ (.head _))
    | ok u => exact granted
  -- either every look-up finds an interface, or the first that does not is no failure
  by_cases found : ∀ entry ∈ (Directory.steady gateway interface).lookUps gatewayId
      (past ++ [.gateway gatewayId]) (admission range intent).networks.eraseDups,
      (Answer.interface? entry.2).isSome
  · rw [binding_of_found other granted found] at stopped
    split at stopped
    · cases stopped
    · cases stopped
      exact ⟨_, rfl⟩
  · simp only [not_forall] at found
    obtain ⟨⟨network, answer⟩, member, missing⟩ := found
    have asked : (admission range intent).networks ≠ [] :=
      List.ne_nil_of_mem (List.mem_eraseDups.mp (Directory.mem_of_mem_lookUps member))
    rw [binding_of_mem_lookUps other (granted asked) member (by simpa using missing)] at stopped
    cases answer with
    | ok nothing =>
      cases stopped
      exact ⟨_, rfl⟩
    | error failure =>
      rw [if_neg asked, granted asked] at answered
      have refused := answered (.interface gatewayId network)
        (.tail _ (List.mem_map.mpr ⟨_, member, rfl⟩))
      exact absurd (Directory.refuses_interface_iff.mpr
        ⟨failure, (Directory.eq_of_mem_lookUps_steady member).symm⟩) refused

end Compiler

end GatewayNat
