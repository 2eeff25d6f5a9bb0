import Mathlib.Data.List.Basic
import GatewayNat.Proofs.Binding

/-!
# Look-ups

A compilation reads rules and resolves networks in turn, and its resolver
remembers what it found.  Here the two are taken apart.  The compilation does
what admission followed by binding does, with the answers of a fixed table
(`Compiler.result_compileRules`), and the directory is asked once for each
network of the admitted rules (`Compiler.events_compileRules`).

* `Resolver.news` lists the networks that a resolver does not know yet, each
  once, in the order in which they first appear.
* `Directory.lookUps` asks for networks in order, up to the first that has no
  interface.
* `Resolver.answers` is the table: what the resolver knows and what the look-ups
  give.

This holds for every directory.  It may keep state, since no network is looked
up twice.
-/

namespace GatewayNat

namespace Event

@[simp] theorem calls_cons_call (c : Call) (events : List Event) :
    calls (.call c :: events) = c :: calls events := rfl

@[simp] theorem calls_cons_record (record : Journal.Record) (events : List Event) :
    calls (.record record :: events) = calls events := rfl

end Event

/-! ## Known networks -/

theorem nodup_eraseDups (networks : List Text) : networks.eraseDups.Nodup := by
  cases networks with
  | nil => exact List.nodup_nil
  | cons first more =>
    rw [List.eraseDups_cons, List.nodup_cons]
    refine ⟨by simp, ?_⟩
    exact nodup_eraseDups (more.filter fun other => !other == first)
termination_by networks.length
decreasing_by
  rw [List.length_cons]
  exact Nat.lt_succ_of_le (List.length_filter_le _ _)

namespace Resolver

theorem knows_eq_isSome {r : Resolver} {network : Text} :
    r.knows network = (r.interfaces.find? network).isSome := rfl

theorem knows_of_find? {r : Resolver} {network : Text} {descriptor : Descriptor}
    (remembered : r.interfaces.find? network = some descriptor) : r.knows network = true := by
  rw [knows_eq_isSome, remembered]
  rfl

theorem not_knows_of_find? {r : Resolver} {network : Text}
    (missing : r.interfaces.find? network = none) : r.knows network = false := by
  rw [knows_eq_isSome, missing]
  rfl

/-- A resolver whose gateway is found. -/
def inside (r : Resolver) : Resolver := { r with entered := true }

@[simp] theorem inside_gatewayId (r : Resolver) : r.inside.gatewayId = r.gatewayId := rfl

@[simp] theorem inside_interfaces (r : Resolver) : r.inside.interfaces = r.interfaces := rfl

/-- A resolver that has found one more network. -/
def learn (r : Resolver) (network : Text) (descriptor : Descriptor) : Resolver :=
  { r with interfaces := r.interfaces.set network descriptor }

@[simp] theorem learn_gatewayId (r : Resolver) (network : Text) (descriptor : Descriptor) :
    (r.learn network descriptor).gatewayId = r.gatewayId := rfl

theorem find?_learn (r : Resolver) (network other : Text) (descriptor : Descriptor) :
    (r.learn network descriptor).interfaces.find? other =
      if network = other then some descriptor else r.interfaces.find? other :=
  Table.find?_set _ _ _ _

theorem knows_learn (r : Resolver) (network other : Text) (descriptor : Descriptor) :
    (r.learn network descriptor).knows other = (decide (other = network) || r.knows other) := by
  rw [knows_eq_isSome, find?_learn, knows_eq_isSome]
  by_cases same : network = other
  · simp [same]
  · simp [same, Ne.symm same]

/-- The networks that the resolver does not know, in the order in which they first appear. -/
def news (r : Resolver) (networks : List Text) : List Text :=
  (networks.filter fun network => !r.knows network).eraseDups

theorem news_cons_of_knows {r : Resolver} {network : Text} {more : List Text}
    (known : r.knows network = true) : r.news (network :: more) = r.news more := by
  simp [news, known]

/-- A network that is not known is looked up first, and then it is known, whatever is found. -/
theorem news_cons_of_not_knows {r : Resolver} {network : Text} {more : List Text}
    (unknown : r.knows network = false) (descriptor : Descriptor) :
    r.news (network :: more) = network :: (r.inside.learn network descriptor).news more := by
  have rest : (more.filter fun other => !r.knows other).filter (fun other => !other == network) =
      more.filter fun other => !(r.inside.learn network descriptor).knows other := by
    rw [List.filter_filter]
    congr 1
    funext other
    rw [knows_learn, Bool.not_or]
    rfl
  rw [news, List.filter_cons_of_pos (by simp [unknown]), List.eraseDups_cons, rest, news]

theorem news_new (gatewayId : Text) (networks : List Text) :
    (new gatewayId).news networks = networks.eraseDups := by
  have unknown : ∀ network, (new gatewayId).knows network = false := by
    intro network
    rfl
  rw [news, List.filter_eq_self.mpr]
  simp [unknown]

theorem ne_of_mem_news {r : Resolver} {network other : Text} {networks : List Text}
    (known : r.knows network = true) (member : other ∈ r.news networks) : network ≠ other := by
  rw [news, List.mem_eraseDups, List.mem_filter] at member
  rintro rfl
  simp [known] at member

/-! ## One step of a resolver -/

variable {d : Directory} {past : List Call} {r : Resolver} {network : Text} {rule : Option Int}

theorem enter_of_entered (entered : r.entered = true) :
    r.enter d past = ⟨.ok r.gatewayId, [], r⟩ := by
  rw [enter, if_pos entered]

/-- Finding the gateway has no other effect on the resolver. -/
theorem enter_resolver_of_ok {gatewayId : Text}
    (ok : (r.enter d past).result = .ok gatewayId) : (r.enter d past).resolver = r.inside := by
  unfold enter at ok ⊢
  split
  · next entered =>
    obtain ⟨gatewayId', entered', interfaces⟩ := r
    cases entered
    rfl
  · next outside =>
    rw [if_neg outside] at ok
    split at ok
    · rfl
    · cases ok

/-- The calls before the first look-up of a resolver. -/
def asked (d : Directory) (past : List Call) (r : Resolver) : List Call :=
  past ++ Event.calls (r.enter d past).events

/-- The calls after a look-up. -/
theorem append_calls_lookUp (record : Journal.Record) (call : Call) :
    past ++ Event.calls (.record record :: ((r.enter d past).events ++ [.call call])) =
      r.asked d past ++ [call] := by
  simp [asked]

theorem asked_of_entered (entered : r.entered = true) : r.asked d past = past := by
  rw [asked, enter_of_entered entered]
  simp

/-- A known network costs nothing. -/
theorem resolve_of_find? {descriptor : Descriptor}
    (known : r.interfaces.find? network = some descriptor) :
    r.resolve d past network rule = ⟨.ok descriptor, [], r⟩ := by
  rw [resolve, known]

/-- Without its gateway a resolver finds nothing. -/
theorem resolve_of_enter_error {failure : Failure} (unknown : r.interfaces.find? network = none)
    (refused : (r.enter d past).result = .error failure) :
    r.resolve d past network rule =
      ⟨.error failure, .record (r.lookupRecord network) :: (r.enter d past).events,
        (r.enter d past).resolver⟩ := by
  rw [resolve, unknown]
  simp only [refused]

/-- A network that is found is remembered. -/
theorem resolve_of_interface {gatewayId : Text} {descriptor : Descriptor}
    (unknown : r.interfaces.find? network = none)
    (granted : (r.enter d past).result = .ok gatewayId)
    (answered : d.interface (r.asked d past) r.gatewayId network = .ok (some descriptor)) :
    r.resolve d past network rule =
      ⟨.ok descriptor, .record (r.lookupRecord network) ::
        ((r.enter d past).events ++ [.call (.interface r.gatewayId network)]),
        r.inside.learn network descriptor⟩ := by
  rw [asked] at answered
  rw [resolve, unknown]
  simp only [granted, enter_resolver_of_ok granted, lookUp, inside_gatewayId, answered]
  rfl

/-- A network without an interface is not remembered, but the gateway is. -/
theorem resolve_of_no_interface {gatewayId : Text}
    (unknown : r.interfaces.find? network = none)
    (granted : (r.enter d past).result = .ok gatewayId)
    (missing : Answer.interface? (d.interface (r.asked d past) r.gatewayId network) = none) :
    r.resolve d past network rule =
      ⟨.error (Answer.failure r.gatewayId network rule
          (d.interface (r.asked d past) r.gatewayId network)),
        .record (r.lookupRecord network) ::
          ((r.enter d past).events ++ [.call (.interface r.gatewayId network)]), r.inside⟩ := by
  rw [asked] at missing ⊢
  rw [resolve, unknown]
  simp only [granted, enter_resolver_of_ok granted, lookUp, inside_gatewayId]
  split
  · next answered =>
    rw [answered] at missing
    cases missing
  · next answered => simp only [answered, Answer.failure]
  · next answered => simp only [answered, Answer.failure]

/-- What a resolver meets when it resolves a network. -/
inductive Encounter (d : Directory) (past : List Call) (r : Resolver) (network : Text) : Prop where
  /-- The network is known. -/
  | known (descriptor : Descriptor) (remembered : r.interfaces.find? network = some descriptor)
  /-- The gateway is not found. -/
  | shut (failure : Failure) (unknown : r.interfaces.find? network = none)
    (refused : (r.enter d past).result = .error failure)
  /-- The gateway is found, but no interface. -/
  | missing (gatewayId : Text) (unknown : r.interfaces.find? network = none)
    (granted : (r.enter d past).result = .ok gatewayId)
    (absent : Answer.interface? (d.interface (r.asked d past) r.gatewayId network) = none)
  /-- The gateway and an interface are found. -/
  | found (gatewayId : Text) (descriptor : Descriptor)
    (unknown : r.interfaces.find? network = none)
    (granted : (r.enter d past).result = .ok gatewayId)
    (answered : d.interface (r.asked d past) r.gatewayId network = .ok (some descriptor))

theorem encounter (d : Directory) (past : List Call) (r : Resolver) (network : Text) :
    Encounter d past r network := by
  cases remembered : r.interfaces.find? network with
  | some descriptor => exact .known descriptor remembered
  | none =>
    cases granted : (r.enter d past).result with
    | error failure => exact .shut failure remembered granted
    | ok gatewayId =>
      cases answer : Answer.interface? (d.interface (r.asked d past) r.gatewayId network) with
      | none => exact .missing gatewayId remembered granted answer
      | some descriptor =>
        exact .found gatewayId descriptor remembered granted
          (Answer.interface?_eq_some_iff.mp answer)

end Resolver

/-! ## Look-ups of several networks -/

/-- Asks for networks in order, up to the first that has no interface. -/
def Directory.lookUps (d : Directory) (gatewayId : Text) :
    (past : List Call) → List Text → Table Text Answer
  | _, [] => []
  | past, network :: more =>
    let answer := d.interface past gatewayId network
    (network, answer) ::
      match Answer.interface? answer with
      | some _ => lookUps d gatewayId (past ++ [.interface gatewayId network]) more
      | none => []

namespace Directory

variable {d : Directory} {gatewayId : Text}

/-- Networks are looked up in order, from the first on. -/
theorem lookUps_names_prefix {past : List Call} {networks : List Text} :
    (d.lookUps gatewayId past networks).names <+: networks := by
  induction networks generalizing past with
  | nil => exact List.prefix_refl _
  | cons first more ih =>
    rw [lookUps]
    simp only [Table.names, List.map_cons]
    rw [List.prefix_cons_inj]
    split
    · exact ih
    · exact List.nil_prefix

theorem mem_of_mem_lookUps {past : List Call} {networks : List Text} {network : Text}
    {answer : Answer} (member : (network, answer) ∈ d.lookUps gatewayId past networks) :
    network ∈ networks :=
  lookUps_names_prefix.subset (List.mem_map_of_mem member)

/-- If every look-up finds an interface, every network is looked up. -/
theorem find?_lookUps_isSome {past : List Call} {networks : List Text}
    (found : ∀ entry ∈ d.lookUps gatewayId past networks, (Answer.interface? entry.2).isSome)
    {network : Text} (member : network ∈ networks) :
    ∃ descriptor, (d.lookUps gatewayId past networks).find? network =
      some (.ok (some descriptor)) := by
  induction networks generalizing past with
  | nil => cases member
  | cons first more ih =>
    rw [lookUps, List.forall_mem_cons] at found
    obtain ⟨descriptor, answer⟩ := Option.isSome_iff_exists.mp found.1
    by_cases same : first = network
    · refine ⟨descriptor, ?_⟩
      rw [lookUps, Table.find?, if_pos same]
      exact congrArg some (Answer.interface?_eq_some_iff.mp answer)
    · have later := found.2
      rw [lookUps, Table.find?, if_neg same]
      simp only [answer] at later ⊢
      exact ih later (List.mem_of_ne_of_mem (Ne.symm same) member)

end Directory

namespace Resolver

variable {d : Directory} {past : List Call} {r : Resolver}

/-- A look-up with its announcement. -/
def lookupEvents (r : Resolver) (network : Text) : List Event :=
  [.record (r.lookupRecord network), .call (.interface r.gatewayId network)]

/-- What a resolver does about networks that it does not know.  The gateway is looked for after
the first announcement. -/
def searchEvents (d : Directory) (past : List Call) (r : Resolver) : List Text → List Event
  | [] => []
  | first :: more =>
    .record (r.lookupRecord first) :: ((r.enter d past).events ++
      match (r.enter d past).result with
      | .error _ => []
      | .ok _ =>
        ((d.lookUps r.gatewayId (r.asked d past) (first :: more)).flatMap fun entry =>
          r.lookupEvents entry.1).tail)

theorem searchEvents_of_entered (entered : r.entered = true) (networks : List Text) :
    r.searchEvents d past networks =
      (d.lookUps r.gatewayId past networks).flatMap fun entry => r.lookupEvents entry.1 := by
  cases networks with
  | nil => rfl
  | cons first more =>
    simp only [searchEvents, enter_of_entered entered, asked_of_entered entered]
    simp only [Directory.lookUps, List.flatMap_cons, lookupEvents, List.cons_append,
      List.nil_append, List.tail_cons]

/-- The answer for a network: what the resolver remembers, what the look-ups give, or else one of
another table. -/
def answers (d : Directory) (past : List Call) (r : Resolver) (networks : List Text)
    (other : Text → Answer) (network : Text) : Answer :=
  match r.interfaces.find? network with
  | some descriptor => .ok (some descriptor)
  | none =>
    match (r.enter d past).result with
    | .error failure => .error failure
    | .ok _ =>
      ((d.lookUps r.gatewayId (r.asked d past) networks).find? network).getD (other network)

theorem answers_of_find? {network : Text} {networks : List Text} {other : Text → Answer}
    {descriptor : Descriptor} (remembered : r.interfaces.find? network = some descriptor) :
    r.answers d past networks other network = .ok (some descriptor) := by
  rw [answers, remembered]

theorem answers_of_enter_error {network : Text} {networks : List Text} {other : Text → Answer}
    {failure : Failure} (unknown : r.interfaces.find? network = none)
    (refused : (r.enter d past).result = .error failure) :
    r.answers d past networks other network = .error failure := by
  rw [answers, unknown]
  simp only [refused]

/-- The first network that is looked up. -/
theorem answers_cons_self {gatewayId network : Text} {more : List Text} {other : Text → Answer}
    (unknown : r.interfaces.find? network = none)
    (granted : (r.enter d past).result = .ok gatewayId) :
    r.answers d past (network :: more) other network =
      d.interface (r.asked d past) r.gatewayId network := by
  rw [answers, unknown]
  simp only [granted, Directory.lookUps, Table.find?, if_true, Option.getD_some]

/-- Looking up one network first gives the same answers for all networks. -/
theorem answers_cons {gatewayId network : Text} {descriptor : Descriptor} {more : List Text}
    {other : Text → Answer} (unknown : r.interfaces.find? network = none)
    (granted : (r.enter d past).result = .ok gatewayId)
    (answered : d.interface (r.asked d past) r.gatewayId network = .ok (some descriptor)) :
    r.answers d past (network :: more) other =
      (r.inside.learn network descriptor).answers d
        (r.asked d past ++ [.interface r.gatewayId network]) more other := by
  have entered : (r.inside.learn network descriptor).entered = true := rfl
  funext asked
  unfold answers
  rw [find?_learn, enter_of_entered entered, asked_of_entered entered]
  by_cases same : network = asked
  · subst same
    simp only [unknown, granted, if_true, Directory.lookUps, Table.find?, Option.getD_some,
      answered]
  · simp only [granted, if_neg same, Directory.lookUps, Table.find?, answered, inside_interfaces,
      learn_gatewayId, inside_gatewayId, Answer.interface?]

end Resolver

namespace Compiler

variable {d : Directory} {range : IdRange} {past : List Call} {index : Nat} {next after : Int}
  {r known : Resolver} {members : Members} {rest rules : List Members} {rule : RuleIntent}
  {id : Text} {events : List Event}

theorem compileRules_cons_of_refused {failure : Failure}
    (refused : admitRule range index next members = .error failure) :
    compileRules d range past index next r (members :: rest) = ⟨.error failure, [], r⟩ := by
  simp only [compileRules, refused]

theorem compileRules_cons_of_error {failure : Failure}
    (admitted : admitRule range index next members = .ok (rule, id, after))
    (resolved : r.resolve d past rule.networkId (some index) = ⟨.error failure, events, known⟩) :
    compileRules d range past index next r (members :: rest) =
      ⟨.error failure, events, known⟩ := by
  simp only [compileRules, admitted, resolved]

theorem compileRules_cons_of_ok {descriptor : Descriptor}
    (admitted : admitRule range index next members = .ok (rule, id, after))
    (resolved : r.resolve d past rule.networkId (some index) = ⟨.ok descriptor, events, known⟩) :
    compileRules d range past index next r (members :: rest) =
      let more := compileRules d range (past ++ Event.calls events) (index + 1) after known rest
      ⟨more.result.map (CompiledRule.ofIntent rule id descriptor :: ·), events ++ more.events,
        more.resolver⟩ := by
  simp only [compileRules, admitted, resolved]

/-- The events of a compilation are those of looking up each network of the admitted rules once. -/
theorem events_compileRules :
    (compileRules d range past index next r rules).events =
      r.searchEvents d past (r.news (admitRules range index next rules).networks) := by
  induction rules generalizing past index next r with
  | nil => rfl
  | cons members rest ih =>
    cases admitted : admitRule range index next members with
    | error failure =>
      rw [compileRules_cons_of_refused admitted, admitRules_cons_of_refused admitted]
      rfl
    | ok entry =>
      obtain ⟨rule, id, after⟩ := entry
      rw [admitRules_cons_of_ok admitted, Admission.networks_cons]
      cases Resolver.encounter d past r rule.networkId with
      | known descriptor remembered =>
        rw [compileRules_cons_of_ok admitted (Resolver.resolve_of_find? remembered),
          Resolver.news_cons_of_knows (Resolver.knows_of_find? remembered)]
        simpa using ih
      | shut failure unknown refused =>
        -- nothing is found here, so any interface serves to name the other networks
        rw [compileRules_cons_of_error admitted (Resolver.resolve_of_enter_error unknown refused),
          Resolver.news_cons_of_not_knows (Resolver.not_knows_of_find? unknown) []]
        simp [Resolver.searchEvents, refused]
      | missing gatewayId unknown granted absent =>
        rw [compileRules_cons_of_error admitted
            (Resolver.resolve_of_no_interface unknown granted absent),
          Resolver.news_cons_of_not_knows (Resolver.not_knows_of_find? unknown) []]
        simp [Resolver.searchEvents, granted, Directory.lookUps, absent, Resolver.lookupEvents]
      | found gatewayId descriptor unknown granted answered =>
        have answer := Answer.interface?_eq_some_iff.mpr answered
        rw [compileRules_cons_of_ok admitted
            (Resolver.resolve_of_interface unknown granted answered),
          Resolver.news_cons_of_not_knows (Resolver.not_knows_of_find? unknown) descriptor]
        simp only [ih, Resolver.append_calls_lookUp]
        -- the gateway is found now, so the rest is look-ups only
        rw [Resolver.searchEvents_of_entered rfl]
        simp [Resolver.searchEvents, granted, Directory.lookUps, answer, Resolver.lookupEvents,
          Resolver.lookupRecord]

/-- A compilation does what admission followed by binding does, with one answer for each
network. -/
theorem result_compileRules (other : Text → Answer) :
    (compileRules d range past index next r rules).result =
      (bindRules
        (r.answers d past (r.news (admitRules range index next rules).networks) other)
        r.gatewayId (admitRules range index next rules).fault index
        (admitRules range index next rules).rules).mapError Stop.failure := by
  induction rules generalizing past index next r with
  | nil => rfl
  | cons members rest ih =>
    cases admitted : admitRule range index next members with
    | error failure =>
      rw [compileRules_cons_of_refused admitted, admitRules_cons_of_refused admitted]
      rfl
    | ok entry =>
      obtain ⟨rule, id, after⟩ := entry
      rw [admitRules_cons_of_ok admitted, Admission.networks_cons]
      simp only [Admission.cons, bindRules]
      cases Resolver.encounter d past r rule.networkId with
      | known descriptor remembered =>
        rw [compileRules_cons_of_ok admitted (Resolver.resolve_of_find? remembered),
          Resolver.news_cons_of_knows (Resolver.knows_of_find? remembered),
          Resolver.answers_of_find? remembered]
        simp only [Event.calls_nil, List.append_nil, ih, Answer.interface?, Except.map_mapError]
      | shut failure unknown refused =>
        rw [compileRules_cons_of_error admitted (Resolver.resolve_of_enter_error unknown refused),
          Resolver.answers_of_enter_error unknown refused]
        rfl
      | missing gatewayId unknown granted absent =>
        rw [compileRules_cons_of_error admitted
            (Resolver.resolve_of_no_interface unknown granted absent),
          Resolver.news_cons_of_not_knows (Resolver.not_knows_of_find? unknown) [],
          Resolver.answers_cons_self unknown granted, absent]
        exact congrArg Except.error (Stop.failure_ofAnswer _ _ _ _).symm
      | found gatewayId descriptor unknown granted answered =>
        rw [compileRules_cons_of_ok admitted
            (Resolver.resolve_of_interface unknown granted answered),
          Resolver.news_cons_of_not_knows (Resolver.not_knows_of_find? unknown) descriptor,
          Resolver.answers_cons_self unknown granted,
          Answer.interface?_eq_some_iff.mpr answered,
          -- the rest goes by the same table, which now counts the network as remembered
          Resolver.answers_cons unknown granted answered]
        simp only [ih, Except.map_mapError, Resolver.append_calls_lookUp]
        rfl

/-- The first look-up without an interface decides how the binding ends. -/
theorem bindRules_of_mem_lookUps {gatewayId network : Text} {answer : Answer}
    {fault : Option Failure} {admitted : List (RuleIntent × Text)} {networks : List Text}
    (other : Text → Answer)
    (networksEq : networks = admitted.map fun entry => entry.1.networkId)
    (granted : (r.enter d past).result = .ok gatewayId)
    (member : (network, answer) ∈ d.lookUps r.gatewayId (r.asked d past) (r.news networks))
    (missing : Answer.interface? answer = none) :
    bindRules (r.answers d past (r.news networks) other) r.gatewayId fault index admitted =
      .error (.ofAnswer r.gatewayId network (index + networks.idxOf network) answer) := by
  subst networksEq
  induction admitted generalizing past index r gatewayId with
  | nil => cases member
  | cons entry rest ih =>
    obtain ⟨rule, id⟩ := entry
    simp only [List.map_cons] at member ⊢
    cases Resolver.encounter d past r rule.networkId with
    | known descriptor remembered =>
      have known := Resolver.knows_of_find? remembered
      rw [Resolver.news_cons_of_knows known] at member ⊢
      have different := Resolver.ne_of_mem_news known (Directory.mem_of_mem_lookUps member)
      rw [bindRules, Resolver.answers_of_find? remembered, List.idxOf_cons_ne _ different]
      simp only [Answer.interface?]
      rw [ih granted member]
      simp [Except.map, Nat.add_assoc, Nat.add_comm 1]
    | shut failure unknown refused =>
      rw [granted] at refused
      cases refused
    | missing entered unknown opened absent =>
      rw [Resolver.news_cons_of_not_knows (Resolver.not_knows_of_find? unknown) []] at member ⊢
      rw [bindRules, Resolver.answers_cons_self unknown granted, absent]
      rw [Directory.lookUps] at member
      simp only [absent, List.mem_singleton, Prod.mk.injEq] at member
      obtain ⟨rfl, rfl⟩ := member
      simp
    | found entered descriptor unknown opened answered =>
      have here := Answer.interface?_eq_some_iff.mpr answered
      rw [Resolver.news_cons_of_not_knows (Resolver.not_knows_of_find? unknown) descriptor]
        at member ⊢
      rw [Directory.lookUps] at member
      simp only [here] at member
      cases member with
      | head =>
        rw [here] at missing
        cases missing
      | tail _ later =>
        have learned :
            (r.inside.learn rule.networkId descriptor).knows rule.networkId = true := by
          simp [Resolver.knows_learn]
        -- the look-up is a later one, so it is of another network than this rule's
        have different := Resolver.ne_of_mem_news learned (Directory.mem_of_mem_lookUps later)
        rw [bindRules, Resolver.answers_cons_self unknown granted, here,
          Resolver.answers_cons unknown granted answered, List.idxOf_cons_ne _ different]
        have entered : (r.inside.learn rule.networkId descriptor).entered = true := rfl
        have inner : ((r.inside.learn rule.networkId descriptor).enter d
            (r.asked d past ++ [.interface r.gatewayId rule.networkId])).result = .ok _ :=
          congrArg Resolved.result (Resolver.enter_of_entered entered)
        have tail : bindRules _ _ fault (index + 1) rest = _ :=
          ih inner (by rw [Resolver.asked_of_entered entered]; exact later)
        simp only [Resolver.learn_gatewayId, Resolver.inside_gatewayId] at tail
        simp only [tail, Except.map]
        rw [Nat.succ_eq_add_one, Nat.add_assoc, Nat.add_comm 1]

end Compiler

end GatewayNat
