import Mathlib.Data.List.Induction
import GatewayNat.Proofs.Lookup

/-!
# Runs of a resolver

A resolver is asked for networks in turn, of any names and for any rules.  What
it does about a question goes by the resolutions before (`Resolution.Follows`).

* A network that was found costs no call.  It keeps the interface that was found
  first, an empty one too.
* Any other network costs one look-up.  The gateway is looked for before that,
  as long as it has not been found, and if that fails there is no look-up.
* A failure is the one that the directory raised, or it says that the network has
  no interface.  It leaves the networks that were found as they are.

So a resolver recalls its history (`Resolver.Recalls`).  A resolver that was asked
nothing does, and a question keeps it (`Resolver.Recalls.concat`), so a run of
questions does (`Resolver.recalls_ask`).  Nothing is said about the directory,
which may keep state and may fail at any call.
-/

namespace GatewayNat

/-- What a resolver is asked: the interface on a network, for the rule of an index if there is
one. -/
structure Question where
  network : Text
  rule : Option Int
  deriving DecidableEq, Repr

/-- A question with what came of it. -/
structure Resolution where
  question : Question
  result : Except Failure Descriptor
  /-- The calls that were made for it. -/
  calls : List Call

/-- What the answer of a look-up comes to. -/
def Answer.outcome (gatewayId : Text) (question : Question) : Answer → Except Failure Descriptor
  | .ok (some descriptor) => .ok descriptor
  | .ok none => .error (.rejected (.unknownNetwork gatewayId question.network question.rule))
  | .error failure => .error failure

theorem Answer.outcome_of_no_interface {gatewayId : Text} {question : Question} {answer : Answer}
    (missing : interface? answer = none) : outcome gatewayId question answer =
      .error (failure gatewayId question.network question.rule answer) := by
  cases answer with
  | error failure => rfl
  | ok found =>
    cases found with
    | none => rfl
    | some descriptor => cases missing

namespace Resolution

/-! ## What a history tells -/

/-- The calls of resolutions in their order. -/
def allCalls (history : List Resolution) : List Call := history.flatMap calls

/-- The interface of the first resolution of a network that succeeded. -/
def found? (history : List Resolution) (network : Text) : Option Descriptor :=
  history.findSome? fun entry =>
    if entry.question.network = network then entry.result.toOption else none

/-- The network that was resolved, if it was. -/
def network? (entry : Resolution) : Option Text :=
  entry.result.toOption.map fun _ => entry.question.network

/-- The networks that were resolved, each once. -/
def networks (history : List Resolution) : List Text := (history.filterMap network?).eraseDups

/-- A call for the gateway has returned. -/
def Returned (d : Directory) (past : List Call) (gatewayId : Text) (history : List Resolution) :
    Prop :=
  ∃ earlier later, allCalls history = earlier ++ .gateway gatewayId :: later ∧
    d.gateway (past ++ earlier) gatewayId = .ok ()

/-- What a resolver has to do about a question after a history. -/
structure Follows (d : Directory) (past : List Call) (gatewayId : Text)
    (history : List Resolution) (next : Resolution) : Prop where
  /-- A network that was found is not looked up again. -/
  known : ∀ descriptor, found? history next.question.network = some descriptor →
    next.calls = [] ∧ next.result = .ok descriptor
  /-- Any other network is looked up, and only that if the gateway was found. -/
  entered : found? history next.question.network = none → Returned d past gatewayId history →
    next.calls = [.interface gatewayId next.question.network] ∧
      next.result = Answer.outcome gatewayId next.question
        (d.interface (past ++ allCalls history) gatewayId next.question.network)
  /-- The gateway is looked for first if it was not found. -/
  opened : found? history next.question.network = none → ¬Returned d past gatewayId history →
    d.gateway (past ++ allCalls history) gatewayId = .ok () →
      next.calls = [.gateway gatewayId, .interface gatewayId next.question.network] ∧
        next.result = Answer.outcome gatewayId next.question
          (d.interface (past ++ allCalls history ++ [.gateway gatewayId]) gatewayId
            next.question.network)
  /-- Without the gateway nothing is looked up. -/
  shut : found? history next.question.network = none → ¬Returned d past gatewayId history →
    ∀ failure, d.gateway (past ++ allCalls history) gatewayId = .error failure →
      next.calls = [.gateway gatewayId] ∧ next.result = .error failure

variable {d : Directory} {past : List Call} {gatewayId : Text} {history : List Resolution}
  {next : Resolution}

theorem allCalls_concat : allCalls (history ++ [next]) = allCalls history ++ next.calls := by
  simp [allCalls]

/-- A resolution tells of a network only if none before it does. -/
theorem found?_concat (network : Text) : found? (history ++ [next]) network =
    (found? history network).or
      (if next.question.network = network then next.result.toOption else none) := by
  simp only [found?, List.findSome?_append, List.findSome?_cons, List.findSome?_nil]
  split <;> simp_all

theorem mem_networks_iff {network : Text} : network ∈ networks history ↔
    ∃ entry ∈ history, entry.question.network = network ∧
      ∃ descriptor, entry.result = .ok descriptor := by
  rw [networks, List.mem_eraseDups, List.mem_filterMap]
  refine exists_congr fun entry => and_congr_right fun _ => ?_
  rw [network?]
  cases entry.result with
  | error failure => simp [Except.toOption]
  | ok descriptor => simp [Except.toOption]

theorem networks_concat_of_error {failure : Failure} (failed : next.result = .error failure) :
    networks (history ++ [next]) = networks history := by
  have unresolved : network? next = none := by
    rw [network?, failed]
    rfl
  simp [networks, unresolved]

theorem networks_concat_of_ok {descriptor : Descriptor} (resolved : next.result = .ok descriptor) :
    networks (history ++ [next]) =
      if next.question.network ∈ networks history then networks history
      else networks history ++ [next.question.network] := by
  have named : network? next = some next.question.network := by
    rw [network?, resolved]
    rfl
  rw [networks, networks, List.filterMap_append, List.eraseDups_append,
    List.filterMap_cons_some named, List.filterMap_nil]
  simp only [List.mem_eraseDups]
  generalize history.filterMap network? = before
  by_cases member : next.question.network ∈ before
  · simp [List.removeAll, member]
  · simp [List.removeAll, member, List.eraseDups_cons]

/-- A call has returned before, or it is one of the last resolution. -/
theorem returned_concat : Returned d past gatewayId (history ++ [next]) ↔
    Returned d past gatewayId history ∨
      Returned d (past ++ allCalls history) gatewayId [next] := by
  have alone : allCalls [next] = next.calls := by simp [allCalls]
  unfold Returned
  rw [allCalls_concat, alone]
  constructor
  · rintro ⟨earlier, later, split, returned⟩
    rcases List.append_eq_append_iff.mp split with
      ⟨between, rfl, inside⟩ | ⟨between, inside, rest⟩
    · refine .inr ⟨between, later, inside, ?_⟩
      rwa [List.append_assoc]
    · cases between with
      | nil =>
        -- the call is the first of the last resolution
        rw [List.append_nil] at inside
        subst inside
        refine .inr ⟨[], later, rest.symm, ?_⟩
        rwa [List.append_nil]
      | cons call more =>
        obtain ⟨rfl, -⟩ := List.cons.inj rest
        exact .inl ⟨earlier, more, inside, returned⟩
  · rintro (⟨earlier, later, split, returned⟩ | ⟨earlier, later, split, returned⟩)
    · exact ⟨earlier, later ++ next.calls, by simp [split], returned⟩
    · refine ⟨allCalls history ++ earlier, later, by simp [split], ?_⟩
      rwa [← List.append_assoc]

end Resolution

namespace Resolver

open Resolution

/-! ## Asking -/

/-- What a resolver does about a question. -/
def resolution (d : Directory) (past : List Call) (r : Resolver) (question : Question) :
    Resolution :=
  let found := r.resolve d past question.network question.rule
  ⟨question, found.result, Event.calls found.events⟩

/-- The resolver after a question. -/
def after (d : Directory) (past : List Call) (r : Resolver) (question : Question) : Resolver :=
  (r.resolve d past question.network question.rule).resolver

/-- Asks a resolver in turn.  The result is what it did, and the resolver after that. -/
def ask (d : Directory) : (past : List Call) → Resolver → List Question →
    List Resolution × Resolver
  | _, r, [] => ([], r)
  | past, r, question :: rest =>
    let first := r.resolution d past question
    let more := ask d (past ++ first.calls) (r.after d past question) rest
    (first :: more.1, more.2)

variable {d : Directory} {past : List Call} {r : Resolver} {gatewayId : Text}
  {history : List Resolution}

/-- The last question is asked after all others. -/
theorem ask_concat (questions : List Question) (question : Question) :
    ask d past r (questions ++ [question]) =
      let before := ask d past r questions
      let now := past ++ allCalls before.1
      (before.1 ++ [before.2.resolution d now question], before.2.after d now question) := by
  induction questions generalizing past r with
  | nil => simp [ask, allCalls]
  | cons first rest ih =>
    rw [List.cons_append, ask, ih]
    simp [ask, allCalls]

/-! ## Recalling -/

/-- A resolver remembers what a history tells. -/
structure Recalls (d : Directory) (past : List Call) (gatewayId : Text)
    (history : List Resolution) (r : Resolver) : Prop where
  gateway : r.gatewayId = gatewayId
  entered : r.entered = true ↔ Returned d past gatewayId history
  found : ∀ network, r.interfaces.find? network = found? history network
  names : r.interfaces.names = networks history

theorem recalls_new : Recalls d past gatewayId [] (new gatewayId) where
  gateway := rfl
  entered := by simp [new, Returned, allCalls]
  found _ := rfl
  names := rfl

/-- The calls that a resolver makes for a gateway that it has not found, and what comes of them. -/
theorem enter_of_not_entered (d : Directory) (past : List Call) (outside : r.entered = false) :
    (r.enter d past).result = (d.gateway past r.gatewayId).map (fun _ => r.gatewayId) ∧
      Event.calls (r.enter d past).events = [.gateway r.gatewayId] := by
  unfold enter
  rw [if_neg (by simp [outside])]
  cases d.gateway past r.gatewayId <;> exact ⟨rfl, rfl⟩

/-- A gateway that is not found is not remembered. -/
theorem enter_resolver_of_error {failure : Failure}
    (refused : (r.enter d past).result = .error failure) : (r.enter d past).resolver = r := by
  unfold enter at refused ⊢
  split
  · rfl
  · next outside =>
    rw [if_neg outside] at refused
    split at refused
    · cases refused
    · rfl

theorem names_learn (network : Text) (descriptor : Descriptor) :
    (r.learn network descriptor).interfaces.names =
      if network ∈ r.interfaces.names then r.interfaces.names
      else r.interfaces.names ++ [network] :=
  Table.names_set _ _ _

namespace Recalls

theorem knows_iff (recalls : Recalls d past gatewayId history r) {network : Text} :
    r.knows network = true ↔ network ∈ networks history := by
  rw [knows_eq_isSome, Table.find?_isSome_iff, recalls.names]

theorem size_eq (recalls : Recalls d past gatewayId history r) :
    r.size = (networks history).length := by
  rw [← recalls.names, size, Table.names, List.length_map]

section Kept

variable {next : Resolution} (recalls : Recalls d past r.gatewayId history r)

include recalls

/-- A question about a network that was found. -/
theorem of_found {descriptor : Descriptor} (cheap : next.calls = [])
    (told : next.result = .ok descriptor)
    (remembered : r.interfaces.find? next.question.network = some descriptor) :
    next.Follows d past r.gatewayId history ∧
      Recalls d past r.gatewayId (history ++ [next]) r := by
  have known := (recalls.found _).symm.trans remembered
  constructor
  · exact
      { known := fun other same => ⟨cheap, by rw [told, ← Option.some.inj (known.symm.trans same)]⟩
        entered := by simp [known]
        opened := by simp [known]
        shut := by simp [known] }
  · refine ⟨rfl, ?_, ?_, ?_⟩
    · have noCall : ¬Returned d (past ++ allCalls history) r.gatewayId [next] := by
        simp [Returned, allCalls, cheap]
      rw [returned_concat, recalls.entered, or_iff_left noCall]
    · intro network
      rw [found?_concat, recalls.found, told]
      by_cases same : next.question.network = network
      · simp [← same, known]
      · simp [same]
    · have member := recalls.knows_iff.mp (knows_of_find? remembered)
      rw [networks_concat_of_ok told, if_pos member, recalls.names]

/-- A question without the gateway. -/
theorem of_shut {failure : Failure} (outside : r.entered = false)
    (refused : d.gateway (past ++ allCalls history) r.gatewayId = .error failure)
    (asked : next.calls = [.gateway r.gatewayId]) (failed : next.result = .error failure)
    (unknown : r.interfaces.find? next.question.network = none) :
    next.Follows d past r.gatewayId history ∧
      Recalls d past r.gatewayId (history ++ [next]) r := by
  have fresh := (recalls.found _).symm.trans unknown
  have never : ¬Returned d past r.gatewayId history := by simp [← recalls.entered, outside]
  constructor
  · exact
      { known := by simp [fresh]
        entered := fun _ returned => absurd returned never
        opened := by simp [refused]
        shut := by
          intro _ _ other same
          rw [refused] at same
          cases same
          exact ⟨asked, failed⟩ }
  · refine ⟨rfl, ?_, ?_, ?_⟩
    · have notYet : ¬Returned d (past ++ allCalls history) r.gatewayId [next] := by
        rintro ⟨earlier, later, split, returned⟩
        cases earlier with
        | nil =>
          rw [List.append_nil, refused] at returned
          cases returned
        | cons call more => simp [allCalls, asked] at split
      rw [returned_concat, recalls.entered, or_iff_left notYet]
    · intro network
      rw [found?_concat, recalls.found, failed]
      simp [Except.toOption]
    · rw [networks_concat_of_error failed, recalls.names]

/-- A question that comes to a look-up, after the calls that are made for the gateway. -/
theorem follows_of_lookedUp {name : Text}
    (granted : (r.enter d (past ++ allCalls history)).result = .ok name)
    (asked : next.calls = Event.calls (r.enter d (past ++ allCalls history)).events ++
      [.interface r.gatewayId next.question.network])
    (told : next.result = Answer.outcome r.gatewayId next.question
      (d.interface (r.asked d (past ++ allCalls history)) r.gatewayId next.question.network))
    (unknown : r.interfaces.find? next.question.network = none) :
    next.Follows d past r.gatewayId history ∧
      Returned d past r.gatewayId (history ++ [next]) := by
  have fresh := (recalls.found _).symm.trans unknown
  cases inside : r.entered with
  | true =>
    have returned := recalls.entered.mp inside
    rw [enter_of_entered inside, Event.calls_nil, List.nil_append] at asked
    rw [asked_of_entered inside] at told
    constructor
    · exact
        { known := by simp [fresh]
          entered := fun _ _ => ⟨asked, told⟩
          opened := fun _ never => absurd returned never
          shut := fun _ never => absurd returned never }
    · exact returned_concat.mpr (.inl returned)
  | false =>
    have never : ¬Returned d past r.gatewayId history := by simp [← recalls.entered, inside]
    obtain ⟨gateway, calls⟩ := enter_of_not_entered d (past ++ allCalls history) inside
    have found : d.gateway (past ++ allCalls history) r.gatewayId = .ok () := by
      rw [gateway] at granted
      obtain ⟨u, found, -⟩ := Except.map_eq_ok_iff.mp granted
      exact found
    rw [calls] at asked
    rw [Resolver.asked, calls] at told
    constructor
    · exact
        { known := by simp [fresh]
          entered := fun _ returned => absurd returned never
          opened := fun _ _ _ => ⟨asked, told⟩
          shut := by simp [found] }
    · refine returned_concat.mpr (.inr ⟨[], [.interface r.gatewayId next.question.network], ?_, ?_⟩)
      · simp [allCalls, asked]
      · rwa [List.append_nil]

end Kept

/-- A question keeps a resolver in mind of what happened. -/
theorem concat (recalls : Recalls d past gatewayId history r) (question : Question) :
    let next := r.resolution d (past ++ allCalls history) question
    next.Follows d past gatewayId history ∧
      Recalls d past gatewayId (history ++ [next])
        (r.after d (past ++ allCalls history) question) := by
  obtain rfl := recalls.gateway
  generalize sameNow : past ++ allCalls history = now
  cases encounter d now r question.network with
  | known descriptor remembered =>
    have resolved : r.resolve d now question.network question.rule = _ :=
      resolve_of_find? remembered
    rw [after, resolved]
    exact recalls.of_found (by simp [resolution, resolved]) (by simp [resolution, resolved])
      remembered
  | shut failure unknown refused =>
    have resolved : r.resolve d now question.network question.rule = _ :=
      resolve_of_enter_error unknown refused
    have outside : r.entered = false := by
      cases inside : r.entered with
      | false => rfl
      | true =>
        rw [enter_of_entered inside] at refused
        cases refused
    obtain ⟨gateway, calls⟩ := enter_of_not_entered d now outside
    rw [after, resolved, enter_resolver_of_error refused]
    rw [gateway, Except.map_eq_error_iff] at refused
    subst sameNow
    refine recalls.of_shut outside refused ?_ ?_ unknown
    · simp [resolution, resolved, calls]
    · simp [resolution, resolved]
  | missing name unknown granted absent =>
    have resolved : r.resolve d now question.network question.rule = _ :=
      resolve_of_no_interface unknown granted absent
    rw [after, resolved]
    have failed : (r.resolution d now question).result = .error _ :=
      congrArg Resolved.result resolved
    subst sameNow
    obtain ⟨follows, returned⟩ := recalls.follows_of_lookedUp granted
      (by simp [resolution, resolved])
      (failed.trans (Answer.outcome_of_no_interface absent).symm) unknown
    refine ⟨follows, rfl, iff_of_true rfl returned, ?_, ?_⟩
    · intro network
      rw [found?_concat, inside_interfaces, recalls.found, failed]
      simp [Except.toOption]
    · rw [networks_concat_of_error failed, inside_interfaces, recalls.names]
  | found name descriptor unknown granted answered =>
    have resolved : r.resolve d now question.network question.rule = _ :=
      resolve_of_interface unknown granted answered
    rw [after, resolved]
    have told : (r.resolution d now question).result = .ok descriptor :=
      congrArg Resolved.result resolved
    have outcome : (r.resolution d now question).result =
        Answer.outcome r.gatewayId question (d.interface (r.asked d now) r.gatewayId
          question.network) := by
      rw [told, answered]
      rfl
    subst sameNow
    obtain ⟨follows, returned⟩ := recalls.follows_of_lookedUp granted
      (by simp [resolution, resolved]) outcome unknown
    have fresh := (recalls.found _).symm.trans unknown
    refine ⟨follows, rfl, iff_of_true rfl returned, ?_, ?_⟩
    · intro network
      rw [found?_concat, find?_learn, inside_interfaces, recalls.found, told]
      by_cases same : question.network = network
      · subst same
        rw [show found? history question.network = none from fresh]
        simp [resolution, Except.toOption]
      · simp [resolution, same]
    · rw [networks_concat_of_ok told, names_learn, inside_interfaces, recalls.names]
      rfl

end Recalls

/-- After any questions a resolver recalls them. -/
theorem recalls_ask (d : Directory) (past : List Call) (gatewayId : Text)
    (questions : List Question) :
    let run := (new gatewayId).ask d past questions
    Recalls d past gatewayId run.1 run.2 := by
  induction questions using List.reverseRecOn with
  | nil => exact recalls_new
  | append_singleton questions question ih =>
    simp only [ask_concat] at ih ⊢
    exact (ih.concat question).2

end Resolver

/-- A resolver asks for what it needs and remembers what it found, whatever the directory does.  At
every moment it knows the networks that were resolved and no others.  So it does after a failure,
when it knows what it knew before. -/
theorem resolver_remembers (d : Directory) (past : List Call) (gatewayId : Text)
    (questions : List Question) (question : Question) :
    let before := (Resolver.new gatewayId).ask d past questions
    let after := (Resolver.new gatewayId).ask d past (questions ++ [question])
    let names := Resolution.networks before.1
    names.Nodup ∧
      (∀ network, network ∈ names ↔ ∃ entry ∈ before.1, entry.question.network = network ∧
        ∃ descriptor, entry.result = .ok descriptor) ∧
      before.2.size = names.length ∧
      (∀ network, before.2.knows network = true ↔ network ∈ names) ∧
      ∃ next, after.1 = before.1 ++ [next] ∧ next.question = question ∧
        next.Follows d past gatewayId before.1 ∧
        ∀ failure, next.result = .error failure →
          after.2.interfaces.names = before.2.interfaces.names := by
  intro before after names
  have recalls : Resolver.Recalls d past gatewayId before.1 before.2 :=
    Resolver.recalls_ask d past gatewayId questions
  have later : Resolver.Recalls d past gatewayId after.1 after.2 :=
    Resolver.recalls_ask d past gatewayId (questions ++ [question])
  have grown : after.1 = before.1 ++ [_] :=
    congrArg Prod.fst (Resolver.ask_concat questions question)
  refine ⟨nodup_eraseDups _, fun network => Resolution.mem_networks_iff, recalls.size_eq,
    fun network => recalls.knows_iff, _, grown, rfl, (recalls.concat question).1, ?_⟩
  intro failure failed
  rw [later.names, grown, Resolution.networks_concat_of_error failed, recalls.names]

/-- The gateway is found at the second question, and the third finds an empty interface again. -/
example : ((Resolver.new "edge").ask
    { gateway := fun past _ => if past.isEmpty then .error (.outage ⟨.timeout, "late"⟩) else .ok ()
      interface := fun _ _ _ => .ok (some []) } []
    [⟨"web", none⟩, ⟨"web", some 0⟩, ⟨"web", some 1⟩]).1.map Resolution.calls =
      [[.gateway "edge"], [.gateway "edge", .interface "edge" "web"], []] := by decide

end GatewayNat
