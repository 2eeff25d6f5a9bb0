import GatewayNat.Proofs.Allocation
import GatewayNat.Proofs.Concatenation

/-!
# The fault that is reported

With a static directory, a rule can fail four checks (`RuleCheck`).

* It cannot be read.
* There is no id for it.
* The gateway is not in the directory.
* The gateway has no interface on its network.

Each check looks at one rule, at its index and at the number of rules before it
that ask for no id.  A compilation fails exactly if some rule fails some check,
and it reports the first rule that does and the first check that it fails
(`compile_reports_first_fault`).  What comes after that rule does not matter.

A missing gateway is found at the first rule or not at all, and its rejection
blames no rule.  Every other rejection blames the rule that failed, as an
attribute and in its context, the first rule included.
-/

namespace GatewayNat

/-! ## Which rule a rejection blames -/

namespace Rejection

/-- The rejection gives the index of a rule wherever it has one. -/
structure Blames (rejection : Rejection) (index : Nat) : Prop where
  rule : rejection.rule? = some (index : Int)
  ofAttributes : rejection.attributes.find? "index" = some (.int index)
  ofContext : rejection.context.find? "index" = some (.int index)

/-- The rejection gives no index of a rule. -/
structure BlamesNone (rejection : Rejection) : Prop where
  rule : rejection.rule? = none
  ofAttributes : rejection.attributes.find? "index" = none
  ofContext : rejection.context.find? "index" = none

theorem OfReading.blames {index : Nat} {rejection : Rejection}
    (reading : rejection.OfReading index) : rejection.Blames index := by
  cases reading with
  | missingField field => exact ⟨rfl, rfl, rfl⟩
  | ruleType value => exact ⟨rfl, rfl, rfl⟩
  | invalidField field reason => exact ⟨rfl, rfl, rfl⟩

theorem blames_idRangeExhausted (index : Nat) (id maximum : Int) :
    (idRangeExhausted index id maximum).Blames index := ⟨rfl, rfl, rfl⟩

theorem blames_unknownNetwork (gateway network : Text) (index : Nat) :
    (unknownNetwork gateway network (some (index : Int))).Blames index := ⟨rfl, rfl, rfl⟩

theorem blamesNone_gatewayNotFound (gateway : Text) : (gatewayNotFound gateway).BlamesNone :=
  ⟨rfl, rfl, rfl⟩

end Rejection

/-! ## The checks of a rule -/

/-- What is checked about a rule. -/
inductive RuleCheck where
  | reading
  | numbering
  | gateway
  | network
  deriving DecidableEq, Repr

namespace RuleCheck

/-- All checks in the order in which they are tried. -/
def all : List RuleCheck := [.reading, .numbering, .gateway, .network]

/-- The place of a check among all. -/
def rank : RuleCheck → Nat
  | .reading => 0
  | .numbering => 1
  | .gateway => 2
  | .network => 3

/-- Why the rule at an index fails a check, if it does. -/
def fault? (d : StaticDirectory) (gatewayId : Text) (range : IdRange) (index : Nat) (next : Int)
    (rule : Members) : RuleCheck → Option Failure
  | .reading =>
    match Compiler.readRule index rule with
    | .error rejection => some (.rejected rejection)
    | .ok _ => none
  | .numbering => Compiler.numberFault? range index next rule
  | .gateway =>
    if (d.networks? gatewayId).isSome then none else some (.rejected (.gatewayNotFound gatewayId))
  | .network =>
    if (d.interface? gatewayId (rule.get "network_id").written).isSome then none
    else some (.rejected (.unknownNetwork gatewayId (rule.get "network_id").written (some index)))

/-- Why the rule at an index fails, if it does: the fault of the first check that it fails. -/
def firstFault? (d : StaticDirectory) (gatewayId : Text) (range : IdRange) (index : Nat)
    (next : Int) (rule : Members) : Option Failure :=
  all.findSome? (fault? d gatewayId range index next rule)

variable {d : StaticDirectory} {gatewayId : Text} {range : IdRange} {index : Nat} {next : Int}
  {rule : Members} {failure : Failure}

theorem mem_all (check : RuleCheck) : check ∈ all := by
  cases check <;> decide

theorem firstFault?_eq_none_iff :
    firstFault? d gatewayId range index next rule = none ↔
      ∀ check, fault? d gatewayId range index next rule check = none := by
  rw [firstFault?, List.findSome?_eq_none_iff]
  constructor
  · intro passes check
    exact passes check (mem_all check)
  · intro passes check _
    exact passes check

theorem rank_injective {check other : RuleCheck} (same : check.rank = other.rank) :
    check = other := by
  cases check <;> cases other <;> simp_all [rank]

theorem exists_of_firstFault?
    (failed : firstFault? d gatewayId range index next rule = some failure) :
    ∃ check, fault? d gatewayId range index next rule check = some failure ∧
      ∀ other, other.rank < check.rank → fault? d gatewayId range index next rule other = none := by
  obtain ⟨before, check, after, split, found, passed⟩ := List.findSome?_eq_some_iff.mp failed
  refine ⟨check, found, ?_⟩
  intro other less
  have member := mem_all other
  have sorted : all.Pairwise fun first second => first.rank < second.rank := by decide
  rw [split, List.pairwise_append, List.pairwise_cons] at sorted
  rw [split, List.mem_append, List.mem_cons] at member
  rcases member with earlier | rfl | later
  · exact passed other earlier
  · exact absurd less (Nat.lt_irrefl _)
  · exact absurd (sorted.2.1.1 other later) (Nat.lt_asymm less)

/-- The fault of a rule is that of the check that it fails and before which it fails none. -/
theorem firstFault?_eq_some_iff :
    firstFault? d gatewayId range index next rule = some failure ↔
      ∃ check, fault? d gatewayId range index next rule check = some failure ∧
        ∀ other, other.rank < check.rank →
          fault? d gatewayId range index next rule other = none := by
  refine ⟨exists_of_firstFault?, ?_⟩
  rintro ⟨check, found, passed⟩
  cases first : firstFault? d gatewayId range index next rule with
  | none =>
    rw [firstFault?_eq_none_iff.mp first check] at found
    cases found
  | some cause =>
    obtain ⟨other, otherFound, otherPassed⟩ := exists_of_firstFault? first
    -- neither of the two checks is before the other
    rcases Nat.lt_trichotomy other.rank check.rank with less | same | less
    · rw [passed other less] at otherFound
      cases otherFound
    · rw [rank_injective same, found] at otherFound
      exact otherFound.symm
    · rw [otherPassed check less] at found
      cases found

end RuleCheck

namespace StaticDirectory

variable {d : StaticDirectory} {gatewayId network : Text}

theorem said_of_no_gateway (held : d.networks? gatewayId = none) :
    Directory.said d.gatewayAnswer d.findInterface gatewayId network =
      .error (.rejected (.gatewayNotFound gatewayId)) := by
  simp only [Directory.said, gatewayAnswer, findGateway, held]
  rfl

theorem said_of_networks {networks : Table Text Descriptor}
    (held : d.networks? gatewayId = some networks) :
    Directory.said d.gatewayAnswer d.findInterface gatewayId network =
      .ok (networks.find? network) := by
  simp only [Directory.said, gatewayAnswer, findInterface, findGateway, held]
  rfl

end StaticDirectory

namespace Compiler

variable {d : StaticDirectory} {gatewayId : Text} {range : IdRange} {index : Nat}
  {next after : Int} {members : Members} {rules : List Members} {failure : Failure}
  {rule : RuleIntent} {id : Text}

open RuleCheck (firstFault?)

/-- A rule that is not admitted fails for that reason. -/
theorem firstFault?_of_refused (refused : admitRule range index next members = .error failure) :
    firstFault? d gatewayId range index next members = some failure := by
  simp only [firstFault?, RuleCheck.all, List.findSome?_cons, RuleCheck.fault?]
  rcases admitRule_eq_error_iff.mp refused with ⟨rejection, unread, rfl⟩ | ⟨⟨rule, read⟩, missing⟩
  · rw [unread]
  · rw [read, missing]

/-- An admitted rule can only lack its gateway or its network. -/
theorem firstFault?_of_admitted
    (admitted : admitRule range index next members = .ok (rule, id, after)) :
    firstFault? d gatewayId range index next members =
      if (d.interface? gatewayId rule.networkId).isSome then none
      else some (Stop.ofAnswer gatewayId rule.networkId index
        (Directory.said d.gatewayAnswer d.findInterface gatewayId rule.networkId)).failure := by
  obtain ⟨⟨type, readable, rfl⟩, granted, -⟩ := admitRule_eq_ok_iff_readable.mp admitted
  have read : readRule index members = .ok (.ofMembers type members) :=
    readRule_eq_ok_iff.mpr ⟨type, readable, rfl⟩
  have numbered : numberFault? range index next members = none :=
    numberFault?_eq_none_iff.mpr granted
  have network : (RuleIntent.ofMembers type members).networkId =
      (members.get "network_id").written := rfl
  simp only [firstFault?, RuleCheck.all, List.findSome?_cons, List.findSome?_nil, RuleCheck.fault?,
    read, numbered, network]
  cases held : d.networks? gatewayId with
  | none =>
    rw [StaticDirectory.said_of_no_gateway held]
    simp [StaticDirectory.interface?, held, Stop.ofAnswer, Stop.failure]
  | some networks =>
    rw [StaticDirectory.said_of_networks held]
    cases found : networks.find? (members.get "network_id").written with
    | none => simp [StaticDirectory.interface?, held, found, Stop.ofAnswer, Stop.failure]
    | some descriptor => simp [StaticDirectory.interface?, held, found]

/-- The fault of the first rule that has one, from an index on. -/
def faultFrom (d : StaticDirectory) (gatewayId : Text) (range : IdRange) :
    (index : Nat) → (next : Int) → List Members → Option Failure
  | _, _, [] => none
  | index, next, members :: rest =>
    (firstFault? d gatewayId range index next members).or
      (faultFrom d gatewayId range (index + 1) (nextAfter next members) rest)

/-- A compilation with a static directory fails with the fault of the first rule that has one. -/
theorem outcome_said_eq_error_iff :
    (∃ stop, outcome (Directory.said d.gatewayAnswer d.findInterface gatewayId) gatewayId range
      index next rules = .error stop ∧ stop.failure = failure) ↔
        faultFrom d gatewayId range index next rules = some failure := by
  induction rules generalizing index next with
  | nil => simp [outcome, bindRules, admitRules, faultFrom]
  | cons members rest ih =>
    rw [outcome_cons, faultFrom]
    -- an admitted rule passes two checks, and the answer on its network decides the others
    cases admitted : admitRule range index next members with
    | error cause => simp [firstFault?_of_refused admitted, Stop.failure]
    | ok entry =>
      obtain ⟨rule, id, after⟩ := entry
      obtain ⟨-, -, -, rfl⟩ := admitRule_eq_ok_iff_readable.mp admitted
      simp only [StaticDirectory.interface?_said, firstFault?_of_admitted admitted]
      cases d.interface? gatewayId rule.networkId with
      | none => simp
      | some descriptor => simp [← ih, Except.map_eq_error_iff]

/-- The fault of the rule at a place, from an index on. -/
def faultAt? (d : StaticDirectory) (gatewayId : Text) (range : IdRange) (index : Nat) (next : Int)
    (rules : List Members) (place : Nat) : Option Failure :=
  rules[place]?.bind (firstFault? d gatewayId range (index + place)
    (next + ((rules.take place).countP Members.isUnnumbered : Nat)))

theorem faultAt?_cons_zero :
    faultAt? d gatewayId range index next (members :: rules) 0 =
      firstFault? d gatewayId range index next members := by
  simp [faultAt?]

theorem faultAt?_cons_succ {place : Nat} :
    faultAt? d gatewayId range index next (members :: rules) (place + 1) =
      faultAt? d gatewayId range (index + 1) (nextAfter next members) rules place := by
  rw [faultAt?, faultAt?, List.take_succ_cons, add_countP_cons, List.getElem?_cons_succ,
    Nat.add_comm place, ← Nat.add_assoc]

/-- The first fault is that of a rule before which no rule has a fault. -/
theorem faultFrom_eq_some_iff :
    faultFrom d gatewayId range index next rules = some failure ↔
      ∃ place, faultAt? d gatewayId range index next rules place = some failure ∧
        ∀ earlier < place, faultAt? d gatewayId range index next rules earlier = none := by
  induction rules generalizing index next with
  | nil => simp [faultFrom, faultAt?]
  | cons members rest ih =>
    rw [faultFrom]
    cases here : firstFault? d gatewayId range index next members with
    | some cause =>
      rw [Option.some_or]
      constructor
      · rintro same
        exact ⟨0, by rw [faultAt?_cons_zero, here, same], by simp⟩
      · rintro ⟨place, found, passed⟩
        cases place with
        | zero => rwa [faultAt?_cons_zero, here] at found
        | succ place =>
          have clean := passed 0 (by omega)
          rw [faultAt?_cons_zero, here] at clean
          cases clean
    | none =>
      rw [Option.none_or, ih]
      constructor
      · rintro ⟨place, found, passed⟩
        refine ⟨place + 1, by rwa [faultAt?_cons_succ], ?_⟩
        intro earlier below
        cases earlier with
        | zero => rwa [faultAt?_cons_zero]
        | succ earlier =>
          rw [faultAt?_cons_succ]
          exact passed earlier (by omega)
      · rintro ⟨place, found, passed⟩
        cases place with
        | zero =>
          rw [faultAt?_cons_zero, here] at found
          cases found
        | succ place =>
          rw [faultAt?_cons_succ] at found
          refine ⟨place, found, ?_⟩
          intro earlier below
          rw [← faultAt?_cons_succ]
          exact passed (earlier + 1) (by omega)

end Compiler

/-! ## The first check that fails -/

/-- The id that is next at the rule of a place. -/
def nextAt (range : IdRange) (rules : List Members) (place : Nat) : Int :=
  range.minimum + ((rules.take place).countP Members.isUnnumbered : Nat)

/-- The rule at a place fails a check. -/
def FailsAt (d : StaticDirectory) (gatewayId : Text) (range : IdRange) (rules : List Members)
    (place : Nat) (check : RuleCheck) (failure : Failure) : Prop :=
  ∃ rule, rules[place]? = some rule ∧
    check.fault? d gatewayId range place (nextAt range rules place) rule = some failure

/-- The rule at a place fails a check, no rule before it fails any, and it fails none before. -/
structure FailsFirst (d : StaticDirectory) (gatewayId : Text) (range : IdRange)
    (rules : List Members) (place : Nat) (check : RuleCheck) (failure : Failure) : Prop where
  fails : FailsAt d gatewayId range rules place check failure
  first : ∀ other otherCheck otherFailure,
    FailsAt d gatewayId range rules other otherCheck otherFailure →
      place < other ∨ place = other ∧ check.rank ≤ otherCheck.rank

section Faults

variable {d : StaticDirectory} {gatewayId : Text} {range : IdRange} {rules : List Members}
  {place : Nat} {check : RuleCheck} {failure : Failure}

theorem FailsAt.place_lt (fails : FailsAt d gatewayId range rules place check failure) :
    place < rules.length := by
  obtain ⟨rule, here, -⟩ := fails
  exact (List.getElem?_eq_some_iff.mp here).1

theorem failsAt_iff {rule : Members} (here : rules[place]? = some rule) :
    FailsAt d gatewayId range rules place check failure ↔
      check.fault? d gatewayId range place (nextAt range rules place) rule = some failure := by
  simp [FailsAt, here]

theorem not_failsAt (outside : rules[place]? = none) :
    ¬FailsAt d gatewayId range rules place check failure := by
  rintro ⟨rule, here, -⟩
  rw [outside] at here
  cases here

namespace Compiler

theorem faultAt?_of_getElem? {rule : Members} (here : rules[place]? = some rule) :
    faultAt? d gatewayId range 0 range.minimum rules place =
      RuleCheck.firstFault? d gatewayId range place (nextAt range rules place) rule := by
  rw [faultAt?, here, Option.bind_some, Nat.zero_add, nextAt]

theorem faultAt?_eq_none_iff :
    faultAt? d gatewayId range 0 range.minimum rules place = none ↔
      ∀ check failure, ¬FailsAt d gatewayId range rules place check failure := by
  cases here : rules[place]? with
  | none => simp [faultAt?, here, not_failsAt here]
  | some rule =>
    rw [faultAt?_of_getElem? here, RuleCheck.firstFault?_eq_none_iff]
    simp only [failsAt_iff here, Option.eq_none_iff_forall_ne_some, ne_eq]

theorem faultAt?_eq_some_iff :
    faultAt? d gatewayId range 0 range.minimum rules place = some failure ↔
      ∃ check, FailsAt d gatewayId range rules place check failure ∧
        ∀ other otherFailure, FailsAt d gatewayId range rules place other otherFailure →
          check.rank ≤ other.rank := by
  cases here : rules[place]? with
  | none => simp [faultAt?, here, not_failsAt here]
  | some rule =>
    rw [faultAt?_of_getElem? here, RuleCheck.firstFault?_eq_some_iff]
    simp only [failsAt_iff here, Option.eq_none_iff_forall_ne_some]
    refine exists_congr fun check => and_congr_right fun _ => ?_
    constructor
    · intro passed other otherFailure found
      exact Nat.le_of_not_lt fun less => passed other less otherFailure found
    · intro least other less otherFailure found
      exact Nat.not_lt_of_le (least other otherFailure found) less

/-- The first fault is that of the first check that fails. -/
theorem faultFrom_eq_some_iff_failsFirst :
    faultFrom d gatewayId range 0 range.minimum rules = some failure ↔
      ∃ place check, FailsFirst d gatewayId range rules place check failure := by
  rw [faultFrom_eq_some_iff]
  refine exists_congr fun place => ?_
  simp only [faultAt?_eq_some_iff, faultAt?_eq_none_iff]
  constructor
  · rintro ⟨⟨check, fails, least⟩, passed⟩
    refine ⟨check, fails, ?_⟩
    intro other otherCheck otherFailure otherFails
    rcases Nat.lt_trichotomy other place with before | rfl | after
    · exact absurd otherFails (passed other before otherCheck otherFailure)
    · exact .inr ⟨rfl, least otherCheck otherFailure otherFails⟩
    · exact .inl after
  · rintro ⟨check, fails, first⟩
    refine ⟨⟨check, fails, ?_⟩, ?_⟩
    · intro other otherFailure otherFails
      rcases first place other otherFailure otherFails with after | ⟨-, least⟩
      · exact absurd after (Nat.lt_irrefl _)
      · exact least
    · intro earlier below other otherFailure otherFails
      rcases first earlier other otherFailure otherFails with after | ⟨rfl, -⟩
      · exact absurd after (Nat.lt_asymm below)
      · exact absurd below (Nat.lt_irrefl _)

/-- A compilation with a static directory fails with the first check that fails. -/
theorem compile_static_eq_error_iff {past : List Call} {intent : Json} {service : ServiceIntent}
    (read : ServiceIntent.check intent = .valid service) :
    (compile d.toDirectory past gatewayId intent range).result = .error failure ↔
      ∃ place check, FailsFirst d gatewayId range service.rules place check failure := by
  rw [compile_eq_error_iff (d.findInterface gatewayId), StaticDirectory.toDirectory_eq,
    binding_steady, admission_of_valid read, ← faultFrom_eq_some_iff_failsFirst]
  exact outcome_said_eq_error_iff

end Compiler

/-- Whether a rule fails does not depend on the rules after it. -/
theorem failsAt_of_take {other : List Members} {count : Nat}
    (same : other.take count = rules.take count) (below : place < count) :
    FailsAt d gatewayId range other place check failure ↔
      FailsAt d gatewayId range rules place check failure := by
  have here : other[place]? = rules[place]? := by
    rw [← List.getElem?_take_of_lt below, same, List.getElem?_take_of_lt below]
  have before : other.take place = rules.take place := by
    have shorter : min place count = place := Nat.min_eq_left (Nat.le_of_lt below)
    rw [← shorter, ← List.take_take, same, List.take_take]
  simp only [FailsAt, nextAt, here, before]

theorem FailsFirst.of_take {other : List Members}
    (first : FailsFirst d gatewayId range rules place check failure)
    (same : other.take (place + 1) = rules.take (place + 1)) :
    FailsFirst d gatewayId range other place check failure := by
  constructor
  · exact (failsAt_of_take same (Nat.lt_succ_self place)).mpr first.fails
  · intro otherPlace otherCheck otherFailure otherFails
    rcases Nat.lt_or_ge place otherPlace with after | notAfter
    · exact .inl after
    · exact first.first _ _ _
        ((failsAt_of_take same (Nat.lt_succ_of_le notAfter)).mp otherFails)

/-! ## What is told about it -/

/-- What is told when a rule fails a check first. -/
def RuleCheck.Tells (gatewayId : Text) (range : IdRange) (rules : List Members) (place : Nat)
    (failure : Failure) : RuleCheck → Prop
  | .reading => ∃ rejection, failure = .rejected rejection ∧ rejection.OfReading place
  | .numbering =>
    let next := nextAt range rules place
    failure =
      if Decimal.isWritable next && Decimal.isWritable range.maximum then
        .rejected (.idRangeExhausted place next range.maximum)
      else .outage .unwritable
  | .gateway => place = 0 ∧ failure = .rejected (.gatewayNotFound gatewayId)
  | .network => ∃ rule, rules[place]? = some rule ∧
    failure = .rejected
      (.unknownNetwork gatewayId (rule.get "network_id").written (some (place : Int)))

theorem numberFault?_eq_some {index : Nat} {next : Int} {rule : Members}
    (missing : Compiler.numberFault? range index next rule = some failure) :
    failure = Compiler.exhausted range index next := by
  unfold Compiler.numberFault? at missing
  split at missing
  · split at missing
    · exact (Option.some.inj missing).symm
    · split at missing
      · cases missing
      · next tooLong =>
        rw [Compiler.exhausted_of_tooLong fun written => tooLong written.1]
        exact (Option.some.inj missing).symm
  · cases missing

theorem fault?_gateway_eq_some_iff {index : Nat} {next : Int} {rule : Members} :
    RuleCheck.fault? d gatewayId range index next rule .gateway = some failure ↔
      d.networks? gatewayId = none ∧ failure = .rejected (.gatewayNotFound gatewayId) := by
  cases held : d.networks? gatewayId with
  | none => simp [RuleCheck.fault?, held, eq_comm]
  | some networks => simp [RuleCheck.fault?, held]

/-- A gateway that is missing is missing for every rule. -/
theorem FailsFirst.place_eq_zero
    (first : FailsFirst d gatewayId range rules place .gateway failure) : place = 0 := by
  obtain ⟨rule, here, found⟩ := first.fails
  have length := first.fails.place_lt
  -- the first rule fails the same check, so the place is not after it
  have missing := (fault?_gateway_eq_some_iff.mp found).1
  have fails : FailsAt d gatewayId range rules 0 .gateway
      (.rejected (.gatewayNotFound gatewayId)) :=
    ⟨rules[0], List.getElem?_eq_getElem (by omega), fault?_gateway_eq_some_iff.mpr ⟨missing, rfl⟩⟩
  rcases first.first 0 .gateway _ fails with before | ⟨same, -⟩
  · exact absurd before (Nat.not_lt_zero _)
  · exact same

theorem FailsFirst.tells (first : FailsFirst d gatewayId range rules place check failure) :
    check.Tells gatewayId range rules place failure := by
  obtain ⟨rule, here, found⟩ := first.fails
  cases check with
  | reading =>
    cases read : Compiler.readRule place rule with
    | ok intent => simp [RuleCheck.fault?, read] at found
    | error rejection =>
      simp only [RuleCheck.fault?, read, Option.some.injEq] at found
      exact ⟨rejection, found.symm, Compiler.ofReading_of_readRule read⟩
  | numbering => exact numberFault?_eq_some found
  | gateway => exact ⟨first.place_eq_zero, (fault?_gateway_eq_some_iff.mp found).2⟩
  | network =>
    simp only [RuleCheck.fault?] at found
    split at found
    · cases found
    · exact ⟨rule, here, (Option.some.inj found).symm⟩

/-- Every rejection but that of a missing gateway blames the rule that failed. -/
theorem RuleCheck.Tells.blames {rejection : Rejection}
    (tells : check.Tells gatewayId range rules place (.rejected rejection)) :
    if check = .gateway then rejection.BlamesNone else rejection.Blames place := by
  cases check with
  | reading =>
    obtain ⟨blaming, same, reading⟩ := tells
    cases same
    exact reading.blames
  | numbering =>
    simp only [Tells] at tells
    split at tells
    · cases tells
      exact Rejection.blames_idRangeExhausted _ _ _
    · cases tells
  | gateway =>
    obtain ⟨-, same⟩ := tells
    cases same
    exact Rejection.blamesNone_gatewayNotFound _
  | network =>
    obtain ⟨rule, -, same⟩ := tells
    cases same
    exact Rejection.blames_unknownNetwork _ _ _

theorem fault?_reading_eq_none_iff {index : Nat} {next : Int} {rule : Members} :
    RuleCheck.fault? d gatewayId range index next rule .reading = none ↔
      ∃ type, RuleIntent.Readable type rule := by
  cases read : Compiler.readRule index rule with
  | error rejection =>
    refine iff_of_false (by simp [RuleCheck.fault?, read]) ?_
    rintro ⟨type, readable⟩
    rw [Compiler.readRule_eq_ok_iff.mpr ⟨type, readable, rfl⟩] at read
    cases read
  | ok intent =>
    obtain ⟨type, readable, -⟩ := Compiler.readRule_eq_ok_iff.mp read
    exact iff_of_true (by simp [RuleCheck.fault?, read]) ⟨type, readable⟩

/-- The checks before the one that fails first are passed. -/
theorem FailsFirst.passed {rule : Members}
    (first : FailsFirst d gatewayId range rules place check failure)
    (here : rules[place]? = some rule) {other : RuleCheck} (less : other.rank < check.rank) :
    other.fault? d gatewayId range place (nextAt range rules place) rule = none := by
  rw [Option.eq_none_iff_forall_ne_some]
  intro otherFailure found
  rcases first.first place other otherFailure ⟨rule, here, found⟩ with after | ⟨-, least⟩
  · exact absurd after (Nat.lt_irrefl _)
  · exact absurd less (Nat.not_lt_of_le least)

/-- A missing gateway is reported exactly if the first rule gets as far as to be read and to have
an id. -/
theorem failsFirst_gateway_iff :
    (∃ place check, FailsFirst d gatewayId range rules place check
        (.rejected (.gatewayNotFound gatewayId))) ↔
      d.networks? gatewayId = none ∧ ∃ rule, rules[0]? = some rule ∧
        (∃ type, RuleIntent.Readable type rule) ∧
        (rule.isUnnumbered = true →
          range.minimum ∈ range ∧ Decimal.isWritable range.minimum = true) := by
  have start : nextAt range rules 0 = range.minimum := by simp [nextAt]
  constructor
  · rintro ⟨place, check, first⟩
    have tells := first.tells
    cases check with
    | reading =>
      obtain ⟨rejection, same, reading⟩ := tells
      cases same
      cases reading
    | numbering =>
      simp only [RuleCheck.Tells] at tells
      split at tells <;> cases tells
    | network =>
      obtain ⟨rule, -, same⟩ := tells
      cases same
    | gateway =>
      obtain rfl := first.place_eq_zero
      obtain ⟨rule, here, found⟩ := first.fails
      have before : RuleCheck.reading.rank < RuleCheck.gateway.rank := by decide
      have between : RuleCheck.numbering.rank < RuleCheck.gateway.rank := by decide
      have read := first.passed here before
      have numbered := first.passed here between
      rw [start] at numbered
      exact ⟨(fault?_gateway_eq_some_iff.mp found).1, rule, here,
        fault?_reading_eq_none_iff.mp read, Compiler.numberFault?_eq_none_iff.mp numbered⟩
  · rintro ⟨missing, rule, here, readable, granted⟩
    refine ⟨0, .gateway, ⟨rule, here, fault?_gateway_eq_some_iff.mpr ⟨missing, rfl⟩⟩, ?_⟩
    intro other otherCheck otherFailure otherFails
    rcases Nat.eq_zero_or_pos other with rfl | after
    · refine .inr ⟨rfl, ?_⟩
      rw [failsAt_iff here, start] at otherFails
      cases otherCheck with
      | reading =>
        rw [fault?_reading_eq_none_iff.mpr readable] at otherFails
        cases otherFails
      | numbering =>
        rw [RuleCheck.fault?, Compiler.numberFault?_eq_none_iff.mpr granted] at otherFails
        cases otherFails
      | gateway => decide
      | network => decide
    · exact .inl after

end Faults

/-- A compilation with a static directory reports the first check that fails of the first rule that
fails one, whatever comes after that rule.  It blames the rule, unless the gateway is missing, which
is found at the first rule only. -/
theorem compile_reports_first_fault (d : StaticDirectory) (past : List Call) (gatewayId : Text)
    (intent : Json) (range : IdRange) (service : ServiceIntent)
    (read : ServiceIntent.check intent = .valid service) :
    let run := fun intent => (compile d.toDirectory past gatewayId intent range).result
    let first := FailsFirst d gatewayId range service.rules
    (∀ failure, run intent = .error failure ↔ ∃ place check, first place check failure) ∧
      (∀ place check failure, first place check failure →
        place < service.rules.length ∧
          check.Tells gatewayId range service.rules place failure ∧
          (∀ rejection, failure = .rejected rejection →
            if check = .gateway then rejection.BlamesNone else rejection.Blames place) ∧
          ∀ otherIntent other, ServiceIntent.check otherIntent = .valid other →
            other.rules.take (place + 1) = service.rules.take (place + 1) →
              run otherIntent = .error failure) ∧
      (run intent = .error (.rejected (.gatewayNotFound gatewayId)) ↔
        d.networks? gatewayId = none ∧ ∃ rule, service.rules[0]? = some rule ∧
          (∃ type, RuleIntent.Readable type rule) ∧
          (rule.isUnnumbered = true →
            range.minimum ∈ range ∧ Decimal.isWritable range.minimum = true)) := by
  intro run first
  refine ⟨?reported, ?told, ?gateway⟩
  case reported =>
    intro failure
    exact Compiler.compile_static_eq_error_iff read
  case told =>
    intro place check failure failsFirst
    refine ⟨failsFirst.fails.place_lt, failsFirst.tells, ?_, ?_⟩
    · rintro rejection rfl
      exact failsFirst.tells.blames
    · intro otherIntent other otherRead same
      exact (Compiler.compile_static_eq_error_iff otherRead).mpr
        ⟨place, check, failsFirst.of_take same⟩
  case gateway => exact (Compiler.compile_static_eq_error_iff read).trans failsFirst_gateway_iff

/-- Of two rules without a type, the first is reported. -/
theorem first_fault_of_untyped_rules :
    let rules : List Members := [TwoRules.rule, [], []]
    let intent : Json := .obj [("nat_rules", .arr (rules.map .obj))]
    ServiceIntent.check intent = .valid ⟨"true", rules⟩ ∧
      ∃ place check, FailsFirst ⟨[("edge", [("web", [])])]⟩ "edge" ⟨65537, 131072⟩ rules place check
        (.rejected (.missingField 1 "rule_type")) := by
  intro rules intent
  have read : ServiceIntent.check intent = .valid ⟨"true", rules⟩ := by decide
  refine ⟨read, ?_⟩
  obtain ⟨reported, -, -⟩ := compile_reports_first_fault ⟨[("edge", [("web", [])])]⟩ [] "edge"
    intent ⟨65537, 131072⟩ _ read
  exact (reported _).mp (by decide)

/-- A compilation may fail without blaming a rule although the gateway is there, if the id that is
next is too long to be written. -/
theorem not_forall_blames :
    ¬∀ (d : StaticDirectory) (past : List Call) (gatewayId : Text) (intent : Json)
      (range : IdRange) (service : ServiceIntent) (failure : Failure),
      ServiceIntent.check intent = .valid service →
        (compile d.toDirectory past gatewayId intent range).result = .error failure →
          ∃ rejection, failure = .rejected rejection ∧
            (rejection = .gatewayNotFound gatewayId ∨
              ∃ place < service.rules.length, rejection.Blames place) := by
  intro all
  have read : ServiceIntent.check TwoRules.unnumbered =
      .valid ⟨"true", [TwoRules.rule, TwoRules.rule]⟩ := by decide
  obtain ⟨rejection, same, -⟩ := all ⟨[("edge", [("web", [])])]⟩ [] "edge" TwoRules.unnumbered
    ⟨Decimal.greatest, Decimal.greatest⟩ _ _ read TwoRules.result_of_greatest
  cases same

end GatewayNat
