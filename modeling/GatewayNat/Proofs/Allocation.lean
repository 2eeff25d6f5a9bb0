import GatewayNat.Proofs.Faults
import GatewayNat.Proofs.Identifiers
import GatewayNat.Proofs.StaticDocument

/-!
# Allocation of ids

Rules that ask for no id are numbered from the minimum of the range, in order.
The `k`-th of them, counted from zero, has the id `minimum + k`, and every other
rule keeps its own (`compile_allocates`).

* A range of `c` ids is exhausted at the rule that is the `c`-th of them, and
  nowhere else (`Exhausts`).  That rule is reached and can be read, and it costs
  no call.
* The rejection names the id that was next, which is past the maximum, and the
  maximum.  It is not made if one of them is too long to be written.

The directory may keep state and may fail as it likes.  Only a rejection that it
makes up itself could be mistaken for one of the compilation
(`Directory.RejectsOnlyGateways`).
-/

namespace GatewayNat

/-! ## Rules without an id -/

/-- The places of the rules that ask for no id. -/
def unnumberedAt (rules : List Members) : List Nat := rules.findIdxs Members.isUnnumbered

/-- The rule that is the `k`-th of those that ask for no id has `k` such rules before it. -/
theorem getElem?_unnumberedAt_eq_some_iff {rules : List Members} {k place : Nat} :
    (unnumberedAt rules)[k]? = some place ↔
      (∃ rule, rules[place]? = some rule ∧ rule.isUnnumbered = true) ∧
        (rules.take place).countP Members.isUnnumbered = k := by
  unfold unnumberedAt
  induction rules generalizing k place with
  | nil => simp
  | cons first rest ih =>
    rw [List.findIdxs_cons, List.findIdxs_start]
    by_cases unnumbered : first.isUnnumbered = true
    · rw [if_pos unnumbered]
      cases k with
      | zero =>
        cases place with
        | zero => simp [unnumbered]
        | succ place => simp [unnumbered]
      | succ k =>
        cases place with
        | zero => simp [unnumbered]
        | succ place => simp [unnumbered, ih]
    · rw [if_neg unnumbered]
      cases place with
      | zero => simp [unnumbered]
      | succ place => simp [unnumbered, ih]

/-- A rule that can be read and is not unnumbered asks for the id that it has. -/
theorem askedId_of_numbered {type : RuleType} {rule : Members}
    (readable : RuleIntent.Readable type rule) (numbered : ¬rule.isUnnumbered = true) :
    (rule.get "id").Textual ∧ (rule.get "id").askedId = some (rule.get "id").written := by
  rcases readable.id with null | textual
  · exact absurd (by rw [Members.isUnnumbered, null]) numbered
  · refine ⟨textual, ?_⟩
    unfold Members.isUnnumbered at numbered
    cases value : rule.get "id" with
    | str s =>
      rw [value] at numbered
      simp only [Json.askedId, if_neg numbered]
      rfl
    | int n => rfl
    | float x => rfl
    | null => rw [value] at textual; cases textual
    | bool b => rw [value] at textual; cases textual
    | arr items => rw [value] at textual; cases textual
    | obj members => rw [value] at textual; cases textual

/-! ## Why a binding stops -/

/-- A directory whose own rejections are of gateways only. -/
structure Directory.RejectsOnlyGateways (d : Directory) : Prop where
  gateway : ∀ past gatewayId rejection, d.gateway past gatewayId = .error (.rejected rejection) →
    ∃ name, rejection = .gatewayNotFound name
  interface : ∀ past gatewayId network rejection,
    d.interface past gatewayId network = .error (.rejected rejection) →
      ∃ name, rejection = .gatewayNotFound name

theorem Directory.RejectsOnlyGateways.raises {d : Directory} {rejection : Rejection}
    (only : d.RejectsOnlyGateways) (raised : d.Raises (.rejected rejection)) :
    ∃ name, rejection = .gatewayNotFound name := by
  rcases raised with ⟨_, _, refused⟩ | ⟨_, _, _, refused⟩
  · exact only.gateway _ _ _ refused
  · exact only.interface _ _ _ _ refused

namespace Compiler

section Stops

variable {answers : Text → Answer} {gatewayId : Text} {index : Nat}
  {rules : List (RuleIntent × Text)}

/-- Without a failure of the admission, only an answer without an interface stops a binding. -/
theorem exists_ofAnswer_of_bindRules {stop : Stop}
    (stopped : bindRules answers gatewayId none index rules = .error stop) :
    ∃ place network, stop = .ofAnswer gatewayId network place (answers network) := by
  induction rules generalizing index with
  | nil => cases stopped
  | cons entry rest ih =>
    obtain ⟨rule, id⟩ := entry
    unfold bindRules at stopped
    split at stopped
    · cases stopped
      exact ⟨index, rule.networkId, rfl⟩
    · exact ih (Except.map_eq_error_iff.mp stopped)

/-- A failure of the admission is what is left when all admitted rules are bound. -/
theorem bindRules_some {failure : Failure} :
    bindRules answers gatewayId (some failure) index rules =
      match bindRules answers gatewayId none index rules with
      | .ok _ => .error (.own failure)
      | .error stop => .error stop := by
  induction rules generalizing index with
  | nil => rfl
  | cons entry rest ih =>
    obtain ⟨rule, id⟩ := entry
    simp only [bindRules]
    split
    · rfl
    · rw [ih]
      cases bindRules answers gatewayId none (index + 1) rest <;> rfl

variable {d : Directory} {past : List Call} {intent : Json} {range : IdRange}

/-- What stops the admitted rules is a failure of the directory or an unknown network. -/
theorem failure_of_bindRules {networks : List Text} {stop : Stop}
    (stopped : bindRules (d.snapshot past gatewayId networks fun _ => .ok none) gatewayId none index
      rules = .error stop) :
    d.Raises stop.failure ∨
      ∃ network place, stop.failure =
        .rejected (.unknownNetwork gatewayId network (some place)) := by
  obtain ⟨place, network, rfl⟩ := exists_ofAnswer_of_bindRules stopped
  cases told : d.snapshot past gatewayId networks (fun _ => .ok none) network with
  | ok found => exact .inr ⟨network, place, rfl⟩
  | error cause => exact .inl (Directory.raises_of_snapshot told)

/-- A compilation fails with what the directory raises, for an unknown network, or with a fault of
the admission. -/
theorem failure_of_compile {failure : Failure}
    (failed : (compile d past gatewayId intent range).result = .error failure) :
    d.Raises failure ∨
      (∃ network place, failure = .rejected (.unknownNetwork gatewayId network (some place))) ∨
      (admission range intent).fault = some failure := by
  obtain ⟨stop, stopped, rfl⟩ := (compile_eq_error_iff fun _ => .ok none).mp failed
  unfold binding at stopped
  cases fault : (admission range intent).fault with
  | none =>
    rw [fault] at stopped
    exact (failure_of_bindRules stopped).imp_right .inl
  | some failure =>
    rw [fault, bindRules_some] at stopped
    split at stopped
    · cases stopped
      exact .inr (.inr rfl)
    · next earlier stoppedBefore =>
      cases stopped
      exact (failure_of_bindRules stoppedBefore).imp_right .inl

end Stops

end Compiler

/-! ## The first rules of an intent -/

/-- The service intent with the first of its rules, as many as a count. -/
def ServiceIntent.firstRules (intent : Json) (count : Nat) : Json :=
  match intent with
  | .obj members => ofRules members ((Compiler.rulesOf intent).take count)
  | other => other

theorem ServiceIntent.check_firstRules {intent : Json} {service : ServiceIntent} {count : Nat}
    (read : check intent = .valid service) :
    check (firstRules intent count) = .valid ⟨service.enabled, service.rules.take count⟩ := by
  obtain ⟨members, rfl, switch, enabled, -⟩ := check_eq_valid_iff.mp read
  have rules : Compiler.rulesOf (.obj members) = service.rules := by rw [Compiler.rulesOf, read]
  have flag := Members.optional_switch_eq_valid_iff.mpr ⟨switch, enabled⟩
  rw [firstRules, rules, check_ofRules, flag]
  rfl

namespace Compiler

variable {d : Directory} {past : List Call} {gatewayId : Text} {intent : Json} {range : IdRange}
  {service : ServiceIntent} {place : Nat} {rule : Members} {failure : Failure}

theorem rulesOf_of_valid (read : ServiceIntent.check intent = .valid service) :
    rulesOf intent = service.rules := by
  rw [rulesOf, read]

theorem admission_firstRules (read : ServiceIntent.check intent = .valid service) :
    admission range (ServiceIntent.firstRules intent place) =
      admitRules range 0 range.minimum (service.rules.take place) :=
  admission_of_valid (ServiceIntent.check_firstRules read)

/-- The rules before the first fault make the same admission, but for the fault. -/
theorem admission_of_faultAt (read : ServiceIntent.check intent = .valid service)
    (fault : FaultAt range 0 range.minimum service.rules place rule failure) :
    admission range intent =
      { admission range (ServiceIntent.firstRules intent place) with fault := some failure } := by
  rw [admission_of_valid read, admission_firstRules read, fault.admitRules_eq]

theorem fault_firstRules_of_faultAt (read : ServiceIntent.check intent = .valid service)
    (fault : FaultAt range 0 range.minimum service.rules place rule failure) :
    (admission range (ServiceIntent.firstRules intent place)).fault = none := by
  rw [admission_firstRules read]
  exact fault.before

/-- A faulty rule costs no call. -/
theorem calls_of_faultAt (read : ServiceIntent.check intent = .valid service)
    (fault : FaultAt range 0 range.minimum service.rules place rule failure) :
    Event.calls (compile d past gatewayId intent range).events =
      Event.calls
        (compile d past gatewayId (ServiceIntent.firstRules intent place) range).events := by
  rw [calls_compile, calls_compile, admission_of_faultAt read fault]
  rfl

/-- A compilation with a faulty rule ends like that of the rules before it, or else with the
fault. -/
theorem result_of_faultAt (read : ServiceIntent.check intent = .valid service)
    (fault : FaultAt range 0 range.minimum service.rules place rule failure) :
    (compile d past gatewayId intent range).result =
      match (compile d past gatewayId (ServiceIntent.firstRules intent place) range).result with
      | .ok _ => .error failure
      | .error earlier => .error earlier := by
  rw [result_compile fun _ => .ok none, result_compile fun _ => .ok none]
  unfold binding
  rw [fault_firstRules_of_faultAt read fault, admission_of_faultAt read fault, bindRules_some]
  simp only [Admission.networks]
  split
  · next bound => rw [bound]; rfl
  · next stopped => rw [stopped]; rfl

end Compiler

/-! ## Where a range is exhausted -/

/-- The range of a compilation is exhausted at a rule. -/
structure Exhausts (d : Directory) (past : List Call) (gatewayId : Text) (intent : Json)
    (range : IdRange) (place : Nat) : Prop where
  accepted : ∃ service, ServiceIntent.check intent = .valid service
  /-- As many rules before it ask for no id as the range has ids, and it asks for none. -/
  asks : (unnumberedAt (Compiler.rulesOf intent))[range.size]? = some place
  /-- The rules before it compile. -/
  before : ∃ document, (compile d past gatewayId (ServiceIntent.firstRules intent place)
    range).result = .ok document
  readable : ∃ rule type, (Compiler.rulesOf intent)[place]? = some rule ∧
    RuleIntent.Readable type rule

namespace IdRange

theorem not_mem_minimum_add_size (range : IdRange) : range.minimum + range.size ∉ range := by
  simp only [mem_iff, size]
  omega

/-- The first id that cannot be given out after some that can be is the one after the last. -/
theorem eq_size_of_grants {range : IdRange} {count : Nat}
    (granted : range.Grants range.minimum count) (outside : range.minimum + count ∉ range) :
    count = range.size := by
  have enough := (grants_minimum_iff.mp granted).1
  simp only [mem_iff, size] at *
  omega

end IdRange

namespace Compiler

variable {d : Directory} {past : List Call} {gatewayId : Text} {intent : Json} {range : IdRange}
  {service : ServiceIntent} {place : Nat}

/-- A rule at which the range is exhausted is the first with a fault. -/
theorem exists_faultAt_of_exhausts (read : ServiceIntent.check intent = .valid service)
    (exhausts : Exhausts d past gatewayId intent range place) :
    ∃ rule, FaultAt range 0 range.minimum service.rules place rule
      (exhausted range place (range.minimum + range.size)) := by
  obtain ⟨-, asks, ⟨document, compiled⟩, ⟨rule, type, here, readable⟩⟩ := exhausts
  rw [rulesOf_of_valid read] at asks here
  obtain ⟨⟨same, there, unnumbered⟩, count⟩ := getElem?_unnumberedAt_eq_some_iff.mp asks
  obtain rfl : rule = same := by rw [here] at there; exact Option.some.inj there
  refine ⟨rule, ⟨here, ?_, ?_⟩⟩
  · rw [← admission_firstRules read]
    exact fault_eq_none_of_compile compiled
  · rw [count, Nat.zero_add, admitRule_eq_error_iff]
    refine .inr ⟨⟨_, readRule_eq_ok_iff.mpr ⟨type, readable, rfl⟩⟩, ?_⟩
    rw [numberFault?, if_pos unnumbered, if_pos range.not_mem_minimum_add_size]

/-- An exhausted range ends the compilation before the rule costs a call. -/
theorem result_of_exhausts (exhausts : Exhausts d past gatewayId intent range place) :
    (compile d past gatewayId intent range).result =
        .error (exhausted range place (range.minimum + range.size)) ∧
      Event.calls (compile d past gatewayId intent range).events =
        Event.calls (compile d past gatewayId (ServiceIntent.firstRules intent place)
          range).events := by
  obtain ⟨service, read⟩ := exhausts.accepted
  obtain ⟨rule, fault⟩ := exists_faultAt_of_exhausts read exhausts
  obtain ⟨document, compiled⟩ := exhausts.before
  refine ⟨?_, calls_of_faultAt read fault⟩
  rw [result_of_faultAt read fault, compiled]

/-- An exhausted range that cannot be told is an outage. -/
theorem unwritable_of_exhausts (exhausts : Exhausts d past gatewayId intent range place)
    (tooLong : ¬(Decimal.isWritable (range.minimum + range.size) = true ∧
      Decimal.isWritable range.maximum = true)) :
    (compile d past gatewayId intent range).result = .error (.outage .unwritable) := by
  rw [(result_of_exhausts exhausts).1, exhausted_of_tooLong tooLong]

/-- If every rule is admitted, no range is exhausted. -/
theorem result_ne_exhausted {index id maximum : Int} (only : d.RejectsOnlyGateways)
    (faultless : (admission range intent).fault = none) :
    (compile d past gatewayId intent range).result ≠
      .error (.rejected (.idRangeExhausted index id maximum)) := by
  intro failed
  rcases failure_of_compile failed with raised | ⟨network, place, other⟩ | fault
  · obtain ⟨name, other⟩ := only.raises raised
    cases other
  · cases other
  · rw [faultless] at fault
    cases fault

/-- If a range is exhausted at a rule with a fault, the rule asks for the first id after it. -/
theorem FaultAt.asks {rules : List Members} {rule : Members} {index id maximum : Int}
    (fault : FaultAt range 0 range.minimum rules place rule
      (.rejected (.idRangeExhausted index id maximum))) :
    (unnumberedAt rules)[range.size]? = some place ∧ ∃ type, RuleIntent.Readable type rule := by
  rcases admitRule_eq_error_iff.mp fault.refused with
    ⟨rejection, unread, same⟩ | ⟨⟨read, readable⟩, missing⟩
  · have reading := ofReading_of_readRule unread
    cases same
    cases reading
  · obtain ⟨unnumbered, outside⟩ := numberFault?_eq_exhausted missing
    have granted := (admitRules_fault_eq_none_iff.mp fault.before).2
    have count := IdRange.eq_size_of_grants granted outside
    obtain ⟨type, readable, -⟩ := readRule_eq_ok_iff.mp readable
    refine ⟨?_, type, readable⟩
    exact getElem?_unnumberedAt_eq_some_iff.mpr ⟨⟨rule, fault.here, unnumbered⟩, count⟩

/-- The rejection of an exhausted range comes from a rule at which it is exhausted. -/
theorem exists_exhausts_of_result {index id maximum : Int} (only : d.RejectsOnlyGateways)
    (failed : (compile d past gatewayId intent range).result =
      .error (.rejected (.idRangeExhausted index id maximum))) :
    ∃ place, Exhausts d past gatewayId intent range place := by
  -- without a fault of a rule, only the directory could have made up the rejection
  cases fault : (admission range intent).fault with
  | none => exact absurd failed (result_ne_exhausted only fault)
  | some failure =>
    cases read : ServiceIntent.check intent with
    | invalid issue more =>
      rw [compile, read] at failed
      obtain ⟨rule, field, reason, same⟩ := Rejection.exists_ofServiceIssue issue
      simp [same] at failed
    | valid service =>
      rw [admission_of_valid read] at fault
      obtain ⟨place, rule, faultAt⟩ := exists_faultAt fault
      rw [result_of_faultAt read faultAt] at failed
      cases before : (compile d past gatewayId (ServiceIntent.firstRules intent place)
          range).result with
      | error earlier =>
        rw [before] at failed
        cases failed
        exact absurd before (result_ne_exhausted only (fault_firstRules_of_faultAt read faultAt))
      | ok document =>
        rw [before] at failed
        cases failed
        obtain ⟨asks, type, readable⟩ := faultAt.asks
        rw [← rulesOf_of_valid read] at asks
        have here : (rulesOf intent)[place]? = some rule := by
          rw [rulesOf_of_valid read]
          exact faultAt.here
        exact ⟨place, ⟨service, read⟩, asks, ⟨document, before⟩, ⟨rule, type, here, readable⟩⟩

/-! ## The ids of a document by their places -/

theorem getElem?_ids_of_compile {document : Document}
    (compiled : (compile d past gatewayId intent range).result = .ok document) :
    document.ids[place]? =
      (rulesOf intent)[place]?.map (idAt range.minimum (rulesOf intent) place) := by
  rw [ids_of_compile compiled, List.getElem?_mapIdx]

/-- A rule that asks for no id has the id of its number, which is in the range. -/
theorem getElem?_ids_of_unnumberedAt {document : Document} {k : Nat}
    (compiled : (compile d past gatewayId intent range).result = .ok document)
    (unnumbered : (unnumberedAt (rulesOf intent))[k]? = some place) :
    range.minimum + k ∈ range ∧ document.ids[place]? = some (idOf (range.minimum + k)) := by
  obtain ⟨⟨rule, here, asksNone⟩, rfl⟩ := getElem?_unnumberedAt_eq_some_iff.mp unnumbered
  constructor
  · have faultless := fault_eq_none_of_compile compiled
    obtain ⟨service, read⟩ := exists_valid_of_fault_eq_none faultless
    rw [admission_of_valid read, ← rulesOf_of_valid read] at faultless
    have granted := (admitRules_fault_eq_none_iff.mp faultless).2
    refine (granted _ ?_).1
    obtain ⟨below, -⟩ := List.getElem?_eq_some_iff.mp unnumbered
    rwa [unnumberedAt, List.length_findIdxs] at below
  · rw [getElem?_ids_of_compile compiled, here, Option.map_some, idAt,
      Members.askedId_eq_none_iff.mpr asksNone]
    rfl

/-- Any other rule has the id that it asks for. -/
theorem getElem?_ids_of_numbered {document : Document} {rule : Members}
    (compiled : (compile d past gatewayId intent range).result = .ok document)
    (here : (rulesOf intent)[place]? = some rule)
    (numbered : place ∉ unnumberedAt (rulesOf intent)) :
    (rule.get "id").Textual ∧ document.ids[place]? = some (rule.get "id").written := by
  have faultless := fault_eq_none_of_compile compiled
  obtain ⟨service, read⟩ := exists_valid_of_fault_eq_none faultless
  rw [admission_of_valid read, ← rulesOf_of_valid read] at faultless
  obtain ⟨type, readable⟩ := (admitRules_fault_eq_none_iff.mp faultless).1 rule
    (List.mem_of_getElem? here)
  have asksOne : ¬rule.isUnnumbered = true := by
    intro asksNone
    exact numbered (List.mem_of_getElem?
      (getElem?_unnumberedAt_eq_some_iff.mpr ⟨⟨rule, here, asksNone⟩, rfl⟩))
  obtain ⟨textual, asked⟩ := askedId_of_numbered readable asksOne
  refine ⟨textual, ?_⟩
  rw [getElem?_ids_of_compile compiled, here, Option.map_some, idAt, asked, Option.getD_some]

end Compiler

/-! ## Two rules and at most one id -/

/-- A static directory rejects unknown gateways only. -/
theorem StaticDirectory.rejectsOnlyGateways (d : StaticDirectory) :
    d.toDirectory.RejectsOnlyGateways := by
  constructor
  · intro past gatewayId rejection refused
    simp only [toDirectory, findGateway] at refused
    cases held : d.networks? gatewayId with
    | none =>
      rw [held] at refused
      cases refused
      exact ⟨gatewayId, rfl⟩
    | some networks =>
      rw [held] at refused
      cases refused
  · intro past gatewayId network rejection refused
    simp only [toDirectory, findInterface, findGateway] at refused
    cases held : d.networks? gatewayId with
    | none =>
      rw [held] at refused
      cases refused
      exact ⟨gatewayId, rfl⟩
    | some networks =>
      rw [held] at refused
      cases refused

namespace TwoRules

theorem rejectsOnlyGateways : directory.RejectsOnlyGateways :=
  StaticDirectory.rejectsOnlyGateways _

/-- An intent in which no rule asks for an id. -/
def unnumbered : Json := .obj [("nat_rules", .arr [.obj rule, .obj rule])]

/-- A range is exhausted at the rule whose place is the number of its ids. -/
theorem exhausts_of_size {range : IdRange} {place : Nat} (below : place < 2)
    (size : range.size = place)
    (before : ∃ document, (compile directory [] "edge" (ServiceIntent.firstRules unnumbered place)
      range).result = .ok document) : Exhausts directory [] "edge" unnumbered range place := by
  have rules : Compiler.rulesOf unnumbered = [rule, rule] := by decide
  obtain ⟨asks, here⟩ : (unnumberedAt [rule, rule])[place]? = some place ∧
      [rule, rule][place]? = some rule := by
    obtain rfl | rfl : place = 0 ∨ place = 1 := by omega
    · decide
    · decide
  refine ⟨⟨⟨"true", [rule, rule]⟩, by decide⟩, ?asks, before, rule, .snat, ?here, readable_rule⟩
  case asks => rw [size, rules, asks]
  case here => rw [rules, here]

/-- A range of one id is exhausted at the second rule. -/
theorem exhausts_of_isWritable {id : Int} (written : Decimal.isWritable id = true) :
    Exhausts directory [] "edge" unnumbered ⟨id, id⟩ 1 := by
  have first : ServiceIntent.firstRules unnumbered 1 =
      .obj [("nat_rules", .arr [.obj rule])] := by decide
  have compilable : Compilable ⟨[("edge", [("web", [])])]⟩ "edge" ⟨id, id⟩
      [("nat_rules", .arr [.obj rule])] [rule] :=
    ⟨fits_rule id, .inl ⟨written, written⟩⟩
  refine exhausts_of_size (by decide) (by simp [IdRange.size]) ?_
  rw [first]
  exact ⟨_, Compiler.compile_of_compilable compilable⟩

/-- A range without ids is exhausted at the first rule. -/
theorem exhausts_of_lt {minimum maximum : Int} (reversed : maximum < minimum) :
    Exhausts directory [] "edge" unnumbered ⟨minimum, maximum⟩ 0 := by
  refine exhausts_of_size (by decide) ?_ ⟨⟨"true", []⟩, rfl⟩
  simp only [IdRange.size]
  omega

/-- The id after the greatest one that can be written cannot be named. -/
theorem result_of_greatest :
    (compile directory [] "edge" unnumbered ⟨Decimal.greatest, Decimal.greatest⟩).result =
      .error (.outage .unwritable) := by
  have one : IdRange.size ⟨Decimal.greatest, Decimal.greatest⟩ = 1 := by simp [IdRange.size]
  refine Compiler.unwritable_of_exhausts (exhausts_of_isWritable Decimal.isWritable_greatest) ?_
  rw [one]
  exact fun written => Decimal.not_isWritable_greatest_add_one written.1

end TwoRules

/-! ## Which rule has which id -/

/-- A document numbers the rules that ask for no id from the minimum of the range on, and all other
rules keep their ids.  A range is found to be exhausted exactly at a rule at which it is, unless an
id is too long to be written, and that rule costs no call. -/
theorem compile_allocates (d : Directory) (past : List Call) (gatewayId : Text) (intent : Json)
    (range : IdRange) (only : d.RejectsOnlyGateways) :
    let run := compile d past gatewayId intent range
    let before := fun place =>
      compile d past gatewayId (ServiceIntent.firstRules intent place) range
    let rules := Compiler.rulesOf intent
    let next := range.minimum + range.size
    let written := Decimal.isWritable next = true ∧ Decimal.isWritable range.maximum = true
    (∀ document, run.result = .ok document →
      document.ids.length = rules.length ∧
        (∀ (k place : Nat), (unnumberedAt rules)[k]? = some place →
          range.minimum + k ∈ range ∧ document.ids[place]? = some (idOf (range.minimum + k))) ∧
        (∀ place ∈ unnumberedAt rules, ∀ other ∈ unnumberedAt rules,
          document.ids[place]? = document.ids[other]? → place = other) ∧
        (∀ place rule, rules[place]? = some rule → place ∉ unnumberedAt rules →
          (rule.get "id").Textual ∧ document.ids[place]? = some (rule.get "id").written)) ∧
      (∀ index id maximum,
        run.result = .error (.rejected (.idRangeExhausted index id maximum)) ↔
          ∃ place, Exhausts d past gatewayId intent range place ∧ written ∧
            index = place ∧ id = next ∧ maximum = range.maximum) ∧
      ∀ place, Exhausts d past gatewayId intent range place →
        range.maximum < next ∧ Event.calls run.events = Event.calls (before place).events ∧
          (¬written → run.result = .error (.outage .unwritable)) := by
  intro run before rules next written
  refine ⟨?document, ?exhausted, ?place⟩
  case document =>
    intro document compiled
    refine ⟨?_, ?_, ?_, ?_⟩
    · rw [Compiler.ids_of_compile compiled, List.length_mapIdx]
    · intro k place unnumbered
      exact Compiler.getElem?_ids_of_unnumberedAt compiled unnumbered
    · intro place member other otherMember same
      obtain ⟨k, unnumbered⟩ := List.mem_iff_getElem?.mp member
      obtain ⟨l, otherUnnumbered⟩ := List.mem_iff_getElem?.mp otherMember
      rw [(Compiler.getElem?_ids_of_unnumberedAt compiled unnumbered).2,
        (Compiler.getElem?_ids_of_unnumberedAt compiled otherUnnumbered).2,
        Option.some.injEq] at same
      -- equal ids have equal numbers
      have equal := idOf_injective same
      obtain rfl : k = l := by omega
      rw [unnumbered] at otherUnnumbered
      exact Option.some.inj otherUnnumbered
    · intro place rule here numbered
      exact Compiler.getElem?_ids_of_numbered compiled here numbered
  case exhausted =>
    intro index id maximum
    constructor
    · intro failed
      obtain ⟨place, exhausts⟩ := Compiler.exists_exhausts_of_result only failed
      have reason := (Compiler.result_of_exhausts exhausts).1.symm.trans failed
      exact ⟨place, exhausts, Compiler.exhausted_eq_rejected_iff.mp (Except.error.inj reason)⟩
    · rintro ⟨place, exhausts, same⟩
      exact (Compiler.result_of_exhausts exhausts).1.trans
        (congrArg Except.error (Compiler.exhausted_eq_rejected_iff.mpr same))
  case place =>
    intro place exhausts
    refine ⟨?_, (Compiler.result_of_exhausts exhausts).2, ?_⟩
    · simp only [next, IdRange.size]
      omega
    · exact Compiler.unwritable_of_exhausts exhausts

/-- An id of zero is an id, one of blanks is none, and one with blanks around it is kept. -/
example :
    let ids : List Json := [.null, .int 0, .str "  7 ", .str " "]
    let rules := ids.map fun id => .obj (("id", id) :: TwoRules.rule)
    (compile TwoRules.directory [] "edge" (.obj [("nat_rules", .arr rules)])
        ⟨65537, 131072⟩).result.map Document.ids = .ok ["65537", "0", "  7 ", "65538"] := by
  decide

/-- The second rule asks for the id after the only one. -/
theorem exhausted_after_one :
    TwoRules.directory.RejectsOnlyGateways ∧
      (compile TwoRules.directory [] "edge" TwoRules.unnumbered ⟨65537, 65537⟩).result =
        .error (.rejected (.idRangeExhausted 1 65538 65537)) := by
  have only := TwoRules.rejectsOnlyGateways
  obtain ⟨-, exhausted_iff, -⟩ :=
    compile_allocates TwoRules.directory [] "edge" TwoRules.unnumbered ⟨65537, 65537⟩ only
  refine ⟨only, (exhausted_iff 1 65538 65537).mpr ?_⟩
  exact ⟨1, TwoRules.exhausts_of_isWritable (by decide), by decide, rfl, rfl, rfl⟩

/-- A range may be exhausted without saying so, if the id that is next is too long to be written. -/
theorem not_forall_exhausts_rejected :
    ¬∀ (d : Directory) (past : List Call) (gatewayId : Text) (intent : Json) (range : IdRange)
      (place : Nat), d.RejectsOnlyGateways → Exhausts d past gatewayId intent range place →
        (compile d past gatewayId intent range).result =
          .error (.rejected (.idRangeExhausted place (range.minimum + range.size)
            range.maximum)) := by
  intro all
  have rejected := all _ _ _ _ _ _ TwoRules.rejectsOnlyGateways
    (TwoRules.exhausts_of_isWritable Decimal.isWritable_greatest)
  rw [TwoRules.result_of_greatest] at rejected
  cases rejected

end GatewayNat
