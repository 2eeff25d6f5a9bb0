import GatewayNat.Proofs.Allocation
import GatewayNat.Proofs.FieldFaults

/-!
# Faults of a service intent

A service intent is rejected as a whole before any of its rules is read
(`ServiceIntent.Fault`).

* It is not an object.
* Its flag is neither null nor a truth value nor a text.
* Its rules are given and are not a list.
* One of its rules is not an object.  The first such rule is blamed, whatever the
  rules before it say.

The first of these that holds is told, and nothing is done before it is told: no
call is made and no record is written.  A compilation has no other rejection
that reads like one of them (`compile_rejects_service`).  The rejections of a
rule blame the rule and one of its fields, and those of the directory are the
directory's own.
-/

namespace GatewayNat

/-- A rejection for a field that blames no rule, or a field that no rule has. -/
def Rejection.OfService : Rejection → Prop
  | .invalidField rule field _ => rule = none ∨ field = "intent" ∨ field = "nat_rules"
  | _ => False

namespace ServiceIntent

/-- What a value is rejected for as a service intent. -/
inductive Fault : Json → Rejection → Prop where
  | notObject {value : Json} (other : ∀ members, value ≠ .obj members) :
    Fault value (.invalidField none "intent"
      "Input should be a valid dictionary or instance of NatServiceIntent")
  | flag {members : Members} (wrong : ¬(members.get "enabled").SwitchLike) :
    Fault (.obj members) (.invalidField none "enabled" "Input should be a valid string")
  | notList {members : Members} {rules : Json} (switch : (members.get "enabled").SwitchLike)
    (given : members.find? "nat_rules" = some rules) (other : ∀ items, rules ≠ .arr items) :
    Fault (.obj members) (.invalidField none "nat_rules" "Input should be a valid list")
  | rule {members : Members} {items : List Json} {index : Nat} {item : Json}
    (switch : (members.get "enabled").SwitchLike)
    (given : members.find? "nat_rules" = some (.arr items))
    (here : items[index]? = some item) (other : ∀ inner, item ≠ .obj inner)
    (before : ∀ earlier < index, ∃ inner, items[earlier]? = some (.obj inner)) :
    Fault (.obj members)
      (.invalidField (some (index : Int)) "nat_rules" "Input should be a valid dictionary")

theorem Fault.ofService {value : Json} {rejection : Rejection} (fault : Fault value rejection) :
    rejection.OfService := by
  cases fault with
  | notObject other => exact .inl rfl
  | flag wrong => exact .inl rfl
  | notList switch given other => exact .inl rfl
  | rule switch given here other before => exact .inr (.inr rfl)

end ServiceIntent

/-! ## The first issue of a service intent -/

namespace Json

variable {value : Json}

theorem issues_asServiceEnabled_of_switchLike (switch : value.SwitchLike) :
    value.asServiceEnabled.issues = [] :=
  Checked.issues_eq_nil_iff.mpr ⟨_, asServiceEnabled_eq_valid_iff.mpr ⟨switch, rfl⟩⟩

theorem issues_asServiceEnabled_of_not (wrong : ¬value.SwitchLike) :
    value.asServiceEnabled.issues = [⟨.notText, [], value⟩] := by
  cases value with
  | null => exact absurd (.inl rfl) wrong
  | bool b => exact absurd (.inr (.inl ⟨b, rfl⟩)) wrong
  | str s => exact absurd (.inr (.inr ⟨s, rfl⟩)) wrong
  | int n => rfl
  | float x => rfl
  | arr items => rfl
  | obj members => rfl

theorem issues_asObject_of_not (other : ∀ members, value ≠ .obj members) :
    value.asObject.issues = [⟨.notObject, [], value⟩] := by
  cases value with
  | obj members => exact absurd rfl (other members)
  | null => rfl
  | bool b => rfl
  | int n => rfl
  | float x => rfl
  | str s => rfl
  | arr items => rfl

theorem issues_asObject_eq_nil_iff :
    value.asObject.issues = [] ↔ ∃ members, value = .obj members := by
  simp only [Checked.issues_eq_nil_iff, asObject_eq_valid_iff]

theorem issues_asList_of_not {α : Type} {check : Json → Checked α}
    (other : ∀ items, value ≠ .arr items) :
    (asList check value).issues = [⟨.notList, [], value⟩] := by
  cases value with
  | arr items => exact absurd rfl (other items)
  | null => rfl
  | bool b => rfl
  | int n => rfl
  | float x => rfl
  | str s => rfl
  | obj members => rfl

/-- The first issue of a list of objects is the first item that is none. -/
theorem head?_issues_asList_asObject_eq_some_iff {items : List Json} {issue : Issue} :
    (asList asObject (.arr items)).issues.head? = some issue ↔
      ∃ place item, items[place]? = some item ∧ (∀ inner, item ≠ .obj inner) ∧
        (∀ earlier < place, ∃ inner, items[earlier]? = some (.obj inner)) ∧
        issue = ⟨.notObject, [.item place], item⟩ := by
  rw [asList, Checked.head?_issues_items_eq_some_iff]
  constructor
  · rintro ⟨place, item, first, ⟨here, passed, wrong⟩, rfl⟩
    have other : ∀ inner, item ≠ .obj inner := by
      rintro inner rfl
      cases wrong
    rw [issues_asObject_of_not other] at wrong
    cases wrong
    refine ⟨place, item, here, other, ?_, by rw [Nat.zero_add]; rfl⟩
    intro earlier below
    have inside := Nat.lt_trans below (List.getElem?_eq_some_iff.mp here).1
    obtain ⟨inner, same⟩ := issues_asObject_eq_nil_iff.mp
      (passed earlier below _ (List.getElem?_eq_getElem inside))
    exact ⟨inner, by rw [List.getElem?_eq_getElem inside, same]⟩
  · rintro ⟨place, item, here, other, before, rfl⟩
    have first : item.asObject.issues.head? = some ⟨.notObject, [], item⟩ := by
      rw [issues_asObject_of_not other]
      rfl
    refine ⟨place, item, _, ⟨here, ?_, first⟩, by rw [Nat.zero_add]; rfl⟩
    intro earlier below another stands
    obtain ⟨inner, same⟩ := before earlier below
    rw [stands] at same
    exact issues_asObject_eq_nil_iff.mpr ⟨inner, Option.some.inj same⟩

end Json

namespace ServiceIntent

variable {members : Members} {value : Json} {issue : Issue}

/-- The first issue of a value that is read as a service intent. -/
def firstIssue? (value : Json) : Option Issue := (check value).issues.head?

theorem firstIssue?_of_not_obj (other : ∀ members, value ≠ .obj members) :
    firstIssue? value = some ⟨.notRecord recordName, [], value⟩ := by
  cases value with
  | obj members => exact absurd rfl (other members)
  | null => rfl
  | bool b => rfl
  | int n => rfl
  | float x => rfl
  | str s => rfl
  | arr items => rfl

/-- The first issue of an object is that of its flag, or else that of its rules. -/
theorem firstIssue?_obj (members : Members) :
    firstIssue? (.obj members) =
      ((members.get "enabled").asServiceEnabled.issues.head?.map (Issue.under (.name "enabled"))).or
        (members.optional "nat_rules" [] (Json.asList Json.asObject)).issues.head? := by
  have readsNull : Json.asServiceEnabled .null = .valid (.ofString "true") := rfl
  rw [firstIssue?, check, checkFields, Checked.issues_seq, Checked.issues_map,
    Members.issues_optional readsNull, List.head?_append, List.head?_map]

theorem firstIssue?_of_flag (wrong : ¬(members.get "enabled").SwitchLike) :
    firstIssue? (.obj members) = some ⟨.notText, [.name "enabled"], members.get "enabled"⟩ := by
  rw [firstIssue?_obj, Json.issues_asServiceEnabled_of_not wrong]
  rfl

theorem firstIssue?_of_switchLike (switch : (members.get "enabled").SwitchLike) :
    firstIssue? (.obj members) =
      (members.optional "nat_rules" [] (Json.asList Json.asObject)).issues.head? := by
  rw [firstIssue?_obj, Json.issues_asServiceEnabled_of_switchLike switch]
  rfl

/-- With a flag that can be read and rules that are given, the first issue is that of the rules. -/
theorem firstIssue?_of_find? (switch : (members.get "enabled").SwitchLike)
    (given : members.find? "nat_rules" = some value) :
    firstIssue? (.obj members) =
      (Json.asList Json.asObject value).issues.head?.map (Issue.under (.name "nat_rules")) := by
  rw [firstIssue?_of_switchLike switch, Members.issues_optional_of_find? given, List.head?_map]

/-! ## A fault is a first issue -/

/-- A service intent is rejected for its first issue. -/
theorem Fault.of_firstIssue? (first : firstIssue? value = some issue) :
    Fault value (.ofServiceIssue issue) := by
  by_cases object : ∃ members : Members, value = .obj members
  case neg =>
    have other : ∀ members, value ≠ .obj members := fun members same => object ⟨members, same⟩
    rw [firstIssue?_of_not_obj other] at first
    cases first
    exact .notObject other
  case pos =>
    obtain ⟨members, rfl⟩ := object
    by_cases switch : (members.get "enabled").SwitchLike
    case neg =>
      rw [firstIssue?_of_flag switch] at first
      cases first
      exact .flag switch
    case pos =>
      cases given : members.find? "nat_rules" with
      | none =>
        rw [firstIssue?_of_switchLike switch, Members.optional, given] at first
        cases first
      | some rules =>
        rw [firstIssue?_of_find? switch given, Option.map_eq_some_iff] at first
        obtain ⟨inner, first, rfl⟩ := first
        by_cases list : ∃ items, rules = .arr items
        case neg =>
          have other : ∀ items, rules ≠ .arr items := fun items same => list ⟨items, same⟩
          rw [Json.issues_asList_of_not other] at first
          cases first
          exact .notList switch given other
        case pos =>
          obtain ⟨items, rfl⟩ := list
          obtain ⟨place, item, here, other, before, rfl⟩ :=
            Json.head?_issues_asList_asObject_eq_some_iff.mp first
          exact .rule switch given here other before

theorem Fault.exists_firstIssue? {rejection : Rejection} (fault : Fault value rejection) :
    ∃ issue, firstIssue? value = some issue ∧ .ofServiceIssue issue = rejection := by
  cases fault with
  | notObject other => exact ⟨_, firstIssue?_of_not_obj other, rfl⟩
  | flag wrong => exact ⟨_, firstIssue?_of_flag wrong, rfl⟩
  | @notList members rules switch given other =>
    refine ⟨Issue.under (.name "nat_rules") ⟨.notList, [], rules⟩, ?_, rfl⟩
    rw [firstIssue?_of_find? switch given, Json.issues_asList_of_not other]
    rfl
  | @rule members items index item switch given here other before =>
    refine ⟨Issue.under (.name "nat_rules") ⟨.notObject, [.item index], item⟩, ?_, rfl⟩
    rw [firstIssue?_of_find? switch given,
      Json.head?_issues_asList_asObject_eq_some_iff.mpr
        ⟨index, item, here, other, before, rfl⟩]
    rfl

end ServiceIntent

/-! ## Compiling an intent with a fault -/

namespace Compiler

variable {d : Directory} {past : List Call} {gatewayId : Text} {intent : Json} {range : IdRange}
  {rejection : Rejection}

/-- An intent with a fault is rejected for it before anything is done. -/
theorem compile_of_fault (fault : ServiceIntent.Fault intent rejection) :
    compile d past gatewayId intent range = ⟨.error (.rejected rejection), []⟩ := by
  obtain ⟨issue, first, rfl⟩ := fault.exists_firstIssue?
  obtain ⟨more, unread⟩ := Checked.exists_eq_invalid_iff.mpr first
  rw [compile, unread]

/-- An intent that cannot be read has a fault. -/
theorem exists_fault_of_invalid {issue : Issue} {more : List Issue}
    (unread : ServiceIntent.check intent = .invalid issue more) :
    ServiceIntent.Fault intent (.ofServiceIssue issue) :=
  .of_firstIssue? (Checked.exists_eq_invalid_iff.mp ⟨more, unread⟩)

/-- A rejection that reads like one of a service intent is none of a rule. -/
theorem not_ofService_of_readRule {index : Nat} {members : Members}
    (unread : readRule index members = .error rejection) : ¬rejection.OfService := by
  intro service
  have reading := ofReading_of_readRule unread
  cases reading with
  | missingField field => exact service
  | ruleType value => exact service
  | invalidField field reason =>
    cases known : RuleType.ofJson? (members.get "rule_type") with
    | none =>
      rw [readRule_of_untyped known] at unread
      split at unread
      · cases unread
      · cases unread
    | some type =>
      have typed := RuleType.ofJson?_eq_some_iff.mp known
      obtain ⟨-, -, -, first⟩ := (readRule_eq_invalidField_iff typed).mp unread
      have member := first.mem
      rcases service with none | rfl | rfl
      · cases none
      · revert member
        cases type <;> decide
      · revert member
        cases type <;> decide

/-- Nor is it one of numbering. -/
theorem not_ofService_of_numberFault? {index : Nat} {next : Int} {members : Members}
    (missing : numberFault? range index next members = some (.rejected rejection)) :
    ¬rejection.OfService := by
  unfold numberFault? exhausted at missing
  split at missing
  · split at missing
    · split at missing
      · cases missing
        exact id
      · cases missing
    · split at missing
      · cases missing
      · cases missing
  · cases missing

/-- A rejection that ends the admission and reads like one of a service intent is one. -/
theorem fault_of_admission (service : rejection.OfService)
    (faulty : (admission range intent).fault = some (.rejected rejection)) :
    ServiceIntent.Fault intent rejection := by
  cases read : ServiceIntent.check intent with
  | invalid issue more =>
    rw [admission, read] at faulty
    cases faulty
    exact exists_fault_of_invalid read
  | valid accepted =>
    rw [admission_of_valid read] at faulty
    obtain ⟨place, rule, -, -, refused⟩ := exists_faultAt faulty
    rcases admitRule_eq_error_iff.mp refused with ⟨other, unread, same⟩ | ⟨-, missing⟩
    · cases same
      exact absurd service (not_ofService_of_readRule unread)
    · exact absurd service (not_ofService_of_numberFault? missing)

end Compiler

/-- A directory that makes up no rejection of a field. -/
def Directory.BlamesNoField (d : Directory) : Prop :=
  ∀ rule field reason, ¬d.Raises (.rejected (.invalidField rule field reason))

theorem Directory.RejectsOnlyGateways.blamesNoField {d : Directory}
    (only : d.RejectsOnlyGateways) : d.BlamesNoField := by
  intro rule field reason raised
  obtain ⟨name, other⟩ := only.raises raised
  cases other

/-- A compilation is rejected for its service intent exactly if the intent has that fault, which it
has before anything is done.  A directory may keep state and fail, but it makes up no rejection of a
field. -/
theorem compile_rejects_service (d : Directory) (past : List Call) (gatewayId : Text)
    (intent : Json) (range : IdRange) (own : d.BlamesNoField) :
    let run := compile d past gatewayId intent range
    (∀ rejection, rejection.OfService →
        (run.result = .error (.rejected rejection) ↔ ServiceIntent.Fault intent rejection)) ∧
      ∀ rejection, ServiceIntent.Fault intent rejection →
        rejection.OfService ∧ run.result = .error (.rejected rejection) ∧ run.events = [] := by
  intro run
  have rejects : ∀ rejection, ServiceIntent.Fault intent rejection →
      run = ⟨.error (.rejected rejection), []⟩ := fun _ fault => Compiler.compile_of_fault fault
  refine ⟨?_, ?_⟩
  · intro rejection service
    constructor
    · intro failed
      rcases Compiler.failure_of_compile failed with raised | ⟨network, place, same⟩ | faulty
      · cases rejection with
        | invalidField rule field reason => exact absurd raised (own rule field reason)
        | _ => exact absurd service id
      · cases same
        exact absurd service id
      · exact Compiler.fault_of_admission service faulty
    · intro fault
      rw [rejects rejection fault]
  · intro rejection fault
    rw [rejects rejection fault]
    exact ⟨fault.ofService, rfl, rfl⟩

namespace TwoRules

/-- An intent with a rule that cannot be read and a rule that is no object. -/
def wrongTwice : Json := .obj [("nat_rules", .arr [.obj [], .int 7])]

theorem fault_wrongTwice :
    ServiceIntent.Fault wrongTwice
      (.invalidField (some (1 : Nat)) "nat_rules" "Input should be a valid dictionary") := by
  refine .rule (.inl rfl) rfl rfl (by simp) ?_
  intro earlier below
  obtain rfl : earlier = 0 := by omega
  exact ⟨[], rfl⟩

end TwoRules

/-- The second rule is no object.  That comes before the first rule, which cannot be read. -/
theorem rejected_for_second_rule :
    TwoRules.directory.BlamesNoField ∧
      (compile TwoRules.directory [] "edge" TwoRules.wrongTwice ⟨65537, 131072⟩).result =
        .error (.rejected (.invalidField (some 1) "nat_rules"
          "Input should be a valid dictionary")) := by
  have own := TwoRules.rejectsOnlyGateways.blamesNoField
  obtain ⟨-, rejects⟩ :=
    compile_rejects_service TwoRules.directory [] "edge" TwoRules.wrongTwice ⟨65537, 131072⟩ own
  exact ⟨own, (rejects _ TwoRules.fault_wrongTwice).2.1⟩

end GatewayNat
