import GatewayNat.Proofs.SameReading

/-!
# Faults of a rule

A rule is read in four steps, and the first that fails is what it is rejected
for (`readRule_tells_first_fault`).

* It names a type at all.
* The type is one of the two that are known.
* No required field of the type is null or left out.
* No field has a value that it cannot be read from.

The third step is that of the first layer and the fourth that of the second.
Each goes through the fields in its own order (`RuleType.textualFields`,
`RuleType.valueFields`).  The second layer looks for fields that are left out
too, but the first one has found them before, so it never tells of any.

If no required field is left out, the issues of the second layer are those of
the fields with a wrong value, one for each (`RuleIntent.issues_checkFields`).
-/

namespace GatewayNat

/-- The fields of a type that are read from values, in their order. -/
def RuleType.valueFields : RuleType → List String
  | .snat => ["network_id", "original_ip", "translated_ip", "enabled", "id"]
  | .dnat =>
    ["network_id", "original_ip", "translated_ip", "enabled", "id", "original_port",
      "translated_port", "protocol"]

/-- Whether a field cannot be read from a value.  Only `enabled` can be read from a truth value. -/
def Json.isUnusableFor (field : String) : Json → Bool
  | .bool _ => field ≠ "enabled"
  | .arr _ | .obj _ => true
  | _ => false

theorem RuleType.name_injective : Function.Injective name := by
  intro type other same
  exact Option.some.inj ((ofName?_name type).symm.trans (same ▸ ofName?_name other))

theorem RuleType.ofJson?_eq_none_iff {value : Json} :
    ofJson? value = none ↔ ∀ type : RuleType, value ≠ .str type.name := by
  simp only [Option.eq_none_iff_forall_ne_some, ne_eq, ofJson?_eq_some_iff]

namespace Members

/-- The required field is null or left out. -/
def Lacks (members : Members) (field : String) : Prop := members.get field = .null

/-- The field has a value that it cannot be read from. -/
def Misuses (members : Members) (field : String) : Prop :=
  (members.get field).isUnusableFor field = true

instance (members : Members) : DecidablePred members.Lacks :=
  fun field => inferInstanceAs (Decidable (members.get field = .null))

instance (members : Members) : DecidablePred members.Misuses :=
  fun field => inferInstanceAs (Decidable ((members.get field).isUnusableFor field = true))

/-- The issue of a field that cannot be read from its value. -/
def misuse (members : Members) (field : String) : Issue :=
  ⟨.notText, [.name field], members.get field⟩

/-- The issues of a field. -/
def misuses (members : Members) (field : String) : List Issue :=
  if members.Misuses field then [members.misuse field] else []

end Members

/-! ## The issues of one field -/

namespace Json

variable {value : Json} {field : String}

theorem issues_asTextOfNumber (given : value ≠ .null) (apart : field ≠ "enabled") :
    value.asTextOfNumber.issues =
      if value.isUnusableFor field then [⟨.notText, [], value⟩] else [] := by
  cases value with
  | null => exact absurd rfl given
  | bool b =>
    rw [if_pos (by simpa [isUnusableFor] using apart)]
    rfl
  | int n => rfl
  | float x => rfl
  | str s => rfl
  | arr items => rfl
  | obj members => rfl

theorem issues_asRuleEnabled :
    value.asRuleEnabled.issues =
      if value.isUnusableFor "enabled" then [⟨.notText, [], value⟩] else [] := by
  cases value <;> rfl

theorem issues_asRuleId :
    value.asRuleId.issues =
      if value.isUnusableFor "id" then [⟨.notText, [], value⟩] else [] := by
  cases value <;> rfl

theorem issues_asProtocol :
    value.asProtocol.issues =
      if value.isUnusableFor "protocol" then [⟨.notText, [], value⟩] else [] := by
  cases value <;> rfl

end Json

namespace Members

variable {α : Type} {members : Members} {name : String} {check : Json → Checked α}

/-- The issues of a field whose check finds nothing but a wrong value. -/
theorem map_under_eq_misuses
    (issues : (check (members.get name)).issues =
      if (members.get name).isUnusableFor name then [⟨.notText, [], members.get name⟩] else []) :
    (check (members.get name)).issues.map (Issue.under (.name name)) = members.misuses name := by
  have condition : members.Misuses name ↔ (members.get name).isUnusableFor name = true := Iff.rfl
  simp only [issues, misuses, condition]
  by_cases wrong : (members.get name).isUnusableFor name = true
  · rw [if_pos wrong, if_pos wrong]
    rfl
  · rw [if_neg wrong, if_neg wrong]
    rfl

theorem issues_required_textual (given : ¬members.Lacks name) (apart : name ≠ "enabled") :
    (members.required name Json.asTextOfNumber).issues = members.misuses name := by
  rw [issues_required given, map_under_eq_misuses (Json.issues_asTextOfNumber given apart)]

theorem issues_optional_enabled :
    (members.optional "enabled" (.ofString "true") Json.asRuleEnabled).issues =
      members.misuses "enabled" := by
  have readsNull : Json.asRuleEnabled .null = .valid (.ofString "true") := rfl
  rw [issues_optional readsNull, map_under_eq_misuses Json.issues_asRuleEnabled]

theorem issues_optional_id :
    (members.optional "id" none Json.asRuleId).issues = members.misuses "id" := by
  have readsNull : Json.asRuleId .null = .valid none := rfl
  rw [issues_optional readsNull, map_under_eq_misuses Json.issues_asRuleId]

theorem issues_optional_protocol :
    (members.optional "protocol" (.ofString "tcp") Json.asProtocol).issues =
      members.misuses "protocol" := by
  have readsNull : Json.asProtocol .null = .valid (.ofString "tcp") := rfl
  rw [issues_optional readsNull, map_under_eq_misuses Json.issues_asProtocol]

end Members

/-! ## The issues of a rule -/

namespace RuleIntent

variable {type : RuleType} {members : Members}

/-- If no required field is left out, the issues of a rule are those of its fields in order. -/
theorem issues_checkFields (typed : members.get "rule_type" = .str type.name)
    (given : ∀ field ∈ type.textualFields, ¬members.Lacks field) :
    (checkFields type members).issues = type.valueFields.flatMap members.misuses := by
  have named : (members.required "rule_type" (Json.asRuleType type)).issues = [] :=
    Checked.issues_eq_nil_iff.mpr ⟨(), Members.required_ruleType_eq_valid_iff.mpr typed⟩
  have textual : ∀ field ∈ type.textualFields,
      (members.required field Json.asTextOfNumber).issues = members.misuses field := by
    intro field member
    refine Members.issues_required_textual (given field member) ?_
    rintro rfl
    revert member
    cases type <;> decide
  cases type with
  | snat =>
    simp only [checkFields, Checked.issues_seq, Checked.issues_map, named,
      textual "network_id" (by decide), textual "original_ip" (by decide),
      textual "translated_ip" (by decide), Members.issues_optional_enabled,
      Members.issues_optional_id, RuleType.valueFields, List.flatMap_cons, List.flatMap_nil,
      List.append_assoc]
  | dnat =>
    simp only [checkFields, Checked.issues_seq, Checked.issues_map, named,
      textual "network_id" (by decide), textual "original_ip" (by decide),
      textual "translated_ip" (by decide), textual "original_port" (by decide),
      textual "translated_port" (by decide), Members.issues_optional_enabled,
      Members.issues_optional_id, Members.issues_optional_protocol, RuleType.valueFields,
      List.flatMap_cons, List.flatMap_nil, List.append_assoc, List.append_nil]

theorem flatMap_misuses (fields : List String) :
    fields.flatMap members.misuses =
      (fields.filter fun field => decide (members.Misuses field)).map members.misuse := by
  induction fields with
  | nil => rfl
  | cons field rest ih =>
    rw [List.flatMap_cons, ih, Members.misuses]
    by_cases wrong : members.Misuses field
    · simp [wrong]
    · simp [wrong]

/-- The first issue of a rule is that of the first field with a wrong value. -/
theorem exists_eq_invalid_iff (typed : members.get "rule_type" = .str type.name)
    (given : ∀ field ∈ type.textualFields, ¬members.Lacks field) {issue : Issue} :
    (∃ more, checkFields type members = .invalid issue more) ↔
      ∃ field, FirstWith members.Misuses type.valueFields field ∧
        issue = members.misuse field := by
  rw [Checked.exists_eq_invalid_iff, issues_checkFields typed given, flatMap_misuses,
    List.head?_map, List.head?_filter, Option.map_eq_some_iff]
  simp only [find?_eq_some_iff_firstWith, @eq_comm _ issue]

/-- A rule is accepted if no required field is left out and no field has a wrong value. -/
theorem exists_eq_valid_iff (typed : members.get "rule_type" = .str type.name)
    (given : ∀ field ∈ type.textualFields, ¬members.Lacks field) :
    (∃ rule, checkFields type members = .valid rule) ↔
      ∀ field ∈ type.valueFields, ¬members.Misuses field := by
  rw [← Checked.issues_eq_nil_iff, issues_checkFields typed given, flatMap_misuses]
  simp

/-- A required field that the second layer misses is one that is left out. -/
theorem exists_lacks_of_missing (typed : members.get "rule_type" = .str type.name) {issue : Issue}
    (found : issue ∈ (checkFields type members).issues) (missing : issue.problem = .missing) :
    ∃ field ∈ type.textualFields, members.Lacks field := by
  apply Classical.byContradiction
  intro none
  rw [issues_checkFields typed (by simpa using none), flatMap_misuses] at found
  obtain ⟨field, -, rfl⟩ := List.mem_map.mp found
  cases missing

end RuleIntent

/-! ## The step that fails -/

/-- What is told about a field that cannot be read from its value. -/
theorem Rejection.ofRuleProblem_misuse (index : Nat) (field : String) :
    ofRuleProblem index (.notText, [.name field]) =
      .invalidField (some (index : Int)) field "Input should be a valid string" := by
  have name : pathName [.name field] = field := by simp [pathName, stepName]
  rw [ofRuleProblem, ofRuleIssue, if_neg (by simp), name]
  rfl

namespace Compiler

variable {index : Nat} {members : Members} {type : RuleType}

/-- A type that is given is not looked for again. -/
theorem firstMissing_requiredFields (named : members.get "rule_type" ≠ .null) :
    firstMissing members type.requiredFields =
      type.textualFields.find? fun field => decide (members.Lacks field) := by
  have apart : type.textualFields =
      type.requiredFields.filter fun field => decide (field ≠ "rule_type") := by
    cases type <;> decide
  rw [apart, List.find?_filter]
  refine List.find?_congr fun field _ => decide_eq_decide.mpr ?_
  rw [decide_eq_true_iff, decide_eq_true_iff]
  constructor
  · intro lacks
    refine ⟨?_, lacks⟩
    rintro rfl
    exact named lacks
  · exact And.right

theorem firstMissing_eq_some_iff (named : members.get "rule_type" ≠ .null) {field : String} :
    firstMissing members type.requiredFields = some field ↔
      FirstWith members.Lacks type.textualFields field := by
  rw [firstMissing_requiredFields named, find?_eq_some_iff_firstWith]

theorem firstMissing_requiredFields_eq_none_iff (named : members.get "rule_type" ≠ .null) :
    firstMissing members type.requiredFields = none ↔
      ∀ field ∈ type.textualFields, ¬members.Lacks field := by
  rw [firstMissing_requiredFields named]
  simp

/-- A rule with a type fails the third step, or else the fourth, or else it is read. -/
theorem readRule_cases (index : Nat) (typed : members.get "rule_type" = .str type.name) :
    (∃ field, FirstWith members.Lacks type.textualFields field ∧
        readRule index members = .error (.missingField index field)) ∨
      (∀ field ∈ type.textualFields, ¬members.Lacks field) ∧
        ((∃ field, FirstWith members.Misuses type.valueFields field ∧
            readRule index members =
              .error (.invalidField (some (index : Int)) field "Input should be a valid string")) ∨
          (∀ field ∈ type.valueFields, ¬members.Misuses field) ∧
            ∃ rule, RuleIntent.checkFields type members = .valid rule ∧
              readRule index members = .ok rule) := by
  have named : members.get "rule_type" ≠ .null := by simp [typed]
  have reading := @readRule_of_typed index _ _ typed
  cases missing : firstMissing members type.requiredFields with
  | some field =>
    rw [missing] at reading
    exact .inl ⟨field, (firstMissing_eq_some_iff named).mp missing, reading⟩
  | none =>
    rw [missing] at reading
    have given := (firstMissing_requiredFields_eq_none_iff named).mp missing
    refine .inr ⟨given, ?_⟩
    cases checked : RuleIntent.checkFields type members with
    | valid rule =>
      rw [checked] at reading
      exact .inr ⟨(RuleIntent.exists_eq_valid_iff typed given).mp ⟨rule, checked⟩, rule, rfl,
        reading⟩
    | invalid issue more =>
      rw [checked] at reading
      obtain ⟨field, first, rfl⟩ :=
        (RuleIntent.exists_eq_invalid_iff typed given).mp ⟨more, checked⟩
      refine .inl ⟨field, first, ?_⟩
      rw [reading, ← Rejection.ofRuleProblem_misuse]
      rfl

section Typed

variable (typed : members.get "rule_type" = .str type.name)

include typed

/-- A rule is rejected for a missing field exactly if that is the first that is left out. -/
theorem readRule_eq_missingField_iff {field : String} :
    readRule index members = .error (.missingField index field) ↔
      FirstWith members.Lacks type.textualFields field := by
  rcases readRule_cases index typed with
    ⟨other, first, read⟩ | ⟨given, ⟨other, -, read⟩ | ⟨-, rule, -, read⟩⟩
  · rw [read]
    constructor
    · intro same
      cases same
      exact first
    · intro here
      rw [first.unique here]
  · rw [read]
    exact iff_of_false (by simp) fun here => given field here.mem here.holds
  · rw [read]
    exact iff_of_false (by simp) fun here => given field here.mem here.holds

/-- A rule is rejected for a field exactly if none is left out and that is the first with a wrong
value. -/
theorem readRule_eq_invalidField_iff {rule : Option Int} {field reason : String} :
    readRule index members = .error (.invalidField rule field reason) ↔
      rule = some (index : Int) ∧ reason = "Input should be a valid string" ∧
        (∀ other ∈ type.textualFields, ¬members.Lacks other) ∧
        FirstWith members.Misuses type.valueFields field := by
  rcases readRule_cases index typed with
    ⟨other, first, read⟩ | ⟨given, ⟨other, first, read⟩ | ⟨usable, intent, -, read⟩⟩
  · rw [read]
    refine iff_of_false (by simp) ?_
    rintro ⟨-, -, given, -⟩
    exact given other first.mem first.holds
  · rw [read]
    constructor
    · intro same
      cases same
      exact ⟨rfl, rfl, given, first⟩
    · rintro ⟨rfl, rfl, -, here⟩
      rw [first.unique here]
  · rw [read]
    refine iff_of_false (by simp) ?_
    rintro ⟨-, -, -, here⟩
    exact usable field here.mem here.holds

/-- The first layer refuses no rule that the second one accepts. -/
theorem readRule_eq_ok_iff_checkFields {rule : RuleIntent} :
    readRule index members = .ok rule ↔ RuleIntent.checkFields type members = .valid rule := by
  rw [readRule_eq_ok_iff, RuleIntent.checkFields_eq_valid_iff]
  constructor
  · rintro ⟨other, readable, rfl⟩
    have names := Text.ofString_inj.mp (Json.str.inj (readable.typed.symm.trans typed))
    obtain rfl : other = type := RuleType.name_injective names
    exact ⟨readable, rfl⟩
  · rintro ⟨readable, rfl⟩
    exact ⟨type, readable, rfl⟩

/-- A rule is read exactly if no required field is left out and no field has a wrong value. -/
theorem exists_readRule_eq_ok_iff :
    (∃ rule, readRule index members = .ok rule) ↔
      (∀ field ∈ type.textualFields, ¬members.Lacks field) ∧
        ∀ field ∈ type.valueFields, ¬members.Misuses field := by
  rcases readRule_cases index typed with
    ⟨other, first, read⟩ | ⟨given, ⟨other, first, read⟩ | ⟨usable, intent, -, read⟩⟩
  · rw [read]
    exact iff_of_false (by simp) fun sound => sound.1 other first.mem first.holds
  · rw [read]
    exact iff_of_false (by simp) fun sound => sound.2 other first.mem first.holds
  · exact iff_of_true ⟨intent, read⟩ ⟨given, usable⟩

end Typed

/-- A rule is rejected for its type exactly if it has one that is not known. -/
theorem readRule_eq_unsupportedRuleType_iff {value : Json} :
    readRule index members = .error (.unsupportedRuleType index value) ↔
      value = members.get "rule_type" ∧ value ≠ .null ∧
        ∀ type : RuleType, value ≠ .str type.name := by
  cases known : RuleType.ofJson? (members.get "rule_type") with
  | none =>
    have unnamed := RuleType.ofJson?_eq_none_iff.mp known
    rw [readRule_of_untyped known]
    split
    · next absent =>
      refine iff_of_false (by simp) ?_
      rintro ⟨rfl, given, -⟩
      exact given absent
    · next given =>
      constructor
      · intro same
        cases same
        exact ⟨rfl, given, unnamed⟩
      · rintro ⟨rfl, -, -⟩
        rfl
  | some type =>
    have typed := RuleType.ofJson?_eq_some_iff.mp known
    refine iff_of_false ?_ ?_
    · rcases readRule_cases index typed with
        ⟨other, -, read⟩ | ⟨-, ⟨other, -, read⟩ | ⟨-, intent, -, read⟩⟩ <;> simp [read]
    · rintro ⟨rfl, -, unnamed⟩
      exact unnamed type typed

/-- A rule is rejected for a missing type exactly if the type is null or left out. -/
theorem readRule_eq_missingType_iff :
    readRule index members = .error (.missingField index "rule_type") ↔
      members.get "rule_type" = .null := by
  cases known : RuleType.ofJson? (members.get "rule_type") with
  | none =>
    rw [readRule_of_untyped known]
    split
    · next absent => exact iff_of_true rfl absent
    · next given => exact iff_of_false (by simp) given
  | some type =>
    have typed := RuleType.ofJson?_eq_some_iff.mp known
    rw [readRule_eq_missingField_iff typed]
    refine iff_of_false ?_ (by simp [typed])
    intro first
    have textual := first.mem
    revert textual
    cases type <;> decide

end Compiler

open Compiler in
/-- A rule is rejected for the first step that it fails, and for the first field at which it fails
that step.  Each step is said on its own terms.  So a rule with a known type is read exactly if the
second layer accepts it, and what that layer finds missing is never what is told. -/
theorem readRule_tells_first_fault (index : Nat) (members : Members) :
    let outcome := readRule index members
    (outcome = .error (.missingField index "rule_type") ↔ members.get "rule_type" = .null) ∧
      (∀ value, outcome = .error (.unsupportedRuleType index value) ↔
        value = members.get "rule_type" ∧ value ≠ .null ∧
          ∀ type : RuleType, value ≠ .str type.name) ∧
      ∀ type : RuleType, members.get "rule_type" = .str type.name →
        (∀ field, outcome = .error (.missingField index field) ↔
          FirstWith members.Lacks type.textualFields field) ∧
        (∀ rule field reason, outcome = .error (.invalidField rule field reason) ↔
          rule = some (index : Int) ∧ reason = "Input should be a valid string" ∧
            (∀ other ∈ type.textualFields, ¬members.Lacks other) ∧
            FirstWith members.Misuses type.valueFields field) ∧
        ((∃ rule, outcome = .ok rule) ↔
          (∀ field ∈ type.textualFields, ¬members.Lacks field) ∧
            ∀ field ∈ type.valueFields, ¬members.Misuses field) ∧
        (∀ rule, outcome = .ok rule ↔ RuleIntent.check type (.obj members) = .valid rule) ∧
        ∀ issue ∈ (RuleIntent.check type (.obj members)).issues, issue.problem = .missing →
          ∃ field, outcome = .error (.missingField index field) := by
  intro outcome
  refine ⟨readRule_eq_missingType_iff, fun value => readRule_eq_unsupportedRuleType_iff, ?_⟩
  intro type typed
  refine ⟨fun field => readRule_eq_missingField_iff typed,
    fun rule field reason => readRule_eq_invalidField_iff typed,
    exists_readRule_eq_ok_iff typed, fun rule => readRule_eq_ok_iff_checkFields typed, ?_⟩
  intro issue found missing
  obtain ⟨field, lacks⟩ := exists_firstWith_iff.mpr
    (RuleIntent.exists_lacks_of_missing typed found missing)
  exact ⟨field, (readRule_eq_missingField_iff typed).mpr lacks⟩

namespace UnusableNetwork

/-- A rule whose network is a truth value and whose last address is null. -/
def rule : Members :=
  [("rule_type", .str "SNAT"), ("network_id", .bool true), ("original_ip", .str "10.0.0.1"),
    ("translated_ip", .null)]

theorem firstWith_lacks : FirstWith rule.Lacks RuleType.snat.textualFields "translated_ip" :=
  ⟨["network_id", "original_ip"], [], rfl, by decide, rfl⟩

end UnusableNetwork

/-- A field that is left out comes before an earlier field with a wrong value. -/
theorem missing_before_unusable :
    UnusableNetwork.rule.get "rule_type" = .str RuleType.snat.name ∧
      Compiler.readRule 0 UnusableNetwork.rule = .error (.missingField 0 "translated_ip") := by
  have typed : UnusableNetwork.rule.get "rule_type" = .str RuleType.snat.name := rfl
  obtain ⟨-, -, ofType⟩ := readRule_tells_first_fault 0 UnusableNetwork.rule
  obtain ⟨missing, -⟩ := ofType .snat typed
  exact ⟨typed, (missing "translated_ip").mpr UnusableNetwork.firstWith_lacks⟩

end GatewayNat
