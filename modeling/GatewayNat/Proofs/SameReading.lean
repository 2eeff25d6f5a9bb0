import Mathlib.Data.List.Find
import GatewayNat.Compiler
import GatewayNat.Proofs.RuleReading
import GatewayNat.Proofs.Verdict

/-!
# Intents that compile alike

Of a rule, a compilation knows its type, which of the required fields are null
or left out, and the verdicts of the checks of its fields.  Rules that agree in
all of this are alike (`RuleIntent.Alike`), and they are read alike, whether
they can be read or not (`Compiler.readRule_eq_of_alike`).  All of this is said
under the names that `Members.usedNames` lists, so rules with the same values
under them are alike (`RuleIntent.Alike.of_get`).

Two intents whose rules are read alike one by one, and whose flags are read
alike, have the same compilation: the same document or failure, the same calls
and the same records (`compile_eq_of_sameVerdict`).  Nothing is asked of the
directory.
-/

namespace GatewayNat

/-- A check has the same verdict on two values. -/
def Json.SameFor {α : Type} (check : Json → Checked α) (v w : Json) : Prop :=
  (check v).verdict = (check w).verdict

/-- The names of a rule that a compilation has use for. -/
def Members.usedNames (rule : Members) : List String :=
  ["rule_type", "network_id", "original_ip", "translated_ip", "enabled", "id"] ++
    if rule.get "rule_type" = .str "DNAT" then ["original_port", "translated_port", "protocol"]
    else []

/-- Rules that a compilation cannot tell apart. -/
structure RuleIntent.Alike (a b : Members) : Prop where
  typed : a.get "rule_type" = b.get "rule_type"
  /-- The required fields are left out of both or of neither. -/
  given : ∀ type : RuleType, a.get "rule_type" = .str type.name →
    ∀ field ∈ type.textualFields, (a.get field = .null ↔ b.get field = .null)
  textual : ∀ type : RuleType, a.get "rule_type" = .str type.name →
    ∀ field ∈ type.textualFields, Json.SameFor Json.asTextOfNumber (a.get field) (b.get field)
  enabled : Json.SameFor Json.asRuleEnabled (a.get "enabled") (b.get "enabled")
  id : Json.SameFor Json.asRuleId (a.get "id") (b.get "id")
  protocol : a.get "rule_type" = .str "DNAT" →
    Json.SameFor Json.asProtocol (a.get "protocol") (b.get "protocol")

/-! ## Rules that are read alike -/

namespace Members

variable {α : Type} {a b : Members} {name : String}

theorem mem_usedNames_of_textual {rule : Members} {type : RuleType} {field : String}
    (typed : rule.get "rule_type" = .str type.name) (textual : field ∈ type.textualFields) :
    field ∈ rule.usedNames := by
  rw [usedNames, typed]
  cases type with
  | snat =>
    simp only [RuleType.textualFields, List.mem_cons, List.not_mem_nil, or_false] at textual
    rcases textual with rfl | rfl | rfl <;> decide
  | dnat =>
    simp only [RuleType.textualFields, List.mem_cons, List.not_mem_nil, or_false] at textual
    rcases textual with rfl | rfl | rfl | rfl | rfl <;> decide

theorem verdict_required_congr {check : Json → Checked α} (given : a.get name ≠ .null)
    (givenToo : b.get name ≠ .null) (same : Json.SameFor check (a.get name) (b.get name)) :
    (a.required name check).verdict = (b.required name check).verdict := by
  rw [verdict_required given, verdict_required givenToo, Checked.verdict_under,
    Checked.verdict_under, same]

theorem verdict_optional_congr {default : α} {check : Json → Checked α}
    (readsNull : check .null = .valid default)
    (same : Json.SameFor check (a.get name) (b.get name)) :
    (a.optional name default check).verdict = (b.optional name default check).verdict := by
  rw [verdict_optional readsNull, verdict_optional readsNull, Checked.verdict_under,
    Checked.verdict_under, same]

end Members

namespace RuleIntent

variable {a b : Members} {type : RuleType}

/-- Rules with the same values under the names of use are alike. -/
theorem Alike.of_get (same : ∀ name ∈ a.usedNames, a.get name = b.get name) : Alike a b := by
  refine ⟨same _ (.head _), ?_, ?_, ?_, ?_, ?_⟩
  · intro type typed field textual
    rw [same field (Members.mem_usedNames_of_textual typed textual)]
  · intro type typed field textual
    rw [same field (Members.mem_usedNames_of_textual typed textual), Json.SameFor]
  · rw [same "enabled" (by simp [Members.usedNames]), Json.SameFor]
  · rw [same "id" (by simp [Members.usedNames]), Json.SameFor]
  · intro typed
    rw [same "protocol" (by simp [Members.usedNames, typed]), Json.SameFor]

/-- If no required field is left out, alike rules have the same verdict. -/
theorem Alike.verdict_checkFields (alike : Alike a b) (typed : a.get "rule_type" = .str type.name)
    (given : ∀ field ∈ type.textualFields, a.get field ≠ .null) :
    (checkFields type a).verdict = (checkFields type b).verdict := by
  have typedToo : b.get "rule_type" = .str type.name := alike.typed ▸ typed
  have named : (a.required "rule_type" (Json.asRuleType type)).verdict =
      (b.required "rule_type" (Json.asRuleType type)).verdict :=
    Members.verdict_required_congr (by simp [typed]) (by simp [typedToo])
      (congrArg _ (congrArg _ alike.typed))
  have textual : ∀ field ∈ type.textualFields,
      (a.required field Json.asTextOfNumber).verdict =
        (b.required field Json.asTextOfNumber).verdict := by
    intro field member
    exact Members.verdict_required_congr (given field member)
      (mt (alike.given type typed field member).mpr (given field member))
      (alike.textual type typed field member)
  have enabled : (a.optional "enabled" (.ofString "true") Json.asRuleEnabled).verdict =
      (b.optional "enabled" (.ofString "true") Json.asRuleEnabled).verdict :=
    Members.verdict_optional_congr rfl alike.enabled
  have id : (a.optional "id" none Json.asRuleId).verdict =
      (b.optional "id" none Json.asRuleId).verdict :=
    Members.verdict_optional_congr rfl alike.id
  cases type with
  | snat =>
    simp only [checkFields, Checked.verdict_seq, Checked.verdict_map, named, enabled, id,
      textual "network_id" (by decide), textual "original_ip" (by decide),
      textual "translated_ip" (by decide)]
  | dnat =>
    have protocol : (a.optional "protocol" (.ofString "tcp") Json.asProtocol).verdict =
        (b.optional "protocol" (.ofString "tcp") Json.asProtocol).verdict :=
      Members.verdict_optional_congr rfl (alike.protocol typed)
    simp only [checkFields, Checked.verdict_seq, Checked.verdict_map, named, enabled, id, protocol,
      textual "network_id" (by decide), textual "original_ip" (by decide),
      textual "translated_ip" (by decide), textual "original_port" (by decide),
      textual "translated_port" (by decide)]

end RuleIntent

/-- The second layer asks for the type too. -/
theorem RuleType.mem_requiredFields_iff {type : RuleType} {field : String} :
    field ∈ type.requiredFields ↔ field = "rule_type" ∨ field ∈ type.textualFields := by
  cases type with
  | snat => simp only [requiredFields, textualFields, List.mem_cons]; tauto
  | dnat => simp only [requiredFields, textualFields, List.mem_cons]; tauto

/-- The rejection for the first problem of a rule. -/
def Rejection.ofRuleProblem (rule : Nat) (problem : FirstProblem) : Rejection :=
  ofRuleIssue rule ⟨problem.1, problem.2, .null⟩

/-- The rejection for the first problem of a service intent. -/
def Rejection.ofServiceProblem (problem : FirstProblem) : Rejection :=
  ofServiceIssue ⟨problem.1, problem.2, .null⟩

namespace Compiler

variable {index : Nat} {a b members : Members} {type : RuleType}

/-- A rule without a type that is known is rejected for it. -/
theorem readRule_of_untyped (untyped : RuleType.ofJson? (members.get "rule_type") = none) :
    readRule index members =
      .error (if members.get "rule_type" = .null then .missingField index "rule_type"
        else .unsupportedRuleType index (members.get "rule_type")) := by
  rw [Members.get] at *
  unfold readRule
  split
  · next absent => simp [absent]
  · next given =>
    simp only [untyped]
    rw [if_neg given]

/-- A rule with a type is rejected for the first required field that is left out, and then for the
first problem of its fields. -/
theorem readRule_of_typed (typed : members.get "rule_type" = .str type.name) :
    readRule index members =
      match firstMissing members type.requiredFields with
      | some field => .error (.missingField index field)
      | none =>
        (RuleIntent.checkFields type members).verdict.mapError (Rejection.ofRuleProblem index) := by
  have known : RuleType.ofJson? (.str type.name) = some type :=
    RuleType.ofJson?_eq_some_iff.mpr rfl
  rw [Members.get] at typed
  simp only [readRule, typed, known]
  cases firstMissing members type.requiredFields with
  | some field => rfl
  | none => cases RuleIntent.checkFields type members <;> rfl

/-- The same required field is left out first of alike rules. -/
theorem firstMissing_eq_of_alike (alike : RuleIntent.Alike a b)
    (typed : a.get "rule_type" = .str type.name) :
    firstMissing a type.requiredFields = firstMissing b type.requiredFields := by
  have same : ∀ field ∈ type.requiredFields, (a.get field = .null ↔ b.get field = .null) := by
    intro field required
    rcases RuleType.mem_requiredFields_iff.mp required with rfl | textual
    · rw [alike.typed]
    · exact alike.given type typed field textual
  exact List.find?_congr fun field required => decide_eq_decide.mpr (same field required)

/-- Alike rules are read alike. -/
theorem readRule_eq_of_alike (alike : RuleIntent.Alike a b) (index : Nat) :
    readRule index a = readRule index b := by
  cases typed : RuleType.ofJson? (a.get "rule_type") with
  | none =>
    have typedToo := typed
    rw [alike.typed] at typedToo
    rw [readRule_of_untyped typed, readRule_of_untyped typedToo, alike.typed]
  | some type =>
    have named := RuleType.ofJson?_eq_some_iff.mp typed
    rw [readRule_of_typed named, readRule_of_typed (alike.typed ▸ named),
      ← firstMissing_eq_of_alike alike named]
    split
    · rfl
    · next given =>
      rw [firstMissing_eq_none_iff] at given
      rw [alike.verdict_checkFields named fun field textual =>
        given field (RuleType.mem_requiredFields_iff.mpr (.inr textual))]

end Compiler

/-! ## Rules in a row -/

namespace Compiler

/-- Two rules are read alike, wherever they stand. -/
def ReadAlike (a b : Members) : Prop := ∀ index, readRule index a = readRule index b

theorem ReadAlike.refl (rule : Members) : ReadAlike rule rule := fun _ => rfl

theorem ReadAlike.trans {a b c : Members} (first : ReadAlike a b) (second : ReadAlike b c) :
    ReadAlike a c :=
  fun index => (first index).trans (second index)

theorem forall₂_readAlike_refl (rules : List Members) : List.Forall₂ ReadAlike rules rules :=
  List.forall₂_same.mpr fun rule _ => ReadAlike.refl rule

/-- Rules that are read alike one by one compile alike. -/
theorem compileRules_eq_of_readAlike {d : Directory} {range : IdRange} {past : List Call}
    {index : Nat} {next : Int} {r : Resolver} {rules others : List Members}
    (alike : List.Forall₂ ReadAlike rules others) :
    compileRules d range past index next r rules =
      compileRules d range past index next r others := by
  induction alike generalizing past index next r with
  | nil => rfl
  | cons here _ ih => simp only [compileRules, admitRule, here index, ih]

end Compiler

/-! ## Whole intents -/

/-- Service intents that a compilation cannot tell apart. -/
structure ServiceIntent.ReadAlike (a b : ServiceIntent) : Prop where
  enabled : a.enabled = b.enabled
  rules : List.Forall₂ Compiler.ReadAlike a.rules b.rules

theorem ServiceIntent.ReadAlike.refl (intent : ServiceIntent) : intent.ReadAlike intent :=
  ⟨rfl, Compiler.forall₂_readAlike_refl intent.rules⟩

/-- A service intent is read by the verdicts on its two fields. -/
theorem ServiceIntent.sameVerdict_check {a b : Members}
    (flags : (a.optional "enabled" (.ofString "true") Json.asServiceEnabled).verdict =
      (b.optional "enabled" (.ofString "true") Json.asServiceEnabled).verdict)
    (rules : SameVerdict (List.Forall₂ Compiler.ReadAlike)
      (a.optional "nat_rules" [] (Json.asList Json.asObject)).verdict
      (b.optional "nat_rules" [] (Json.asList Json.asObject)).verdict) :
    SameVerdict ReadAlike (check (.obj a)).verdict (check (.obj b)).verdict := by
  simp only [check, checkFields, Checked.verdict_seq, Checked.verdict_map, flags]
  have made : SameVerdict (fun f g : List Members → ServiceIntent => ∀ rules others,
      List.Forall₂ Compiler.ReadAlike rules others → (f rules).ReadAlike (g others)) _ _ :=
    (SameVerdict.refl (fun text => rfl) (b.optional "enabled" (.ofString "true")
      Json.asServiceEnabled).verdict).map (f := ServiceIntent.mk) (g := ServiceIntent.mk)
      fun _ _ same _ _ alike => ⟨same, alike⟩
  exact made.seq rules fun f g rules others keeps alike => keeps rules others alike

variable {d : Directory} {past : List Call} {gatewayId : Text} {range : IdRange}

/-- A compilation goes by the verdict on the service intent. -/
theorem compile_eq_verdict {intent : Json} :
    compile d past gatewayId intent range =
      match (ServiceIntent.check intent).verdict with
      | .ok service => Compiler.compileService d past gatewayId service range
      | .error problem => ⟨.error (.rejected (.ofServiceProblem problem)), []⟩ := by
  unfold compile
  cases ServiceIntent.check intent <;> rfl

/-- Intents that are read alike compile alike. -/
theorem compile_eq_of_sameVerdict {a b : Json}
    (same : SameVerdict ServiceIntent.ReadAlike (ServiceIntent.check a).verdict
      (ServiceIntent.check b).verdict) :
    compile d past gatewayId a range = compile d past gatewayId b range := by
  rw [compile_eq_verdict, compile_eq_verdict]
  generalize (ServiceIntent.check a).verdict = first at same ⊢
  generalize (ServiceIntent.check b).verdict = second at same ⊢
  cases same with
  | error problem => rfl
  | ok alike =>
    simp only [Compiler.compileService, Compiler.compileRules_eq_of_readAlike alike.rules,
      alike.rules.length_eq, alike.enabled]

end GatewayNat
