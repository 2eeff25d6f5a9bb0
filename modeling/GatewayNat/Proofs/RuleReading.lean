import GatewayNat.Compiler
import GatewayNat.Proofs.Checking

/-!
# What a rule must say

A rule is read exactly if its members are those of a rule of some type
(`RuleIntent.Readable`), and then the rule that is read is
`RuleIntent.ofMembers` (`Compiler.readRule_eq_ok_iff`).  The index of the rule
plays no part in it.

* The type is one of the two names, as a text.
* The required fields of the type are texts or numbers.
* `enabled` is absent, null, a truth value, a text or a number.
* `id` is absent, null, a text or a number, and so is the protocol of a
  destination rule.

Reading goes through two layers.  The first looks for required fields that are
absent or null, and the second checks all fields.  A field that the second layer
accepts is never missed by the first.
-/

namespace GatewayNat

/-- The required fields of a type apart from the type itself. -/
def RuleType.textualFields : RuleType → List String
  | .snat => ["network_id", "original_ip", "translated_ip"]
  | .dnat => ["network_id", "original_ip", "translated_ip", "original_port", "translated_port"]

namespace RuleIntent

/-- Members that describe a rule of a type. -/
structure Readable (type : RuleType) (members : Members) : Prop where
  typed : members.get "rule_type" = .str type.name
  textual : ∀ field ∈ type.textualFields, (members.get field).Textual
  enabled : (members.get "enabled").FlagLike
  id : (members.get "id").OptionalTextual
  protocol : type = .dnat → (members.get "protocol").OptionalTextual

/-- The type that members name. -/
def typeOf (members : Members) : RuleType :=
  if members.get "rule_type" = .str "DNAT" then .dnat else .snat

theorem Readable.type_eq {type : RuleType} {members : Members} (readable : Readable type members) :
    type = typeOf members := by
  unfold typeOf
  rw [readable.typed]
  cases type with
  | snat => rfl
  | dnat => rfl

/-- What a rule of a type translates apart from addresses. -/
def translationOf (type : RuleType) (members : Members) : Translation :=
  match type with
  | .snat => .source
  | .dnat =>
    .destination (members.get "original_port").written (members.get "translated_port").written
      (members.get "protocol").protocolText

/-- The rule of a type that members describe. -/
def ofMembers (type : RuleType) (members : Members) : RuleIntent where
  networkId := (members.get "network_id").written
  originalIp := (members.get "original_ip").written
  translatedIp := (members.get "translated_ip").written
  enabled := (members.get "enabled").flag
  id := (members.get "id").askedId
  translation := translationOf type members

end RuleIntent

/-! ## The fields of a rule -/

namespace Members

theorem required_textual_eq_valid_iff {members : Members} {name : String} {text : Text} :
    members.required name Json.asTextOfNumber = .valid text ↔
      (members.get name).Textual ∧ text = (members.get name).written := by
  rw [required_eq_valid_iff_get (by intro b h; cases h), Json.asTextOfNumber_eq_valid_iff]

theorem required_ruleType_eq_valid_iff {members : Members} {type : RuleType} {u : Unit} :
    members.required "rule_type" (Json.asRuleType type) = .valid u ↔
      members.get "rule_type" = .str type.name := by
  rw [required_eq_valid_iff_get (by intro b h; cases h), Json.asRuleType]
  split
  · next same => simp [same]
  · next different => simp [Checked.fail, different]

theorem optional_enabled_eq_valid_iff {members : Members} {text : Text} :
    members.optional "enabled" (.ofString "true") Json.asRuleEnabled = .valid text ↔
      (members.get "enabled").FlagLike ∧ text = (members.get "enabled").flag := by
  have readsNull : Json.asRuleEnabled .null = .valid (.ofString "true") := rfl
  rw [optional_eq_valid_iff_get readsNull, Json.asRuleEnabled_eq_valid_iff]

theorem optional_id_eq_valid_iff {members : Members} {id : Option Text} :
    members.optional "id" none Json.asRuleId = .valid id ↔
      (members.get "id").OptionalTextual ∧ id = (members.get "id").askedId := by
  have readsNull : Json.asRuleId .null = .valid none := rfl
  rw [optional_eq_valid_iff_get readsNull, Json.asRuleId_eq_valid_iff]

theorem optional_protocol_eq_valid_iff {members : Members} {text : Text} :
    members.optional "protocol" (.ofString "tcp") Json.asProtocol = .valid text ↔
      (members.get "protocol").OptionalTextual ∧
        text = (members.get "protocol").protocolText := by
  have readsNull : Json.asProtocol .null = .valid (.ofString "tcp") := rfl
  rw [optional_eq_valid_iff_get readsNull, Json.asProtocol_eq_valid_iff]

end Members

namespace RuleIntent

/-- The second layer accepts exactly the members of a rule of the type. -/
theorem checkFields_eq_valid_iff {type : RuleType} {members : Members} {rule : RuleIntent} :
    checkFields type members = .valid rule ↔
      Readable type members ∧ rule = ofMembers type members := by
  cases type with
  | snat =>
    simp only [checkFields, Checked.seq_eq_valid_iff, Checked.map_eq_valid_iff,
      Members.required_textual_eq_valid_iff, Members.required_ruleType_eq_valid_iff,
      Members.optional_enabled_eq_valid_iff, Members.optional_id_eq_valid_iff]
    constructor
    · rintro ⟨_, _, ⟨_, _, ⟨_, _, ⟨_, _, ⟨_, _, ⟨_, ⟨network, rfl⟩, rfl⟩, ⟨original, rfl⟩, rfl⟩,
        ⟨translated, rfl⟩, rfl⟩, ⟨enabled, rfl⟩, rfl⟩, ⟨id, rfl⟩, rfl⟩, typed, rfl⟩
      refine ⟨⟨typed, ?_, enabled, id, by intro h; cases h⟩, rfl⟩
      intro field membership
      simp only [RuleType.textualFields, List.mem_cons, List.not_mem_nil, or_false] at membership
      rcases membership with rfl | rfl | rfl
      · exact network
      · exact original
      · exact translated
    · rintro ⟨readable, rfl⟩
      exact ⟨_, (), ⟨_, _, ⟨_, _, ⟨_, _, ⟨_, _, ⟨_, ⟨readable.textual _ (by decide), rfl⟩, rfl⟩,
        ⟨readable.textual _ (by decide), rfl⟩, rfl⟩, ⟨readable.textual _ (by decide), rfl⟩, rfl⟩,
        ⟨readable.enabled, rfl⟩, rfl⟩, ⟨readable.id, rfl⟩, rfl⟩, readable.typed, rfl⟩
  | dnat =>
    simp only [checkFields, Checked.seq_eq_valid_iff, Checked.map_eq_valid_iff,
      Members.required_textual_eq_valid_iff, Members.required_ruleType_eq_valid_iff,
      Members.optional_enabled_eq_valid_iff, Members.optional_id_eq_valid_iff,
      Members.optional_protocol_eq_valid_iff]
    constructor
    · rintro ⟨_, _, ⟨_, _, ⟨_, _, ⟨_, _, ⟨_, _, ⟨_, _, ⟨_, _, ⟨_, _, ⟨_, ⟨network, rfl⟩, rfl⟩,
        ⟨original, rfl⟩, rfl⟩, ⟨translated, rfl⟩, rfl⟩, ⟨enabled, rfl⟩, rfl⟩, ⟨id, rfl⟩, rfl⟩,
        typed, rfl⟩, ⟨originalPort, rfl⟩, rfl⟩, ⟨translatedPort, rfl⟩, rfl⟩, ⟨protocol, rfl⟩, rfl⟩
      refine ⟨⟨typed, ?_, enabled, id, fun _ => protocol⟩, rfl⟩
      intro field membership
      simp only [RuleType.textualFields, List.mem_cons, List.not_mem_nil, or_false] at membership
      rcases membership with rfl | rfl | rfl | rfl | rfl
      · exact network
      · exact original
      · exact translated
      · exact originalPort
      · exact translatedPort
    · rintro ⟨readable, rfl⟩
      exact ⟨_, _, ⟨_, _, ⟨_, _, ⟨_, (), ⟨_, _, ⟨_, _, ⟨_, _, ⟨_, _, ⟨_,
        ⟨readable.textual _ (by decide), rfl⟩, rfl⟩, ⟨readable.textual _ (by decide), rfl⟩, rfl⟩,
        ⟨readable.textual _ (by decide), rfl⟩, rfl⟩, ⟨readable.enabled, rfl⟩, rfl⟩,
        ⟨readable.id, rfl⟩, rfl⟩, readable.typed, rfl⟩, ⟨readable.textual _ (by decide), rfl⟩, rfl⟩,
        ⟨readable.textual _ (by decide), rfl⟩, rfl⟩, ⟨readable.protocol rfl, rfl⟩, rfl⟩

end RuleIntent

/-! ## Both layers -/

theorem Text.toString?_eq_some_iff {t : Text} {s : String} :
    t.toString? = some s ↔ t = .ofString s := by
  constructor
  · intro h
    obtain ⟨start, rest⟩ := t
    cases rest with
    | nil => cases h; rfl
    | cons run more => cases h
  · rintro rfl
    exact toString?_ofString s

theorem RuleType.ofJson?_eq_some_iff {value : Json} {type : RuleType} :
    ofJson? value = some type ↔ value = .str type.name := by
  constructor
  · intro h
    cases value with
    | str s =>
      obtain ⟨name, named, known⟩ := Option.bind_eq_some_iff.mp h
      rw [Text.toString?_eq_some_iff.mp named, ofName?_eq_some_iff.mp known]
    | null => cases h
    | bool b => cases h
    | int n => cases h
    | float x => cases h
    | arr items => cases h
    | obj members => cases h
  · rintro rfl
    exact ofName?_name type

namespace Compiler

theorem firstMissing_eq_none_iff {members : Members} {fields : List String} :
    firstMissing members fields = none ↔ ∀ field ∈ fields, members.get field ≠ .null := by
  simp [firstMissing, Members.get]

/-- The first layer lets every rule pass that the second one accepts. -/
theorem firstMissing_of_readable {type : RuleType} {members : Members}
    (readable : RuleIntent.Readable type members) :
    firstMissing members type.requiredFields = none := by
  rw [firstMissing_eq_none_iff]
  intro field membership isNull
  by_cases isType : field = "rule_type"
  · subst isType
    rw [readable.typed] at isNull
    cases isNull
  · have textual : (members.get field).Textual := by
      apply readable.textual
      cases type <;> simp_all [RuleType.requiredFields, RuleType.textualFields]
    rw [isNull] at textual
    cases textual

/-- A rule is read exactly if its members describe a rule of some type. -/
theorem readRule_eq_ok_iff {index : Nat} {members : Members} {rule : RuleIntent} :
    readRule index members = .ok rule ↔
      ∃ type, RuleIntent.Readable type members ∧ rule = .ofMembers type members := by
  constructor
  · intro h
    unfold readRule at h
    split at h
    · cases h
    · split at h
      · cases h
      · next type _ =>
        split at h
        · cases h
        · split at h
          · next accepted =>
            cases h
            exact ⟨type, RuleIntent.checkFields_eq_valid_iff.mp accepted⟩
          · cases h
  · rintro ⟨type, readable, rfl⟩
    have typed : (members.find? "rule_type").getD .null = .str type.name := readable.typed
    have known : RuleType.ofJson? (.str type.name) = some type :=
      RuleType.ofJson?_eq_some_iff.mpr rfl
    have accepted := RuleIntent.checkFields_eq_valid_iff.mpr ⟨readable, rfl⟩
    simp only [readRule, typed, known, firstMissing_of_readable readable, accepted]

end Compiler

end GatewayNat
