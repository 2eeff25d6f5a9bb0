import GatewayNat.Proofs.Endpoint
import GatewayNat.Proofs.Respelling
import GatewayNat.Report

/-!
# Records that are read back

A check makes a record of a value, and the record is written as a value again.
What is written is read as the same record, for each of the five kinds of
records (`records_read_back`).

For most records this holds whatever they are, since each field is written as a
value that is read as it stands.  A rule intent has two fields that may be read
as something else.  A blank id is none, and a blank protocol is the default one.
An intent without blanks there is in normal form (`RuleIntent.IsNormal`).

* What is read is in normal form.  A blank text is replaced, and the text of a
  number is not blank (`RuleIntent.isNormal_of_check`).
* An intent is read back exactly if it is in normal form
  (`RuleIntent.check_toJson_iff`).
-/

namespace GatewayNat

/-- Whatever a check makes of a value is written as a value of which it makes the same. -/
def Checked.ReadsBack {α : Type} (check : Json → Checked α) (write : α → Json) : Prop :=
  ∀ value a, check value = .valid a → check (write a) = .valid a

/-! ## Records that are read back whatever they are -/

theorem CompileReport.check_toJson (report : CompileReport) :
    check report.toJson = .valid report := rfl

theorem IdRange.check_toJson (range : IdRange) : check range.toJson = .valid range := rfl

/-! ## What is read is not blank -/

namespace Json

variable {value : Json}

theorem Textual.askedId_not_allBlank (textual : value.Textual) {text : Text}
    (asked : value.askedId = some text) : ¬text.allBlank = true := by
  cases textual with
  | str s =>
    rw [askedId] at asked
    split at asked
    · cases asked
    · next visible =>
      cases asked
      exact visible
  | int n =>
    cases asked
    exact (IsNumber.int n).not_allBlank
  | float x =>
    cases asked
    exact (IsNumber.float x).not_allBlank

theorem OptionalTextual.askedId_not_allBlank (optional : value.OptionalTextual) {text : Text}
    (asked : value.askedId = some text) : ¬text.allBlank = true := by
  rcases optional with rfl | textual
  · cases asked
  · exact textual.askedId_not_allBlank asked

theorem OptionalTextual.protocolText_not_allBlank (optional : value.OptionalTextual) :
    ¬value.protocolText.allBlank = true := by
  have default : ¬(Text.ofString "tcp").allBlank = true := by decide
  rcases optional with rfl | textual
  · exact default
  · cases textual with
    | str s =>
      rw [protocolText]
      split
      · exact default
      · next visible => exact visible
    | int n => exact (IsNumber.int n).not_allBlank
    | float x => exact (IsNumber.float x).not_allBlank

theorem askedId_ofText? {id : Option Text}
    (visible : ∀ text, id = some text → ¬text.allBlank = true) : (ofText? id).askedId = id := by
  cases id with
  | none => rfl
  | some text => rw [ofText?, askedId, if_neg (visible text rfl)]

theorem optionalTextual_ofText? (id : Option Text) : (ofText? id).OptionalTextual := by
  cases id with
  | none => exact .inl rfl
  | some text => exact .inr (.str text)

end Json

/-! ## Rule intents in normal form -/

namespace RuleIntent

/-- Neither the id nor the protocol is blank. -/
structure IsNormal (rule : RuleIntent) : Prop where
  id : ∀ text, rule.id = some text → ¬text.allBlank = true
  protocol : ∀ originalPort translatedPort protocol,
    rule.translation = .destination originalPort translatedPort protocol →
      ¬protocol.allBlank = true

variable {type : RuleType} {rule : RuleIntent}

theorem ruleType_ofMembers (type : RuleType) (members : Members) :
    (ofMembers type members).ruleType = type := by
  cases type <;> rfl

theorem Readable.isNormal {members : Members} (readable : Readable type members) :
    (ofMembers type members).IsNormal := by
  constructor
  case id => exact fun text asked => readable.id.askedId_not_allBlank asked
  case protocol =>
    intro originalPort translatedPort protocol same
    cases type with
    | snat => cases same
    | dnat =>
      cases same
      exact (readable.protocol rfl).protocolText_not_allBlank

/-- What is read is in normal form, and of the type that it is read for. -/
theorem isNormal_of_check {value : Json} (read : check type value = .valid rule) :
    rule.IsNormal ∧ rule.ruleType = type := by
  cases value with
  | obj members =>
    obtain ⟨readable, rfl⟩ := checkFields_eq_valid_iff.mp read
    exact ⟨readable.isNormal, ruleType_ofMembers type members⟩
  | _ => cases read

/-- The members of an intent describe a rule of its type. -/
theorem readable_toMembers (rule : RuleIntent) : Readable rule.ruleType rule.toMembers := by
  obtain ⟨networkId, originalIp, translatedIp, enabled, id, translation⟩ := rule
  cases translation with
  | source =>
    constructor
    case typed => rfl
    case textual =>
      intro field member
      simp only [ruleType, Translation.ruleType, RuleType.textualFields, List.mem_cons,
        List.not_mem_nil, or_false] at member
      rcases member with rfl | rfl | rfl <;> exact .str _
    case enabled => exact .inr (.inr (.str enabled))
    case id => exact Json.optionalTextual_ofText? id
    case protocol => intro isDestination; cases isDestination
  | destination originalPort translatedPort protocol =>
    constructor
    case typed => rfl
    case textual =>
      intro field member
      simp only [ruleType, Translation.ruleType, RuleType.textualFields, List.mem_cons,
        List.not_mem_nil, or_false] at member
      rcases member with rfl | rfl | rfl | rfl | rfl <;> exact .str _
    case enabled => exact .inr (.inr (.str enabled))
    case id => exact Json.optionalTextual_ofText? id
    case protocol => exact fun _ => .inr (.str protocol)

/-- An intent in normal form is the one that its members describe. -/
theorem ofMembers_toMembers (normal : rule.IsNormal) :
    ofMembers rule.ruleType rule.toMembers = rule := by
  obtain ⟨networkId, originalIp, translatedIp, enabled, id, translation⟩ := rule
  have asked : (Json.ofText? id).askedId = id := Json.askedId_ofText? normal.id
  cases translation with
  | source =>
    show RuleIntent.mk networkId originalIp translatedIp enabled (Json.ofText? id).askedId
      .source = _
    rw [asked]
  | destination originalPort translatedPort protocol =>
    have spoken : (Json.str protocol).protocolText = protocol :=
      if_neg (normal.protocol _ _ _ rfl)
    show RuleIntent.mk networkId originalIp translatedIp enabled (Json.ofText? id).askedId
      (.destination originalPort translatedPort (Json.str protocol).protocolText) = _
    rw [asked, spoken]

/-- An intent is read back exactly if it is in normal form. -/
theorem check_toJson_iff :
    check type rule.toJson = .valid rule ↔ rule.IsNormal ∧ rule.ruleType = type := by
  constructor
  · exact isNormal_of_check
  · rintro ⟨normal, rfl⟩
    exact checkFields_eq_valid_iff.mpr
      ⟨readable_toMembers rule, (ofMembers_toMembers normal).symm⟩

end RuleIntent

/-! ## All records -/

/-- What is read as a record is written as a value that is read as the same record.  So a rule
intent that is read twice is written alike and translates alike on every interface. -/
theorem records_read_back :
    (∀ type, Checked.ReadsBack (RuleIntent.check type) RuleIntent.toJson) ∧
      Checked.ReadsBack ServiceIntent.check ServiceIntent.toJson ∧
      Checked.ReadsBack CompileReport.check CompileReport.toJson ∧
      Checked.ReadsBack IdRange.check IdRange.toJson ∧
      ∀ type value rule again, RuleIntent.check type value = .valid rule →
        RuleIntent.check type rule.toJson = .valid again →
          again.toJson = rule.toJson ∧
            ∀ interface, again.gatewayMembers interface = rule.gatewayMembers interface := by
  have rules : ∀ type, Checked.ReadsBack (RuleIntent.check type) RuleIntent.toJson :=
    fun type value rule read => RuleIntent.check_toJson_iff.mpr (RuleIntent.isNormal_of_check read)
  refine ⟨rules, fun _ intent _ => intent.check_toJson, fun _ report _ => report.check_toJson,
    fun _ range _ => range.check_toJson, ?_⟩
  intro type value rule again read readAgain
  have same := rules type value rule read
  rw [readAgain] at same
  cases same
  exact ⟨rfl, fun interface => rfl⟩

namespace BlankRule

/-- A rule with a blank id, no protocol, a port that is no number and a port of digits. -/
def value : Json :=
  .obj [("id", .str " "), ("protocol", .null), ("original_port", .float .nan),
    ("translated_port", .int 80), ("rule_type", .str "DNAT"), ("network_id", .str "web"),
    ("original_ip", .str "10.0.0.1"), ("translated_ip", .str "")]

/-- The intent of the rule. -/
def intent : RuleIntent :=
  ⟨"web", "10.0.0.1", "", "true", none, .destination "nan" "80" "tcp"⟩

end BlankRule

/-- A rule from which blanks and numbers are gone once it is read. -/
theorem blankRule_reads_back :
    RuleIntent.check .dnat BlankRule.value = .valid BlankRule.intent ∧
      RuleIntent.check .dnat BlankRule.intent.toJson = .valid BlankRule.intent := by
  have read : RuleIntent.check .dnat BlankRule.value = .valid BlankRule.intent := by decide
  obtain ⟨rules, -⟩ := records_read_back
  exact ⟨read, rules .dnat _ _ read⟩

end GatewayNat
