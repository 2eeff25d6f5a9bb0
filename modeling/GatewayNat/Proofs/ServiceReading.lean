import GatewayNat.Proofs.Checking

/-!
# What a service intent must say

A service intent is read exactly if it is an object whose flag is a truth value
or a text, or left out, and whose rules are a list of objects, or left out
(`ServiceIntent.check_eq_valid_iff`).  A flag may be null, but the list of rules
may not.  Nothing is asked of the rules themselves.
-/

namespace GatewayNat

/-! ## The fields of a service intent -/

namespace Json

/-- Null, a truth value or a text. -/
def SwitchLike (value : Json) : Prop := value = .null ∨ (∃ b, value = .bool b) ∨ ∃ s, value = .str s

theorem asServiceEnabled_eq_valid_iff {value : Json} {text : Text} :
    value.asServiceEnabled = .valid text ↔ value.SwitchLike ∧ text = value.flag := by
  constructor
  · intro h
    cases value with
    | null => cases h; exact ⟨.inl rfl, rfl⟩
    | bool b => cases h; exact ⟨.inr (.inl ⟨b, rfl⟩), by cases b <;> rfl⟩
    | str s => cases h; exact ⟨.inr (.inr ⟨_, rfl⟩), rfl⟩
    | int n => cases h
    | float x => cases h
    | arr items => cases h
    | obj members => cases h
  · rintro ⟨rfl | ⟨b, rfl⟩ | ⟨s, rfl⟩, rfl⟩
    · rfl
    · cases b <;> rfl
    · rfl

theorem asObject_eq_valid_iff {value : Json} {members : Members} :
    value.asObject = .valid members ↔ value = .obj members := by
  cases value <;> simp [asObject, Checked.fail]

theorem asList_asObject_eq_valid_iff {value : Json} {rules : List Members} :
    asList asObject value = .valid rules ↔ value = .arr (rules.map .obj) := by
  cases value with
  | arr items =>
    rw [asList, Checked.items_eq_valid_iff, Json.arr.injEq]
    induction items generalizing rules with
    | nil => cases rules <;> simp
    | cons item rest ih =>
      cases rules with
      | nil => simp
      | cons members more => simp [ih, asObject_eq_valid_iff]
  | null => simp [asList, Checked.fail]
  | bool b => simp [asList, Checked.fail]
  | int n => simp [asList, Checked.fail]
  | float x => simp [asList, Checked.fail]
  | str s => simp [asList, Checked.fail]
  | obj members => simp [asList, Checked.fail]

end Json

/-- What a list of rules that may be left out is. -/
def Members.ListsRules (members : Members) (rules : List Members) : Prop :=
  (members.find? "nat_rules" = none ∧ rules = []) ∨
    members.find? "nat_rules" = some (.arr (rules.map .obj))

namespace Members

theorem optional_switch_eq_valid_iff {members : Members} {text : Text} :
    members.optional "enabled" (.ofString "true") Json.asServiceEnabled = .valid text ↔
      (members.get "enabled").SwitchLike ∧ text = (members.get "enabled").flag := by
  have readsNull : Json.asServiceEnabled .null = .valid (.ofString "true") := rfl
  rw [optional_eq_valid_iff_get readsNull, Json.asServiceEnabled_eq_valid_iff]

theorem optional_rules_eq_valid_iff {members : Members} {rules : List Members} :
    members.optional "nat_rules" [] (Json.asList Json.asObject) = .valid rules ↔
      members.ListsRules rules := by
  unfold optional ListsRules
  cases members.find? "nat_rules" with
  | none => simp [eq_comm]
  | some value => simp [Checked.under_eq_valid_iff, Json.asList_asObject_eq_valid_iff]

/-- There is one list of rules that an intent lists. -/
theorem ListsRules.unique {members : Members} {rules others : List Members}
    (listed : members.ListsRules rules) (listedToo : members.ListsRules others) :
    rules = others := by
  rw [← optional_rules_eq_valid_iff] at listed listedToo
  exact Checked.valid.inj (listed.symm.trans listedToo)

end Members

namespace ServiceIntent

/-- What a service intent must be, and how it is read. -/
theorem check_eq_valid_iff {intent : Json} {service : ServiceIntent} :
    check intent = .valid service ↔
      ∃ members : Members, intent = .obj members ∧ (members.get "enabled").SwitchLike ∧
        service.enabled = (members.get "enabled").flag ∧ members.ListsRules service.rules := by
  cases intent with
  | obj members =>
    simp only [check, checkFields, Checked.seq_eq_valid_iff, Checked.map_eq_valid_iff,
      Members.optional_rules_eq_valid_iff]
    constructor
    · rintro ⟨_, rules, ⟨enabled, accepted, rfl⟩, listed, rfl⟩
      obtain ⟨switch, same⟩ := Members.optional_switch_eq_valid_iff.mp accepted
      exact ⟨members, rfl, switch, same, listed⟩
    · rintro ⟨_, same, switch, enabled, listed⟩
      cases same
      exact ⟨_, service.rules,
        ⟨service.enabled, Members.optional_switch_eq_valid_iff.mpr ⟨switch, enabled⟩, rfl⟩,
        listed, rfl⟩
  | null => simp [check, Checked.fail]
  | bool b => simp [check, Checked.fail]
  | int n => simp [check, Checked.fail]
  | float x => simp [check, Checked.fail]
  | str s => simp [check, Checked.fail]
  | arr items => simp [check, Checked.fail]

end ServiceIntent

/-! ## Intents that are made of rules -/

/-- The service intent of a list of rules, with the fields of another intent. -/
def ServiceIntent.ofRules (fields : Members) (rules : List Members) : Json :=
  .obj (fields.set "nat_rules" (.arr (rules.map .obj)))

theorem ServiceIntent.check_ofRules (fields : Members) (rules : List Members) :
    check (ofRules fields rules) =
      (fun enabled => ⟨enabled, rules⟩) <$>
        fields.optional "enabled" (.ofString "true") Json.asServiceEnabled := by
  have objects : Checked.items Json.asObject 0 (rules.map .obj) = .valid rules := by
    rw [Checked.items_eq_valid_iff, List.map_map]
    rfl
  have enabled : Members.optional (Table.set fields "nat_rules" (.arr (rules.map .obj))) "enabled"
      (.ofString "true") Json.asServiceEnabled =
        fields.optional "enabled" (.ofString "true") Json.asServiceEnabled := by
    rw [Members.optional, Table.find?_set, if_neg (by decide)]
    rfl
  have natRules : Members.optional (Table.set fields "nat_rules" (.arr (rules.map .obj)))
      "nat_rules" [] (Json.asList Json.asObject) = .valid rules := by
    rw [Members.optional, Table.find?_set, if_pos rfl]
    simp only [Json.asList, objects]
    rfl
  rw [ofRules, check, checkFields, natRules, enabled]
  cases fields.optional "enabled" (.ofString "true") Json.asServiceEnabled <;> rfl

end GatewayNat
