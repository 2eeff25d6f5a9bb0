import Mathlib.Logic.Relation
import GatewayNat.Proofs.Identifiers
import GatewayNat.Proofs.SameReading
import GatewayNat.Proofs.ServiceReading

/-!
# Spellings of one intent

An intent may say one thing in several ways.

* Null stands for absence, under every name.
* A blank id is no id, and a blank protocol of a destination rule is none.
* A truth value stands for its word, and a number for its text.

To respell a rule is to put one of these in the place of the other, once, under
one name (`RuleIntent.Respelling`).  Rules before and after it are alike.  So any
number of them, in any of the rules and in the flag of the service, leaves the
compilation as it is (`compile_eq_of_respelled`): the document or the failure,
the calls and the records.

A number could come to stand for no id or no protocol if its text were blank.
It never is (`Json.IsNumber.not_allBlank`).
-/

namespace GatewayNat

/-! ## Numbers -/

/-- Whether a value is a number. -/
inductive Json.IsNumber : Json → Prop where
  | int (n : Int) : IsNumber (.int n)
  | float (x : Binary64) : IsNumber (.float x)

namespace Text

/-- A text is not blank if one of its characters is not. -/
theorem not_allBlank_of_mem {s : String} {c : Char} (member : c ∈ s.toList)
    (visible : isBlank c = false) : ¬allBlank (ofString s) = true := by
  intro blank
  rw [allBlank, Bool.and_eq_true, List.all_eq_true] at blank
  rw [blank.2 c member] at visible
  cases visible

theorem isBlank_of_isDigit {c : Char} (digit : c.isDigit = true) : isBlank c = false := by
  have bounds : 48 ≤ c.toNat ∧ c.toNat ≤ 57 := Char.isDigit_iff_toNat.mp digit
  simp only [isBlank, isSpace, Bool.or_eq_false_iff, Bool.and_eq_false_iff, decide_eq_false_iff_not,
    beq_eq_false_iff_ne]
  omega

end Text

namespace Decimal.Layout

/-- A magnitude in the plain layout has a point or an exponent. -/
theorem exists_mem_magnitude (m : Nat) (q : Int) :
    ∃ c ∈ plainLayout.magnitude m q, Text.isBlank c = false := by
  unfold magnitude
  split
  · exact ⟨'0', .head _, by decide⟩
  · simp only []
    split
    · refine ⟨'.', ?_, by decide⟩
      unfold positional
      split
      · exact .tail _ (.head _)
      · split
        · exact List.mem_append_right _ (by decide)
        · exact List.mem_append_right _ (.head _)
    · exact ⟨'e', List.mem_append_right _ (.head _), by decide⟩

end Decimal.Layout

theorem Binary64.exists_mem_text (x : Binary64) :
    ∃ c ∈ x.text.toList, Text.isBlank c = false := by
  unfold text Decimal.Layout.write
  split
  · exact ⟨'n', by decide, by decide⟩
  · next negative _ =>
    cases negative with
    | false => exact ⟨'i', by decide, by decide⟩
    | true => exact ⟨'-', by decide, by decide⟩
  · next negative m q _ =>
    obtain ⟨c, member, visible⟩ := Decimal.Layout.exists_mem_magnitude m q
    refine ⟨c, ?_, visible⟩
    rw [String.toList_ofList]
    cases negative with
    | false => exact member
    | true => exact .tail _ member

theorem Decimal.exists_mem_toString (n : Int) :
    ∃ c ∈ (toString n : String).toList, Text.isBlank c = false := by
  rw [Int.toString_eq_repr, Int.repr_eq_if]
  split
  · obtain ⟨digit, member⟩ := List.exists_mem_of_ne_nil _ (Nat.toDigits_ne_nil (n := n.toNat))
    refine ⟨digit, ?_, Text.isBlank_of_isDigit ?_⟩
    · rwa [Nat.repr_eq_ofList_toDigits, String.toList_ofList]
    · exact Nat.isDigit_of_mem_toDigits (by decide) (by decide) member
  · exact ⟨'-', by simp, by decide⟩

/-- The text of a number is not blank. -/
theorem Json.IsNumber.not_allBlank {value : Json} (number : value.IsNumber) :
    ¬Text.allBlank value.plainText = true := by
  cases number with
  | int n =>
    obtain ⟨c, member, visible⟩ := Decimal.exists_mem_toString n
    exact Text.not_allBlank_of_mem member visible
  | float x =>
    obtain ⟨c, member, visible⟩ := x.exists_mem_text
    exact Text.not_allBlank_of_mem member visible

/-! ## One entry in another spelling -/

/-- Members that have the same entries under all names but one. -/
def Members.AgreeBut (name : Text) (a b : Members) : Prop :=
  ∀ other, other ≠ name → a.find? other = b.find? other

/-- An entry that is null is left out, or the other way round. -/
inductive NullRespelling : Option Json → Option Json → Prop where
  | leftOut : NullRespelling (some .null) none
  | putIn : NullRespelling none (some .null)

/-- The entry of a flag in another spelling. -/
inductive FlagRespelling : Option Json → Option Json → Prop where
  | null {v w : Option Json} (same : NullRespelling v w) : FlagRespelling v w
  | word (b : Bool) : FlagRespelling (some (.bool b)) (some (.str (flagWord b)))

/-- The entry of a name in a rule in another spelling. -/
inductive RuleIntent.EntryRespelling (rule : Members) :
    Text → Option Json → Option Json → Prop where
  | null (name : Text) {v w : Option Json} (same : NullRespelling v w) :
    EntryRespelling rule name v w
  | flag {v w : Option Json} (same : FlagRespelling v w) : EntryRespelling rule "enabled" v w
  | blankId (s : Text) (blank : Text.allBlank s = true) :
    EntryRespelling rule "id" (some (.str s)) none
  | blankProtocol (typed : rule.get "rule_type" = .str "DNAT") (s : Text)
    (blank : Text.allBlank s = true) : EntryRespelling rule "protocol" (some (.str s)) none
  | number (name : String) (used : name ∈ rule.usedNames) (apart : name ≠ "rule_type")
    (value : Json) (number : value.IsNumber) :
    EntryRespelling rule name (some value) (some (.str value.plainText))

/-- One entry of a rule is respelled. -/
def RuleIntent.Respelling (a b : Members) : Prop :=
  ∃ name, a.AgreeBut name b ∧ EntryRespelling a name (a.find? name) (b.find? name)

/-! ## Rules before and after one respelling -/

namespace Members

variable {a b : Members}

theorem get_of_find? {name : String} {entry : Option Json} (stands : a.find? name = entry) :
    a.get name = entry.getD .null := by
  rw [get, stands]

theorem get_eq_of_nullRespelling {name : Text} (apart : a.AgreeBut name b)
    (same : NullRespelling (a.find? name) (b.find? name)) (other : String) :
    a.get other = b.get other := by
  rw [get, get]
  by_cases here : .ofString other = name
  · rw [here]
    generalize a.find? name = v at same ⊢
    generalize b.find? name = w at same ⊢
    cases same <;> rfl
  · rw [apart _ here]

end Members

namespace Json

variable {v w : Json}

theorem sameFor_asRuleEnabled_word (b : Bool) :
    SameFor asRuleEnabled (.bool b) (.str (flagWord b)) := rfl

theorem sameFor_asRuleId_blank {s : Text} (blank : Text.allBlank s = true) :
    SameFor asRuleId (.str s) .null := by
  simp [SameFor, asRuleId, blank]

theorem sameFor_asProtocol_blank {s : Text} (blank : Text.allBlank s = true) :
    SameFor asProtocol (.str s) .null := by
  simp [SameFor, asProtocol, blank]

variable {value : Json} (number : value.IsNumber)

include number

theorem IsNumber.ne_null : value ≠ .null := by
  cases number <;> simp

theorem IsNumber.sameFor_asTextOfNumber :
    SameFor asTextOfNumber value (.str value.plainText) := by
  cases number <;> rfl

theorem IsNumber.sameFor_asRuleEnabled :
    SameFor asRuleEnabled value (.str value.plainText) := by
  cases number <;> rfl

theorem IsNumber.sameFor_asRuleId : SameFor asRuleId value (.str value.plainText) := by
  have visible := number.not_allBlank
  cases number <;> rw [SameFor, asRuleId, if_neg visible] <;> rfl

theorem IsNumber.sameFor_asProtocol : SameFor asProtocol value (.str value.plainText) := by
  have visible := number.not_allBlank
  cases number <;> rw [SameFor, asProtocol, if_neg visible] <;> rfl

end Json

theorem RuleType.not_mem_textualFields (type : RuleType) :
    "enabled" ∉ type.textualFields ∧ "id" ∉ type.textualFields ∧
      "protocol" ∉ type.textualFields := by
  cases type <;> decide

namespace RuleIntent

variable {a b : Members}

/-- Rules with the same entries under all names but one are alike if the checks of that name have
the same verdict. -/
theorem Alike.of_agreeBut {name : String} (apart : a.AgreeBut name b) (other : name ≠ "rule_type")
    (textual : ∀ type : RuleType, name ∈ type.textualFields →
      (a.get name = .null ↔ b.get name = .null) ∧
        Json.SameFor Json.asTextOfNumber (a.get name) (b.get name))
    (enabled : name = "enabled" → Json.SameFor Json.asRuleEnabled (a.get name) (b.get name))
    (id : name = "id" → Json.SameFor Json.asRuleId (a.get name) (b.get name))
    (protocol : name = "protocol" → a.get "rule_type" = .str "DNAT" →
      Json.SameFor Json.asProtocol (a.get name) (b.get name)) : Alike a b := by
  have same : ∀ field : String, field ≠ name → a.get field = b.get field := by
    intro field elsewhere
    rw [Members.get, Members.get, apart _ (mt Text.ofString_inj.mp elsewhere)]
  refine ⟨same _ other.symm, ?_, ?_, ?_, ?_, ?_⟩
  · intro type _ field member
    by_cases here : field = name
    · subst here
      exact (textual type member).1
    · rw [same field here]
  · intro type _ field member
    by_cases here : field = name
    · subst here
      exact (textual type member).2
    · rw [same field here, Json.SameFor]
  · by_cases here : "enabled" = name
    · subst here
      exact enabled rfl
    · rw [same _ here, Json.SameFor]
  · by_cases here : "id" = name
    · subst here
      exact id rfl
    · rw [same _ here, Json.SameFor]
  · intro typed
    by_cases here : "protocol" = name
    · subst here
      exact protocol rfl typed
    · rw [same _ here, Json.SameFor]

/-- A rule is like the rule before one respelling. -/
theorem Respelling.alike (respelled : Respelling a b) : Alike a b := by
  obtain ⟨name, apart, entry⟩ := respelled
  have null : NullRespelling (a.find? name) (b.find? name) → Alike a b := fun same =>
    .of_get fun other _ => Members.get_eq_of_nullRespelling apart same other
  generalize before : a.find? name = v at entry null
  generalize after : b.find? name = w at entry null
  cases entry with
  | null _ same => exact null same
  | flag same =>
    cases same with
    | null same => exact null same
    | word flag =>
      refine .of_agreeBut apart (by decide) ?_ ?_ (absurd · (by decide)) (absurd · (by decide))
      · exact fun type member => absurd member type.not_mem_textualFields.1
      · rw [Members.get_of_find? before, Members.get_of_find? after]
        exact fun _ => Json.sameFor_asRuleEnabled_word flag
  | blankId s blank =>
    refine .of_agreeBut apart (by decide) ?_ (absurd · (by decide)) ?_ (absurd · (by decide))
    · exact fun type member => absurd member type.not_mem_textualFields.2.1
    · rw [Members.get_of_find? before, Members.get_of_find? after]
      exact fun _ => Json.sameFor_asRuleId_blank blank
  | blankProtocol typed s blank =>
    refine .of_agreeBut apart (by decide) ?_ (absurd · (by decide)) (absurd · (by decide)) ?_
    · exact fun type member => absurd member type.not_mem_textualFields.2.2
    · rw [Members.get_of_find? before, Members.get_of_find? after]
      exact fun _ _ => Json.sameFor_asProtocol_blank blank
  | number field used other value number =>
    apply Alike.of_agreeBut apart other
    all_goals rw [Members.get_of_find? before, Members.get_of_find? after]
    · exact fun _ _ => ⟨by simp [number.ne_null], number.sameFor_asTextOfNumber⟩
    · exact fun _ => number.sameFor_asRuleEnabled
    · exact fun _ => number.sameFor_asRuleId
    · exact fun _ _ => number.sameFor_asProtocol

/-- However often a rule is respelled, it is read as it was. -/
theorem readAlike_of_respelled (respelled : Relation.ReflTransGen Respelling a b) :
    Compiler.ReadAlike a b := by
  induction respelled with
  | refl => exact .refl a
  | tail _ last ih => exact ih.trans (Compiler.readRule_eq_of_alike last.alike)

end RuleIntent

/-! ## Intents before and after -/

namespace Members

variable {a b : Members}

theorem sameFor_asServiceEnabled {v w : Option Json} (respelled : FlagRespelling v w) :
    Json.SameFor Json.asServiceEnabled (v.getD .null) (w.getD .null) := by
  cases respelled with
  | null same => cases same <;> rfl
  | word b => rfl

/-- However often the flag of a service is respelled, it is read as it was. -/
theorem verdict_enabled_of_respelled
    (respelled : Relation.ReflTransGen FlagRespelling (a.find? "enabled") (b.find? "enabled")) :
    (a.optional "enabled" (.ofString "true") Json.asServiceEnabled).verdict =
      (b.optional "enabled" (.ofString "true") Json.asServiceEnabled).verdict := by
  have readsNull : Json.asServiceEnabled .null = .valid (.ofString "true") := rfl
  apply verdict_optional_congr readsNull
  rw [get, get]
  generalize a.find? "enabled" = v at respelled ⊢
  generalize b.find? "enabled" = w at respelled ⊢
  induction respelled with
  | refl => rfl
  | tail _ last ih => exact ih.trans (sameFor_asServiceEnabled last)

end Members

/-- Respelling the flag and any of the rules leaves the compilation as it is. -/
theorem compile_eq_of_respelled {a b : Members} {rules respelt : List Members}
    (flag : Relation.ReflTransGen FlagRespelling (a.find? "enabled") (b.find? "enabled"))
    (listed : a.find? "nat_rules" = some (.arr (rules.map .obj)))
    (listedToo : b.find? "nat_rules" = some (.arr (respelt.map .obj)))
    (each : List.Forall₂ (Relation.ReflTransGen RuleIntent.Respelling) rules respelt)
    (d : Directory) (past : List Call) (gatewayId : Text) (range : IdRange) :
    compile d past gatewayId (.obj a) range = compile d past gatewayId (.obj b) range := by
  have alike : List.Forall₂ Compiler.ReadAlike rules respelt :=
    each.imp fun _ _ respelled => RuleIntent.readAlike_of_respelled respelled
  apply compile_eq_of_sameVerdict
  apply ServiceIntent.sameVerdict_check (Members.verdict_enabled_of_respelled flag)
  rw [Members.optional_rules_eq_valid_iff.mpr (.inr listed),
    Members.optional_rules_eq_valid_iff.mpr (.inr listedToo)]
  exact .ok alike

namespace NumberedNetwork

/-- A directory with a network whose id is a number. -/
def directory : Directory := StaticDirectory.toDirectory ⟨[("edge", [("7", [])])]⟩

/-- A rule that gives the id of the network as some value. -/
def rule (network : Json) : Members :=
  [("rule_type", .str "SNAT"), ("network_id", network), ("original_ip", .str "10.0.0.1"),
    ("translated_ip", .str "192.0.2.1")]

/-- An intent with one rule. -/
def intent (flag : Json) (rule : Members) : Members :=
  [("enabled", flag), ("nat_rules", .arr [.obj rule])]

end NumberedNetwork

open NumberedNetwork in
/-- A number as its text, a null where an id was left out, and a truth value as its word. -/
theorem compile_respelled_numberedNetwork :
    let plain := intent (.bool true) (rule (.int 7))
    let respelt := intent (.str "true") (("id", .null) :: rule (.str "7"))
    compile directory [] "edge" (.obj plain) ⟨65537, 131072⟩ =
        compile directory [] "edge" (.obj respelt) ⟨65537, 131072⟩ ∧
      (compile directory [] "edge" (.obj plain) ⟨65537, 131072⟩).result =
        .ok ⟨"true", [⟨"65537", "true", [], "10.0.0.1", "192.0.2.1", .source⟩]⟩ := by
  intro plain respelt
  have flag : FlagRespelling (some (.bool true)) (some (.str "true")) := .word true
  have number : RuleIntent.Respelling (rule (.int 7)) (rule (.str "7")) := by
    refine ⟨"network_id", ?_, .number "network_id" (by decide) (by decide) (.int 7) (.int 7)⟩
    intro other elsewhere
    simp [rule, Table.find?, elsewhere.symm]
  have null : RuleIntent.Respelling (rule (.str "7")) (("id", .null) :: rule (.str "7")) := by
    refine ⟨"id", ?_, .null "id" .putIn⟩
    intro other elsewhere
    simp [Table.find?, elsewhere.symm]
  refine ⟨?_, by decide⟩
  exact compile_eq_of_respelled (a := plain) (b := respelt) (.single flag) rfl rfl
    (.cons (.tail (.single number) null) .nil) directory [] "edge" ⟨65537, 131072⟩

end GatewayNat
