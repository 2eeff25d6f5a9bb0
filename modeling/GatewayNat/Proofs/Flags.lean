import GatewayNat.Proofs.Respelling

/-!
# Flags

A document has a flag of its own and one for each of its rules.  Each comes from
the value `enabled` of the intent or of the rule at the same place, and from
nothing else (`Compiler.flags_of_compile`).

* No value, null and true give the word of true, and false gives its own word.
* A text is the flag itself, and a number gives its text.

A flag should be the word of true as well if the text is empty (`Json.Defaults`).
It is empty instead, and nothing else gives an empty flag (`compile_flags`).  So
documents with empty flags exist (`not_forall_flags_defaulted`).
-/

namespace GatewayNat

/-- The flag of a document and those of its rules. -/
def Document.flags (document : Document) : List Text :=
  document.enabled :: document.rules.map CompiledRule.enabled

/-- The values for the flags of an intent with some rules, null for an absent one. -/
def givenFlags (members : Members) (rules : List Members) : List Json :=
  members.get "enabled" :: rules.map fun rule => rule.get "enabled"

namespace Json

variable {value : Json} {flag : Text}

/-- The flag for a value, with a default for what is absent, null or empty. -/
inductive Defaults : Json → Text → Prop where
  | null : Defaults .null "true"
  | empty : Defaults (.str "") "true"
  | yes : Defaults (.bool true) "true"
  | no : Defaults (.bool false) "false"
  | text (s : Text) (filled : s ≠ "") : Defaults (.str s) s
  | int (n : Int) : Defaults (.int n) (toString n : String)
  | float (x : Binary64) : Defaults (.float x) x.text

/-- No flag is empty if empty texts have the default. -/
theorem Defaults.ne_empty (defaulted : Defaults value flag) : flag ≠ "" := by
  cases defaulted with
  | null => decide
  | empty => decide
  | yes => decide
  | no => decide
  | text s filled => exact filled
  | int n =>
    intro same
    exact (IsNumber.int n).not_allBlank (congrArg Text.allBlank same)
  | float x =>
    intro same
    exact (IsNumber.float x).not_allBlank (congrArg Text.allBlank same)

theorem SwitchLike.flagLike (switch : value.SwitchLike) : value.FlagLike := by
  rcases switch with null | truth | ⟨s, rfl⟩
  · exact .inl null
  · exact .inr (.inl truth)
  · exact .inr (.inr (.str s))

/-- All values but the empty text stand for the flag that they should stand for. -/
theorem FlagLike.defaults (like : value.FlagLike) (filled : value ≠ .str "") :
    Defaults value value.flag := by
  rcases like with rfl | ⟨b, rfl⟩ | textual
  · exact .null
  · cases b with
    | false => exact .no
    | true => exact .yes
  · cases textual with
    | str s => exact .text s fun same => filled (same ▸ rfl)
    | int n => exact .int n
    | float x => exact .float x

end Json

/-- The flags of a document are those of the values at the same places. -/
theorem Compiler.flags_of_compile {d : Directory} {past : List Call} {gatewayId : Text}
    {intent : Json} {range : IdRange} {document : Document}
    (compiled : (compile d past gatewayId intent range).result = .ok document) :
    ∃ (members : Members) (rules : List Members), intent = .obj members ∧
      members.ListsRules rules ∧ (members.get "enabled").SwitchLike ∧
      (∀ rule ∈ rules, (rule.get "enabled").FlagLike) ∧
      document.flags = (givenFlags members rules).map Json.flag := by
  obtain ⟨bound, enabled⟩ := (compile_eq_ok_iff fun _ => .ok none).mp compiled
  obtain ⟨faultless, -, compiledRules⟩ := bindRules_eq_ok_iff.mp bound
  obtain ⟨service, read⟩ := exists_valid_of_fault_eq_none faultless
  obtain ⟨members, rfl, switch, flag, listed⟩ := ServiceIntent.check_eq_valid_iff.mp read
  rw [admission_of_valid read] at faultless compiledRules
  obtain ⟨readable, -⟩ := admitRules_fault_eq_none_iff.mp faultless
  refine ⟨members, service.rules, rfl, listed, switch, ?_, ?_⟩
  · intro rule member
    obtain ⟨type, readable⟩ := readable rule member
    exact readable.enabled
  · rw [Document.flags, enabled, enabledOf_of_valid read, flag, compiledRules,
      admitRules_rules_of_fault_eq_none faultless, givenFlags, List.map_cons]
    congr 1
    refine List.ext_getElem (by simp) ?_
    intro index before after
    simp only [List.getElem_map, List.getElem_mapIdx]
    rfl

/-- The flags of a document go by their values.  Each is the one for its value, but the empty text
stands for itself.  So exactly the empty texts give empty flags. -/
theorem compile_flags {d : Directory} {past : List Call} {gatewayId : Text} {intent : Json}
    {range : IdRange} {document : Document}
    (compiled : (compile d past gatewayId intent range).result = .ok document) :
    ∃ (members : Members) (rules : List Members), intent = .obj members ∧
      members.ListsRules rules ∧ (members.get "enabled").SwitchLike ∧
      List.Forall₂
        (fun (value : Json) (flag : Text) =>
          if value = .str "" then flag = "" else Json.Defaults value flag)
        (givenFlags members rules) document.flags ∧
      (("" : Text) ∈ document.flags ↔ .str "" ∈ givenFlags members rules) := by
  obtain ⟨members, rules, rfl, listed, switch, like, flags⟩ := Compiler.flags_of_compile compiled
  have allLike : ∀ value ∈ givenFlags members rules, value.FlagLike := by
    rw [givenFlags, List.forall_mem_cons, List.forall_mem_map]
    exact ⟨switch.flagLike, like⟩
  refine ⟨members, rules, rfl, listed, switch, ?each, ?empty⟩
  case each =>
    rw [flags, List.forall₂_map_right_iff, List.forall₂_same]
    intro value member
    split
    · next same => rw [same]; rfl
    · next filled => exact (allLike value member).defaults filled
  case empty =>
    rw [flags, List.mem_map]
    constructor
    · rintro ⟨value, member, empty⟩
      by_contra absent
      have filled : value ≠ .str "" := fun same => absent (same ▸ member)
      exact ((allLike value member).defaults filled).ne_empty empty
    · intro member
      exact ⟨_, member, rfl⟩

namespace TwoRules

/-- The two rules with a flag for the first. -/
def flaggedRules (first : Json) : List Members := [("enabled", first) :: rule, rule]

/-- The members of an intent with flags: its own, and that of the first rule. -/
def flagged (own first : Json) : Members :=
  [("enabled", own), ("nat_rules", .arr ((flaggedRules first).map .obj))]

/-- The document of an intent with flags, in a range that begins with 65537. -/
def flaggedDocument (own first : Text) : Document where
  enabled := own
  rules := [⟨"65537", first, [], "10.0.0.1", "192.0.2.1", .source⟩,
    ⟨"65538", "true", [], "10.0.0.1", "192.0.2.1", .source⟩]

end TwoRules

/-- Flags from false, from a number and from nothing. -/
theorem flags_of_twoRules :
    (compile TwoRules.directory [] "edge" (.obj (TwoRules.flagged (.bool false) (.int 0)))
        ⟨65537, 131072⟩).result = .ok (TwoRules.flaggedDocument "false" "0") ∧
      ("" : Text) ∉ (TwoRules.flaggedDocument "false" "0").flags := by
  have compiled : (compile TwoRules.directory [] "edge"
      (.obj (TwoRules.flagged (.bool false) (.int 0))) ⟨65537, 131072⟩).result =
        .ok (TwoRules.flaggedDocument "false" "0") := by decide
  obtain ⟨members, rules, same, listed, -, -, empty_iff⟩ := compile_flags compiled
  cases same
  have given : rules = TwoRules.flaggedRules (.int 0) := listed.unique (.inr rfl)
  subst given
  exact ⟨compiled, fun empty => absurd (empty_iff.mp empty) (by decide)⟩

/-- An empty text gives an empty flag, to the document and to a rule. -/
theorem not_forall_flags_defaulted :
    ¬∀ (d : Directory) (past : List Call) (gatewayId : Text) (members : Members)
      (rules : List Members) (range : IdRange) (document : Document),
        members.ListsRules rules →
        (compile d past gatewayId (.obj members) range).result = .ok document →
          List.Forall₂ Json.Defaults (givenFlags members rules) document.flags := by
  intro all
  have compiled : (compile TwoRules.directory [] "edge"
      (.obj (TwoRules.flagged (.str "") (.str ""))) ⟨65537, 131072⟩).result =
        .ok (TwoRules.flaggedDocument "" "") := by decide
  have defaulted := all _ _ _ _ (TwoRules.flaggedRules (.str "")) _ _ (.inr rfl) compiled
  cases defaulted with
  | cons head tail => exact head.ne_empty rfl

end GatewayNat
