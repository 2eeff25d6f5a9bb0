import GatewayNat.Proofs.Identifiers
import GatewayNat.Proofs.SameReading
import GatewayNat.Proofs.ServiceReading

/-!
# Names of no use

A compilation has use for two names of an intent, `enabled` and `nat_rules`, and
for the names of a rule that `Members.usedNames` lists.  The ports and the
protocol are among them only in a destination rule.

Whatever stands under any other name, or whether the name is there at all, two
intents that agree in the names of use have the same compilation
(`compile_ignores_unused_names`).  This holds of failures as well, and of every
directory.
-/

namespace GatewayNat

/-- Values in a list of rules that agree in the names of use. -/
inductive Json.AgreeAsRules : Json → Json → Prop where
  | same (value : Json) : AgreeAsRules value value
  | rules {a b : Members} (agree : ∀ name ∈ a.usedNames, a.find? name = b.find? name) :
    AgreeAsRules (.obj a) (.obj b)

/-- What stands, or does not, in the place of the rules: lists that agree one by one, or the
same. -/
inductive AgreeAsLists : Option Json → Option Json → Prop where
  | same (value : Option Json) : AgreeAsLists value value
  | lists {items others : List Json} (agree : List.Forall₂ Json.AgreeAsRules items others) :
    AgreeAsLists (some (.arr items)) (some (.arr others))

/-- Intents that agree in the names of use. -/
inductive Json.AgreeAsIntents : Json → Json → Prop where
  | same (value : Json) : AgreeAsIntents value value
  | intents {a b : Members} (enabled : a.find? "enabled" = b.find? "enabled")
    (rules : AgreeAsLists (a.find? "nat_rules") (b.find? "nat_rules")) :
    AgreeAsIntents (.obj a) (.obj b)

/-! ## Rules -/

/-- Rules that agree in the names of use are alike. -/
theorem RuleIntent.Alike.of_agree {a b : Members}
    (agree : ∀ name ∈ a.usedNames, a.find? name = b.find? name) : Alike a b := by
  apply Alike.of_get
  intro name used
  rw [Members.get, Members.get, agree name used]

theorem Members.get_set_of_ne {members : Members} {name other : String} (value : Json)
    (different : name ≠ other) :
    Members.get (Table.set members name value) other = members.get other := by
  rw [get, get, Table.find?_set, if_neg (mt Text.ofString_inj.mp different)]

/-- The ports and the protocol of a source rule are of no use. -/
theorem Json.agreeAsRules_set {rule : Members} {name : String} (value : Json)
    (source : rule.get "rule_type" = .str "SNAT")
    (unused : name ∈ ["original_port", "translated_port", "protocol"]) :
    AgreeAsRules (.obj (Table.set rule name value)) (.obj rule) := by
  have different : ∀ used ∈ ["rule_type", "network_id", "original_ip", "translated_ip", "enabled",
      "id"], name ≠ used := by
    simp only [List.mem_cons, List.not_mem_nil, or_false] at unused
    rcases unused with rfl | rfl | rfl <;> decide
  apply AgreeAsRules.rules
  intro used member
  rw [Members.usedNames, Members.get_set_of_ne value (different _ (.head _)), source,
    if_neg (by decide), List.append_nil] at member
  rw [Table.find?_set, if_neg (mt Text.ofString_inj.mp (different used member))]

theorem Json.forall₂_agreeAsRules_refl (values : List Json) :
    List.Forall₂ AgreeAsRules values values :=
  List.forall₂_same.mpr fun value _ => .same value

/-! ## Intents -/

/-- Intents with the same fields agree if their rules do. -/
theorem Json.agreeAsIntents_ofRules (fields : Members) {rules others : List Members}
    (agree : List.Forall₂ AgreeAsRules (rules.map .obj) (others.map .obj)) :
    AgreeAsIntents (ServiceIntent.ofRules fields rules) (ServiceIntent.ofRules fields others) := by
  apply AgreeAsIntents.intents
  · rw [Table.find?_set, Table.find?_set, if_neg (by decide), if_neg (by decide)]
  · rw [Table.find?_set, Table.find?_set, if_pos rfl, if_pos rfl]
    exact .lists agree

theorem Json.AgreeAsRules.verdict {v w : Json} (agree : AgreeAsRules v w) :
    SameVerdict Compiler.ReadAlike v.asObject.verdict w.asObject.verdict := by
  cases agree with
  | same => exact .refl Compiler.ReadAlike.refl _
  | rules agree => exact .ok (Compiler.readRule_eq_of_alike (.of_agree agree))

theorem AgreeAsLists.verdict {a b : Members}
    (agree : AgreeAsLists (a.find? "nat_rules") (b.find? "nat_rules")) :
    SameVerdict (List.Forall₂ Compiler.ReadAlike)
      (a.optional "nat_rules" [] (Json.asList Json.asObject)).verdict
      (b.optional "nat_rules" [] (Json.asList Json.asObject)).verdict := by
  generalize here : a.find? "nat_rules" = first at agree
  generalize there : b.find? "nat_rules" = second at agree
  cases agree with
  | same =>
    rw [Members.optional_congr (here.trans there.symm)]
    exact .refl Compiler.forall₂_readAlike_refl _
  | @lists items others agree =>
    simp only [Members.optional, here, there, Json.asList, Checked.verdict_under]
    exact (SameVerdict.items (fun _ _ same => Json.AgreeAsRules.verdict same) agree).mapError _

/-- Intents that agree in the names of use are read alike. -/
theorem Json.AgreeAsIntents.verdict {a b : Json} (agree : AgreeAsIntents a b) :
    SameVerdict ServiceIntent.ReadAlike (ServiceIntent.check a).verdict
      (ServiceIntent.check b).verdict := by
  cases agree with
  | same => exact .refl ServiceIntent.ReadAlike.refl _
  | @intents a b enabled rules =>
    apply ServiceIntent.sameVerdict_check _ rules.verdict
    rw [Members.optional_congr enabled]

/-- Names of no use do not count, and the ports and the protocol of a source rule are such names,
whatever stands under them. -/
theorem compile_ignores_unused_names (d : Directory) (past : List Call) (gatewayId : Text)
    (range : IdRange) :
    let run := fun intent => compile d past gatewayId intent range
    (∀ a b, Json.AgreeAsIntents a b → run a = run b) ∧
      ∀ (fields : Members) (front back : List Members) (rule : Members) (name : String)
        (value : Json), rule.get "rule_type" = .str "SNAT" →
          name ∈ ["original_port", "translated_port", "protocol"] →
            run (ServiceIntent.ofRules fields (front ++ Table.set rule name value :: back)) =
              run (ServiceIntent.ofRules fields (front ++ rule :: back)) := by
  intro run
  have agreed : ∀ a b, Json.AgreeAsIntents a b → run a = run b := by
    intro a b agree
    exact compile_eq_of_sameVerdict agree.verdict
  refine ⟨agreed, ?_⟩
  intro fields front back rule name value source unused
  apply agreed
  have rules : List.Forall₂ Json.AgreeAsRules
      ((front ++ Table.set rule name value :: back).map .obj)
      ((front ++ rule :: back).map .obj) := by
    simp only [List.map_append, List.map_cons]
    exact List.rel_append (Json.forall₂_agreeAsRules_refl _)
      (.cons (Json.agreeAsRules_set value source unused) (Json.forall₂_agreeAsRules_refl _))
  exact Json.agreeAsIntents_ofRules fields rules

/-- A port that is no number, in a source rule. -/
theorem compile_ignores_port_of_source :
    let rule := Table.set TwoRules.rule "original_port" (.arr [.null])
    Members.get rule "rule_type" = .str "SNAT" ∧
      (compile TwoRules.directory [] "edge" (ServiceIntent.ofRules [] ([] ++ rule :: []))
        ⟨65537, 131072⟩).result =
        .ok ⟨"true", [⟨"65537", "true", [], "10.0.0.1", "192.0.2.1", .source⟩]⟩ := by
  intro rule
  have source : Members.get TwoRules.rule "rule_type" = .str "SNAT" := by decide
  have same := (compile_ignores_unused_names TwoRules.directory [] "edge" ⟨65537, 131072⟩).2
    [] [] [] TwoRules.rule "original_port" (.arr [.null]) source (by decide)
  exact ⟨by decide, (congrArg Compilation.result same).trans (by decide)⟩

end GatewayNat
