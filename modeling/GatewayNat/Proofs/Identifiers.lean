import Mathlib
import GatewayNat.Proofs.Calls
import GatewayNat.Proofs.StaticDocument

/-!
# Identifiers

The ids of a document are the ids that rules ask for and the first ids of the
range, one for each rule that asks for none (`ids_perm`).  The compilation does
not compare the two.

* The ids from the range differ from each other.
* The ids that rules ask for are kept.  So they differ exactly if the rules ask
  for different ones.
* An id that a rule asks for may be one that another rule got from the range,
  before or after it (`not_forall_nodup_ids`).  If none is, all ids differ
  (`compile_ids_nodup_iff`).
-/

namespace GatewayNat

/-- The ids of the rules in order. -/
def Document.ids (document : Document) : List Text := document.rules.map CompiledRule.id

/-- The ids that rules ask for, in order. -/
def askedIds (rules : List Members) : List Text :=
  rules.filterMap fun rule => (rule.get "id").askedId

theorem askedIds_cons (rule : Members) (rest : List Members) :
    askedIds (rule :: rest) = (rule.get "id").askedId.toList ++ askedIds rest := by
  unfold askedIds
  rw [List.filterMap_cons]
  cases (rule.get "id").askedId <;> rfl

/-- An integer as an id. -/
def idOf (n : Int) : Text := (toString n : String)

/-- As many ids as a count, from one on. -/
def countedIds (first : Int) (count : Nat) : List Text :=
  (List.range count).map fun j => idOf (first + (j : Nat))

theorem idOf_injective : Function.Injective idOf := by
  intro m n same
  exact Int.repr_inj.mp (congrArg Text.start same)

theorem nodup_countedIds (first : Int) (count : Nat) : (countedIds first count).Nodup := by
  refine List.nodup_range.map ?_
  intro i j same
  have equal := idOf_injective same
  omega

theorem countedIds_succ (first : Int) (count : Nat) :
    countedIds first (count + 1) = idOf first :: countedIds (first + 1) count := by
  rw [countedIds, List.range_succ_eq_map, List.map_cons, List.map_map]
  congr 1
  · simp
  · apply List.map_congr_left
    intro j _
    simp only [Function.comp_apply, Nat.cast_succ]
    congr 1
    omega

namespace Compiler

variable {d : Directory} {past : List Call} {gatewayId : Text} {intent : Json} {range : IdRange}

/-- The rules of a service intent, none if it cannot be read. -/
def rulesOf (intent : Json) : List Members :=
  match ServiceIntent.check intent with
  | .valid service => service.rules
  | .invalid _ _ => []

/-- Ids of rules are those that are asked for and those that are counted, in some order. -/
theorem mapIdx_idAt_perm (first : Int) (rules : List Members) :
    (rules.mapIdx (idAt first rules)).Perm
      (askedIds rules ++ countedIds first (rules.countP Members.isUnnumbered)) := by
  induction rules generalizing first with
  | nil => exact List.Perm.refl _
  | cons rule rest ih =>
    rw [List.mapIdx_cons]
    simp only [idAt_cons_succ]
    have tail := ih (nextAfter first rule)
    cases asks : (rule.get "id").askedId with
    | none =>
      have unnumbered := Members.askedId_eq_none_iff.mp asks
      have head : idAt first (rule :: rest) 0 rule = idOf first := by
        simp [idAt, asks, idOf]
      rw [head, List.countP_cons_of_pos unnumbered, countedIds_succ, askedIds_cons,
        asks]
      rw [nextAfter_of_unnumbered unnumbered] at tail ⊢
      -- the counted id goes past the ids that are asked for
      exact (tail.cons _).trans List.perm_middle.symm
    | some own =>
      have numbered : ¬rule.isUnnumbered = true := by
        rw [← Members.askedId_eq_none_iff, asks]
        simp
      have head : idAt first (rule :: rest) 0 rule = own := by
        simp [idAt, asks]
      rw [head, List.countP_cons_of_neg numbered, askedIds_cons, asks]
      rw [nextAfter_of_numbered numbered] at tail ⊢
      exact tail.cons _

/-- The ids of a document. -/
theorem ids_of_compile {document : Document}
    (compiled : (compile d past gatewayId intent range).result = .ok document) :
    document.ids = (rulesOf intent).mapIdx (idAt range.minimum (rulesOf intent)) := by
  obtain ⟨bound, -⟩ := (compile_eq_ok_iff fun _ => .ok none).mp compiled
  obtain ⟨faultless, -, rules⟩ := bindRules_eq_ok_iff.mp bound
  obtain ⟨service, read⟩ := exists_valid_of_fault_eq_none faultless
  have same : rulesOf intent = service.rules := by rw [rulesOf, read]
  rw [admission_of_valid read] at faultless rules
  rw [Document.ids, rules, admitRules_rules_of_fault_eq_none faultless, same]
  simp only [List.mapIdx_eq_zipIdx_map, List.map_map]
  rfl

end Compiler

/-! ## Two rules on one network -/

namespace TwoRules

/-- An intent in which the first rule asks for an id. -/
def intent (id : Text) : Json :=
  .obj [("nat_rules", .arr [.obj (("id", .str id) :: rule), .obj rule])]

/-- The document of the intent in a range that begins with 65537. -/
def document (id : Text) : Document where
  enabled := "true"
  rules := [⟨id, "true", [], "10.0.0.1", "192.0.2.1", .source⟩,
    ⟨"65537", "true", [], "10.0.0.1", "192.0.2.1", .source⟩]

end TwoRules

/-! ## When all ids differ -/

/-- The ids of a document are those that rules ask for and those that are counted.  The counted ids
differ from each other.  If the rules ask for different ids, all ids differ exactly if no rule asks
for a counted one. -/
theorem compile_ids_nodup_iff {d : Directory} {past : List Call} {gatewayId : Text} {intent : Json}
    {range : IdRange} {document : Document}
    (compiled : (compile d past gatewayId intent range).result = .ok document) :
    let asked := askedIds (Compiler.rulesOf intent)
    let counted := countedIds range.minimum
      ((Compiler.rulesOf intent).countP Members.isUnnumbered)
    document.ids.Perm (asked ++ counted) ∧ counted.Nodup ∧
      (asked.Nodup → (document.ids.Nodup ↔ ∀ id ∈ asked, id ∉ counted)) := by
  intro asked counted
  have ids : document.ids.Perm (asked ++ counted) := by
    rw [Compiler.ids_of_compile compiled]
    exact Compiler.mapIdx_idAt_perm range.minimum (Compiler.rulesOf intent)
  refine ⟨ids, nodup_countedIds _ _, ?_⟩
  intro different
  rw [ids.nodup_iff, List.nodup_append']
  constructor
  · rintro ⟨-, -, apart⟩ id member
    exact List.disjoint_left.mp apart member
  · intro apart
    exact ⟨different, nodup_countedIds _ _, List.disjoint_left.mpr fun id => apart id⟩

/-- An id outside the counted ones. -/
theorem nodup_ids_of_apart :
    (compile TwoRules.directory [] "edge" (TwoRules.intent "9") ⟨65537, 131072⟩).result =
        .ok (TwoRules.document "9") ∧
      (TwoRules.document "9").ids.Nodup := by
  have compiled : (compile TwoRules.directory [] "edge" (TwoRules.intent "9")
      ⟨65537, 131072⟩).result = .ok (TwoRules.document "9") := by decide
  obtain ⟨-, -, differ_iff⟩ := compile_ids_nodup_iff compiled
  exact ⟨compiled, (differ_iff (by decide)).mpr (by decide)⟩

/-- A counted id may be one that another rule asks for. -/
theorem not_forall_nodup_ids :
    ¬∀ (d : Directory) (past : List Call) (gatewayId : Text) (intent : Json) (range : IdRange)
      (document : Document), (compile d past gatewayId intent range).result = .ok document →
        (askedIds (Compiler.rulesOf intent)).Nodup → document.ids.Nodup := by
  intro all
  have compiled : (compile TwoRules.directory [] "edge" (TwoRules.intent "65537")
      ⟨65537, 131072⟩).result = .ok (TwoRules.document "65537") := by decide
  have different : (TwoRules.document "65537").ids.Nodup :=
    all _ _ _ _ _ _ compiled (by decide)
  revert different
  decide

end GatewayNat
