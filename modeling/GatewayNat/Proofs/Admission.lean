import Mathlib
import GatewayNat.Proofs.RuleReading

/-!
# Admission

A rule is admitted if it can be read and gets an id.  Whether it is does not
depend on the directory.  `Compiler.admitRules` admits rules one after another
up to the first that is not admitted.

Ids are given out without looking back (`Compiler.admitRules_rules`).  A rule
keeps the id that it asks for.  Of the rules that ask for none, the one with `n`
such rules before it gets the `n`-th id of the range, and it is admitted exactly
if that id is in the range and can be written.

No id is too long to be written in a range whose bounds are not
(`IdRange.isWritable_of_mem`).
-/

namespace GatewayNat

/-- Whether the id of a rule is absent, null or a blank text. -/
def Members.isUnnumbered (members : Members) : Bool :=
  match members.get "id" with
  | .null => true
  | .str s => s.allBlank
  | _ => false

theorem Members.askedId_eq_none_iff {members : Members} :
    (members.get "id").askedId = none ↔ members.isUnnumbered = true := by
  unfold Members.isUnnumbered
  cases members.get "id" with
  | str s => simp [Json.askedId]
  | null => simp [Json.askedId]
  | bool b => simp [Json.askedId]
  | int n => simp [Json.askedId]
  | float x => simp [Json.askedId]
  | arr items => simp [Json.askedId]
  | obj members => simp [Json.askedId]

/-! ## Ids that can be written -/

namespace Decimal

theorem isWritable_iff {n : Int} : isWritable n = true ↔ n.natAbs < 10 ^ maxDigits := by
  rw [isWritable, decide_eq_true_iff, Nat.length_toDigits_le_iff (by decide) (by decide)]

theorem isWritable_of_natAbs_le {m n : Int} (smaller : m.natAbs ≤ n.natAbs)
    (writable : isWritable n = true) : isWritable m = true :=
  isWritable_iff.mpr (Nat.lt_of_le_of_lt smaller (isWritable_iff.mp writable))

/-- The greatest integer that can be written. -/
def greatest : Int := (10 ^ maxDigits - 1 : Nat)

theorem greatest_nonneg : 0 ≤ greatest := Int.natCast_nonneg _

theorem isWritable_greatest : isWritable greatest = true := by
  rw [isWritable_iff, greatest, Int.natAbs_natCast]
  exact Nat.sub_one_lt_of_lt (Nat.pow_pos (by decide))

theorem not_isWritable_greatest_add_one : ¬isWritable (greatest + 1) = true := by
  have next : greatest + 1 = (10 ^ maxDigits : Nat) := by
    rw [greatest, ← Int.natCast_add_one, Nat.sub_one_add_one_eq_of_pos (Nat.pow_pos (by decide))]
  rw [next, isWritable_iff, Int.natAbs_natCast]
  exact Nat.lt_irrefl _

/-- A sign does not count. -/
theorem isWritable_neg {n : Int} : isWritable (-n) = isWritable n := by
  rw [isWritable, isWritable, Int.natAbs_neg]

end Decimal

namespace IdRange

/-- Both bounds of the range can be written. -/
def IsWritable (range : IdRange) : Prop :=
  Decimal.isWritable range.minimum = true ∧ Decimal.isWritable range.maximum = true

theorem isWritable_of_mem {range : IdRange} {id : Int} (writable : range.IsWritable)
    (member : id ∈ range) : Decimal.isWritable id = true := by
  obtain ⟨minimum, maximum⟩ := writable
  obtain ⟨above, below⟩ := mem_iff.mp member
  rcases Nat.le_total range.minimum.natAbs range.maximum.natAbs with larger | larger
  · exact Decimal.isWritable_of_natAbs_le (by omega) maximum
  · exact Decimal.isWritable_of_natAbs_le (by omega) minimum

/-- The ids from the minimum on are in the range up to its size. -/
theorem forall_mem_iff {range : IdRange} {count : Nat} :
    (∀ j < count, range.minimum + j ∈ range) ↔ count ≤ range.size := by
  simp only [mem_iff, size]
  constructor
  · intro inside
    apply Nat.le_of_not_lt
    intro tooMany
    have last := inside (range.maximum - range.minimum + 1).toNat (by omega)
    omega
  · intro enough j below
    omega

/-- The ids from one on, as many as a count, are in the range and can be written. -/
def Grants (range : IdRange) (first : Int) (count : Nat) : Prop :=
  ∀ j < count, first + j ∈ range ∧ Decimal.isWritable (first + j) = true

theorem grants_succ_iff {range : IdRange} {first : Int} {count : Nat} :
    range.Grants first (count + 1) ↔
      (first ∈ range ∧ Decimal.isWritable first = true) ∧ range.Grants (first + 1) count := by
  unfold Grants
  constructor
  · intro all
    refine ⟨by simpa using all 0 (by omega), ?_⟩
    intro j below
    have shifted : first + 1 + (j : Int) = first + ((j + 1 : Nat) : Int) := by push_cast; omega
    rw [shifted]
    exact all (j + 1) (by omega)
  · rintro ⟨here, after⟩ j below
    cases j with
    | zero => simpa using here
    | succ j =>
      have shifted : first + ((j + 1 : Nat) : Int) = first + 1 + (j : Int) := by push_cast; omega
      rw [shifted]
      exact after j (by omega)

end IdRange

/-! ## Admitting rules -/

/-- What comes of admitting rules one after another. -/
structure Admission where
  /-- The admitted rules with their ids, up to the first rule that is not admitted. -/
  rules : List (RuleIntent × Text)
  /-- Why that rule is not admitted, if there is one. -/
  fault : Option Failure

namespace Admission

/-- The networks of the admitted rules. -/
def networks (admission : Admission) : List Text :=
  admission.rules.map fun entry => entry.1.networkId

/-- One more rule in front. -/
def cons (entry : RuleIntent × Text) (admission : Admission) : Admission :=
  ⟨entry :: admission.rules, admission.fault⟩

@[simp] theorem networks_cons (entry : RuleIntent × Text) (admission : Admission) :
    (admission.cons entry).networks = entry.1.networkId :: admission.networks := rfl

end Admission

namespace Compiler

/-- Admits rules from an index on. -/
def admitRules (range : IdRange) : (index : Nat) → (next : Int) → List Members → Admission
  | _, _, [] => ⟨[], none⟩
  | index, next, members :: rest =>
    match admitRule range index next members with
    | .error failure => ⟨[], some failure⟩
    | .ok (rule, id, after) => (admitRules range (index + 1) after rest).cons (rule, id)

theorem admitRules_cons_of_refused {range : IdRange} {index : Nat} {next : Int}
    {members : Members} {rest : List Members} {failure : Failure}
    (refused : admitRule range index next members = .error failure) :
    admitRules range index next (members :: rest) = ⟨[], some failure⟩ := by
  simp only [admitRules, refused]

theorem admitRules_cons_of_ok {range : IdRange} {index : Nat} {next after : Int}
    {members : Members} {rest : List Members} {rule : RuleIntent} {id : Text}
    (admitted : admitRule range index next members = .ok (rule, id, after)) :
    admitRules range index next (members :: rest) =
      (admitRules range (index + 1) after rest).cons (rule, id) := by
  simp only [admitRules, admitted]

theorem assignId_eq_ok_iff {range : IdRange} {index : Nat} {next after : Int}
    {asked : Option Text} {id : Text} :
    assignId range index next asked = .ok (id, after) ↔
      (asked = none → next ∈ range ∧ Decimal.isWritable next = true) ∧
        id = asked.getD (toString next : String) ∧
        after = next + (if asked = none then 1 else 0) := by
  unfold assignId
  cases asked with
  | some own =>
    simp only [Except.ok.injEq, Prod.mk.injEq, reduceCtorEq, false_implies, true_and,
      Option.getD_some, if_false, Int.add_zero]
    exact ⟨fun ⟨h, k⟩ => ⟨h.symm, k.symm⟩, fun ⟨h, k⟩ => ⟨h.symm, k.symm⟩⟩
  | none =>
    simp only [true_implies, Option.getD_none, if_true]
    by_cases inside : next ∈ range
    · by_cases writable : Decimal.isWritable next = true
      · simp only [inside, writable, not_true_eq_false, if_false, if_true, Except.ok.injEq,
          Prod.mk.injEq, true_and]
        exact ⟨fun ⟨h, k⟩ => ⟨h.symm, k.symm⟩, fun ⟨h, k⟩ => ⟨h.symm, k.symm⟩⟩
      · simp [inside, writable]
    · simp [inside]

/-- What an admitted rule is given, and when it is admitted. -/
theorem admitRule_eq_ok_iff {range : IdRange} {index : Nat} {next after : Int}
    {members : Members} {rule : RuleIntent} {id : Text} :
    admitRule range index next members = .ok (rule, id, after) ↔
      readRule index members = .ok rule ∧
        assignId range index next rule.id = .ok (id, after) := by
  unfold admitRule
  constructor
  · intro h
    split at h
    · cases h
    · next found =>
      split at h
      · cases h
      · next assigned =>
        cases h
        exact ⟨found, assigned⟩
  · rintro ⟨found, assigned⟩
    simp only [found, assigned]

/-- The next id of the range after a rule. -/
def nextAfter (next : Int) (members : Members) : Int :=
  if members.isUnnumbered then next + 1 else next

theorem nextAfter_of_unnumbered {next : Int} {members : Members}
    (unnumbered : members.isUnnumbered = true) : nextAfter next members = next + 1 := by
  rw [nextAfter, if_pos unnumbered]

theorem nextAfter_of_numbered {next : Int} {members : Members}
    (numbered : ¬members.isUnnumbered = true) : nextAfter next members = next := by
  rw [nextAfter, if_neg numbered]

theorem le_nextAfter (next : Int) (members : Members) : next ≤ nextAfter next members := by
  by_cases unnumbered : members.isUnnumbered = true
  · rw [nextAfter_of_unnumbered unnumbered]
    omega
  · exact Int.le_of_eq (nextAfter_of_numbered unnumbered).symm

theorem nextAfter_eq_add (next : Int) (members : Members) :
    nextAfter next members = next + if (members.get "id").askedId = none then 1 else 0 := by
  by_cases unnumbered : members.isUnnumbered = true
  · rw [nextAfter_of_unnumbered unnumbered, if_pos (Members.askedId_eq_none_iff.mpr unnumbered)]
  · have asks := mt Members.askedId_eq_none_iff.mp unnumbered
    rw [nextAfter_of_numbered unnumbered, if_neg asks, Int.add_zero]

/-- A rule is admitted exactly if it can be read and, if it asks for no id, there is one. -/
theorem admitRule_eq_ok_iff_readable {range : IdRange} {index : Nat} {next after : Int}
    {members : Members} {rule : RuleIntent} {id : Text} :
    admitRule range index next members = .ok (rule, id, after) ↔
      (∃ type, RuleIntent.Readable type members ∧ rule = .ofMembers type members) ∧
        (members.isUnnumbered = true → next ∈ range ∧ Decimal.isWritable next = true) ∧
        id = (members.get "id").askedId.getD (toString next : String) ∧
        after = nextAfter next members := by
  rw [admitRule_eq_ok_iff, readRule_eq_ok_iff, assignId_eq_ok_iff, nextAfter_eq_add,
    ← Members.askedId_eq_none_iff]
  constructor
  · rintro ⟨⟨type, readable, rfl⟩, granted, rfl, rfl⟩
    exact ⟨⟨type, readable, rfl⟩, granted, rfl, rfl⟩
  · rintro ⟨⟨type, readable, rfl⟩, granted, rfl, rfl⟩
    exact ⟨⟨type, readable, rfl⟩, granted, rfl, rfl⟩

/-! ## Ids without a counter -/

/-- The id of the rule at an index, from the number of rules before it that ask for none. -/
def idAt (first : Int) (rules : List Members) (index : Nat) (members : Members) : Text :=
  (members.get "id").askedId.getD
    (toString (first + (rules.take index).countP Members.isUnnumbered) : String)

/-- The rule at an index as it is admitted. -/
def admittedAt (first : Int) (rules : List Members) (index : Nat) (members : Members) :
    RuleIntent × Text :=
  (.ofMembers (RuleIntent.typeOf members) members, idAt first rules index members)

/-- The unnumbered rules among one rule and those after it. -/
theorem add_countP_cons {next : Int} {members : Members} {rest : List Members} :
    next + ((members :: rest).countP Members.isUnnumbered : Nat) =
      nextAfter next members + (rest.countP Members.isUnnumbered : Nat) := by
  by_cases unnumbered : members.isUnnumbered = true
  · rw [List.countP_cons_of_pos unnumbered, nextAfter_of_unnumbered unnumbered]
    push_cast
    omega
  · rw [List.countP_cons_of_neg unnumbered, nextAfter_of_numbered unnumbered]

theorem idAt_cons_succ {next : Int} {members : Members} {rest : List Members} {index : Nat} :
    idAt next (members :: rest) (index + 1) = idAt (nextAfter next members) rest index := by
  funext rule
  rw [idAt, idAt, List.take_succ_cons, add_countP_cons]

theorem admittedAt_cons_succ {next : Int} {members : Members} {rest : List Members} {index : Nat} :
    admittedAt next (members :: rest) (index + 1) =
      admittedAt (nextAfter next members) rest index := by
  funext rule
  rw [admittedAt, admittedAt, idAt_cons_succ]

/-- The admitted rules are the first rules, each with its id. -/
theorem admitRules_rules {range : IdRange} {index : Nat} {next : Int} {rules : List Members} :
    (admitRules range index next rules).rules =
      (rules.mapIdx (admittedAt next rules)).take
        (admitRules range index next rules).rules.length := by
  induction rules generalizing index next with
  | nil => rfl
  | cons members rest ih =>
    cases admitted : admitRule range index next members with
    | error failure =>
      rw [admitRules_cons_of_refused admitted]
      rfl
    | ok entry =>
      obtain ⟨rule, id, after⟩ := entry
      rw [admitRules_cons_of_ok admitted]
      obtain ⟨⟨type, readable, rfl⟩, -, rfl, rfl⟩ := admitRule_eq_ok_iff_readable.mp admitted
      -- the later ids count on from this rule
      simp only [List.mapIdx_cons, Admission.cons, List.length_cons, List.take_succ_cons,
        admittedAt_cons_succ]
      rw [← ih, readable.type_eq]
      simp [admittedAt, idAt]

theorem grants_cons_iff {range : IdRange} {next : Int} {members : Members}
    {rest : List Members} :
    range.Grants next ((members :: rest).countP Members.isUnnumbered) ↔
      (members.isUnnumbered = true → next ∈ range ∧ Decimal.isWritable next = true) ∧
        range.Grants (nextAfter next members) (rest.countP Members.isUnnumbered) := by
  by_cases unnumbered : members.isUnnumbered = true
  · rw [List.countP_cons_of_pos unnumbered, IdRange.grants_succ_iff,
      nextAfter_of_unnumbered unnumbered]
    simp [unnumbered]
  · rw [List.countP_cons_of_neg unnumbered, nextAfter_of_numbered unnumbered]
    simp [unnumbered]

/-- Every rule is admitted exactly if every rule can be read and there are ids for those that ask
for none. -/
theorem admitRules_fault_eq_none_iff {range : IdRange} {index : Nat} {next : Int}
    {rules : List Members} :
    (admitRules range index next rules).fault = none ↔
      (∀ members ∈ rules, ∃ type, RuleIntent.Readable type members) ∧
        range.Grants next (rules.countP Members.isUnnumbered) := by
  induction rules generalizing index next with
  | nil => simp [admitRules, IdRange.Grants]
  | cons members rest ih =>
    rw [List.forall_mem_cons, grants_cons_iff]
    cases admitted : admitRule range index next members with
    | error failure =>
      rw [admitRules_cons_of_refused admitted]
      refine iff_of_false (by simp) ?_
      rintro ⟨⟨⟨type, readable⟩, -⟩, granted, -⟩
      have other : admitRule range index next members = .ok (_, _, _) :=
        admitRule_eq_ok_iff_readable.mpr ⟨⟨type, readable, rfl⟩, granted, rfl, rfl⟩
      rw [admitted] at other
      cases other
    | ok entry =>
      obtain ⟨rule, id, after⟩ := entry
      rw [admitRules_cons_of_ok admitted]
      obtain ⟨⟨type, readable, -⟩, granted, -, rfl⟩ := admitRule_eq_ok_iff_readable.mp admitted
      rw [Admission.cons, ih]
      constructor
      · rintro ⟨restReadable, restGranted⟩
        exact ⟨⟨⟨type, readable⟩, restReadable⟩, granted, restGranted⟩
      · rintro ⟨⟨-, restReadable⟩, -, restGranted⟩
        exact ⟨restReadable, restGranted⟩

/-- If every rule is admitted, none is left out. -/
theorem length_admitRules_of_fault_eq_none {range : IdRange} {index : Nat} {next : Int}
    {rules : List Members} (faultless : (admitRules range index next rules).fault = none) :
    (admitRules range index next rules).rules.length = rules.length := by
  induction rules generalizing index next with
  | nil => rfl
  | cons members rest ih =>
    cases admitted : admitRule range index next members with
    | error failure =>
      rw [admitRules_cons_of_refused admitted] at faultless
      cases faultless
    | ok entry =>
      obtain ⟨rule, id, after⟩ := entry
      rw [admitRules_cons_of_ok admitted] at faultless ⊢
      simp only [Admission.cons, List.length_cons] at faultless ⊢
      rw [ih faultless]

/-- If every rule is admitted, the admitted rules are all rules, each with its id. -/
theorem admitRules_rules_of_fault_eq_none {range : IdRange} {index : Nat} {next : Int}
    {rules : List Members} (faultless : (admitRules range index next rules).fault = none) :
    (admitRules range index next rules).rules = rules.mapIdx (admittedAt next rules) := by
  rw [admitRules_rules, length_admitRules_of_fault_eq_none faultless, List.take_of_length_le]
  simp

end Compiler

end GatewayNat
