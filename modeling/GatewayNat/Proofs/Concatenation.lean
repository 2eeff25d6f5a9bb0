import GatewayNat.Proofs.ServiceReading
import GatewayNat.Proofs.Steady

/-!
# Concatenation

Two lists of rules one after the other compile to the rules of the first list
followed by those of the second (`compile_append`).

* The first list is compiled as if it stood alone.  If that fails, nothing else
  matters.
* The second list is compiled as if it stood alone, in the range that begins
  after the ids that were given to the first.
* A failure of the second list blames its rule at the index that the rule has in
  the whole list.  A failure of the directory is left as it is.

The directory has to forget, for otherwise the look-ups of the first list could
change its answers to those of the second.
-/

namespace GatewayNat

/-! ## Rule indices -/

/-- The rejection with the index of its rule increased. -/
def Rejection.shift (count : Nat) : Rejection → Rejection
  | .gatewayNotFound gateway => .gatewayNotFound gateway
  | .unknownNetwork gateway network rule => .unknownNetwork gateway network (rule.map (· + count))
  | .unsupportedRuleType rule value => .unsupportedRuleType (rule + count) value
  | .missingField rule field => .missingField (rule + count) field
  | .invalidField rule field reason => .invalidField (rule.map (· + count)) field reason
  | .idRangeExhausted rule id maximum => .idRangeExhausted (rule + count) id maximum
  | .other message context => .other message context

/-- The failure with the index of its rule increased. -/
def Failure.shift (count : Nat) : Failure → Failure
  | .rejected rejection => .rejected (rejection.shift count)
  | .outage cause => .outage cause

/-- The stop with the index of its rule increased, if it is the compilation's own. -/
def Stop.shift (count : Nat) : Stop → Stop
  | .own failure => .own (failure.shift count)
  | .raised failure => .raised failure

theorem Rejection.ofRuleIssue_add (index count : Nat) (issue : Issue) :
    ofRuleIssue (index + count) issue = (ofRuleIssue index issue).shift count := by
  unfold ofRuleIssue
  split <;> simp [shift]

theorem Stop.ofAnswer_add (gatewayId network : Text) (index count : Nat) (answer : Answer) :
    ofAnswer gatewayId network (index + count) answer =
      (ofAnswer gatewayId network index answer).shift count := by
  cases answer with
  | error failure => rfl
  | ok found => simp [ofAnswer, shift, Failure.shift, Rejection.shift]

namespace Compiler

variable {range : IdRange} {answers : Text → Answer} {gatewayId : Text} {index : Nat}
  {next : Int} {rules : List Members}

theorem readRule_add (count : Nat) (members : Members) :
    readRule (index + count) members =
      (readRule index members).mapError (Rejection.shift count) := by
  unfold readRule
  split
  · simp [Rejection.shift]
  · split
    · simp [Rejection.shift]
    · split
      · simp [Rejection.shift]
      · split
        · rfl
        · exact congrArg Except.error (Rejection.ofRuleIssue_add _ _ _)

theorem exhausted_add (count : Nat) :
    exhausted range (index + count) next = (exhausted range index next).shift count := by
  unfold exhausted
  split
  · simp [Failure.shift, Rejection.shift]
  · rfl

theorem assignId_add (count : Nat) (asked : Option Text) :
    assignId range (index + count) next asked =
      (assignId range index next asked).mapError (Failure.shift count) := by
  unfold assignId
  split
  · rfl
  · split
    · exact congrArg Except.error (exhausted_add count)
    · split <;> rfl

theorem admitRule_add (count : Nat) (members : Members) :
    admitRule range (index + count) next members =
      (admitRule range index next members).mapError (Failure.shift count) := by
  unfold admitRule
  rw [readRule_add]
  cases readRule index members with
  | error rejection => rfl
  | ok rule =>
    simp only [Except.mapError_ok, assignId_add]
    cases assignId range index next rule.id <;> rfl

/-! ## Rules one after the other -/

/-- The rules compiled from an index on, with the answers of a table. -/
def outcome (answers : Text → Answer) (gatewayId : Text) (range : IdRange) (index : Nat)
    (next : Int) (rules : List Members) : Except Stop (List CompiledRule) :=
  bindRules answers gatewayId (admitRules range index next rules).fault index
    (admitRules range index next rules).rules

theorem outcome_cons {members : Members} :
    outcome answers gatewayId range index next (members :: rules) =
      match admitRule range index next members with
      | .error failure => .error (.own failure)
      | .ok (rule, id, after) =>
        match Answer.interface? (answers rule.networkId) with
        | none => .error (.ofAnswer gatewayId rule.networkId index (answers rule.networkId))
        | some descriptor =>
          (outcome answers gatewayId range (index + 1) after rules).map
            (CompiledRule.ofIntent rule id descriptor :: ·) := by
  simp only [outcome, admitRules]
  cases admitRule range index next members with
  | error failure => rfl
  | ok entry =>
    obtain ⟨rule, id, after⟩ := entry
    cases answer : Answer.interface? (answers rule.networkId) with
    | none => simp only [Admission.cons, bindRules, answer]
    | some descriptor => simp only [Admission.cons, bindRules, answer]

/-- The index of the first rule matters for failures only. -/
theorem outcome_add (count : Nat) :
    outcome answers gatewayId range (index + count) next rules =
      (outcome answers gatewayId range index next rules).mapError (Stop.shift count) := by
  induction rules generalizing index next with
  | nil => rfl
  | cons members rest ih =>
    rw [outcome_cons, outcome_cons, admitRule_add]
    cases admitRule range index next members with
    | error failure => rfl
    | ok entry =>
      obtain ⟨rule, id, after⟩ := entry
      simp only [Except.mapError_ok]
      cases Answer.interface? (answers rule.networkId) with
      | none => exact congrArg Except.error (Stop.ofAnswer_add _ _ _ _ _)
      | some descriptor =>
        simp only
        rw [Nat.add_right_comm, ih]
        exact (Except.map_mapError _ _ _)

/-- The minimum of a range does not matter from there on. -/
theorem admitRule_of_le {minimum other maximum : Int} {members : Members}
    (above : minimum ≤ next) (aboveOther : other ≤ next) :
    admitRule ⟨minimum, maximum⟩ index next members =
      admitRule ⟨other, maximum⟩ index next members := by
  have same : next ∉ (⟨minimum, maximum⟩ : IdRange) ↔ next ∉ (⟨other, maximum⟩ : IdRange) := by
    simp only [IdRange.mem_iff]
    omega
  unfold admitRule assignId
  simp only [same]
  rfl

theorem outcome_of_le {minimum other maximum : Int} (above : minimum ≤ next)
    (aboveOther : other ≤ next) :
    outcome answers gatewayId ⟨minimum, maximum⟩ index next rules =
      outcome answers gatewayId ⟨other, maximum⟩ index next rules := by
  induction rules generalizing index next with
  | nil => rfl
  | cons members rest ih =>
    rw [outcome_cons, outcome_cons, admitRule_of_le above aboveOther]
    cases admitted : admitRule ⟨other, maximum⟩ index next members with
    | error failure => rfl
    | ok entry =>
      obtain ⟨rule, id, after⟩ := entry
      obtain ⟨-, -, -, rfl⟩ := admitRule_eq_ok_iff_readable.mp admitted
      have later := le_nextAfter next members
      simp only
      rw [ih (Int.le_trans above later) (Int.le_trans aboveOther later)]

/-- The second list starts where the first one ends. -/
theorem outcome_append {first second : List Members} :
    outcome answers gatewayId range index next (first ++ second) =
      match outcome answers gatewayId range index next first with
      | .error stop => .error stop
      | .ok compiled =>
        (outcome answers gatewayId range (index + first.length)
          (next + (first.countP Members.isUnnumbered : Nat)) second).map (compiled ++ ·) := by
  induction first generalizing index next with
  | nil =>
    have empty : outcome answers gatewayId range index next [] = .ok [] := rfl
    rw [empty]
    simp only [List.nil_append, List.length_nil, List.countP_nil, Nat.add_zero, Int.natCast_zero,
      Int.add_zero]
    cases outcome answers gatewayId range index next second <;> rfl
  | cons members rest ih =>
    rw [List.cons_append, outcome_cons, outcome_cons, add_countP_cons]
    cases admitted : admitRule range index next members with
    | error failure => rfl
    | ok entry =>
      obtain ⟨rule, id, after⟩ := entry
      obtain ⟨-, -, -, rfl⟩ := admitRule_eq_ok_iff_readable.mp admitted
      simp only
      cases Answer.interface? (answers rule.networkId) with
      | none => rfl
      | some descriptor =>
        simp only [ih]
        cases outcome answers gatewayId range (index + 1) (nextAfter next members) rest with
        | error stop => rfl
        | ok compiled =>
          simp only [Except.map, List.length_cons, Nat.add_right_comm index, ← Nat.add_assoc]
          cases outcome answers gatewayId range (index + rest.length + 1)
            (nextAfter next members + (rest.countP Members.isUnnumbered : Nat)) second <;> rfl

end Compiler

/-! ## Compiling two lists -/

namespace Compiler

variable {gateway : Text → Except Failure Unit} {interface : Text → Text → Answer}
  {past : List Call} {gatewayId : Text} {fields : Members} {range : IdRange}

/-- Rules are bound only if the fields beside them can be read. -/
theorem binding_ofRules (rules : List Members) :
    binding (.steady gateway interface) past gatewayId range (ServiceIntent.ofRules fields rules)
        (interface gatewayId) =
      match fields.optional "enabled" (.ofString "true") Json.asServiceEnabled with
      | .valid _ =>
        outcome (Directory.said gateway interface gatewayId) gatewayId range 0 range.minimum rules
      | .invalid issue _ => .error (.own (.rejected (.ofServiceIssue issue))) := by
  rw [binding_steady, admission, ServiceIntent.check_ofRules]
  cases fields.optional "enabled" (.ofString "true") Json.asServiceEnabled <;> rfl

theorem enabledOf_ofRules (first second : List Members) :
    enabledOf (ServiceIntent.ofRules fields first) =
      enabledOf (ServiceIntent.ofRules fields second) := by
  unfold enabledOf
  rw [ServiceIntent.check_ofRules, ServiceIntent.check_ofRules]
  cases fields.optional "enabled" (.ofString "true") Json.asServiceEnabled <;> rfl

/-- Binding the rules of two lists is binding those of the first and then those of the second. -/
theorem binding_append (minimum maximum : Int) (first second : List Members) :
    binding (.steady gateway interface) past gatewayId ⟨minimum, maximum⟩
        (ServiceIntent.ofRules fields (first ++ second)) (interface gatewayId) =
      match binding (.steady gateway interface) past gatewayId ⟨minimum, maximum⟩
          (ServiceIntent.ofRules fields first) (interface gatewayId) with
      | .error stop => .error stop
      | .ok compiled =>
        ((binding (.steady gateway interface) past gatewayId
            ⟨minimum + (first.countP Members.isUnnumbered : Nat), maximum⟩
            (ServiceIntent.ofRules fields second) (interface gatewayId)).mapError
          (Stop.shift first.length)).map (compiled ++ ·) := by
  rw [binding_ofRules, binding_ofRules, binding_ofRules]
  cases fields.optional "enabled" (.ofString "true") Json.asServiceEnabled with
  | invalid issue more => rfl
  | valid enabled =>
    simp only
    rw [outcome_append]
    cases outcome (Directory.said gateway interface gatewayId) gatewayId ⟨minimum, maximum⟩ 0
        minimum first with
    | error stop => rfl
    | ok compiled =>
      -- the first list took ids from the minimum on, so the counter is not below it
      have above : minimum ≤ minimum + (first.countP Members.isUnnumbered : Nat) := by omega
      simp only
      rw [outcome_add, outcome_of_le above (Int.le_refl _)]

end Compiler

/-- Compiling rules one after the other is compiling the first ones and then, in what is left of
the range, the second ones. -/
theorem compile_append (gateway : Text → Except Failure Unit) (interface : Text → Text → Answer)
    (past : List Call) (gatewayId : Text) (fields : Members) (minimum maximum : Int)
    (first second : List Members) :
    let d := Directory.steady gateway interface
    let count := first.countP Members.isUnnumbered
    let run := fun (range : IdRange) (rules : List Members) =>
      compile d past gatewayId (ServiceIntent.ofRules fields rules) range
    let front := run ⟨minimum, maximum⟩ first
    let back := run ⟨minimum + count, maximum⟩ second
    let whole := run ⟨minimum, maximum⟩ (first ++ second)
    (∀ failure, front.result = .error failure → whole.result = .error failure) ∧
      ∀ document, front.result = .ok document →
        whole.result =
          match back.result with
          | .ok more => .ok ⟨document.enabled, document.rules ++ more.rules⟩
          | .error failure =>
            .error (if (Event.calls back.events).any d.refuses then failure
              else failure.shift first.length) := by
  intro d count run front back whole
  have whole_eq : Compiler.binding d past gatewayId ⟨minimum, maximum⟩
      (ServiceIntent.ofRules fields (first ++ second)) (interface gatewayId) = _ :=
    Compiler.binding_append minimum maximum first second
  constructor
  · intro failure failed
    obtain ⟨stop, bound, rfl⟩ := (Compiler.compile_eq_error_iff (interface gatewayId)).mp failed
    rw [bound] at whole_eq
    exact (Compiler.compile_eq_error_iff _).mpr ⟨stop, whole_eq, rfl⟩
  · intro document compiled
    obtain ⟨bound, enabled⟩ := (Compiler.compile_eq_ok_iff (interface gatewayId)).mp compiled
    rw [bound] at whole_eq
    cases later : Compiler.binding d past gatewayId ⟨minimum + count, maximum⟩
        (ServiceIntent.ofRules fields second) (interface gatewayId) with
    | ok more =>
      have backOk : back.result = .ok ⟨_, more⟩ :=
        (Compiler.compile_eq_ok_iff _).mpr ⟨later, rfl⟩
      rw [later] at whole_eq
      rw [backOk]
      exact (Compiler.compile_eq_ok_iff _).mpr
        ⟨whole_eq, enabled.trans (Compiler.enabledOf_ofRules _ _)⟩
    | error stop =>
      have backFails : back.result = .error stop.failure :=
        (Compiler.compile_eq_error_iff _).mpr ⟨stop, later, rfl⟩
      rw [later] at whole_eq
      have wholeFails : whole.result = .error (stop.shift first.length).failure :=
        (Compiler.compile_eq_error_iff _).mpr ⟨_, whole_eq, rfl⟩
      rw [backFails, wholeFails]
      simp only
      congr 1
      -- the calls of the second list alone say whose failure it is
      split
      · next refused =>
        obtain ⟨call, member, refuses⟩ := List.any_eq_true.mp refused
        obtain ⟨failure, raised⟩ :=
          Compiler.binding_of_refuses (interface gatewayId) member refuses
        rw [later] at raised
        cases raised
        rfl
      · next answered =>
        have none : ∀ call ∈ Event.calls back.events, d.refuses call ≠ true := by
          intro call member refuses
          exact answered (List.any_eq_true.mpr ⟨call, member, refuses⟩)
        obtain ⟨failure, rfl⟩ :=
          Compiler.binding_of_not_refuses (interface gatewayId) none later
        rfl

end GatewayNat
