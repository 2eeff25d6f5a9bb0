import GatewayNat.Proofs.Admission

/-!
# Faults

A rule that is not admitted has one of two faults
(`Compiler.admitRule_eq_error_iff`).

* It cannot be read.  Its type, a missing field or a wrong field is the reason,
  and the rejection blames the index of the rule (`Rejection.OfReading`).
* It can be read and asks for no id, and there is none for it.  The next id is
  not in the range, or it is too long to be written (`Compiler.numberFault?`).

Admission ends at the first rule with a fault, and the rules before it are
admitted as if they stood alone (`Compiler.exists_faultAt`,
`Compiler.FaultAt.admitRules_eq`).
-/

namespace GatewayNat

/-! ## Rejections -/

/-- A rejection that blames the rule at an index for what it says. -/
inductive Rejection.OfReading (index : Nat) : Rejection → Prop where
  | missingField (field : String) : OfReading index (.missingField index field)
  | ruleType (value : Json) : OfReading index (.unsupportedRuleType index value)
  | invalidField (field reason : String) :
    OfReading index (.invalidField (some (index : Int)) field reason)

theorem Rejection.ofReading_ofRuleIssue (index : Nat) (issue : Issue) :
    OfReading index (.ofRuleIssue index issue) := by
  unfold ofRuleIssue
  split
  · exact .invalidField _ _
  · exact .invalidField _ _

/-- An issue of a service intent is one of a field. -/
theorem Rejection.exists_ofServiceIssue (issue : Issue) :
    ∃ rule field reason, ofServiceIssue issue = .invalidField rule field reason := by
  unfold ofServiceIssue
  split
  · exact ⟨_, _, _, rfl⟩
  · exact ⟨_, _, _, rfl⟩
  · exact ⟨_, _, _, rfl⟩

namespace Compiler

variable {range : IdRange} {index : Nat} {next : Int} {members : Members}
  {rules : List Members} {failure : Failure}

theorem ofReading_of_readRule {rejection : Rejection}
    (unread : readRule index members = .error rejection) : rejection.OfReading index := by
  unfold readRule at unread
  split at unread
  · cases unread
    exact .missingField _
  · split at unread
    · cases unread
      exact .ruleType _
    · split at unread
      · cases unread
        exact .missingField _
      · split at unread
        · cases unread
        · cases unread
          exact Rejection.ofReading_ofRuleIssue _ _

/-! ## Rules that get no id -/

theorem exhausted_eq_rejected_iff {id maximum rule : Int} :
    exhausted range index next = .rejected (.idRangeExhausted rule id maximum) ↔
      (Decimal.isWritable next = true ∧ Decimal.isWritable range.maximum = true) ∧
        rule = index ∧ id = next ∧ maximum = range.maximum := by
  unfold exhausted
  rw [← Bool.and_eq_true]
  split
  · next writable => simp [writable, eq_comm]
  · next tooLong => simp [tooLong]

theorem exhausted_of_tooLong
    (tooLong : ¬(Decimal.isWritable next = true ∧ Decimal.isWritable range.maximum = true)) :
    exhausted range index next = .outage .unwritable := by
  rw [← Bool.and_eq_true] at tooLong
  rw [exhausted, if_neg tooLong]

/-- Why a rule gets no id, if it asks for none and there is none for it. -/
def numberFault? (range : IdRange) (index : Nat) (next : Int) (members : Members) :
    Option Failure :=
  if members.isUnnumbered then
    if next ∉ range then some (exhausted range index next)
    else if Decimal.isWritable next then none
    else some (.outage .unwritable)
  else none

theorem numberFault?_eq_none_iff :
    numberFault? range index next members = none ↔
      (members.isUnnumbered = true → next ∈ range ∧ Decimal.isWritable next = true) := by
  unfold numberFault?
  split
  · next unnumbered =>
    by_cases inside : next ∈ range
    · simp [unnumbered, inside]
    · simp [unnumbered, inside]
  · next numbered => simp [numbered]

/-- What it means that a range is exhausted for a rule. -/
theorem numberFault?_eq_exhausted {id maximum rule : Int}
    (fault : numberFault? range index next members =
      some (.rejected (.idRangeExhausted rule id maximum))) :
    members.isUnnumbered = true ∧ next ∉ range := by
  unfold numberFault? at fault
  split at fault
  · next unnumbered =>
    split at fault
    · next outside => exact ⟨unnumbered, outside⟩
    · split at fault
      · cases fault
      · cases fault
  · cases fault

/-- A rule that can be read gets no id exactly if it has a fault of numbering. -/
theorem assignId_eq_error_iff (type : RuleType) :
    assignId range index next (RuleIntent.ofMembers type members).id = .error failure ↔
      numberFault? range index next members = some failure := by
  unfold assignId numberFault?
  by_cases unnumbered : members.isUnnumbered = true
  · have asks : (RuleIntent.ofMembers type members).id = none :=
      Members.askedId_eq_none_iff.mpr unnumbered
    rw [asks, if_pos unnumbered]
    by_cases inside : next ∈ range
    · by_cases writable : Decimal.isWritable next = true
      · simp [inside, writable]
      · simp [inside, writable]
    · simp [inside]
  · have asks : (RuleIntent.ofMembers type members).id ≠ none :=
      mt Members.askedId_eq_none_iff.mp unnumbered
    obtain ⟨own, asked⟩ := Option.ne_none_iff_exists'.mp asks
    rw [asked, if_neg unnumbered]
    simp

/-- Why a rule is not admitted. -/
theorem admitRule_eq_error_iff :
    admitRule range index next members = .error failure ↔
      (∃ rejection, readRule index members = .error rejection ∧ failure = .rejected rejection) ∨
        (∃ rule, readRule index members = .ok rule) ∧
          numberFault? range index next members = some failure := by
  unfold admitRule
  cases read : readRule index members with
  | error rejection => simp [eq_comm]
  | ok rule =>
    obtain ⟨type, -, rfl⟩ := readRule_eq_ok_iff.mp read
    simp only [← assignId_eq_error_iff type]
    cases assignId range index next (RuleIntent.ofMembers type members).id with
    | error cause => simp
    | ok given => simp

/-! ## The first rule with a fault -/

/-- The rules before a place are admitted, and the rule at the place is not. -/
structure FaultAt (range : IdRange) (index : Nat) (next : Int) (rules : List Members)
    (place : Nat) (rule : Members) (failure : Failure) : Prop where
  here : rules[place]? = some rule
  before : (admitRules range index next (rules.take place)).fault = none
  refused : admitRule range (index + place)
    (next + ((rules.take place).countP Members.isUnnumbered : Nat)) rule = .error failure

theorem exists_faultAt (faulty : (admitRules range index next rules).fault = some failure) :
    ∃ place rule, FaultAt range index next rules place rule failure := by
  -- an admitted rule moves the index and the next id, so both are general
  induction rules generalizing index next with
  | nil => cases faulty
  | cons members rest ih =>
    cases admitted : admitRule range index next members with
    | error cause =>
      rw [admitRules_cons_of_refused admitted] at faulty
      cases faulty
      refine ⟨0, members, ⟨rfl, rfl, ?_⟩⟩
      simpa using admitted
    | ok entry =>
      obtain ⟨rule, id, after⟩ := entry
      obtain ⟨-, -, -, rfl⟩ := admitRule_eq_ok_iff_readable.mp admitted
      rw [admitRules_cons_of_ok admitted] at faulty
      obtain ⟨place, faultyRule, here, before, refused⟩ := ih faulty
      refine ⟨place + 1, faultyRule, ⟨here, ?_, ?_⟩⟩
      · rw [List.take_succ_cons, admitRules_cons_of_ok admitted]
        exact before
      · rwa [List.take_succ_cons, add_countP_cons, Nat.add_comm place, ← Nat.add_assoc]

/-- Rules that are all admitted may stand before others. -/
theorem admitRules_append {first : List Members}
    (faultless : (admitRules range index next first).fault = none) (second : List Members) :
    admitRules range index next (first ++ second) =
      let more := admitRules range (index + first.length)
        (next + (first.countP Members.isUnnumbered : Nat)) second
      ⟨(admitRules range index next first).rules ++ more.rules, more.fault⟩ := by
  induction first generalizing index next with
  | nil => simp [admitRules]
  | cons members rest ih =>
    cases admitted : admitRule range index next members with
    | error failure =>
      rw [admitRules_cons_of_refused admitted] at faultless
      cases faultless
    | ok entry =>
      obtain ⟨rule, id, after⟩ := entry
      obtain ⟨-, -, -, rfl⟩ := admitRule_eq_ok_iff_readable.mp admitted
      rw [admitRules_cons_of_ok admitted] at faultless ⊢
      rw [List.cons_append, admitRules_cons_of_ok admitted, ih faultless, add_countP_cons,
        List.length_cons, Nat.add_right_comm index, ← Nat.add_assoc]
      rfl

/-- The rules before the first fault are all that is admitted. -/
theorem FaultAt.admitRules_eq {place : Nat} {rule : Members}
    (fault : FaultAt range index next rules place rule failure) :
    admitRules range index next rules =
      ⟨(admitRules range index next (rules.take place)).rules, some failure⟩ := by
  obtain ⟨below, same⟩ := List.getElem?_eq_some_iff.mp fault.here
  have split : rules.take place ++ rule :: rules.drop (place + 1) = rules := by
    rw [← same, ← List.drop_eq_getElem_cons below, List.take_append_drop]
  have whole := admitRules_append fault.before (rule :: rules.drop (place + 1))
  rw [split, List.length_take_of_le (Nat.le_of_lt below)] at whole
  rw [whole, admitRules_cons_of_refused fault.refused]
  simp

end Compiler

end GatewayNat
