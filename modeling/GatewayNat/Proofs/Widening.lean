import GatewayNat.Proofs.FirstFault
import GatewayNat.Proofs.StaticDocument

/-!
# Wider surroundings

The surroundings of a compilation are a static directory and an id range.  They
are wider if the directory has everything that it had, unchanged, and the range
goes further.

A check that a rule passes is passed in wider surroundings too
(`RuleCheck.fault?_eq_none_of_within`).  So a document stays what it is, and the
first fault stays in its place or moves to a later one (`FailsFirst.le_of_within`).
A fault that does not depend on the surroundings stays the first, since what
comes before it was passed already (`FailsFirst.of_within`).  Faults of reading
are such.

`compile_widens` says this of whole compilations.  There is one more fault that
depends on the surroundings: the range is exhausted and its maximum is too long
to be written, so the rejection cannot be told (`not_forall_cured_by_surroundings`).
-/

namespace GatewayNat

/-- A directory is part of another one. -/
def StaticDirectory.Within (d wide : StaticDirectory) : Prop :=
  ∀ gateway networks, d.networks? gateway = some networks →
    ∃ more, wide.networks? gateway = some more ∧
      ∀ network descriptor, networks.find? network = some descriptor →
        more.find? network = some descriptor

/-- A range goes on as another one begins. -/
structure IdRange.Within (range wide : IdRange) : Prop where
  minimum : wide.minimum = range.minimum
  maximum : range.maximum ≤ wide.maximum

/-- The kinds of rejections that are due to the intent alone. -/
def Rejection.intentKinds : List String :=
  ["MissingFieldError", "UnsupportedRuleTypeError", "InvalidFieldError"]

/-- The kinds of rejections that are due to the surroundings. -/
def Rejection.surroundingKinds : List String :=
  ["GatewayNotFoundError", "UnknownNetworkError", "IdRangeExhaustedError"]

theorem Rejection.not_mem_surroundingKinds {kind : String} (own : kind ∈ intentKinds) :
    kind ∉ surroundingKinds := by
  revert kind
  decide

section Widening

variable {d wide : StaticDirectory} {range wider : IdRange} {gatewayId : Text}

/-! ## What is found and granted -/

theorem StaticDirectory.Within.interface?_eq_some {network : Text} {descriptor : Descriptor}
    (within : d.Within wide) (found : d.interface? gatewayId network = some descriptor) :
    wide.interface? gatewayId network = some descriptor := by
  obtain ⟨networks, held, here⟩ := Option.bind_eq_some_iff.mp found
  obtain ⟨more, heldToo, keeps⟩ := within gatewayId networks held
  rw [StaticDirectory.interface?, heldToo, Option.bind_some]
  exact keeps network descriptor here

theorem StaticDirectory.Within.interface?_eq {network : Text} (within : d.Within wide)
    (found : (d.interface? gatewayId network).isSome = true) :
    wide.interface? gatewayId network = d.interface? gatewayId network := by
  obtain ⟨descriptor, here⟩ := Option.isSome_iff_exists.mp found
  rw [here, within.interface?_eq_some here]

theorem IdRange.Within.mem {id : Int} (longer : range.Within wider) (member : id ∈ range) :
    id ∈ wider := by
  obtain ⟨above, below⟩ := IdRange.mem_iff.mp member
  exact IdRange.mem_iff.mpr ⟨longer.minimum ▸ above, Int.le_trans below longer.maximum⟩

theorem IdRange.Within.grants {first : Int} {count : Nat} (longer : range.Within wider)
    (granted : range.Grants first count) : wider.Grants first count := by
  intro j below
  obtain ⟨inside, writable⟩ := granted j below
  exact ⟨longer.mem inside, writable⟩

/-! ## Checks and their faults -/

variable {index place : Nat} {next : Int} {rule : Members} {rules : List Members}
  {check : RuleCheck} {failure : Failure}

/-- A check that is passed is passed in wider surroundings. -/
theorem RuleCheck.fault?_eq_none_of_within (within : d.Within wide) (longer : range.Within wider)
    (passed : fault? d gatewayId range index next rule check = none) :
    fault? wide gatewayId wider index next rule check = none := by
  cases check with
  | reading => exact passed
  | numbering =>
    refine Compiler.numberFault?_eq_none_iff.mpr fun unnumbered => ?_
    obtain ⟨inside, writable⟩ := Compiler.numberFault?_eq_none_iff.mp passed unnumbered
    exact ⟨longer.mem inside, writable⟩
  | gateway =>
    cases held : d.networks? gatewayId with
    | none => simp [fault?, held] at passed
    | some networks =>
      obtain ⟨more, heldToo, -⟩ := within gatewayId networks held
      simp [fault?, heldToo]
  | network =>
    by_cases found : (d.interface? gatewayId (rule.get "network_id").written).isSome = true
    · rw [fault?, within.interface?_eq found, if_pos found]
    · simp [fault?, found] at passed

/-- What fails in wider surroundings failed before. -/
theorem FailsAt.of_within (within : d.Within wide) (longer : range.Within wider)
    (fails : FailsAt wide gatewayId wider rules place check failure) :
    ∃ cause, FailsAt d gatewayId range rules place check cause := by
  obtain ⟨rule, here, found⟩ := fails
  have same : nextAt wider rules place = nextAt range rules place := by
    rw [nextAt, nextAt, longer.minimum]
  rw [same] at found
  rcases before : check.fault? d gatewayId range place (nextAt range rules place) rule with
    - | cause
  · rw [RuleCheck.fault?_eq_none_of_within within longer before] at found
    cases found
  · exact ⟨cause, rule, here, before⟩

/-- The first fault does not move to an earlier rule. -/
theorem FailsFirst.le_of_within {later : Nat} {other : RuleCheck} {cause : Failure}
    (within : d.Within wide) (longer : range.Within wider)
    (first : FailsFirst d gatewayId range rules place check failure)
    (firstThere : FailsFirst wide gatewayId wider rules later other cause) : place ≤ later := by
  obtain ⟨before, fails⟩ := firstThere.fails.of_within within longer
  rcases first.first later other before fails with after | ⟨same, -⟩
  · exact Nat.le_of_lt after
  · exact Nat.le_of_eq same

/-- The first fault stays the first if it is there in wider surroundings. -/
theorem FailsFirst.of_within {cause : Failure} (within : d.Within wide)
    (longer : range.Within wider)
    (first : FailsFirst d gatewayId range rules place check failure)
    (fails : FailsAt wide gatewayId wider rules place check cause) :
    FailsFirst wide gatewayId wider rules place check cause := by
  refine ⟨fails, ?_⟩
  intro other otherCheck otherFailure otherFails
  obtain ⟨before, failed⟩ := otherFails.of_within within longer
  exact first.first other otherCheck before failed

/-- Whether a rule can be read does not depend on the surroundings. -/
theorem FailsAt.reading_of_within
    (fails : FailsAt d gatewayId range rules place .reading failure) :
    FailsAt wide gatewayId wider rules place .reading failure := by
  obtain ⟨rule, here, found⟩ := fails
  exact ⟨rule, here, found⟩

/-- An id that is too long to be written is so in every range. -/
theorem FailsAt.numbering_of_within (longer : range.Within wider)
    (tooLong : ¬Decimal.isWritable (nextAt range rules place) = true)
    (fails : FailsAt d gatewayId range rules place .numbering failure) :
    FailsAt wide gatewayId wider rules place .numbering (.outage .unwritable) := by
  obtain ⟨rule, here, found⟩ := fails
  have same : nextAt wider rules place = nextAt range rules place := by
    rw [nextAt, nextAt, longer.minimum]
  have unnumbered : rule.isUnnumbered = true := by
    by_contra numbered
    rw [RuleCheck.fault?, Compiler.numberFault?_eq_none_iff.mpr (absurd · numbered)] at found
    cases found
  refine ⟨rule, here, ?_⟩
  rw [same, RuleCheck.fault?, Compiler.numberFault?, if_pos unnumbered, if_neg tooLong,
    Compiler.exhausted_of_tooLong fun written => tooLong written.1, ite_self]

/-- The first fault stays the first, or it is due to the surroundings. -/
theorem FailsFirst.kept (within : d.Within wide) (longer : range.Within wider)
    (first : FailsFirst d gatewayId range rules place check failure) :
    FailsFirst wide gatewayId wider rules place check failure ∨
      (∃ rejection, failure = .rejected rejection ∧ rejection.kind ∈ Rejection.surroundingKinds) ∨
      failure = .outage .unwritable ∧ ¬Decimal.isWritable range.maximum = true := by
  have tells := first.tells
  cases check with
  | reading => exact .inl (first.of_within within longer first.fails.reading_of_within)
  | numbering =>
    simp only [RuleCheck.Tells] at tells
    split at tells
    · have kind : "IdRangeExhaustedError" ∈ Rejection.surroundingKinds := by decide
      exact .inr (.inl ⟨_, tells, kind⟩)
    · next tooLong =>
      by_cases bounded : Decimal.isWritable range.maximum = true
      · rw [bounded, Bool.and_true] at tooLong
        rw [tells]
        exact .inl (first.of_within within longer
          (first.fails.numbering_of_within longer tooLong))
      · exact .inr (.inr ⟨tells, bounded⟩)
  | gateway =>
    have kind : "GatewayNotFoundError" ∈ Rejection.surroundingKinds := by decide
    exact .inr (.inl ⟨_, tells.2, kind⟩)
  | network =>
    obtain ⟨rule, -, same⟩ := tells
    have kind : "UnknownNetworkError" ∈ Rejection.surroundingKinds := by decide
    exact .inr (.inl ⟨_, same, kind⟩)

/-- A rejection that gives the index of a rule gives that of the rule that failed. -/
theorem FailsFirst.rule_eq {rejection : Rejection} {index : Int}
    (first : FailsFirst d gatewayId range rules place check (.rejected rejection))
    (gives : rejection.rule? = some index) : index = place := by
  have blames := first.tells.blames
  split at blames
  · rw [blames.rule] at gives
    cases gives
  · rw [blames.rule, Option.some.injEq] at gives
    exact gives.symm

/-! ## Compilations -/

namespace Compiler

variable {past : List Call} {intent : Json} {service : ServiceIntent} {document : Document}

/-- A document stays what it is in wider surroundings. -/
theorem compile_eq_ok_of_within (within : d.Within wide) (longer : range.Within wider)
    (compiled : (compile d.toDirectory past gatewayId intent range).result = .ok document) :
    (compile wide.toDirectory past gatewayId intent wider).result = .ok document := by
  obtain ⟨service, read⟩ := exists_valid_of_fault_eq_none (fault_eq_none_of_compile compiled)
  obtain ⟨⟨readable, granted⟩, found, rfl⟩ :=
    (compile_static_eq_ok_iff_of_valid read).mp compiled
  refine (compile_static_eq_ok_iff_of_valid read).mpr ⟨⟨readable, ?_⟩, ?_, ?_⟩
  · rw [longer.minimum]
    exact longer.grants granted
  · intro rule member
    rw [within.interface?_eq (found rule member)]
    exact found rule member
  · rw [longer.minimum, Document.mk.injEq, List.mapIdx_eq_mapIdx_iff]
    refine ⟨rfl, ?_⟩
    intro index below
    have same := within.interface?_eq (found _ (List.getElem_mem below))
    rw [compiledAt, compiledAt, same]

/-- A failure stays what it is in wider surroundings, or it is due to the surroundings. -/
theorem compile_eq_error_of_within (within : d.Within wide) (longer : range.Within wider)
    (failed : (compile d.toDirectory past gatewayId intent range).result = .error failure) :
    (compile wide.toDirectory past gatewayId intent wider).result = .error failure ∨
      (∃ rejection, failure = .rejected rejection ∧ rejection.kind ∈ Rejection.surroundingKinds) ∨
      failure = .outage .unwritable ∧ ¬Decimal.isWritable range.maximum = true := by
  cases read : ServiceIntent.check intent with
  | invalid issue more =>
    simp only [compile, read] at failed ⊢
    exact .inl failed
  | valid service =>
    obtain ⟨place, check, first⟩ := (compile_static_eq_error_iff read).mp failed
    rcases first.kept within longer with kept | due
    · exact .inl ((compile_static_eq_error_iff read).mpr ⟨place, check, kept⟩)
    · exact .inr due

/-- A rejection in wider surroundings blames the same rule or a later one. -/
theorem rule_le_of_within {rejection other : Rejection} {index later : Int}
    (within : d.Within wide) (longer : range.Within wider)
    (rejected : (compile d.toDirectory past gatewayId intent range).result =
      .error (.rejected rejection))
    (rejectedThere : (compile wide.toDirectory past gatewayId intent wider).result =
      .error (.rejected other))
    (blames : rejection.rule? = some index) (blamesThere : other.rule? = some later) :
    index ≤ later := by
  cases read : ServiceIntent.check intent with
  | invalid issue more =>
    -- the same issue is found without a look at the surroundings
    simp only [compile, read] at rejected rejectedThere
    rw [rejected, Except.error.injEq, Failure.rejected.injEq] at rejectedThere
    rw [← rejectedThere, blames, Option.some.injEq] at blamesThere
    exact Int.le_of_eq blamesThere
  | valid service =>
    obtain ⟨place, check, first⟩ := (compile_static_eq_error_iff read).mp rejected
    obtain ⟨there, otherCheck, firstThere⟩ :=
      (compile_static_eq_error_iff read).mp rejectedThere
    rw [first.rule_eq blames, firstThere.rule_eq blamesThere]
    exact Int.ofNat_le.mpr (first.le_of_within within longer firstThere)

end Compiler

end Widening

/-! ## A range without ids -/

namespace TwoRules

/-- A range without ids whose maximum cannot be named. -/
theorem result_of_least :
    (compile directory [] "edge" unnumbered ⟨0, -(Decimal.greatest + 1)⟩).result =
      .error (.outage .unwritable) := by
  have reversed : -(Decimal.greatest + 1) < 0 := by
    have := Decimal.greatest_nonneg
    omega
  refine Compiler.unwritable_of_exhausts (exhausts_of_lt reversed) ?_
  rintro ⟨-, maximum⟩
  rw [Decimal.isWritable_neg] at maximum
  exact Decimal.not_isWritable_greatest_add_one maximum

end TwoRules

/-! ## What wider surroundings change -/

/-- In wider surroundings a document is the same, and so is a failure that is the intent's own.
Any other rejection is due to the surroundings, and an outage stays unless the maximum itself is too
long to be written.  What fails instead is the same rule or a later one. -/
theorem compile_widens {d wide : StaticDirectory} {range wider : IdRange} (within : d.Within wide)
    (longer : range.Within wider) (past : List Call) (gatewayId : Text) (intent : Json) :
    let narrow := (compile d.toDirectory past gatewayId intent range).result
    let widened := (compile wide.toDirectory past gatewayId intent wider).result
    (∀ document, narrow = .ok document → widened = .ok document) ∧
      (∀ rejection, narrow = .error (.rejected rejection) →
        rejection.kind ∈ Rejection.intentKinds → widened = .error (.rejected rejection)) ∧
      (∀ rejection, narrow = .error (.rejected rejection) →
        widened ≠ .error (.rejected rejection) → rejection.kind ∈ Rejection.surroundingKinds) ∧
      (∀ outage, narrow = .error (.outage outage) → widened = .error (.outage outage) ∨
        outage = .unwritable ∧ ¬Decimal.isWritable range.maximum = true) ∧
      (∀ rejection other index later, narrow = .error (.rejected rejection) →
        widened = .error (.rejected other) → rejection.rule? = some index →
          other.rule? = some later → index ≤ later) ∧
      ∀ service failure cause, ServiceIntent.check intent = .valid service →
        narrow = .error failure → widened = .error cause →
          ∃ place check later otherCheck, place ≤ later ∧
            FailsFirst d gatewayId range service.rules place check failure ∧
            FailsFirst wide gatewayId wider service.rules later otherCheck cause := by
  intro narrow widened
  refine ⟨?kept, ?own, ?due, ?outage, ?blamed, ?placed⟩
  case kept =>
    intro document compiled
    exact Compiler.compile_eq_ok_of_within within longer compiled
  case own =>
    intro rejection rejected own
    rcases Compiler.compile_eq_error_of_within within longer rejected with
      same | ⟨_, same, due⟩ | ⟨same, -⟩
    · exact same
    · cases same
      exact absurd due (Rejection.not_mem_surroundingKinds own)
    · cases same
  case due =>
    intro rejection rejected changed
    rcases Compiler.compile_eq_error_of_within within longer rejected with
      same | ⟨_, same, due⟩ | ⟨same, -⟩
    · exact absurd same changed
    · cases same
      exact due
    · cases same
  case outage =>
    intro outage failed
    rcases Compiler.compile_eq_error_of_within within longer failed with
      same | ⟨_, same, -⟩ | ⟨same, long⟩
    · exact .inl same
    · cases same
    · exact .inr ⟨Failure.outage.inj same, long⟩
  case blamed =>
    intro rejection other index later rejected rejectedThere blames blamesThere
    exact Compiler.rule_le_of_within within longer rejected rejectedThere blames blamesThere
  case placed =>
    intro service failure cause read failed failedThere
    obtain ⟨place, check, first⟩ := (Compiler.compile_static_eq_error_iff read).mp failed
    obtain ⟨later, otherCheck, firstThere⟩ :=
      (Compiler.compile_static_eq_error_iff read).mp failedThere
    exact ⟨place, check, later, otherCheck, first.le_of_within within longer firstThere, first,
      firstThere⟩

/-- A gateway, a network and ids that no rule needs. -/
theorem compile_widens_for_twoRules :
    let d : StaticDirectory := ⟨[("edge", [("web", [])])]⟩
    let wide : StaticDirectory := ⟨[("core", []), ("edge", [("db", []), ("web", [])])]⟩
    d.Within wide ∧ IdRange.Within ⟨65537, 65537⟩ ⟨65537, 131072⟩ ∧
      (compile wide.toDirectory [] "edge" (TwoRules.intent "9") ⟨65537, 131072⟩).result =
        .ok (TwoRules.document "9") := by
  intro d wide
  have within : d.Within wide := by
    intro gateway networks held
    cases List.mem_singleton.mp (Table.mem_of_find? held)
    refine ⟨_, rfl, ?_⟩
    intro network descriptor found
    cases List.mem_singleton.mp (Table.mem_of_find? found)
    rfl
  have longer : IdRange.Within ⟨65537, 65537⟩ ⟨65537, 131072⟩ := ⟨rfl, by decide⟩
  refine ⟨within, longer, ?_⟩
  exact (compile_widens within longer [] "edge" (TwoRules.intent "9")).1 _ (by decide)

/-- A larger range may cure an outage as well: the next id is outside the range, and the maximum is
too long to be written. -/
theorem not_forall_cured_by_surroundings :
    ¬∀ (d wide : StaticDirectory) (range wider : IdRange), d.Within wide → range.Within wider →
      ∀ (past : List Call) (gatewayId : Text) (intent : Json) (failure : Failure),
        (compile d.toDirectory past gatewayId intent range).result = .error failure →
          (compile wide.toDirectory past gatewayId intent wider).result ≠ .error failure →
            ∃ rejection, failure = .rejected rejection ∧
              rejection.kind ∈ Rejection.surroundingKinds := by
  intro all
  let d : StaticDirectory := ⟨[("edge", [("web", [])])]⟩
  have within : d.Within d := fun gateway networks held => ⟨networks, held, fun _ _ found => found⟩
  have longer : IdRange.Within ⟨0, -(Decimal.greatest + 1)⟩ ⟨0, 10⟩ := by
    have := Decimal.greatest_nonneg
    exact ⟨rfl, by simp only; omega⟩
  have cured : (compile d.toDirectory [] "edge" TwoRules.unnumbered ⟨0, 10⟩).result ≠
      .error (.outage .unwritable) := by decide
  obtain ⟨rejection, same, -⟩ :=
    all d d _ _ within longer [] "edge" _ _ TwoRules.result_of_least cured
  cases same

end GatewayNat
