import GatewayNat.Proofs.Admission

/-!
# Binding

Admitted rules are bound to the interfaces of their networks.  `bindRules` binds
them from a fixed table of answers, one answer for each network, so it has
neither a cache nor a directory.

A rule whose network has no interface ends the binding, and so does an answer
that is a failure.  If all rules are bound, the failure that ended the admission
is what is left.  A stop says whether a failure is the compilation's own or was
raised by the directory.
-/

namespace GatewayNat

namespace Except

variable {ε ε' α β : Type}

theorem map_eq_ok_iff {f : α → β} {result : Except ε α} {b : β} :
    result.map f = .ok b ↔ ∃ a, result = .ok a ∧ f a = b := by
  cases result <;> simp [Except.map]

theorem map_eq_error_iff {f : α → β} {result : Except ε α} {error : ε} :
    result.map f = .error error ↔ result = .error error := by
  cases result <;> simp [Except.map]

theorem bind_eq_ok_iff {f : α → Except ε β} {result : Except ε α} {b : β} :
    result >>= f = .ok b ↔ ∃ a, result = .ok a ∧ f a = .ok b := by
  cases result with
  | error fault => exact ⟨nofun, nofun⟩
  | ok a =>
    constructor
    · exact fun done => ⟨a, rfl, done⟩
    · rintro ⟨_, ⟨⟩, done⟩
      exact done

@[simp] theorem mapError_ok (g : ε → ε') (a : α) :
    (Except.ok a : Except ε α).mapError g = .ok a := rfl

@[simp] theorem mapError_error (g : ε → ε') (error : ε) :
    (Except.error error : Except ε α).mapError g = .error (g error) := rfl

theorem mapError_eq_ok_iff {g : ε → ε'} {result : Except ε α} {a : α} :
    result.mapError g = .ok a ↔ result = .ok a := by
  cases result <;> simp

theorem mapError_eq_error_iff {g : ε → ε'} {result : Except ε α} {error : ε'} :
    result.mapError g = .error error ↔ ∃ cause, result = .error cause ∧ g cause = error := by
  cases result <;> simp

theorem map_mapError (f : α → β) (g : ε → ε') (result : Except ε α) :
    (result.mapError g).map f = (result.map f).mapError g := by
  cases result <;> rfl

end Except

/-- What a directory answers for a network. -/
abbrev Answer := Except Failure (Option Descriptor)

/-- The interface of an answer, if it has one. -/
def Answer.interface? : Answer → Option Descriptor
  | .ok (some descriptor) => some descriptor
  | _ => none

theorem Answer.interface?_eq_some_iff {answer : Answer} {descriptor : Descriptor} :
    interface? answer = some descriptor ↔ answer = .ok (some descriptor) := by
  constructor
  · intro h
    cases answer with
    | error failure => cases h
    | ok found =>
      cases found with
      | none => cases h
      | some descriptor => cases h; rfl
  · rintro rfl
    rfl

/-- The failure that an answer without an interface is to the rule that asks for it. -/
def Answer.failure (gatewayId network : Text) (rule : Option Int) : Answer → Failure
  | .ok _ => .rejected (.unknownNetwork gatewayId network rule)
  | .error failure => failure

/-- Why rules cannot be compiled, and whose failure it is. -/
inductive Stop where
  /-- A failure of the compilation itself. -/
  | own (failure : Failure)
  /-- A failure of the directory. -/
  | raised (failure : Failure)
  deriving DecidableEq, Repr

/-- The failure of a stop. -/
def Stop.failure : Stop → Failure
  | .own failure => failure
  | .raised failure => failure

/-- The stop at a rule whose network has no interface. -/
def Stop.ofAnswer (gatewayId network : Text) (index : Nat) : Answer → Stop
  | .ok _ => .own (.rejected (.unknownNetwork gatewayId network (some index)))
  | .error failure => .raised failure

theorem Stop.failure_ofAnswer (gatewayId network : Text) (index : Nat) (answer : Answer) :
    (ofAnswer gatewayId network index answer).failure =
      Answer.failure gatewayId network (some index) answer := by
  cases answer <;> rfl

namespace Compiler

/-- Binds admitted rules from an index on. -/
def bindRules (answers : Text → Answer) (gatewayId : Text) (fault : Option Failure) :
    (index : Nat) → List (RuleIntent × Text) → Except Stop (List CompiledRule)
  | _, [] =>
    match fault with
    | none => .ok []
    | some failure => .error (.own failure)
  | index, (rule, id) :: rest =>
    match Answer.interface? (answers rule.networkId) with
    | none => .error (.ofAnswer gatewayId rule.networkId index (answers rule.networkId))
    | some descriptor =>
      (bindRules answers gatewayId fault (index + 1) rest).map
        (CompiledRule.ofIntent rule id descriptor :: ·)

/-- An admitted rule on the interface that is the answer for its network. -/
def bound (answers : Text → Answer) (entry : RuleIntent × Text) : CompiledRule :=
  .ofIntent entry.1 entry.2 ((Answer.interface? (answers entry.1.networkId)).getD [])

variable {answers : Text → Answer} {gatewayId : Text} {fault : Option Failure} {index : Nat}
  {rules : List (RuleIntent × Text)}

/-- If every network has an interface, only the failure of the admission is left. -/
theorem bindRules_of_forall_isSome
    (found : ∀ entry ∈ rules, (Answer.interface? (answers entry.1.networkId)).isSome) :
    bindRules answers gatewayId fault index rules =
      match fault with
      | none => .ok (rules.map (bound answers))
      | some failure => .error (.own failure) := by
  induction rules generalizing index with
  | nil => rfl
  | cons entry rest ih =>
    obtain ⟨here, after⟩ := List.forall_mem_cons.mp found
    obtain ⟨rule, id⟩ := entry
    obtain ⟨descriptor, answered⟩ := Option.isSome_iff_exists.mp here
    have first : bound answers (rule, id) = .ofIntent rule id descriptor := by
      simp only [bound]
      rw [show Answer.interface? (answers rule.networkId) = some descriptor from answered]
      rfl
    rw [bindRules, show Answer.interface? (answers rule.networkId) = some descriptor from answered]
    rw [ih after, List.map_cons, first]
    cases fault <;> rfl

/-- What rules are bound to. -/
theorem bindRules_eq_ok_iff {compiled : List CompiledRule} :
    bindRules answers gatewayId fault index rules = .ok compiled ↔
      fault = none ∧
        (∀ entry ∈ rules, (Answer.interface? (answers entry.1.networkId)).isSome) ∧
        compiled = rules.map (bound answers) := by
  constructor
  · intro h
    have found : ∀ entry ∈ rules, (Answer.interface? (answers entry.1.networkId)).isSome := by
      induction rules generalizing index compiled with
      | nil => simp
      | cons entry rest ih =>
        obtain ⟨rule, id⟩ := entry
        unfold bindRules at h
        split at h
        · cases h
        · next descriptor answered =>
          cases more : bindRules answers gatewayId fault (index + 1) rest with
          | error failure =>
            rw [more] at h
            cases h
          | ok tail =>
            rw [List.forall_mem_cons]
            exact ⟨by simp [answered], ih more⟩
    rw [bindRules_of_forall_isSome found] at h
    cases fault with
    | none =>
      cases h
      exact ⟨rfl, found, rfl⟩
    | some failure => cases h
  · rintro ⟨rfl, found, rfl⟩
    rw [bindRules_of_forall_isSome found]

end Compiler

end GatewayNat
