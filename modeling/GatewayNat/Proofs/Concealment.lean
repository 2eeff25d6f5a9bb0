import GatewayNat.Proofs.Lookup

/-!
# Concealed wordings

A compilation passes the outages of its directory on and reads nothing in their
wordings.  So directories whose answers differ in these wordings only
(`Directory.concealed`) are asked the same calls, and what comes of the
compilations differs in such a wording only (`Compiler.compile_concealed`).

The first call that fails ends a compilation, with the failure of the call
(`Compiler.result_of_raised`).
-/

namespace GatewayNat

/-! ## Without wordings -/

/-- The outage without its wording. -/
def Outage.concealed (outage : Outage) : Outage := ⟨outage.kind, ""⟩

/-- The failure without its wording, if it is an outage. -/
def Failure.concealed : Failure → Failure
  | .rejected r => .rejected r
  | .outage o => .outage o.concealed

@[simp] theorem Failure.concealed_concealed (failure : Failure) :
    failure.concealed.concealed = failure.concealed := by
  cases failure <;> rfl

/-- The directory that fails without wordings. -/
def Directory.concealed (d : Directory) : Directory where
  gateway past gateway := (d.gateway past gateway).mapError Failure.concealed
  interface past gateway network :=
    (d.interface past gateway network).mapError Failure.concealed

/-- The outcome of a step without the wording of its failure. -/
def Resolved.concealed {α : Type} (step : Resolved α) : Resolved α :=
  { step with result := step.result.mapError Failure.concealed }

/-- The outcome of a compilation without the wording of its failure. -/
def Compilation.concealed (compilation : Compilation) : Compilation :=
  { compilation with result := compilation.result.mapError Failure.concealed }

namespace Resolver

variable (d : Directory) (past : List Call) (r : Resolver) (network : Text) (rule : Option Int)

theorem enter_concealed : r.enter d.concealed past = (r.enter d past).concealed := by
  unfold enter
  split
  · rfl
  · simp only [Directory.concealed]
    cases d.gateway past r.gatewayId <;> rfl

theorem lookUp_concealed :
    r.lookUp d.concealed past network rule = (r.lookUp d past network rule).concealed := by
  simp only [lookUp, Directory.concealed]
  cases d.interface past r.gatewayId network with
  | error failure => rfl
  | ok found => cases found <;> rfl

theorem resolve_concealed :
    r.resolve d.concealed past network rule = (r.resolve d past network rule).concealed := by
  unfold resolve
  cases r.interfaces.find? network with
  | some descriptor => rfl
  | none =>
    simp only [enter_concealed]
    cases entry : (r.enter d past).result with
    | error failure =>
      simp only [Resolved.concealed, entry]
      rfl
    | ok gatewayId =>
      simp only [Resolved.concealed, entry, Except.mapError_ok, lookUp_concealed]

end Resolver

namespace Compiler

variable (d : Directory) (range : IdRange) (past : List Call)

theorem compileRules_concealed (index : Nat) (next : Int) (r : Resolver) (rules : List Members) :
    (compileRules d.concealed range past index next r rules).concealed =
      (compileRules d range past index next r rules).concealed := by
  induction rules generalizing past index next r with
  | nil => rfl
  | cons members rest ih =>
    cases admitted : admitRule range index next members with
    | error failure =>
      rw [compileRules_cons_of_refused admitted, compileRules_cons_of_refused admitted]
    | ok entry =>
      obtain ⟨rule, id, after⟩ := entry
      have resolvedToo := Resolver.resolve_concealed d past r rule.networkId (some index)
      rcases resolved : r.resolve d past rule.networkId (some index) with ⟨result, events, known⟩
      rw [resolved] at resolvedToo
      cases result with
      | error failure =>
        rw [compileRules_cons_of_error admitted resolved,
          compileRules_cons_of_error admitted resolvedToo]
        simp [Resolved.concealed]
      | ok descriptor =>
        rw [compileRules_cons_of_ok admitted resolved, compileRules_cons_of_ok admitted resolvedToo]
        have later := ih (past ++ Event.calls events) (index + 1) after known
        obtain ⟨result, events, resolver⟩ := Resolved.mk.injEq .. ▸ later
        simp only [Resolved.concealed, ← Except.map_mapError, result, events, resolver]

/-- What comes of a compilation does not depend on the wordings of the directory's outages, but for
the wording of its own. -/
theorem compile_concealed (gatewayId : Text) (intent : Json) :
    (compile d.concealed past gatewayId intent range).concealed =
      (compile d past gatewayId intent range).concealed := by
  unfold compile
  split
  · next service read =>
    have rules := compileRules_concealed d range past 0 range.minimum (.new gatewayId) service.rules
    obtain ⟨result, events, resolver⟩ := Resolved.mk.injEq .. ▸ rules
    simp only [compileService, events, resolver]
    cases there : (compileRules d.concealed range past 0 range.minimum (.new gatewayId)
        service.rules).result with
    | error failure =>
      rw [there] at result
      obtain ⟨cause, here, same⟩ := Except.mapError_eq_error_iff.mp result.symm
      simp only [here, Compilation.concealed, Except.mapError_error, same]
    | ok compiled =>
      rw [there] at result
      rw [Except.mapError_eq_ok_iff.mp result.symm]
  · rfl

variable {d} in
theorem compile_of_concealed_eq {e : Directory} (alike : e.concealed = d.concealed)
    (gatewayId : Text) (intent : Json) :
    (compile e past gatewayId intent range).concealed =
      (compile d past gatewayId intent range).concealed := by
  rw [← compile_concealed e, alike, compile_concealed]

end Compiler

/-! ## The first failure -/

namespace Directory

/-- The failure of a call after the given ones, if it fails. -/
def failure? (d : Directory) (past : List Call) : Call → Option Failure
  | .gateway gateway =>
    match d.gateway past gateway with
    | .ok () => none
    | .error failure => some failure
  | .interface gateway network =>
    match d.interface past gateway network with
    | .ok _ => none
    | .error failure => some failure

/-- The failure of the first of some calls that fails, after the given ones. -/
def raised? (d : Directory) (past : List Call) : List Call → Option Failure
  | [] => none
  | call :: rest => (d.failure? past call).or (d.raised? (past ++ [call]) rest)

variable {d : Directory} {past : List Call}

theorem raised?_append (first second : List Call) : d.raised? past (first ++ second) =
    (d.raised? past first).or (d.raised? (past ++ first) second) := by
  induction first generalizing past with
  | nil => simp [raised?]
  | cons call rest ih => simp [raised?, ih, Option.or_assoc]

end Directory

namespace Resolver

variable {d : Directory} {past : List Call} {r : Resolver} {network : Text} {rule : Option Int}
  {failure : Failure}

theorem result_enter_of_raised
    (raised : d.raised? past (Event.calls (r.enter d past).events) = some failure) :
    (r.enter d past).result = .error failure := by
  unfold enter at raised ⊢
  split at raised
  · cases raised
  · next new =>
    rw [if_neg new]
    cases answer : d.gateway past r.gatewayId with
    | ok found => simp [answer, Directory.raised?, Directory.failure?] at raised
    | error lost => simpa [answer, Directory.raised?, Directory.failure?] using raised

theorem result_lookUp_of_raised
    (raised : d.raised? past (Event.calls (r.lookUp d past network rule).events) = some failure) :
    (r.lookUp d past network rule).result = .error failure := by
  unfold lookUp at raised ⊢
  cases answer : d.interface past r.gatewayId network with
  | ok found => cases found <;> simp [answer, Directory.raised?, Directory.failure?] at raised
  | error lost => simpa [answer, Directory.raised?, Directory.failure?] using raised

theorem result_resolve_of_raised
    (raised : d.raised? past (Event.calls (r.resolve d past network rule).events) =
      some failure) :
    (r.resolve d past network rule).result = .error failure := by
  unfold resolve at raised ⊢
  cases known : r.interfaces.find? network with
  | some descriptor =>
    simp only [known] at raised
    cases raised
  | none =>
    simp only [known] at raised ⊢
    cases entry : (r.enter d past).result with
    | error lost =>
      simp only [entry, Event.calls_cons_record] at raised ⊢
      cases entry.symm.trans (result_enter_of_raised raised)
      rfl
    | ok gatewayId =>
      simp only [entry, Event.calls_cons_record, Event.calls_append] at raised ⊢
      have entered : d.raised? past (Event.calls (r.enter d past).events) = none := by
        rw [Option.eq_none_iff_forall_ne_some]
        intro lost early
        rw [result_enter_of_raised early] at entry
        cases entry
      rw [Directory.raised?_append, entered, Option.none_or] at raised
      exact result_lookUp_of_raised raised

end Resolver

namespace Compiler

variable {d : Directory} {range : IdRange} {past : List Call} {failure : Failure}

theorem result_compileRules_of_raised {index : Nat} {next : Int} {r : Resolver}
    {rules : List Members}
    (raised : d.raised? past
      (Event.calls (compileRules d range past index next r rules).events) = some failure) :
    (compileRules d range past index next r rules).result = .error failure := by
  induction rules generalizing past index next r with
  | nil => cases raised
  | cons members rest ih =>
    cases admitted : admitRule range index next members with
    | error refused =>
      rw [compileRules_cons_of_refused admitted] at raised
      cases raised
    | ok entry =>
      obtain ⟨rule, id, after⟩ := entry
      rcases resolved : r.resolve d past rule.networkId (some index) with ⟨result, events, known⟩
      have here : ∀ lost, d.raised? past (Event.calls events) = some lost →
          result = .error lost := by
        intro lost early
        have known : d.raised? past (Event.calls (r.resolve d past rule.networkId
            (some index)).events) = some lost := by
          rw [resolved]
          exact early
        have failed := Resolver.result_resolve_of_raised known
        rw [resolved] at failed
        exact failed
      cases result with
      | error lost =>
        rw [compileRules_cons_of_error admitted resolved] at raised ⊢
        cases here failure raised
        rfl
      | ok descriptor =>
        rw [compileRules_cons_of_ok admitted resolved] at raised ⊢
        have returned : d.raised? past (Event.calls events) = none := by
          rw [Option.eq_none_iff_forall_ne_some]
          intro lost early
          cases here lost early
        simp only [Event.calls_append, Directory.raised?_append, returned, Option.none_or] at raised
        simp only [ih raised]
        rfl

/-- The first call that fails ends a compilation with its failure. -/
theorem result_of_raised {gatewayId : Text} {intent : Json}
    (raised : d.raised? past (Event.calls (compile d past gatewayId intent range).events) =
      some failure) :
    (compile d past gatewayId intent range).result = .error failure := by
  unfold compile at raised ⊢
  split at raised
  · next service read =>
    simp only [compileService] at raised ⊢
    cases rules : (compileRules d range past 0 range.minimum (.new gatewayId)
        service.rules).result with
    | error lost =>
      simp only [rules, Event.calls_cons_record] at raised ⊢
      cases rules.symm.trans (result_compileRules_of_raised raised)
      rfl
    | ok compiled =>
      simp only [rules, Event.calls_cons_record, Event.calls_append, Event.calls_nil,
        List.append_nil] at raised
      rw [result_compileRules_of_raised raised] at rules
      cases rules
  · cases raised

end Compiler

end GatewayNat
