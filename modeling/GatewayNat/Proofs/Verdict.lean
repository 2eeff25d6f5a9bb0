import Mathlib.Data.List.Forall2
import GatewayNat.Proofs.Checking

/-!
# What a check says first

A check may find many issues.  A compilation tells only the first of them, and
of that one only the problem and the way to it.  `Checked.verdict` is this much
of a check: its result, or its first problem with its path.

The verdict of joined checks is made of their verdicts alone
(`Checked.verdict_seq`).  So a field counts for the whole record by its own
verdict, and the value under it does not matter otherwise.

Two verdicts are the same up to a relation if they are related results or the
same problem (`SameVerdict`).  This passes from the parts of a check to the
whole.

All issues of joined checks are those of each check in turn
(`Checked.issues_seq`).  So the first issue of a list is that of its first item
with one (`Checked.FirstIssueAt`).  What is first among named things, such as
fields, is said by `FirstWith`.
-/

namespace GatewayNat

/-! ## The first of several -/

/-- An item has a property, and no item before it does. -/
def FirstWith {α : Type} (property : α → Prop) (items : List α) (item : α) : Prop :=
  ∃ before after, items = before ++ item :: after ∧ (∀ other ∈ before, ¬property other) ∧
    property item

section FirstWith

variable {α : Type} {property : α → Prop} {items : List α} {item : α}

theorem FirstWith.mem (first : FirstWith property items item) : item ∈ items := by
  obtain ⟨before, after, rfl, -⟩ := first
  exact List.mem_append_right _ (.head _)

theorem FirstWith.holds (first : FirstWith property items item) : property item := by
  obtain ⟨-, -, -, -, holds⟩ := first
  exact holds

theorem find?_eq_some_iff_firstWith [DecidablePred property] :
    (items.find? fun other => decide (property other)) = some item ↔
      FirstWith property items item := by
  rw [List.find?_eq_some_iff_append]
  constructor
  · rintro ⟨here, before, after, split, passed⟩
    refine ⟨before, after, split, ?_, of_decide_eq_true here⟩
    intro other member
    simpa using passed other member
  · rintro ⟨before, after, split, passed, here⟩
    refine ⟨decide_eq_true here, before, after, split, ?_⟩
    intro other member
    simpa using passed other member

theorem FirstWith.unique {other : α} (first : FirstWith property items item)
    (second : FirstWith property items other) : item = other := by
  classical
  rw [← find?_eq_some_iff_firstWith] at first second
  rw [first] at second
  exact Option.some.inj second

/-- There is a first item with a property if there is one at all. -/
theorem exists_firstWith_iff :
    (∃ item, FirstWith property items item) ↔ ∃ item ∈ items, property item := by
  classical
  simp only [← find?_eq_some_iff_firstWith, ← Option.isSome_iff_exists, List.find?_isSome,
    decide_eq_true_iff]

theorem firstWith_cons_of_holds {first : α} {rest : List α} (here : property first) :
    FirstWith property (first :: rest) item ↔ item = first := by
  classical
  rw [← find?_eq_some_iff_firstWith, List.find?_cons, decide_eq_true here]
  exact (Option.some.injEq _ _).to_iff.trans eq_comm

theorem firstWith_cons_of_not {first : α} {rest : List α} (passed : ¬property first) :
    FirstWith property (first :: rest) item ↔ FirstWith property rest item := by
  classical
  rw [← find?_eq_some_iff_firstWith, List.find?_cons, decide_eq_false passed,
    find?_eq_some_iff_firstWith]

theorem firstWith_append_iff {more : List α} :
    FirstWith property (items ++ more) item ↔
      FirstWith property items item ∨
        (∀ other ∈ items, ¬property other) ∧ FirstWith property more item := by
  classical
  simp only [← find?_eq_some_iff_firstWith, List.find?_append, Option.or_eq_some_iff,
    List.find?_eq_none, decide_eq_true_iff]

theorem firstWith_map_iff {β : Type} {f : β → α} {items : List β} :
    FirstWith property (items.map f) item ↔
      ∃ source, FirstWith (fun other => property (f other)) items source ∧ f source = item := by
  classical
  simp only [← find?_eq_some_iff_firstWith, List.find?_map, Option.map_eq_some_iff,
    Function.comp_def]

end FirstWith

/-! ## What a check says -/

/-- What is wrong first, and the way to it. -/
abbrev FirstProblem := Problem × List Step

namespace Checked

variable {α β : Type}

/-- The result of a check, or the first problem that it found. -/
def verdict : Checked α → Except FirstProblem α
  | valid a => .ok a
  | invalid first _ => .error (first.problem, first.path)

theorem verdict_map (f : α → β) (check : Checked α) :
    (f <$> check).verdict = check.verdict.map f := by
  cases check <;> rfl

/-- The first problem of joined checks is the first that one of them has. -/
theorem verdict_seq (f : Checked (α → β)) (check : Checked α) :
    (f <*> check).verdict = f.verdict <*> check.verdict := by
  cases f with
  | valid g => cases check <;> rfl
  | invalid first more => cases check <;> rfl

theorem verdict_under (step : Step) (check : Checked α) :
    (check.under step).verdict =
      check.verdict.mapError fun problem => (problem.1, step :: problem.2) := by
  cases check <;> rfl

end Checked

namespace Members

variable {α : Type} {members : Members} {name : String}

/-- A required field that is there is checked by its value. -/
theorem verdict_required {check : Json → Checked α} (present : members.get name ≠ .null) :
    (members.required name check).verdict =
      ((check (members.get name)).under (.name name)).verdict := by
  unfold required get at *
  cases found : members.find? name with
  | none => simp [found] at present
  | some value => rfl

/-- An optional field for which null stands for absence is checked by its value. -/
theorem verdict_optional {default : α} {check : Json → Checked α}
    (readsNull : check .null = .valid default) :
    (members.optional name default check).verdict =
      ((check (members.get name)).under (.name name)).verdict := by
  unfold optional get
  cases members.find? name with
  | none => simp [readsNull, Checked.under]
  | some value => rfl

theorem optional_congr {a b : Members} {default : α} {check : Json → Checked α}
    (same : a.find? name = b.find? name) :
    a.optional name default check = b.optional name default check := by
  rw [optional, optional, same]

end Members

/-! ## All issues of joined checks -/

namespace Checked

variable {α β : Type}

theorem issues_map (f : α → β) (check : Checked α) : (f <$> check).issues = check.issues := by
  cases check <;> rfl

theorem issues_seq (f : Checked (α → β)) (check : Checked α) :
    (f <*> check).issues = f.issues ++ check.issues := by
  cases f with
  | valid g => cases check <;> rfl
  | invalid first more =>
    cases check with
    | valid a => exact (List.append_nil _).symm
    | invalid next rest => rfl

theorem issues_under (step : Step) (check : Checked α) :
    (check.under step).issues = check.issues.map (Issue.under step) := by
  cases check <;> rfl

theorem issues_eq_nil_iff {check : Checked α} : check.issues = [] ↔ ∃ a, check = .valid a := by
  cases check <;> simp [issues]

theorem exists_eq_invalid_iff {check : Checked α} {issue : Issue} :
    (∃ more, check = .invalid issue more) ↔ check.issues.head? = some issue := by
  cases check <;> simp [issues]

/-- A check has issues with the item at a place, and with no item before it. -/
structure FirstIssueAt (check : Json → Checked α) (values : List Json) (place : Nat) (value : Json)
    (issue : Issue) : Prop where
  here : values[place]? = some value
  before : ∀ earlier < place, ∀ other, values[earlier]? = some other → (check other).issues = []
  first : (check value).issues.head? = some issue

section FirstIssueAt

variable {check : Json → Checked α} {value other : Json} {values : List Json} {index place : Nat}
  {issue : Issue}

theorem firstIssueAt_cons_zero_iff :
    FirstIssueAt check (value :: values) 0 other issue ↔
      value = other ∧ (check other).issues.head? = some issue := by
  constructor
  · rintro ⟨here, -, first⟩
    exact ⟨Option.some.inj here, first⟩
  · rintro ⟨rfl, first⟩
    exact ⟨rfl, fun earlier below => absurd below (Nat.not_lt_zero earlier), first⟩

theorem firstIssueAt_cons_succ_iff :
    FirstIssueAt check (value :: values) (place + 1) other issue ↔
      (check value).issues = [] ∧ FirstIssueAt check values place other issue := by
  constructor
  · rintro ⟨here, before, first⟩
    refine ⟨before 0 (Nat.succ_pos place) value rfl, here, ?_, first⟩
    intro earlier below another stands
    exact before (earlier + 1) (Nat.succ_lt_succ below) another stands
  · rintro ⟨clean, here, before, first⟩
    refine ⟨here, ?_, first⟩
    intro earlier below another stands
    cases earlier with
    | zero =>
      cases stands
      exact clean
    | succ earlier => exact before earlier (Nat.lt_of_succ_lt_succ below) another stands

/-- The first issue of a list is that of its first item that has one. -/
theorem head?_issues_items_eq_some_iff :
    (items check index values).issues.head? = some issue ↔
      ∃ place value first, FirstIssueAt check values place value first ∧
        first.under (.item (index + place)) = issue := by
  induction values generalizing index with
  | nil =>
    refine iff_of_false (by simp [items, issues]) ?_
    rintro ⟨place, value, first, ⟨here, -, -⟩, -⟩
    cases here
  | cons value rest ih =>
    rw [items, issues_seq, issues_map, issues_under, List.head?_append, List.head?_map]
    cases here : (check value).issues.head? with
    | some first =>
      rw [Option.map_some, Option.some_or, Option.some.injEq]
      constructor
      · rintro rfl
        exact ⟨0, value, first, firstIssueAt_cons_zero_iff.mpr ⟨rfl, here⟩, rfl⟩
      · rintro ⟨place, other, wrong, firstAt, rfl⟩
        cases place with
        | zero =>
          obtain ⟨rfl, stands⟩ := firstIssueAt_cons_zero_iff.mp firstAt
          rw [here] at stands
          cases stands
          rfl
        | succ place =>
          rw [(firstIssueAt_cons_succ_iff.mp firstAt).1] at here
          cases here
    | none =>
      have clean : (check value).issues = [] := List.head?_eq_none_iff.mp here
      rw [Option.map_none, Option.none_or, ih]
      constructor
      · rintro ⟨place, other, wrong, firstAt, rfl⟩
        refine ⟨place + 1, other, wrong, firstIssueAt_cons_succ_iff.mpr ⟨clean, firstAt⟩, ?_⟩
        rw [Nat.add_right_comm, Nat.add_assoc]
      · rintro ⟨place, other, wrong, firstAt, rfl⟩
        cases place with
        | zero =>
          obtain ⟨rfl, stands⟩ := firstIssueAt_cons_zero_iff.mp firstAt
          rw [here] at stands
          cases stands
        | succ place =>
          refine ⟨place, other, wrong, (firstIssueAt_cons_succ_iff.mp firstAt).2, ?_⟩
          rw [Nat.add_right_comm, Nat.add_assoc]

end FirstIssueAt

end Checked

namespace Members

variable {α : Type} {members : Members} {name : String} {check : Json → Checked α}

theorem issues_required (given : members.get name ≠ .null) :
    (members.required name check).issues =
      (check (members.get name)).issues.map (Issue.under (.name name)) := by
  unfold required get at *
  cases found : members.find? name with
  | none => simp [found] at given
  | some value => exact Checked.issues_under _ _

theorem issues_optional_of_find? {default : α} {value : Json}
    (given : members.find? name = some value) :
    (members.optional name default check).issues =
      (check value).issues.map (Issue.under (.name name)) := by
  rw [optional, given]
  exact Checked.issues_under _ _

theorem issues_optional {default : α} (readsNull : check .null = .valid default) :
    (members.optional name default check).issues =
      (check (members.get name)).issues.map (Issue.under (.name name)) := by
  cases found : members.find? name with
  | none =>
    rw [optional, get, found, Option.getD_none, readsNull]
    rfl
  | some value => rw [issues_optional_of_find? found, get, found, Option.getD_some]

end Members

/-! ## Verdicts that are the same up to a relation -/

/-- Related results, or the same problem. -/
inductive SameVerdict {α β : Type} (related : α → β → Prop) :
    Except FirstProblem α → Except FirstProblem β → Prop where
  | ok {a : α} {b : β} (same : related a b) : SameVerdict related (.ok a) (.ok b)
  | error (problem : FirstProblem) : SameVerdict related (.error problem) (.error problem)

namespace SameVerdict

variable {α β γ δ : Type}

theorem refl {related : α → α → Prop} (reflexive : ∀ a, related a a)
    (verdict : Except FirstProblem α) : SameVerdict related verdict verdict := by
  cases verdict with
  | ok a => exact .ok (reflexive a)
  | error problem => exact .error problem

theorem map {related : α → β → Prop} {relatedToo : γ → δ → Prop} {f : α → γ} {g : β → δ}
    {x : Except FirstProblem α} {y : Except FirstProblem β} (same : SameVerdict related x y)
    (keeps : ∀ a b, related a b → relatedToo (f a) (g b)) :
    SameVerdict relatedToo (x.map f) (y.map g) := by
  cases same with
  | ok same => exact .ok (keeps _ _ same)
  | error problem => exact .error problem

theorem mapError {related : α → β → Prop} {x : Except FirstProblem α}
    {y : Except FirstProblem β} (same : SameVerdict related x y)
    (f : FirstProblem → FirstProblem) :
    SameVerdict related (x.mapError f) (y.mapError f) := by
  cases same with
  | ok same => exact .ok same
  | error problem => exact .error (f problem)

theorem seq {functions : (α → γ) → (β → δ) → Prop} {related : α → β → Prop}
    {relatedToo : γ → δ → Prop} {f : Except FirstProblem (α → γ)}
    {g : Except FirstProblem (β → δ)} {x : Except FirstProblem α} {y : Except FirstProblem β}
    (sameFunctions : SameVerdict functions f g) (same : SameVerdict related x y)
    (keeps : ∀ f g a b, functions f g → related a b → relatedToo (f a) (g b)) :
    SameVerdict relatedToo (f <*> x) (g <*> y) := by
  cases sameFunctions with
  | error problem => exact .error problem
  | ok here =>
    cases same with
    | ok there => exact .ok (keeps _ _ _ _ here there)
    | error problem => exact .error problem

/-- Lists whose items have the same verdict one by one have the same verdict. -/
theorem items {related : α → α → Prop} {values : Json → Json → Prop} {check : Json → Checked α}
    (each : ∀ v w, values v w → SameVerdict related (check v).verdict (check w).verdict)
    {index : Nat} {first second : List Json} (same : List.Forall₂ values first second) :
    SameVerdict (List.Forall₂ related) (Checked.items check index first).verdict
      (Checked.items check index second).verdict := by
  induction same generalizing index with
  | nil => exact .ok .nil
  | @cons v w rest more here _ ih =>
    simp only [Checked.items, Checked.verdict_seq, Checked.verdict_map, Checked.verdict_under]
    have heads : SameVerdict (fun f g : List α → List α => ∀ xs ys,
        List.Forall₂ related xs ys → List.Forall₂ related (f xs) (g ys)) _ _ :=
      ((each v w here).mapError fun problem => (problem.1, .item index :: problem.2)).map
        (f := List.cons) (g := List.cons) fun a b same xs ys tails => .cons same tails
    exact heads.seq ih fun f g xs ys keeps tails => keeps xs ys tails

end SameVerdict

end GatewayNat
