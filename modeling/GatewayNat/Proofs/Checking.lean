import GatewayNat.Intent

/-!
# What a check accepts

A check that joins several checks is valid exactly if each of them is
(`Checked.seq_eq_valid_iff`, `Checked.items_eq_valid_iff`), and its result is
made of their results.  So what a record accepts is said field by field.

A field of a rule is read from a text or a number (`Json.Textual`), and what is
read is the text itself or the decimal text of the number (`Json.written`).
For an optional field, absence and null mean the same, so its law speaks of
`Members.get`.
-/

namespace GatewayNat

/-! ## Joining checks -/

namespace Checked

variable {α β : Type}

theorem map_eq_valid_iff {f : α → β} {check : Checked α} {b : β} :
    f <$> check = .valid b ↔ ∃ a, check = .valid a ∧ f a = b := by
  cases check with
  | valid a => simp
  | invalid first more => simp

theorem seq_eq_valid_iff {f : Checked (α → β)} {check : Checked α} {b : β} :
    f <*> check = .valid b ↔ ∃ g a, f = .valid g ∧ check = .valid a ∧ g a = b := by
  cases f with
  | valid g =>
    cases check with
    | valid a => simp
    | invalid first more => simp
  | invalid first more =>
    cases check with
    | valid a => simp
    | invalid next rest => simp

/-- A valid argument among checked ones is replaced by what replaces it in every result. -/
theorem seq_valid_congr {γ δ : Type} {f : Checked (α → β → γ → δ)} {a b : α} {second : Checked β}
    {third : Checked γ} {update : δ → δ}
    (updates : ∀ g, f = .valid g → ∀ x y, update (g b x y) = g a x y) :
    f <*> .valid a <*> second <*> third = update <$> (f <*> .valid b <*> second <*> third) := by
  cases f with
  | invalid first more => cases second <;> cases third <;> rfl
  | valid g =>
    cases second with
    | invalid first more => cases third <;> rfl
    | valid x =>
      cases third with
      | invalid first more => rfl
      | valid y => exact congrArg valid (updates g rfl x y).symm

theorem under_eq_valid_iff {step : Step} {check : Checked α} {a : α} :
    check.under step = .valid a ↔ check = .valid a := by
  cases check with
  | valid b => simp [under]
  | invalid first more => simp [under]

/-- A list is accepted exactly if every item is. -/
theorem items_eq_valid_iff {check : Json → Checked α} {index : Nat} {values : List Json}
    {results : List α} :
    items check index values = .valid results ↔ values.map check = results.map .valid := by
  induction values generalizing index results with
  | nil => cases results <;> simp [items]
  | cons value rest ih =>
    simp only [items, seq_eq_valid_iff, map_eq_valid_iff, under_eq_valid_iff, ih, List.map_cons]
    constructor
    · rintro ⟨_, tail, ⟨head, accepted, rfl⟩, restAccepted, rfl⟩
      rw [List.map_cons, accepted, restAccepted]
    · intro h
      cases results with
      | nil => cases h
      | cons head tail =>
        obtain ⟨accepted, restAccepted⟩ := List.cons.inj h
        exact ⟨_, tail, ⟨head, accepted, rfl⟩, restAccepted, rfl⟩

end Checked

/-! ## Fields -/

namespace Members

variable {α : Type}

/-- The value of a field, null for its absence. -/
def get (members : Members) (name : String) : Json := (members.find? name).getD .null

theorem required_eq_valid_iff {members : Members} {name : String} {check : Json → Checked α}
    {a : α} :
    members.required name check = .valid a ↔
      ∃ value, members.find? name = some value ∧ check value = .valid a := by
  unfold required
  cases members.find? name with
  | none => simp [Checked.fail, Checked.under]
  | some value => simp [Checked.under_eq_valid_iff]

/-- A required field whose check refuses null. -/
theorem required_eq_valid_iff_get {members : Members} {name : String} {check : Json → Checked α}
    {a : α} (refusesNull : ∀ b, check .null ≠ .valid b) :
    members.required name check = .valid a ↔ check (members.get name) = .valid a := by
  rw [required_eq_valid_iff, get]
  cases members.find? name with
  | none => simp [refusesNull a]
  | some value => simp

/-- An optional field for which null stands for absence. -/
theorem optional_eq_valid_iff_get {members : Members} {name : String} {default : α}
    {check : Json → Checked α} {a : α} (readsNull : check .null = .valid default) :
    members.optional name default check = .valid a ↔ check (members.get name) = .valid a := by
  unfold optional get
  cases members.find? name with
  | none => simp [readsNull]
  | some value => simp [Checked.under_eq_valid_iff]

end Members

/-! ## Texts and numbers -/

namespace Json

/-- A text or a number. -/
inductive Textual : Json → Prop where
  | str (s : Text) : Textual (.str s)
  | int (n : Int) : Textual (.int n)
  | float (x : Binary64) : Textual (.float x)

/-- What a text or a number is written as. -/
def written : Json → Text
  | .str s => s
  | .int n => (toString n : String)
  | .float x => x.text
  | _ => ""

theorem asTextOfNumber_eq_valid_iff {value : Json} {text : Text} :
    value.asTextOfNumber = .valid text ↔ value.Textual ∧ text = value.written := by
  constructor
  · intro h
    cases value with
    | str s => cases h; exact ⟨.str _, rfl⟩
    | int n => cases h; exact ⟨.int n, rfl⟩
    | float x => cases h; exact ⟨.float x, rfl⟩
    | null => cases h
    | bool b => cases h
    | arr items => cases h
    | obj members => cases h
  · rintro ⟨textual, rfl⟩
    cases textual <;> rfl

/-- Null, or a text or a number. -/
def OptionalTextual (value : Json) : Prop := value = .null ∨ value.Textual

/-- Null, a truth value, or a text or a number. -/
def FlagLike (value : Json) : Prop := value = .null ∨ (∃ b, value = .bool b) ∨ value.Textual

/-- The flag that a value stands for. -/
def flag : Json → Text
  | .null => "true"
  | .bool b => if b then "true" else "false"
  | value => value.written

/-- The id that a value asks for, if it asks for one. -/
def askedId : Json → Option Text
  | .null => none
  | .str s => if s.allBlank then none else some s
  | value => some value.written

/-- The protocol that a value stands for. -/
def protocolText : Json → Text
  | .null => "tcp"
  | .str s => if s.allBlank then "tcp" else s
  | value => value.written

theorem asRuleEnabled_eq_valid_iff {value : Json} {text : Text} :
    value.asRuleEnabled = .valid text ↔ value.FlagLike ∧ text = value.flag := by
  constructor
  · intro h
    cases value with
    | null => cases h; exact ⟨.inl rfl, rfl⟩
    | bool b => cases h; exact ⟨.inr (.inl ⟨b, rfl⟩), by cases b <;> rfl⟩
    | str s => cases h; exact ⟨.inr (.inr (.str _)), rfl⟩
    | int n => cases h; exact ⟨.inr (.inr (.int n)), rfl⟩
    | float x => cases h; exact ⟨.inr (.inr (.float x)), rfl⟩
    | arr items => cases h
    | obj members => cases h
  · rintro ⟨rfl | ⟨b, rfl⟩ | textual, rfl⟩
    · rfl
    · cases b <;> rfl
    · cases textual <;> rfl

theorem asRuleId_eq_valid_iff {value : Json} {id : Option Text} :
    value.asRuleId = .valid id ↔ value.OptionalTextual ∧ id = value.askedId := by
  constructor
  · intro h
    cases value with
    | null => cases h; exact ⟨.inl rfl, rfl⟩
    | str s => cases h; exact ⟨.inr (.str s), rfl⟩
    | int n => cases h; exact ⟨.inr (.int n), rfl⟩
    | float x => cases h; exact ⟨.inr (.float x), rfl⟩
    | bool b => cases h
    | arr items => cases h
    | obj members => cases h
  · rintro ⟨rfl | textual, rfl⟩
    · rfl
    · cases textual <;> rfl

theorem asProtocol_eq_valid_iff {value : Json} {text : Text} :
    value.asProtocol = .valid text ↔ value.OptionalTextual ∧ text = value.protocolText := by
  constructor
  · intro h
    cases value with
    | null => cases h; exact ⟨.inl rfl, rfl⟩
    | str s => cases h; exact ⟨.inr (.str s), rfl⟩
    | int n => cases h; exact ⟨.inr (.int n), rfl⟩
    | float x => cases h; exact ⟨.inr (.float x), rfl⟩
    | bool b => cases h
    | arr items => cases h
    | obj members => cases h
  · rintro ⟨rfl | textual, rfl⟩
    · rfl
    · cases textual <;> rfl

end Json

end GatewayNat
