import GatewayNat.Json.Basic

/-!
# Checking values

A check of a value gives a typed result or every issue that it found, in the
order of the fields.  An issue says what is wrong, where in the value, and with
which part of it.

`Checked` is an applicative functor and not a monad: `f <$> a <*> b` runs both
checks and joins their issues, the left ones first.

A field is checked with `required` or `optional`.  Names that no field asks for
are ignored.
-/

namespace GatewayNat

/-- A step into a value. -/
inductive Step where
  | name (name : String)
  | item (index : Nat)
  deriving DecidableEq, Repr

/-- What is wrong with a value. -/
inductive Problem where
  /-- A required field is absent. -/
  | missing
  /-- The value should be an object or a record of the named model. -/
  | notRecord (model : String)
  /-- The value of a message body should be an object. -/
  | notFields
  | notText
  /-- The value should be a text without lone surrogates. -/
  | loneSurrogate
  | notObject
  | notList
  | notInteger
  | integerText
  | integerFraction
  | integerSize
  | notFinite
  | notBoolean
  | booleanText
  /-- The value should be the one given text. -/
  | notLiteral (expected : String)
  /-- The value was refused for a reason of its own. -/
  | refused (reason : String)
  deriving DecidableEq, Repr

/-- The code of a problem. -/
def Problem.code : Problem → String
  | .missing => "missing"
  | .notRecord _ => "model_type"
  | .notFields => "model_attributes_type"
  | .notText => "string_type"
  | .loneSurrogate => "string_unicode"
  | .notObject => "dict_type"
  | .notList => "list_type"
  | .notInteger => "int_type"
  | .integerText => "int_parsing"
  | .integerFraction => "int_from_float"
  | .integerSize => "int_parsing_size"
  | .notFinite => "finite_number"
  | .notBoolean => "bool_type"
  | .booleanText => "bool_parsing"
  | .notLiteral _ => "literal_error"
  | .refused _ => "value_error"

/-- The wording of a problem. -/
def Problem.message : Problem → String
  | .missing => "Field required"
  | .notRecord model => "Input should be a valid dictionary or instance of " ++ model
  | .notFields => "Input should be a valid dictionary or object to extract fields from"
  | .notText => "Input should be a valid string"
  | .loneSurrogate =>
    "Input should be a valid string, unable to parse raw data as a unicode string"
  | .notObject => "Input should be a valid dictionary"
  | .notList => "Input should be a valid list"
  | .notInteger => "Input should be a valid integer"
  | .integerText => "Input should be a valid integer, unable to parse string as an integer"
  | .integerFraction => "Input should be a valid integer, got a number with a fractional part"
  | .integerSize => "Unable to parse input string as an integer, exceeded maximum size"
  | .notFinite => "Input should be a finite number"
  | .notBoolean => "Input should be a valid boolean"
  | .booleanText => "Input should be a valid boolean, unable to interpret input"
  | .notLiteral expected => "Input should be '" ++ expected ++ "'"
  | .refused reason => "Value error, " ++ reason

/-- One problem in its place. -/
structure Issue where
  /-- What is wrong. -/
  problem : Problem
  /-- The way into the checked value. -/
  path : List Step
  /-- The part that is wrong, or the record that lacks a field. -/
  input : Json
  deriving DecidableEq, Repr

/-- The issue seen from one step further out. -/
def Issue.under (step : Step) (issue : Issue) : Issue := { issue with path := step :: issue.path }

/-- The outcome of a check: a result, or the issues found, of which there is at least one. -/
inductive Checked (α : Type) where
  | valid (a : α)
  | invalid (first : Issue) (more : List Issue)
  deriving Repr, DecidableEq

namespace Checked

variable {α β : Type}

/-- A function applied to the result. -/
def map (f : α → β) : Checked α → Checked β
  | valid a => valid (f a)
  | invalid first more => invalid first more

/-- A checked function applied to a checked argument.  The issues of both are kept. -/
def seq : Checked (α → β) → Checked α → Checked β
  | valid f, valid a => valid (f a)
  | valid _, invalid first more => invalid first more
  | invalid first more, valid _ => invalid first more
  | invalid first more, invalid next rest => invalid first (more ++ next :: rest)

instance : Applicative Checked where
  pure := valid
  seq f a := f.seq (a ())
  map f a := a.map f

/-- A single problem with the whole value. -/
def fail (problem : Problem) (input : Json) : Checked α := invalid ⟨problem, [], input⟩ []

/-- The check seen from one step further out. -/
def under (step : Step) : Checked α → Checked α
  | valid a => valid a
  | invalid first more => invalid (first.under step) (more.map (Issue.under step))

/-- The checks of a list's items, numbered from an index on. -/
def items (check : Json → Checked α) : Nat → List Json → Checked (List α)
  | _, [] => valid []
  | index, value :: rest =>
    List.cons <$> (check value).under (.item index) <*> items check (index + 1) rest

/-- The issues found. -/
def issues : Checked α → List Issue
  | valid _ => []
  | invalid first more => first :: more

@[simp] theorem map_valid (f : α → β) (a : α) : f <$> valid a = valid (f a) := rfl

@[simp] theorem map_invalid (f : α → β) (first : Issue) (more : List Issue) :
    f <$> (invalid first more : Checked α) = invalid first more := rfl

@[simp] theorem seq_valid_valid (f : α → β) (a : α) : valid f <*> valid a = valid (f a) := rfl

@[simp] theorem seq_valid_invalid (f : α → β) (first : Issue) (more : List Issue) :
    valid f <*> (invalid first more : Checked α) = invalid first more := rfl

@[simp] theorem seq_invalid_valid (first : Issue) (more : List Issue) (a : α) :
    (invalid first more : Checked (α → β)) <*> valid a = invalid first more := rfl

@[simp] theorem seq_invalid_invalid (first next : Issue) (more rest : List Issue) :
    (invalid first more : Checked (α → β)) <*> (invalid next rest : Checked α) =
      invalid first (more ++ next :: rest) := rfl

end Checked

namespace Members

variable {α : Type}

/-- A field that must be there. -/
def required (members : Members) (name : String) (check : Json → Checked α) : Checked α :=
  match members.find? name with
  | some value => (check value).under (.name name)
  | none => (Checked.fail .missing (.obj members)).under (.name name)

/-- A field with a result for its absence. -/
def optional (members : Members) (name : String) (default : α) (check : Json → Checked α) :
    Checked α :=
  match members.find? name with
  | some value => (check value).under (.name name)
  | none => .valid default

end Members

end GatewayNat
