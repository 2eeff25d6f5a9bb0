import GatewayNat.Decimal.Shortest
import GatewayNat.Table
import GatewayNat.Text.Basic

/-!
# JSON values

A value is null, a truth value, a number, a text, a list or a table of values.

* A number without fraction and exponent is an integer of any size.  Any other
  number is a binary64, and the two kinds differ even at the same magnitude.
* The binary64 infinities and the value that is no number are values too.
* The members of an object keep their order.

`Json.shown` is the form of a value in messages.
-/

namespace GatewayNat

/-- A JSON value. -/
inductive Json where
  | null
  | bool (b : Bool)
  | int (n : Int)
  | float (x : Binary64)
  | str (s : Text)
  | arr (items : List Json)
  | obj (members : List (Text × Json))
  deriving Repr, Inhabited

/-- The members of an object. -/
abbrev Members := Table Text Json

namespace Json

mutual

/-- Equality of values is decided member by member. -/
def decEq : (a b : Json) → Decidable (a = b)
  | .null, b => match b with
    | .null => isTrue rfl
    | .bool _ | .int _ | .float _ | .str _ | .arr _ | .obj _ => isFalse nofun
  | .bool x, b => match b with
    | .bool y => if h : x = y then isTrue (h ▸ rfl) else isFalse fun e => h (by cases e; rfl)
    | .null | .int _ | .float _ | .str _ | .arr _ | .obj _ => isFalse nofun
  | .int x, b => match b with
    | .int y => if h : x = y then isTrue (h ▸ rfl) else isFalse fun e => h (by cases e; rfl)
    | .null | .bool _ | .float _ | .str _ | .arr _ | .obj _ => isFalse nofun
  | .float x, b => match b with
    | .float y => if h : x = y then isTrue (h ▸ rfl) else isFalse fun e => h (by cases e; rfl)
    | .null | .bool _ | .int _ | .str _ | .arr _ | .obj _ => isFalse nofun
  | .str x, b => match b with
    | .str y => if h : x = y then isTrue (h ▸ rfl) else isFalse fun e => h (by cases e; rfl)
    | .null | .bool _ | .int _ | .float _ | .arr _ | .obj _ => isFalse nofun
  | .arr x, b => match b with
    | .arr y => match decEqItems x y with
      | isTrue h => isTrue (h ▸ rfl)
      | isFalse h => isFalse fun e => h (by cases e; rfl)
    | .null | .bool _ | .int _ | .float _ | .str _ | .obj _ => isFalse nofun
  | .obj x, b => match b with
    | .obj y => match decEqMembers x y with
      | isTrue h => isTrue (h ▸ rfl)
      | isFalse h => isFalse fun e => h (by cases e; rfl)
    | .null | .bool _ | .int _ | .float _ | .str _ | .arr _ => isFalse nofun

/-- Equality of lists of values. -/
def decEqItems : (a b : List Json) → Decidable (a = b)
  | [], b => match b with
    | [] => isTrue rfl
    | _ :: _ => isFalse nofun
  | x :: xs, b => match b with
    | [] => isFalse nofun
    | y :: ys => match decEq x y, decEqItems xs ys with
      | isTrue h, isTrue k => isTrue (h ▸ k ▸ rfl)
      | isFalse h, _ => isFalse fun e => h (by cases e; rfl)
      | _, isFalse k => isFalse fun e => k (by cases e; rfl)

/-- Equality of lists of members. -/
def decEqMembers : (a b : List (Text × Json)) → Decidable (a = b)
  | [], b => match b with
    | [] => isTrue rfl
    | _ :: _ => isFalse nofun
  | (m, x) :: xs, b => match b with
    | [] => isFalse nofun
    | (n, y) :: ys =>
      if g : m = n then
        match decEq x y, decEqMembers xs ys with
        | isTrue h, isTrue k => isTrue (g ▸ h ▸ k ▸ rfl)
        | isFalse h, _ => isFalse fun e => h (by cases e; rfl)
        | _, isFalse k => isFalse fun e => k (by cases e; rfl)
      else isFalse fun e => g (by cases e; rfl)

end

instance : DecidableEq Json := decEq

/-- The members of an object. -/
def members? : Json → Option Members
  | .obj members => some members
  | _ => none

/-- The text that a value is. -/
def text? : Json → Option Text
  | .str s => some s
  | _ => none

/-- The parts of a value: items, names or code points. -/
def parts? : Json → Option (List Json)
  | .arr items => some items
  | .obj members => some (members.map fun entry => .str entry.1)
  | .str s => some (s.points.map fun point => .str (.ofPoints [point]))
  | _ => none

/-- Whether a value counts as true.  Null, false, zero and what is empty do not. -/
def isTrue : Json → Bool
  | .null => false
  | .bool b => b
  | .int n => n ≠ 0
  | .float x => x.toInt? ≠ some 0
  | .str s => s ≠ ""
  | .arr items => !items.isEmpty
  | .obj members => !members.isEmpty

/-- A text, or null for its absence. -/
def ofText? : Option Text → Json
  | some s => .str s
  | none => .null

/-- An integer, or null for its absence. -/
def ofInt? : Option Int → Json
  | some n => .int n
  | none => .null

mutual

/-- Whether every number in the value is finite. -/
def allFinite : Json → Bool
  | .float x => x.isFinite
  | .arr items => allFiniteItems items
  | .obj members => allFiniteMembers members
  | _ => true

/-- Whether every number in the items is finite. -/
def allFiniteItems : List Json → Bool
  | [] => true
  | item :: rest => allFinite item && allFiniteItems rest

/-- Whether every number in the members is finite. -/
def allFiniteMembers : List (Text × Json) → Bool
  | [] => true
  | (_, value) :: rest => allFinite value && allFiniteMembers rest

end

mutual

/-- The value with null in the place of every number that is not finite. -/
def nullNonFinite : Json → Json
  | .float x => if x.isFinite then .float x else .null
  | .arr items => .arr (nullNonFiniteItems items)
  | .obj members => .obj (nullNonFiniteMembers members)
  | other => other

/-- The items, each without numbers that are not finite. -/
def nullNonFiniteItems : List Json → List Json
  | [] => []
  | item :: rest => nullNonFinite item :: nullNonFiniteItems rest

/-- The members, each without numbers that are not finite. -/
def nullNonFiniteMembers : List (Text × Json) → List (Text × Json)
  | [] => []
  | (name, value) :: rest => (name, nullNonFinite value) :: nullNonFiniteMembers rest

end

mutual

/-- The number of values that lie in each other, the value itself included. -/
def depth : Json → Nat
  | .arr items => depthItems items + 1
  | .obj members => depthMembers members + 1
  | _ => 1

/-- The greatest depth of the items. -/
def depthItems : List Json → Nat
  | [] => 0
  | item :: rest => max (depth item) (depthItems rest)

/-- The greatest depth of the members. -/
def depthMembers : List (Text × Json) → Nat
  | [] => 0
  | (_, value) :: rest => max (depth value) (depthMembers rest)

end

end Json

end GatewayNat
