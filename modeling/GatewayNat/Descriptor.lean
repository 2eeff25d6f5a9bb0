import GatewayNat.Json.Shown

/-!
# Interface descriptors

A descriptor says what the directory knows of an interface: values under labels,
in the order in which the labels first came.

A label is a text, null, a truth value or a number.  Two labels are the same in
these cases only.

* They are the same text, or both are null.
* They are the same number.  A truth value is the number 0 or 1, and the kind of
  a number does not matter.  What is no number differs from itself.

The first label of several that are the same stays, and the last value does.

A label has a text in an object, and a report has its own texts for the truth
values and for numbers that are not finite.  An object has a member for every
label, even for two with one text.
-/

namespace GatewayNat

/-- What a value of a descriptor is found by. -/
inductive Label where
  | text (s : Text)
  | null
  | bool (b : Bool)
  | int (n : Int)
  | float (x : Binary64)
  deriving DecidableEq, Repr

namespace Label

/-- The integer that a label is, if it is one. -/
def toInt? : Label → Option Int
  | .bool b => some (if b then 1 else 0)
  | .int n => some n
  | .float x => x.toInt?
  | _ => none

/-- Whether a label stands for something, and not for what is no number. -/
def isDefined : Label → Bool
  | .float x => decide (x.value ≠ .nan)
  | _ => true

/-- Whether two labels are the same. -/
def same (a b : Label) : Bool :=
  match a.toInt?, b.toInt? with
  | some m, some n => m = n
  | none, none => a = b && a.isDefined
  | _, _ => false

/-- The text of a label. -/
def plain : Label → Text
  | .text s => s
  | .null => Json.null.shown
  | .bool b => (Json.bool b).shown
  | .int n => (Json.int n).shown
  | .float x => (Json.float x).shown

/-- The text of a label in a report. -/
def reported : Label → Text
  | .bool b => if b then "true" else "false"
  | .float x => if x.isFinite then (Json.float x).shown else Json.null.shown
  | other => other.plain

end Label

/-- An interface as the directory describes it. -/
abbrev Descriptor := List (Label × Json)

namespace Descriptor

/-- Puts a value in the place of a label, or at the end if no label is the same. -/
def set (label : Label) (value : Json) : Descriptor → Descriptor
  | [] => [(label, value)]
  | (first, old) :: rest =>
    if first.same label then (first, value) :: rest else (first, old) :: set label value rest

/-- The descriptor of an object. -/
def ofMembers (members : Members) : Descriptor :=
  members.map fun entry => (.text entry.1, entry.2)

/-- The members of a descriptor whose labels have the given texts. -/
def toMembers (textOf : Label → Text) (d : Descriptor) : Members :=
  d.map fun entry => (textOf entry.1, entry.2)

/-- The descriptor as a value. -/
def toJson (d : Descriptor) : Json := .obj (d.toMembers Label.plain)

@[simp] theorem toMembers_ofMembers (members : Members) :
    toMembers Label.plain (ofMembers members) = members := by
  simp [toMembers, ofMembers, Label.plain, Function.comp_def]

end Descriptor

end GatewayNat
