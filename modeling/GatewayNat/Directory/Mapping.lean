import GatewayNat.Directory.Static

/-!
# Static directories from values

A static directory can be made from any value that is an object of objects.  An
interface in it is an object, or a value that can be read as pairs of a label
and a value.

* A list is read item by item and a text character by character.
* An item is a pair if it is a list of two, a text of two characters or an object
  of two names.
* The label of a pair is no list and no object.

The first fault in the order of the value is the one that counts.
-/

namespace GatewayNat

/-- Why a value is no interface. -/
inductive InterfaceFault where
  /-- The value is of a kind that has no items. -/
  | notItems (kind : String)
  /-- The item at an index has no parts. -/
  | notPair (index : Nat)
  /-- The item at an index has not two parts. -/
  | partCount (index count : Nat)
  /-- The label of a pair is of a kind that is no label. -/
  | notLabel (kind : String)
  deriving DecidableEq, Repr

/-- The outage of a run that gets no interface from a value. -/
def InterfaceFault.outage : InterfaceFault → Outage
  | .notItems kind => ⟨.type, "'" ++ kind ++ "' object is not iterable"⟩
  | .notPair index =>
    ⟨.type, "cannot convert dictionary update sequence element #" ++ toString index ++
      " to a sequence"⟩
  | .partCount index count =>
    ⟨.value, "dictionary update sequence element #" ++ toString index ++ " has length " ++
      toString count ++ "; 2 is required"⟩
  | .notLabel kind => ⟨.type, "unhashable type: '" ++ kind ++ "'"⟩

/-- Why a value is no static directory. -/
inductive MappingFault where
  /-- A value of a kind stands in the place of an object. -/
  | notObject (kind : String)
  | interface (fault : InterfaceFault)
  deriving DecidableEq, Repr

/-- The wording of a fault of a mapping. -/
def MappingFault.message : MappingFault → String
  | .notObject kind => "'" ++ kind ++ "' object has no attribute 'items'"
  | .interface fault => fault.outage.message

namespace Json

/-- The label that a value is. -/
def asLabel : Json → Except InterfaceFault Label
  | .str s => .ok (.text s)
  | .null => .ok .null
  | .bool b => .ok (.bool b)
  | .int n => .ok (.int n)
  | .float x => .ok (.float x)
  | other => .error (.notLabel other.kindName)

/-- The pair that the item at an index stands for. -/
def pairAt (index : Nat) (item : Json) : Except InterfaceFault (Label × Json) :=
  match item.parts? with
  | none => .error (.notPair index)
  | some [label, value] => (asLabel label).map fun label => (label, value)
  | some parts => .error (.partCount index parts.length)

/-- The pairs of items from an index on, entered into a descriptor one by one. -/
def enterPairs (known : Descriptor) : (index : Nat) → List Json → Except InterfaceFault Descriptor
  | _, [] => .ok known
  | index, item :: rest =>
    match pairAt index item with
    | .error fault => .error fault
    | .ok (label, value) => enterPairs (known.set label value) (index + 1) rest

/-- The interface that a value stands for. -/
def asInterface : Json → Except InterfaceFault Descriptor
  | .obj members => .ok (.ofMembers members)
  | other =>
    match other.parts? with
    | none => .error (.notItems other.kindName)
    | some items => enterPairs [] 0 items

end Json

namespace StaticDirectory

/-- The entries of an object, each read from its value in turn. -/
def readEntries {α : Type} (read : Json → Except MappingFault α) :
    Members → Except MappingFault (Table Text α)
  | [] => .ok []
  | (name, value) :: rest =>
    match read value with
    | .error fault => .error fault
    | .ok entry => (readEntries read rest).map ((name, entry) :: ·)

/-- The table that an object stands for. -/
def readTable {α : Type} (read : Json → Except MappingFault α) (value : Json) :
    Except MappingFault (Table Text α) :=
  match value with
  | .obj members => readEntries read members
  | other => .error (.notObject other.kindName)

/-- The static directory that a value stands for. -/
def ofMapping (value : Json) : Except MappingFault StaticDirectory :=
  (readTable (readTable fun entry => entry.asInterface.mapError .interface) value).map
    StaticDirectory.mk

end StaticDirectory

end GatewayNat
