/-!
# Id ranges

An id range is given by its first and last id.  It is empty if the last is less
than the first.
-/

namespace GatewayNat

/-- The ids from a minimum to a maximum. -/
structure IdRange where
  minimum : Int
  maximum : Int
  deriving DecidableEq, Repr

namespace IdRange

instance : Membership Int IdRange where
  mem range id := range.minimum ≤ id ∧ id ≤ range.maximum

instance (id : Int) (range : IdRange) : Decidable (id ∈ range) :=
  inferInstanceAs (Decidable (range.minimum ≤ id ∧ id ≤ range.maximum))

theorem mem_iff {id : Int} {range : IdRange} :
    id ∈ range ↔ range.minimum ≤ id ∧ id ≤ range.maximum := Iff.rfl

/-- The number of ids of a range. -/
def size (range : IdRange) : Nat := (range.maximum - range.minimum + 1).toNat

end IdRange

end GatewayNat
