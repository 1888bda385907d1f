/-!
# Powers

The powers of the two bases in which numbers are written.
-/

namespace RecordSchema

/-- The power of two with this exponent. -/
def powerOfTwo (exponent : Nat) : Nat :=
  Nat.pow 2 exponent

/-- The power of ten with this exponent. -/
def powerOfTen (exponent : Nat) : Nat :=
  Nat.pow 10 exponent

end RecordSchema
