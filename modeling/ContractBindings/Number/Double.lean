/-!
# Numbers of double precision

A `Double` is a number in the binary format of 64 bits: a sign, an exponent of eleven bits and
a fraction of 52.  `Double.ofDecimal` is the double nearest to a decimal, where of two equally
near ones that with the even last bit is taken.

The magnitude of a finite double is a `Binary`, a whole number times a power of two.  `same`
and `isInt` compare exactly, where the two zeros count as one number.
-/

namespace ContractBindings

/-- `base` to the power of an exponent, one when the exponent is negative. -/
def power (base : Nat) (exponent : Int) : Nat :=
  Nat.pow base exponent.toNat

/-- The number `mantissa * 2 ^ exponent`, as the magnitude of a double.  It is `narrow` when
the next smaller double is half as far away as the next larger one. -/
structure Binary where
  mantissa : Nat
  exponent : Int
  narrow : Bool
deriving DecidableEq, Repr

/-- A number of double precision, given by its bits. -/
structure Double where
  bits : UInt64
deriving DecidableEq, Inhabited

namespace Double

/-- The bit of the sign. -/
def signBit : UInt64 := 0x8000000000000000

/-- The double nearest to `digits * 10 ^ exponent`, or to its negative. -/
def ofDecimal (negative : Bool) (digits : Nat) (exponent : Int) : Double :=
  let magnitude := Float.ofScientific digits (decide (exponent < 0)) exponent.natAbs
  ⟨if negative then magnitude.toBits ||| signBit else magnitude.toBits⟩

/-- An infinite magnitude. -/
def infinity (negative : Bool) : Double :=
  ⟨if negative then 0xFFF0000000000000 else 0x7FF0000000000000⟩

/-- What is no number. -/
def undefined : Double :=
  ⟨0x7FF8000000000000⟩

/-- Whether the sign is negative, which it may also be for zero. -/
def isNegative (x : Double) : Bool :=
  x.bits &&& signBit ≠ 0

/-- The exponent as it is stored. -/
def storedExponent (x : Double) : Nat :=
  ((x.bits >>> 52) &&& 0x7FF).toNat

/-- The bits of the fraction. -/
def fraction (x : Double) : Nat :=
  (x.bits &&& 0xFFFFFFFFFFFFF).toNat

/-- Whether a double is a number: the largest exponent is kept for infinity and for what is
no number at all. -/
def isFinite (x : Double) : Bool :=
  x.storedExponent ≠ 0x7FF

/-- Whether a double is zero, of either sign. -/
def isZero (x : Double) : Bool :=
  x.storedExponent = 0 ∧ x.fraction = 0

/-- The magnitude of a finite double. -/
def magnitude (x : Double) : Binary :=
  if x.storedExponent = 0 then
    ⟨x.fraction, -1074, false⟩
  else
    ⟨0x10000000000000 + x.fraction, x.storedExponent - 1075,
      decide (x.fraction = 0 ∧ x.storedExponent ≠ 1)⟩

/-- Whether two doubles are one number. -/
def same (x y : Double) : Bool :=
  x == y || (x.isZero && y.isZero)

/-- Whether a double is the given whole number. -/
def isInt (x : Double) (n : Int) : Bool :=
  x.isFinite && (n == 0 || x.isNegative == decide (n < 0))
    && x.magnitude.mantissa * power 2 x.magnitude.exponent
      == n.natAbs * power 2 (-x.magnitude.exponent)

end Double

end ContractBindings
