import ContractBindings.Number.Notation

/-!
# Numbers

A number as it is handed in: a whole number of any size, or a number of double precision.
Two numbers are the `same` when they have one value, however they are held.
-/

namespace ContractBindings

/-- A whole number or one of double precision. -/
inductive Number where
  | whole (value : Int)
  | decimal (value : Double)
deriving DecidableEq, Inhabited

namespace Number

/-- Whether two numbers have one value. -/
def same : Number → Number → Bool
  | whole m, whole n => m == n
  | whole n, decimal x => x.isInt n
  | decimal x, whole n => x.isInt n
  | decimal x, decimal y => x.same y

/-- Whether a number is zero. -/
def isZero : Number → Bool
  | whole value => value == 0
  | decimal value => value.isZero

/-- The written form of a number. -/
def text : Number → String
  | whole value => toString value
  | decimal value => value.text

end Number

end ContractBindings
