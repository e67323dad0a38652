import ContractBindings.Number.Double

/-!
# Shortest decimals

`Binary.shortest x` is the decimal with the fewest digits that reads back as `x`, and of those
the one nearest to `x`.  A decimal reads back as `x` when it lies between the points halfway to
the two neighbours of `x`; these points themselves are included when the mantissa of `x` is
even.

The decimals with a given exponent form a grid, and if any of them reads back then so does one
of the two between which `x` lies.  Grids are tried from a coarse one, whose step is larger
than `x`, to ever finer ones.  The last of them holds `x` itself.
-/

namespace ContractBindings

/-- The number `digits * 10 ^ exponent`. -/
structure Decimal where
  digits : Nat
  exponent : Int
deriving DecidableEq, Repr

/-- How a decimal compares with `n * 2 ^ e`. -/
def Decimal.order (d : Decimal) (n : Nat) (e : Int) : Ordering :=
  compare (d.digits * power 10 d.exponent * power 2 (-e)) (n * power 2 e * power 10 (-d.exponent))

namespace Binary

/-- The whole part of the quotient of a number by `10 ^ e`. -/
def quotient (x : Binary) (e : Int) : Nat :=
  (x.mantissa * power 2 x.exponent * power 10 (-e)) / (power 2 (-x.exponent) * power 10 e)

/-- Whether a decimal reads back as the number. -/
def reads (x : Binary) (d : Decimal) : Bool :=
  let lower := d.order (4 * x.mantissa - if x.narrow then 1 else 2) (x.exponent - 2)
  let upper := d.order (4 * x.mantissa + 2) (x.exponent - 2)
  let even := x.mantissa % 2 == 0
  (lower == .gt || (even && lower == .eq)) && (upper == .lt || (even && upper == .eq))

/-- The nearer of the two decimals with exponent `e` between which the number lies.  Halfway
it is the one with an even last digit. -/
def nearest (x : Binary) (e : Int) : Decimal :=
  let below := x.quotient e
  match (⟨2 * below + 1, e⟩ : Decimal).order (2 * x.mantissa) x.exponent with
  | .lt => ⟨below + 1, e⟩
  | .gt => ⟨below, e⟩
  | .eq => ⟨if below % 2 = 0 then below else below + 1, e⟩

/-- The nearest decimal with exponent `e` that reads back, if there is one. -/
def onGrid? (x : Binary) (e : Int) : Option Decimal :=
  [x.nearest e, ⟨x.quotient e, e⟩, ⟨x.quotient e + 1, e⟩].find? x.reads

/-- An exponent whose power of ten is larger than the number. -/
def coarsest (x : Binary) : Int :=
  (toString (x.quotient 0)).length

/-- The exponent of the grid that holds the number itself. -/
def finest (x : Binary) : Int :=
  min x.exponent 0

/-- The number itself. -/
def exact (x : Binary) : Decimal :=
  ⟨x.mantissa * power 2 x.exponent * power 5 (-x.exponent), x.finest⟩

/-- The shortest decimal that reads back as the number. -/
def shortest (x : Binary) : Decimal :=
  ((List.range (x.coarsest - x.finest).toNat).findSome?
    fun (n : Nat) => x.onGrid? (x.coarsest - n)).getD x.exact

end Binary

end ContractBindings
