import ContractBindings.Number.Shortest

/-!
# The written form of numbers

A double is written with the fewest digits that read back as it.  If its first digit stands
for a power of ten from `10 ^ (-4)` up to `10 ^ 15`, the point stands in its place and has a
digit on each side.  Otherwise it comes after the first digit, unless that is the only one,
and an exponent of at least two digits follows with its sign.
-/

namespace ContractBindings

namespace Decimal

/-- A row of zeros. -/
def zeros (count : Nat) : List Char :=
  List.replicate count '0'

/-- The digits with a point after the first `count`, where zeros fill up either side. -/
def positional (digits : List Char) (count : Int) : List Char :=
  let whole := digits.take count.toNat ++ zeros (count.toNat - digits.length)
  let rest := zeros (-count).toNat ++ digits.drop count.toNat
  (if whole = [] then zeros 1 else whole) ++ '.' :: if rest = [] then zeros 1 else rest

/-- An exponent with its sign, of at least two digits. -/
def exponentPart (exponent : Int) : List Char :=
  let digits := (toString exponent.natAbs).toList
  'e' :: (if exponent < 0 then '-' else '+') :: zeros (2 - digits.length) ++ digits

/-- The digits with a point after the first, unless it is the only one, and an exponent. -/
def scientific (digits : List Char) (exponent : Int) : List Char :=
  digits.take 1 ++ (if digits.length = 1 then [] else '.' :: digits.drop 1)
    ++ exponentPart exponent

/-- The written form of a decimal. -/
def text (d : Decimal) : String :=
  let digits := (toString d.digits).toList
  let count := digits.length + d.exponent
  if -4 < count ∧ count ≤ 16 then
    String.ofList (positional digits count)
  else
    String.ofList (scientific digits (count - 1))

end Decimal

namespace Double

/-- The written form of a double. -/
def text (x : Double) : String :=
  if x.isFinite then
    (if x.isNegative then "-" else "")
      ++ if x.isZero then "0.0" else x.magnitude.shortest.text
  else if x.fraction = 0 then
    if x.isNegative then "-inf" else "inf"
  else
    "nan"

end Double

example : (Double.ofDecimal true 1 (-2)).text = "-0.01" := by
  decide +kernel

example : (Double.ofDecimal false 1 (-5)).text = "1e-05" := by
  decide +kernel

example : (Double.ofDecimal false 1 23).text = "1e+23" := by
  decide +kernel

end ContractBindings
