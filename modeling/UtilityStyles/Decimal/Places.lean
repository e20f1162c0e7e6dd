import UtilityStyles.Decimal.Shortest
/-!
# Decimals with a fixed number of places

Shares and percentages are written with a fixed number of decimal places. The written number is
the double's exact value rounded to that many places; an exact tie goes to the even last digit.

A finite double is `m · 2 ^ e`, so the value times `10 ^ places` is the fraction
`m · 10 ^ places / 2 ^ (-e)` (or a whole number when `e ≥ 0`), rounded by `roundHalfEven`.

## Main definitions

* `roundHalfEven` : a quotient of natural numbers rounded to the nearest, a tie to even.
* `placesText` : a double written with a fixed number of places.
-/

namespace UtilityStyles.Decimal

/-- `a / b` rounded to the nearest whole number, a tie to the even one. -/
def roundHalfEven (a b : Nat) : Nat :=
  let q := a / b
  let r := a % b
  if 2 * r > b then q + 1
  else if 2 * r = b then q + q % 2
  else q

/-- The magnitude of a double times `10 ^ places`, rounded to a whole number. -/
def Binary.scaledRound (v : Binary) (places : Nat) : Nat :=
  let num := v.mantissa * Nat.pow 10 places
  if v.exponent ≥ 0 then num * Nat.pow 2 v.exponent.toNat
  else roundHalfEven num (Nat.pow 2 (-v.exponent).toNat)

/-- A double written positionally with `places` digits after the point (none when `places` is
zero); a set sign bit writes a leading `-`. -/
def placesText (x : Float) (places : Nat) : String :=
  let n := (Binary.ofFloat x).scaledRound places
  let ds := Nat.toDigits 10 n
  let padded := zeros (places + 1 - ds.length) ++ ds
  let whole := padded.take (padded.length - places)
  let frac := padded.drop (padded.length - places)
  let body := if places = 0 then String.ofList whole
    else String.ofList whole ++ "." ++ String.ofList frac
  (if signBit x then "-" else "") ++ body

end UtilityStyles.Decimal
