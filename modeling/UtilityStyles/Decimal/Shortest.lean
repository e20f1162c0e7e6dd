/-!
# Shortest decimal form of a binary float

Widths and breakpoint bounds are doubles, and they are written back in decimal. The decimal
chosen is the one with the fewest significant digits that still reads back as the same double;
of two such decimals with that many digits, the nearer one is taken.

A finite double is `m · 2 ^ e`. The doubles that read back as it form an interval around it,
bounded by the midpoints to its neighbours, and the ends belong to it exactly when `m` is even
(reading rounds a tie to the even mantissa). For `n = 1, 2, …` the value's two neighbours on
the grid of `n`-digit decimals are tested against that interval in exact `Nat` arithmetic; if a
grid point lies in the interval, one of the two neighbours does, so the first `n` with a hit is
the least digit count.

## Main definitions

* `Binary` : a non-negative finite double as mantissa and binary exponent.
* `Binary.shortest` : the digits and decimal exponent of the shortest decimal.
* `Digits` : a decimal given by its significant digits and the position of its point.
* `Digits.fixedText`, `Digits.scientificText` : positional and exponent notation.
* `fixedText`, `generalText` : the text of a double, positional or whichever is shorter.
-/

namespace UtilityStyles.Decimal

/-- A non-negative finite double `mantissa · 2 ^ exponent`. `boundary` marks a normal double
whose mantissa is the least of its binade, whose lower neighbour is half as far as the upper. -/
structure Binary where
  mantissa : Nat
  exponent : Int
  boundary : Bool
  deriving Repr

/-- The magnitude of a double, read off its bits. -/
def Binary.ofFloat (x : Float) : Binary :=
  let bits := x.toBits.toNat
  let frac : Nat := bits % Nat.pow 2 52
  let biased : Nat := (bits / Nat.pow 2 52) % Nat.pow 2 11
  if biased = 0 then ⟨frac, -1074, false⟩
  else ⟨frac + Nat.pow 2 52, (biased : Int) - 1075, frac = 0 ∧ biased > 1⟩

/-- Whether the sign bit of a double is set (also for `-0.0`). -/
def signBit (x : Float) : Bool :=
  x.toBits.toNat ≥ Nat.pow 2 63

/-- Whether a double is infinite or not a number. -/
def isSpecial (x : Float) : Bool :=
  (x.toBits.toNat / Nat.pow 2 52) % Nat.pow 2 11 = Nat.pow 2 11 - 1

/-- The number of decimal digits of a positive number (`1` for `0`). -/
def digitCount (n : Nat) : Nat :=
  (Nat.toDigits 10 n).length

/-- The decimal exponent `E` with `10 ^ E ≤ a / b < 10 ^ (E + 1)`, for positive `a` and `b`. -/
def decimalExponent (a b : Nat) : Int :=
  let guess : Int := (digitCount a : Int) - digitCount b
  -- `a / b ≥ 10 ^ guess`, compared without fractions
  let atLeast :=
    if guess ≥ 0 then a ≥ b * Nat.pow 10 guess.toNat else a * Nat.pow 10 (-guess).toNat ≥ b
  if atLeast then guess else guess - 1

/-- Whether the decimal `q · 10 ^ k` reads back as the double `v`: it lies within half a gap
of `v`, the ends counting only for an even mantissa. -/
def Binary.readsBack (v : Binary) (q : Nat) (k : Int) : Bool :=
  let e2 := v.exponent
  -- everything is scaled by `2 ^ (max (-e2) 0 + 2) · 10 ^ max (-k) 0`
  let pow2 := Nat.pow 2 (-e2).toNat
  let up2 := Nat.pow 2 e2.toNat
  let pow10 := Nat.pow 10 (-k).toNat
  let scaledV := v.mantissa * up2 * 4 * pow10
  let scaledD := q * Nat.pow 10 k.toNat * pow2 * 4
  let halfUp := 2 * up2 * pow10
  let halfLow := if v.boundary then up2 * pow10 else halfUp
  let even := v.mantissa % 2 = 0
  if scaledD ≥ scaledV then
    let d := scaledD - scaledV
    d < halfUp || (d == halfUp && even)
  else
    let d := scaledV - scaledD
    d < halfLow || (d == halfLow && even)

/-- The `n`-digit decimal nearest to `v` that reads back, as `(q, k)` for `q · 10 ^ k`. -/
def Binary.nearestWith (v : Binary) (n : Nat) : Option (Nat × Int) :=
  let num := v.mantissa * Nat.pow 2 v.exponent.toNat
  let den := Nat.pow 2 (-v.exponent).toNat
  let k := decimalExponent num den - n + 1
  let q := num * Nat.pow 10 (-k).toNat / (den * Nat.pow 10 k.toNat)
  let lowOk := v.readsBack q k
  let highOk := v.readsBack (q + 1) k
  if lowOk && highOk then
    -- distances of the two neighbours, over the denominator `den · 10 ^ k`
    let below := num * Nat.pow 10 (-k).toNat - q * den * Nat.pow 10 k.toNat
    let above := (q + 1) * den * Nat.pow 10 k.toNat - num * Nat.pow 10 (-k).toNat
    if below < above || (below == above && q % 2 = 0) then some (q, k) else some (q + 1, k)
  else if lowOk then some (q, k)
  else if highOk then some (q + 1, k)
  else none

/-- The first digit count from `n` up to `17` at which some decimal reads back. -/
def Binary.searchFrom (v : Binary) (n : Nat) : Nat → Nat × Int
  | 0 => (0, 0)
  | fuel + 1 =>
    match v.nearestWith n with
    | some r => r
    | none => v.searchFrom (n + 1) fuel

/-- Drops the trailing zero digits of `q · 10 ^ k`, raising `k`. -/
def stripZeros : Nat → Int → Nat → Nat × Int
  | q, k, 0 => (q, k)
  | q, k, fuel + 1 => if q ≠ 0 ∧ q % 10 = 0 then stripZeros (q / 10) (k + 1) fuel else (q, k)

/-- The shortest decimal `q · 10 ^ k` that reads back as `v`, with no trailing zero digit. -/
def Binary.shortest (v : Binary) : Nat × Int :=
  if v.mantissa = 0 then (0, 0)
  else
    let (q, k) := v.searchFrom 1 17
    stripZeros q k 20

/-- A decimal `0.d₁d₂…dₙ · 10 ^ point`: its significant digits and the position of its point.
Zero has the digits `[0]` and point `1`. -/
structure Digits where
  negative : Bool
  digits : List Char
  point : Int
  deriving Repr, BEq

/-- The shortest decimal of a finite double. -/
def Digits.ofFloat (x : Float) : Digits :=
  let (q, k) := (Binary.ofFloat x).shortest
  let ds := Nat.toDigits 10 q
  { negative := signBit x, digits := ds, point := if q = 0 then 1 else k + ds.length }

/-- `n` zero characters. -/
def zeros (n : Nat) : List Char :=
  List.replicate n '0'

/-- Positional notation with all significant digits: `1024`, `639.9`, `0.0001`. -/
def Digits.fixedText (d : Digits) : String :=
  let sign := if d.negative then "-" else ""
  let n := d.digits.length
  let body :=
    if d.point ≤ 0 then "0." ++ String.ofList (zeros (-d.point).toNat ++ d.digits)
    else if d.point.toNat ≥ n then String.ofList (d.digits ++ zeros (d.point.toNat - n))
    else
      String.ofList (d.digits.take d.point.toNat) ++ "." ++
        String.ofList (d.digits.drop d.point.toNat)
  sign ++ body

/-- Exponent notation with all significant digits and an exponent of at least two digits:
`1e+21`, `5e-324`, `1.5e-07`. -/
def Digits.scientificText (d : Digits) : String :=
  let sign := if d.negative then "-" else ""
  let first := String.ofList (d.digits.take 1)
  let rest := d.digits.drop 1
  let mant := if rest.isEmpty then first else first ++ "." ++ String.ofList rest
  let exp := d.point - 1
  let expDigits := Nat.toDigits 10 exp.natAbs
  let expText := String.ofList (if expDigits.length < 2 then '0' :: expDigits else expDigits)
  sign ++ mant ++ "e" ++ (if exp < 0 then "-" else "+") ++ expText

/-- Positional notation of a double with the fewest digits that read back; infinities and
not-a-number are `+Inf`, `-Inf` and `NaN`. -/
def fixedText (x : Float) : String :=
  if isSpecial x then (if x.isNaN then "NaN" else if x > 0 then "+Inf" else "-Inf")
  else (Digits.ofFloat x).fixedText

/-- General notation of a double with the fewest digits that read back: exponent notation when
the decimal exponent is below `-4` or at least `6`, positional otherwise (`100000`, `1e+06`,
`0.0001`, `1e-05`); infinities and not-a-number as in `fixedText`. -/
def generalText (x : Float) : String :=
  if isSpecial x then (if x.isNaN then "NaN" else if x > 0 then "+Inf" else "-Inf")
  else
    let d := Digits.ofFloat x
    let exp := d.point - 1
    if d.digits != ['0'] && (exp < -4 || exp ≥ 6) then d.scientificText else d.fixedText

end UtilityStyles.Decimal
