import UtilityStyles.Text.Quote
/-!
# Reading numbers and truth values

Command-line flags and loosely typed settings are read as the literals of a programming
language:

* a truth value is `1`, `t`, `T`, `TRUE`, `true`, `True` or `0`, `f`, `F`, `FALSE`, `false`,
  `False`;
* an integer has an optional sign and a base prefix (`0x`, `0o`, `0b`, or a bare leading `0` for
  octal); it must fit in 64 bits;
* a floating point number has an optional sign and is `inf`, `infinity` or `nan` (any case), a
  decimal with an optional point and exponent, or a hexadecimal mantissa with a binary exponent
  `p…`. It is rounded to the nearest double; a magnitude too large for a double is a range error
  and reads as an infinity.

In numbers, underscores may separate digits, and a base prefix from a digit.

## Main definitions

* `ReadError`, `ReadError.message`.
* `readBool`, `readInt`, `readFloat`.
-/

namespace UtilityStyles.Decimal

/-- Why a literal cannot be read. -/
inductive ReadError where
  /-- The text is not a literal. -/
  | malformed
  /-- The value does not fit; `value` is what it reads as nonetheless. -/
  | range (value : Float)
  deriving Inhabited

/-- The message about a literal that cannot be read by the reader named `reader`. -/
def ReadError.message (reader input : String) : ReadError → String
  | .malformed => "strconv." ++ reader ++ ": parsing " ++ Text.quote input ++ ": invalid syntax"
  | .range _ => "strconv." ++ reader ++ ": parsing " ++ Text.quote input ++ ": value out of range"

/-- A truth value. -/
def readBool (s : String) : Option Bool :=
  if ["1", "t", "T", "TRUE", "true", "True"].contains s then some true
  else if ["0", "f", "F", "FALSE", "false", "False"].contains s then some false
  else none

/-- The lowercase form of an ASCII letter. -/
def lowerAscii (c : Char) : Char :=
  if 'A' ≤ c && c ≤ 'Z' then Char.ofNat (c.toNat + 32) else c

/-- The value of a digit in a base up to sixteen. -/
def digitValue (c : Char) : Option Nat :=
  let l := lowerAscii c
  if '0' ≤ c && c ≤ '9' then some (c.toNat - 48)
  else if 'a' ≤ l && l ≤ 'f' then some (l.toNat - 87)
  else none

/-- Whether the underscores of a literal stand only between digits, or between a base prefix
and a digit. -/
def underscoresOk (s : List Char) : Bool :=
  let body := match s with
    | '+' :: r | '-' :: r => r
    | r => r
  let (start, hex, rest) : Char × Bool × List Char :=
    match body with
    | '0' :: b :: r =>
      let l := lowerAscii b
      if l == 'b' || l == 'o' || l == 'x' then ('0', l == 'x', r) else ('^', false, body)
    | _ => ('^', false, body)
  let final := rest.foldl (fun (saw : Option Char) c =>
    match saw with
    | none => none
    | some s =>
      if ('0' ≤ c && c ≤ '9') || (hex && 'a' ≤ lowerAscii c && lowerAscii c ≤ 'f') then some '0'
      else if c == '_' then (if s == '0' then some '_' else none)
      else if s == '_' then none
      else some '!') (some start)
  match final with
  | some s => s != '_'
  | none => false

/-- The value of digits in a base, underscores skipped; `none` when a character is not a digit of
the base or there is no digit. -/
def digitsValue (base : Nat) (cs : List Char) : Option Nat :=
  let ds := cs.filter (· != '_')
  if ds.isEmpty then none
  else ds.foldlM (fun acc c =>
    match digitValue c with
    | some d => if d < base then some (acc * base + d) else none
    | none => none) 0

/-- An integer literal that fits in 64 bits. -/
def readInt (s : String) : Except ReadError Int :=
  let cs := s.toList
  let (neg, body) : Bool × List Char :=
    match cs with
    | '+' :: r => (false, r)
    | '-' :: r => (true, r)
    | r => (false, r)
  let (base, digits) : Nat × List Char :=
    match body with
    | '0' :: b :: c :: r =>
      let l := lowerAscii b
      if l == 'x' then (16, c :: r) else if l == 'o' then (8, c :: r)
      else if l == 'b' then (2, c :: r) else (8, b :: c :: r)
    | '0' :: r => (8, r)
    | r => (10, r)
  let value : Option Nat :=
    if body == ['0'] then some 0
    else if digits.isEmpty then none
    else digitsValue base digits
  match value with
  | none => .error .malformed
  | some v =>
    if cs.contains '_' && !underscoresOk cs then .error .malformed
    else if neg then
      if v > Nat.pow 2 63 then .error (.range 0) else .ok (-(v : Int))
    else if v ≥ Nat.pow 2 63 then .error (.range 0) else .ok v

/-- Whether a text is a prefix of a word, ignoring case, and how long their common start is. -/
def commonPrefixIgnoringCase (s word : List Char) : Nat :=
  ((s.zip word).takeWhile fun (a, b) => lowerAscii a == lowerAscii b).length

/-- The decimal `m · 10 ^ e` as the nearest double; magnitudes far out of range are settled
without computing the power. -/
def scaledDecimal (m : Nat) (e : Int) : Float :=
  let digits := (Nat.toDigits 10 m).length
  if m = 0 then 0
  else if e + digits > 330 then Float.ofScientific 1 false 400
  else if e + digits < -345 then 0
  else if e ≥ 0 then Float.ofScientific m false e.toNat
  else Float.ofScientific m true (-e).toNat

/-- The binary `m · 2 ^ e` as the nearest double. -/
def scaledBinary (m : Nat) (e : Int) : Float :=
  let bits := Nat.log2 m
  if m = 0 then 0
  else if e + bits > 1100 then Float.ofScientific 1 false 400
  else if e + bits < -1200 then 0
  else if e ≥ 0 then Float.ofNat (m * Nat.pow 2 e.toNat)
  else Float.ofScientific m true 0 / Float.ofNat (Nat.pow 2 (-e).toNat)

/-- Splits a mantissa at its point: the digits before and after it, and the rest of the text
after the mantissa; `none` when there is no digit or two points. -/
def splitMantissa (isDigit : Char → Bool) (cs : List Char) :
    Option (List Char × List Char × List Char) :=
  let intPart := cs.takeWhile fun c => isDigit c || c == '_'
  let rest := cs.drop intPart.length
  let (fracPart, after) : List Char × List Char :=
    match rest with
    | '.' :: r =>
      let f := r.takeWhile fun c => isDigit c || c == '_'
      (f, r.drop f.length)
    | r => ([], r)
  if (intPart ++ fracPart).all (· == '_') then none else some (intPart, fracPart, after)

/-- An exponent: an optional sign and decimal digits, and nothing after them. -/
def readExponent (cs : List Char) : Option Int :=
  let (neg, ds) : Bool × List Char :=
    match cs with
    | '+' :: r => (false, r)
    | '-' :: r => (true, r)
    | r => (false, r)
  if ds.isEmpty || !ds.all (fun c => ('0' ≤ c && c ≤ '9') || c == '_') then none
  else (digitsValue 10 ds).map fun v => if neg then -(v : Int) else v

/-- A floating point literal as the nearest double. -/
def readFloat (s : String) : Except ReadError Float :=
  let cs := s.toList
  let (neg, body) : Bool × List Char :=
    match cs with
    | '+' :: r => (false, r)
    | '-' :: r => (true, r)
    | r => (false, r)
  let signed (x : Float) : Float := if neg then -x else x
  let special : Option Float :=
    let n := commonPrefixIgnoringCase body "infinity".toList
    if (n == 3 || n == 8) && body.length == n then some (signed (Float.ofScientific 1 false 400))
    else if cs.length == 3 && commonPrefixIgnoringCase cs "nan".toList == 3 then some (0.0 / 0.0)
    else none
  match special with
  | some x => .ok x
  | none =>
    let parsed : Option Float :=
      match body with
      | '0' :: x :: r =>
        if lowerAscii x == 'x' then
          match splitMantissa (fun c => (digitValue c).isSome) r with
          | some (i, f, p :: e) =>
            if lowerAscii p != 'p' then none
            else
              match digitsValue 16 (i ++ f ++ ['0']), readExponent e with
              | some m, some ex => some (scaledBinary (m / 16) (ex - 4 * (f.filter (· != '_')).length))
              | _, _ => none
          | _ => none
        else none
      | _ => none
    let decimal : Option Float :=
      match parsed with
      | some x => some x
      | none =>
        match splitMantissa (fun c => '0' ≤ c && c ≤ '9') body with
        | some (i, f, rest) =>
          let ex : Option Int := match rest with
            | [] => some 0
            | e :: r => if lowerAscii e == 'e' then readExponent r else none
          match digitsValue 10 (i ++ f ++ ['0']), ex with
          | some m, some e => some (scaledDecimal (m / 10) (e - (f.filter (· != '_')).length))
          | _, _ => none
        | none => none
    match decimal with
    | none => .error .malformed
    | some x =>
      if cs.contains '_' && !underscoresOk cs then .error .malformed
      else if x.isInf then .error (.range (signed x))
      else .ok (signed x)

end UtilityStyles.Decimal
