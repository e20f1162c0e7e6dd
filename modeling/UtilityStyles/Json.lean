import UtilityStyles.Decimal.Shortest
/-!
# JSON documents

Reports and answers are JSON documents. Objects keep their members in the order they are
given, so a printed report lists its fields in the order the schema names them.

Numbers are integers or doubles. A double is written in positional notation with the fewest
digits that read back when its magnitude lies in `[1e-6, 1e21)`, and in exponent notation
otherwise, with no zero padding of a negative exponent (`1e-7`, `1e+21`).

Strings escape the quote, the backslash, the control characters (`\b \f \n \r \t` by name,
others as `\u00XX`) and the separators U+2028 and U+2029. With HTML escaping on, `<`, `>` and
`&` are written as `\u` escapes as well.

## Main definitions

* `Json` : the documents.
* `Json.compact` : one line, no blanks.
* `Json.indented` : two spaces per level, one member per line.
-/

namespace UtilityStyles

/-- A JSON document. -/
inductive Json where
  | null
  | bool (b : Bool)
  | int (n : Int)
  | num (x : Float)
  | str (s : String)
  | arr (items : List Json)
  | obj (members : List (String × Json))

namespace Json

/-- The hexadecimal digit of a number below sixteen. -/
def hexDigit (n : Nat) : Char :=
  if n < 10 then Char.ofNat (48 + n) else Char.ofNat (87 + n)

/-- The escaped form of one character inside a string. -/
def escapeChar (html : Bool) (c : Char) : List Char :=
  let n := c.toNat
  if c = '"' then ['\\', '"']
  else if c = '\\' then ['\\', '\\']
  else if c = '\n' then ['\\', 'n']
  else if c = '\r' then ['\\', 'r']
  else if c = '\t' then ['\\', 't']
  else if n = 8 then ['\\', 'b']
  else if n = 12 then ['\\', 'f']
  else if n < 0x20 || (html && (c = '<' || c = '>' || c = '&')) then
    ['\\', 'u', '0', '0', hexDigit (n / 16), hexDigit (n % 16)]
  else if n = 0x2028 then "\\u2028".toList
  else if n = 0x2029 then "\\u2029".toList
  else [c]

/-- A quoted string literal. -/
def quote (html : Bool) (s : String) : String :=
  String.ofList ('"' :: (s.toList.flatMap (escapeChar html) ++ ['"']))

/-- The text of a double: positional for magnitudes in `[1e-6, 1e21)` and zero, exponent
notation otherwise. -/
def numberText (x : Float) : String :=
  let d := Decimal.Digits.ofFloat x
  let positional := d.digits = ['0'] || (-5 ≤ d.point && d.point ≤ 21)
  if positional then d.fixedText
  else
    let t := d.scientificText
    -- a negative exponent is written without zero padding
    (t.replace "e-0" "e-")

mutual
/-- One-line text. -/
def compact (html : Bool) : Json → String
  | null => "null"
  | bool b => if b then "true" else "false"
  | int n => toString n
  | num x => numberText x
  | str s => quote html s
  | arr items => "[" ++ compactItems html items ++ "]"
  | obj ms => "\x7b" ++ compactMembers html ms ++ "\x7d"

/-- The items of an array, separated by commas. -/
def compactItems (html : Bool) : List Json → String
  | [] => ""
  | [j] => compact html j
  | j :: rest => compact html j ++ "," ++ compactItems html rest

/-- The members of an object, separated by commas. -/
def compactMembers (html : Bool) : List (String × Json) → String
  | [] => ""
  | [(k, j)] => quote html k ++ ":" ++ compact html j
  | (k, j) :: rest => quote html k ++ ":" ++ compact html j ++ "," ++ compactMembers html rest
end

/-- The blanks that indent level `depth`. -/
def pad (depth : Nat) : String :=
  String.ofList (List.replicate (2 * depth) ' ')

mutual
/-- Text indented by two spaces per level, starting at level `depth`. -/
def indentedAt (html : Bool) (depth : Nat) : Json → String
  | arr [] => "[]"
  | obj [] => "\x7b\x7d"
  | arr items => "[\n" ++ indentedItems html (depth + 1) items ++ "\n" ++ pad depth ++ "]"
  | obj ms => "\x7b\n" ++ indentedMembers html (depth + 1) ms ++ "\n" ++ pad depth ++ "\x7d"
  | null => "null"
  | bool b => if b then "true" else "false"
  | int n => toString n
  | num x => numberText x
  | str s => quote html s

/-- The items of an array at level `depth`, one per line. -/
def indentedItems (html : Bool) (depth : Nat) : List Json → String
  | [] => ""
  | [j] => pad depth ++ indentedAt html depth j
  | j :: rest => pad depth ++ indentedAt html depth j ++ ",\n" ++ indentedItems html depth rest

/-- The members of an object at level `depth`, one per line. -/
def indentedMembers (html : Bool) (depth : Nat) : List (String × Json) → String
  | [] => ""
  | [(k, j)] => pad depth ++ quote html k ++ ": " ++ indentedAt html depth j
  | (k, j) :: rest =>
    pad depth ++ quote html k ++ ": " ++ indentedAt html depth j ++ ",\n" ++
      indentedMembers html depth rest
end

/-- Text indented by two spaces per level, with HTML escaping and a final line break. -/
def indented (j : Json) : String :=
  indentedAt true 0 j ++ "\n"

/-- A member whose value is a list of strings. -/
def strs (xs : List String) : Json :=
  arr (xs.map str)

/-- A natural number. -/
def nat (n : Nat) : Json :=
  int n

end Json

end UtilityStyles
