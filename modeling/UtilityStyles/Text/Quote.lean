import UtilityStyles.Text.Printable
/-!
# Quoted texts

Error messages show the names they are about in double quotes. Inside the quotes, the quote and
the backslash are preceded by a backslash, printable characters stand as they are, the controls
with a short name are written `\a \b \f \n \r \t \v`, other ASCII controls as `\x` and two hex
digits, and every other unprintable character as `\u` and four hex digits (`\U` and eight above
U+FFFF). Hex digits are lower case.

## Main definitions

* `quote` : the quoted form of a text.
-/

namespace UtilityStyles.Text

/-- The lower-case hex digits of `n`, padded with zeros to `width` digits. -/
def hexDigits (width n : Nat) : List Char :=
  (List.range width).reverse.map fun i =>
    let d := n / Nat.pow 16 i % 16
    if d < 10 then Char.ofNat (48 + d) else Char.ofNat (87 + d)

/-- The quoted form of one character. -/
def quoteChar (c : Char) : List Char :=
  let n := c.toNat
  if c == '"' || c == '\\' then ['\\', c]
  else if isPrintable c then [c]
  else if n == 7 then ['\\', 'a']
  else if n == 8 then ['\\', 'b']
  else if n == 12 then ['\\', 'f']
  else if c == '\n' then ['\\', 'n']
  else if c == '\r' then ['\\', 'r']
  else if c == '\t' then ['\\', 't']
  else if n == 11 then ['\\', 'v']
  else if n < 0x20 || n == 0x7F then '\\' :: 'x' :: hexDigits 2 n
  else if n < 0x10000 then '\\' :: 'u' :: hexDigits 4 n
  else '\\' :: 'U' :: hexDigits 8 n

/-- A text in double quotes, with quotes, backslashes and unprintable characters escaped. -/
def quote (s : String) : String :=
  String.ofList ('"' :: s.toList.flatMap quoteChar ++ ['"'])

/-- The apostrophe, as text. -/
def apostrophe : String := String.singleton (Char.ofNat 39)

/-- A text between apostrophes. -/
def inApostrophes (s : String) : String := apostrophe ++ s ++ apostrophe

end UtilityStyles.Text
