/-!
# Blank characters, fields and trimming

Class lists, style values and property lists are split and trimmed at *blank* characters:
the ASCII controls tab, line feed, vertical tab, form feed and carriage return, the space,
U+0085 and U+00A0, and the other characters with the Unicode `White_Space` property.
The zero width space U+200B is not blank.

## Main definitions

* `isBlank` : the blank characters.
* `fields` : the maximal runs of non-blank characters, in order.
* `trimBlank` : a text without its leading and trailing blanks.
-/

namespace UtilityStyles.Text

/-- The blank characters: the ASCII controls `\t \n \v \f \r`, the space, U+0085, U+00A0,
and the characters of the Unicode `White_Space` property above Latin-1. -/
def isBlank (c : Char) : Bool :=
  let n := c.toNat
  (0x09 ≤ n && n ≤ 0x0D) || n == 0x20 || n == 0x85 || n == 0xA0 || n == 0x1680 ||
    (0x2000 ≤ n && n ≤ 0x200A) || n == 0x2028 || n == 0x2029 || n == 0x202F ||
    n == 0x205F || n == 0x3000

/-- The fields of `cs` with the current field `acc` (reversed) still open. -/
def fieldsFrom : List Char → List Char → List String
  | [], acc => if acc.isEmpty then [] else [String.ofList acc.reverse]
  | c :: rest, acc =>
    if isBlank c then
      if acc.isEmpty then fieldsFrom rest [] else String.ofList acc.reverse :: fieldsFrom rest []
    else fieldsFrom rest (c :: acc)

/-- The maximal runs of non-blank characters of a text, in order. -/
def fields (s : String) : List String :=
  fieldsFrom s.toList []

/-- A text without its leading and trailing blank characters. -/
def trimBlank (s : String) : String :=
  String.ofList ((s.toList.dropWhile isBlank).reverse.dropWhile isBlank).reverse

/-- Whether a text consists of blank characters only (the empty text included). -/
def isAllBlank (s : String) : Bool :=
  s.toList.all isBlank

end UtilityStyles.Text
