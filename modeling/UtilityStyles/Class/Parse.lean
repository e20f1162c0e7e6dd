import UtilityStyles.Class.Token
/-!
# Reading a utility class

A class is read by searching it for the first place where the class grammar matches:

```
class  ::= (prefix ":")? type "-" value unit
prefix ::= [a-z-]+
type   ::= "-"? word ("-" word)*  |  "[--" [a-zA-Z0-9_-]+ "]"
value  ::= "-"? digits ("." digits)?  |  word ("-" word)*  |  "#" hexdigits
         |  "[" (any but "]")+ "]"  |  "$" (any but a blank)+
unit   ::= [a-zA-Z%]*
```

where a `word` is a run of ASCII letters, digits and `_`, and a blank here is tab, line feed,
form feed, carriage return or space. The match need not cover the whole class: text before
and after it is ignored.

Where the grammar allows several readings, the first one in this order is taken:

* the earliest start position;
* with a prefix before without one;
* a word type with more `-word` segments before one with fewer, and a word type before a
  `[--name]` type;
* for the value, the first alternative above that matches, each as long as possible;
* the longest unit.

Every run of word characters is read to its end, since a shorter run would be followed by a
word character where the grammar needs `-`, `:` or the end.

## Main definitions

* `parseClass` : the token of a class, if the grammar matches anywhere in it.
-/

namespace UtilityStyles.Class

/-- Word characters: ASCII letters, digits and `_`. -/
def isWordChar (c : Char) : Bool :=
  c.isAlphanum || c == '_'

/-- Prefix characters: lower-case ASCII letters and `-`. -/
def isPrefixChar (c : Char) : Bool :=
  c.isLower || c == '-'

/-- Unit characters: ASCII letters and `%`. -/
def isUnitChar (c : Char) : Bool :=
  c.isAlpha || c == '%'

/-- Hexadecimal digits, in either case. -/
def isHexChar (c : Char) : Bool :=
  c.isDigit || ('a' ≤ c && c ≤ 'f') || ('A' ≤ c && c ≤ 'F')

/-- The blanks that end a `$name` value: tab, line feed, form feed, carriage return, space. -/
def isValueBlank (c : Char) : Bool :=
  c == ' ' || c == '\t' || c == '\n' || c == '\r' || c.toNat == 12

/-- The longest prefix of `cs` whose characters satisfy `p`, and the rest. -/
def span (p : Char → Bool) (cs : List Char) : List Char × List Char :=
  (cs.takeWhile p, cs.dropWhile p)

/-- The word chains `w₁-…-wₖ` that extend the chain `acc` read so far, shortest first, each with
the text after it. -/
def chainsFrom (acc : List Char) : List Char → List (List Char × List Char)
  | [] => [(acc, [])]
  | c :: rest =>
    if isWordChar c then chainsFrom (acc ++ [c]) rest
    else if c == '-' then
      match rest with
      | d :: more =>
        if isWordChar d then (acc, c :: d :: more) :: chainsFrom (acc ++ ['-', d]) more
        else [(acc, c :: d :: more)]
      | [] => [(acc, [c])]
    else [(acc, c :: rest)]

/-- The word chains at the start of `cs`, shortest first, each with the text after it. -/
def chains : List Char → List (List Char × List Char)
  | [] => []
  | c :: rest => if isWordChar c then chainsFrom [c] rest else []

/-- A number value: an optional `-`, digits, and an optional fraction. -/
def readNumber (cs : List Char) : Option (List Char × List Char) :=
  let (sign, body) : List Char × List Char :=
    match cs with
    | '-' :: r => (['-'], r)
    | _ => ([], cs)
  let (ds, rest) := span Char.isDigit body
  if ds.isEmpty then none
  else
    match rest with
    | '.' :: r =>
      let (fs, after) := span Char.isDigit r
      if fs.isEmpty then some (sign ++ ds, rest) else some (sign ++ ds ++ '.' :: fs, after)
    | _ => some (sign ++ ds, rest)

/-- A word value: the longest word chain. -/
def readWord (cs : List Char) : Option (List Char × List Char) :=
  (chains cs).getLast?

/-- A hexadecimal value: `#` and hexadecimal digits. -/
def readHex : List Char → Option (List Char × List Char)
  | '#' :: r =>
    let (hs, rest) := span isHexChar r
    if hs.isEmpty then none else some ('#' :: hs, rest)
  | _ => none

/-- A bracketed value: `[`, at least one character other than `]`, then `]`. -/
def readBracket : List Char → Option (List Char × List Char)
  | '[' :: r =>
    match span (· != ']') r with
    | (inner@(_ :: _), ']' :: rest) => some ('[' :: inner ++ [']'], rest)
    | _ => none
  | _ => none

/-- A variable value: `$` and the characters up to the next blank. -/
def readVariable : List Char → Option (List Char × List Char)
  | '$' :: r =>
    let (name, rest) := span (fun c => !isValueBlank c) r
    if name.isEmpty then none else some ('$' :: name, rest)
  | _ => none

/-- The value at the start of `cs`: the first alternative of the grammar that matches. -/
def readValue (cs : List Char) : Option (List Char × List Char) :=
  readNumber cs <|> readWord cs <|> readHex cs <|> readBracket cs <|> readVariable cs

/-- Completes a match after the type `ty`: a `-`, a value and a unit. -/
def afterType (ty rest : List Char) : Option (List Char × List Char × List Char) :=
  match rest with
  | '-' :: r => (readValue r).map fun (v, after) => (ty, v, (span isUnitChar after).1)
  | _ => none

/-- The word types at the start of `cs`, the one with most segments first. -/
def wordTypes (cs : List Char) : List (List Char × List Char) :=
  match cs with
  | '-' :: r => ((chains r).map fun (t, rest) => ('-' :: t, rest)).reverse
  | _ => (chains cs).reverse

/-- A custom property type `[--name]` at the start of `cs`. -/
def readCustomType : List Char → Option (List Char × List Char)
  | '[' :: '-' :: '-' :: r =>
    match span (fun c => isWordChar c || c == '-') r with
    | (name@(_ :: _), ']' :: rest) => some ("[--".toList ++ name ++ [']'], rest)
    | _ => none
  | _ => none

/-- Type, value and unit read at the start of `cs`. -/
def readTypeValue (cs : List Char) : Option (List Char × List Char × List Char) :=
  match (wordTypes cs).findSome? fun (t, rest) => afterType t rest with
  | some m => some m
  | none => (readCustomType cs).bind fun (t, rest) => afterType t rest

/-- The token built from the parts of a match. -/
def tokenOf (pre : List Char) : List Char × List Char × List Char → Token
  | (ty, v, u) =>
    { prefixName := String.ofList pre, type := String.ofList ty, value := String.ofList v,
      unit := String.ofList u }

/-- The match that starts at the start of `cs`, trying a prefix first. -/
def matchAt (cs : List Char) : Option Token :=
  let withPrefix :=
    match span isPrefixChar cs with
    | (pre@(_ :: _), ':' :: r) => (readTypeValue r).map (tokenOf pre)
    | _ => none
  withPrefix <|> (readTypeValue cs).map (tokenOf [])

/-- The match at the earliest start position in `cs`. -/
def matchFrom : List Char → Option Token
  | [] => none
  | c :: rest => matchAt (c :: rest) <|> matchFrom rest

/-- The token of a class: the grammar's match at the earliest position, if there is one. -/
def parseClass (cls : String) : Option Token :=
  matchFrom cls.toList

end UtilityStyles.Class
