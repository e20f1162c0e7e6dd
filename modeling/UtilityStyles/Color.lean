import UtilityStyles.Text.Blank
/-!
# Colour classes outside the grammar

Colour classes written as `bg-rgb(0,0,0)`, `tc-rgba(…)` or `border-ff0000` do not follow the
class grammar. They are found by searching the raw class attribute, for each colour type in turn
(`bg` for `background`, `tc` for `color`, `border` for `border-color`) and for each form in turn:
`type-rgb(args)`, `type-rgba(args)` and `type-` followed by three to six hex digits (as many as
there are, up to six). For each type and form, the first place in the attribute where it
matches gives one write; the arguments of `rgb` and `rgba` are trimmed and joined by commas.

## Main definitions

* `colorWrites` : the writes of a class attribute, in the order they are made.
-/

namespace UtilityStyles

/-- The colour types and the property each writes. -/
def colorTypes : List (String × String) :=
  [("bg", "background"), ("tc", "color"), ("border", "border-color")]

/-- Arguments split at commas, each trimmed, joined by commas. -/
def joinArgs (s : String) : String :=
  ",".intercalate ((s.splitOn ",").map Text.trimBlank)

/-- The arguments of `head(args)` at the start of `cs`: at least one character before the
first `)`. -/
def functionArgsAt (head : List Char) (cs : List Char) : Option String :=
  if head.isPrefixOf cs then
    let rest := cs.drop head.length
    match rest.takeWhile (· != ')'), rest.dropWhile (· != ')') with
    | inner@(_ :: _), ')' :: _ => some (String.ofList inner)
    | _, _ => none
  else none

/-- Whether a character is a hexadecimal digit. -/
def isHexDigitChar (c : Char) : Bool :=
  c.isDigit || ('a' ≤ c && c ≤ 'f') || ('A' ≤ c && c ≤ 'F')

/-- Three to six hex digits after `head` at the start of `cs`, as many as there are up to six. -/
def hexAt (head : List Char) (cs : List Char) : Option String :=
  if head.isPrefixOf cs then
    let digits := ((cs.drop head.length).takeWhile isHexDigitChar).take 6
    if digits.length ≥ 3 then some (String.ofList digits) else none
  else none

/-- The first match of `probe` at any position of `cs`. -/
def firstMatch (probe : List Char → Option String) : List Char → Option String
  | [] => probe []
  | c :: rest => (probe (c :: rest)).orElse fun _ => firstMatch probe rest

/-- The colour searches of one type, in order: the text each match writes. -/
def colorForms (type : String) : List (List Char → Option String) :=
  [fun cs => (firstMatch (functionArgsAt (type ++ "-rgb(").toList) cs).map
      fun a => "rgb(" ++ joinArgs a ++ ")",
   fun cs => (firstMatch (functionArgsAt (type ++ "-rgba(").toList) cs).map
      fun a => "rgba(" ++ joinArgs a ++ ")",
   fun cs => (firstMatch (hexAt (type ++ "-").toList) cs).map fun h => "#" ++ h]

/-- The property writes the colour classes of a class attribute make, in order; none for an
empty attribute. -/
def colorWrites (attr : String) : List (String × String) :=
  colorTypes.flatMap fun (type, property) =>
    (colorForms type).filterMap fun form => (form attr.toList).map (property, ·)

end UtilityStyles
