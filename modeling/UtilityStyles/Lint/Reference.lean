import UtilityStyles.Text.Blank
/-!
# Class references in a text

Linting reads class attributes line by line, without following an attribute over a line break.
A class attribute is the word `class` at the start of a line or after a blank (tab, line feed,
form feed, carriage return or space), then `=` with optional blanks around it, then a value in
double or single quotes. Attributes are found left to right, each search going on after the
previous attribute's closing quote. Each blank-separated name in the value is a reference, at
the 1-based byte column where it starts.

Lines end at line feeds; one carriage return before a line feed is not part of the line, and an
empty last line after a final line feed is not a line. A line of `65536` bytes or more cannot be
read, and then the text gives no references.

## Main definitions

* `ClassRef`, `attributeValues`, `namesAt`, `refsOfLine`, `lines`, `scanText`.
-/

namespace UtilityStyles.Lint

open UtilityStyles.Text (isBlank)

/-- A class name found in a class attribute: the name, the attribute's value, its line, its
column and the line's text. -/
structure ClassRef where
  className : String
  classAttr : String
  line : Nat
  column : Nat
  text : String
  deriving Repr, BEq, Inhabited

/-- The blanks that may stand around the attribute's `=` and before the word `class`. -/
def isSeparator (c : Char) : Bool :=
  c == '\t' || c == '\n' || c == Char.ofNat 12 || c == '\r' || c == ' '

/-- The number of bytes of characters. -/
def byteSize (cs : List Char) : Nat :=
  cs.foldl (fun n c => n + c.utf8Size) 0

/-- Reads `class = "value"` at the start of `cs`: the byte offset of the value from the start
of `cs`, the value, and what follows the closing quote. -/
def attributeAt (cs : List Char) : Option (Nat × List Char × List Char) :=
  match cs with
  | 'c' :: 'l' :: 'a' :: 's' :: 's' :: rest =>
    let afterName := rest.dropWhile isSeparator
    match afterName with
    | '=' :: afterEq =>
      let valueStart := afterEq.dropWhile isSeparator
      match valueStart with
      | q :: body =>
        if q == '"' || q == '\'' then
          let value := body.takeWhile (· != q)
          match body.drop value.length with
          | _ :: after => some (byteSize (cs.take (cs.length - valueStart.length)) + 1, value, after)
          | [] => none
        else none
      | [] => none
    | _ => none
  | _ => none

/-- The class attribute values of a line from a position on: each value's byte offset in the
line, and the value. `atStart` says whether the position is the line's start; `offset` is the
position's byte offset; `fuel` bounds the steps and the length of the rest suffices. -/
def attributeValuesFuel : Nat → List Char → Bool → Nat → List (Nat × List Char)
  | 0, _, _, _ => []
  | _ + 1, [], _, _ => []
  | fuel + 1, c :: rest, atStart, offset =>
    let here : Option (Nat × List Char × List Char) :=
      match (if atStart then attributeAt (c :: rest) else none) with
      | some (v, value, after) => some (offset + v, value, after)
      | none =>
        if isSeparator c then
          (attributeAt rest).map fun (v, value, after) => (offset + c.utf8Size + v, value, after)
        else none
    match here with
    | some (start, value, after) =>
      -- the search goes on after the closing quote
      (start, value) :: attributeValuesFuel fuel after false (start + byteSize value + 1)
    | none => attributeValuesFuel fuel rest false (offset + c.utf8Size)

/-- The class attribute values of a line: each value's byte offset, and the value. -/
def attributeValues (line : List Char) : List (Nat × List Char) :=
  attributeValuesFuel (line.length + 1) line true 0

/-- The names that a finished name adds: none when no name is open. -/
def closeName : Option (List Char × Nat) → List (String × Nat)
  | some (acc, start) => [(String.ofList acc.reverse, start)]
  | none => []

/-- The blank-separated names of a value, each with its byte offset; `offset` is the byte offset
of the rest, and `open` the name being read (reversed) with its offset. -/
def namesFrom : List Char → Nat → Option (List Char × Nat) → List (String × Nat)
  | [], _, cur => closeName cur
  | c :: rest, offset, cur =>
    if isBlank c then closeName cur ++ namesFrom rest (offset + c.utf8Size) none
    else
      let cur' := match cur with
        | some (acc, start) => some (c :: acc, start)
        | none => some ([c], offset)
      namesFrom rest (offset + c.utf8Size) cur'

/-- The blank-separated names of a value that starts at byte `offset`, each with its byte
offset. -/
def namesAt (value : List Char) (offset : Nat) : List (String × Nat) :=
  namesFrom value offset none

/-- The lines of a text: split at line feeds, one carriage return before each dropped, and no
empty last line after a final line feed. -/
def lines (text : String) : List String :=
  let pieces := text.splitOn "\n"
  let kept := if text.isEmpty || text.endsWith "\n" then pieces.dropLast else pieces
  kept.map fun l => if l.endsWith "\r" then String.ofList (l.toList.dropLast) else l

/-- The class references of a line with its number: one for each blank-separated name of each
class attribute value, left to right, at the 1-based byte column where the name starts. -/
def refsOfLine (line : String) (n : Nat) : List ClassRef :=
  (attributeValues line.toList).flatMap fun (start, value) =>
    (namesAt value start).map fun (name, off) => ⟨name, String.ofList value, n, off + 1, line⟩

/-- The longest line, in bytes, that can be read. -/
def maxLineBytes : Nat := 65535

/-- The class references of a text, in order; the message when the text cannot be read. -/
def scanText (text : String) : Except String (List ClassRef) :=
  let raw := (text.splitOn "\n")
  if raw.any (·.utf8ByteSize > maxLineBytes) then .error "bufio.Scanner: token too long"
  else
    .ok ((lines text).zipIdx.flatMap fun (line, i) => refsOfLine line (i + 1))

end UtilityStyles.Lint
