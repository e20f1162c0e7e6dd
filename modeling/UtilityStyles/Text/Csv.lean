/-!
# Comma-separated records

A list flag reads its value as one record of comma-separated fields. A field is either plain
text up to the next comma, which may hold no quote, or a quoted field: text between double
quotes, where a doubled quote stands for one quote and commas and line breaks are kept. The
record ends at the end of its last line; lines after it are not read. Empty lines before the
record are skipped, and a text with no record is an error of its own (`EOF`).

Lines end at line feeds; a carriage return before a line feed, and one at the very end of the
text, is dropped. Positions in errors count lines from one and columns in bytes from one.

## Main definitions

* `CsvError`, `CsvError.message`.
* `readRecord` : the first record of a text.
-/

namespace UtilityStyles.Text

/-- Why a record cannot be read. -/
inductive CsvError where
  /-- The text holds no record. -/
  | noRecord
  /-- A plain field holds a quote. -/
  | bareQuote (line column : Nat)
  /-- A quoted field is not closed, or its closing quote is followed by text. -/
  | strayQuote (startLine line column : Nat)
  deriving Repr, BEq, Inhabited

/-- The message of a record error. -/
def CsvError.message : CsvError → String
  | .noRecord => "EOF"
  | .bareQuote l c =>
    "parse error on line " ++ toString l ++ ", column " ++ toString c ++
      ": bare \" in non-quoted-field"
  | .strayQuote s l c =>
    (if s == l then "" else "record on line " ++ toString s ++ "; ") ++
      "parse error on line " ++ toString l ++ ", column " ++ toString c ++
      ": extraneous or missing \" in quoted-field"

/-- The lines of a text, each with its line feed when it has one; carriage returns before line
feeds, and one ending the text, are dropped. -/
def csvLines (s : String) : List (List Char) :=
  let raw := (s.splitOn "\n").map String.toList
  let n := raw.length
  let numbered := raw.zipIdx
  numbered.filterMap fun (l, i) =>
    if i + 1 < n then
      some ((if l.getLast? == some '\r' then l.dropLast else l) ++ ['\n'])
    else if l.isEmpty then none
    else some (if l.getLast? == some '\r' then l.dropLast else l)

/-- The byte length of characters. -/
def byteLength (cs : List Char) : Nat :=
  cs.foldl (fun n c => n + c.utf8Size) 0

/-- Characters without a final line feed. -/
def dropFeed (cs : List Char) : List Char :=
  if cs.getLast? == some '\n' then cs.dropLast else cs

mutual

/-- The fields from the current point of a line (`line`, at line number `lineNo` and byte
column `col`) to the end of the record; `more` holds the lines after it. -/
def recordFields (fuel : Nat) (startLine : Nat) (line : List Char) (more : List (List Char))
    (lineNo col : Nat) (acc : List String) : Except CsvError (List String) :=
  match fuel with
  | 0 => .ok acc
  | fuel + 1 =>
    match line with
    | '"' :: rest => quotedField fuel startLine rest more lineNo (col + 1) [] acc
    | _ =>
      let field := line.takeWhile (· != ',')
      let after := line.dropWhile (· != ',')
      let text := if after.isEmpty then dropFeed field else field
      match text.findIdx? (· == '"') with
      | some j => .error (.bareQuote lineNo (col + byteLength (text.take j)))
      | none =>
        let acc := acc ++ [String.ofList text]
        match after with
        | ',' :: rest => recordFields fuel startLine rest more lineNo (col + byteLength field + 1) acc
        | _ => .ok acc

/-- The rest of a quoted field whose text so far is `buf`, then the fields after it. -/
def quotedField (fuel : Nat) (startLine : Nat) (line : List Char) (more : List (List Char))
    (lineNo col : Nat) (buf : List Char) (acc : List String) : Except CsvError (List String) :=
  match fuel with
  | 0 => .ok acc
  | fuel + 1 =>
    match line.findIdx? (· == '"') with
    | some i =>
      let buf := buf ++ line.take i
      let col := col + byteLength (line.take i) + 1
      match line.drop (i + 1) with
      | '"' :: rest => quotedField fuel startLine rest more lineNo (col + 1) (buf ++ ['"']) acc
      | ',' :: rest => recordFields fuel startLine rest more lineNo (col + 1) (acc ++ [String.ofList buf])
      | [] | ['\n'] => .ok (acc ++ [String.ofList buf])
      | _ => .error (.strayQuote startLine lineNo (col - 1))
    | none =>
      if line.isEmpty then .error (.strayQuote startLine lineNo col)
      else
        let buf := buf ++ line
        let col := col + byteLength line
        match more with
        | next :: rest => quotedField fuel startLine next rest (lineNo + 1) 1 buf acc
        | [] => quotedField fuel startLine [] [] lineNo col buf acc

end

/-- The first record of a text: its fields in order. -/
def readRecord (s : String) : Except CsvError (List String) :=
  let lines := csvLines s
  let skipped := (lines.takeWhile (· == ['\n'])).length
  match lines.drop skipped with
  | [] => .error .noRecord
  | first :: more =>
    recordFields (2 * s.length + 4) (skipped + 1) first more (skipped + 1) 1 []

end UtilityStyles.Text
