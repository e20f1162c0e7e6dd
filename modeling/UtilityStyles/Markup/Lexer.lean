import UtilityStyles.Markup.Name
import UtilityStyles.Markup.Node
import UtilityStyles.Text.Quote
/-!
# Reading markup tokens

Markup text is read as a sequence of tokens: start tags (with their attributes, and whether
they close themselves), end tags, character data, comments, directives and processing
instructions. Reading is lenient in three ways: an attribute without `=` takes its own name as
value, an attribute value may be unquoted (then it is a run of letters, digits, `_`, `:` and
`-`), and an entity reference that does not resolve stays in the text as written.

Entities resolve to the five predefined ones (`lt`, `gt`, `amp`, `apos`, `quot`), to decimal
and hexadecimal character references up to U+10FFFF (a surrogate reads as U+FFFD), and to the
extra entities the reader is given. A carriage return, alone or before a line feed, reads as a
line feed. `<![CDATA[…]]>` reads as character data. A problem is reported with the line it was
found on: the number of line feeds read so far, plus one.

## Main definitions

* `SyntaxProblem`, `SyntaxProblem.message` : what can be wrong with markup text.
* `Token` : the tokens.
* `nextToken` : the next token of a text, if there is one.
-/

namespace UtilityStyles.Markup

/-- What can be wrong with markup text. -/
inductive SyntaxProblem where
  | unexpectedEof
  | eofInCdata
  | expectedElementName
  | expectedEndName
  | junkInEndTag (name : String)
  | expectedTarget
  | badCommentStart
  | doubleDashInComment
  | badCdataStart
  | expectedSelfClose
  | expectedAttrName
  | ltInQuoted
  | cdataEndInText
  | invalidName (name : String)
  | illegalChar (code : Nat)
  | unsupportedVersion (version : String)
  deriving Repr, BEq

/-- The code point in the form `U+0041`: upper-case hex, at least four digits. -/
def codePointText (n : Nat) : String :=
  let ds := Nat.toDigits 16 n
  let padded := List.replicate (4 - ds.length) '0' ++ ds
  "U+" ++ String.ofList (padded.map Char.toUpper)

/-- The description of a problem. -/
def SyntaxProblem.message : SyntaxProblem → String
  | .unexpectedEof => "unexpected EOF"
  | .eofInCdata => "unexpected EOF in CDATA section"
  | .expectedElementName => "expected element name after <"
  | .expectedEndName => "expected element name after </"
  | .junkInEndTag n => "invalid characters between </" ++ n ++ " and >"
  | .expectedTarget => "expected target name after <?"
  | .badCommentStart => "invalid sequence <!- not part of <!--"
  | .doubleDashInComment => "invalid sequence \"--\" not allowed in comments"
  | .badCdataStart => "invalid <![ sequence"
  | .expectedSelfClose => "expected /> in element"
  | .expectedAttrName => "expected attribute name in element"
  | .ltInQuoted => "unescaped < inside quoted string"
  | .cdataEndInText => "unescaped ]]> not in CDATA section"
  | .invalidName n => "invalid XML name: " ++ n
  | .illegalChar c => "illegal character code " ++ codePointText c
  | .unsupportedVersion v =>
    "unsupported version " ++ Text.quote v ++ "; only version 1.0 is supported"

/-- A token of markup text. -/
inductive Token where
  | start (name : QName) (attrs : List Attr) (selfClosing : Bool)
  | stop (name : QName)
  | text (data : String)
  | comment (data : String)
  | directive (data : String)
  | instruction (target data : String)
  deriving Repr

/-- A position in the text: what is left to read, and the current line. -/
structure Cursor where
  rest : List Char
  line : Nat
  deriving Repr, Inhabited

/-- A result of a reader, or a problem and the line it was found on. -/
abbrev Lex (α : Type) := Except (SyntaxProblem × Nat) α

namespace Cursor

/-- The cursor after one character. -/
def advance (cur : Cursor) : Cursor :=
  match cur.rest with
  | [] => cur
  | c :: r => ⟨r, if c == '\n' then cur.line + 1 else cur.line⟩

/-- The next character, if any. -/
def peek (cur : Cursor) : Option Char :=
  cur.rest.head?

/-- The problem `p` found here. -/
def fail {α : Type} (cur : Cursor) (p : SyntaxProblem) : Lex α :=
  .error (p, cur.line)

/-- The next character and the cursor after it; running out is unexpected. -/
def take (cur : Cursor) : Lex (Char × Cursor) :=
  match cur.rest with
  | [] => cur.fail .unexpectedEof
  | c :: _ => .ok (c, cur.advance)

end Cursor

/-- ASCII characters that can be part of a name. -/
def isAsciiNameChar (c : Char) : Bool :=
  c.isAlphanum || c == '_' || c == ':' || c == '.' || c == '-'

/-- Characters read as part of a name: ASCII name characters and everything above ASCII. -/
def isNameByte (c : Char) : Bool :=
  c.toNat ≥ 0x80 || isAsciiNameChar c

/-- The run of name characters at the cursor: `none` when the next character cannot start one
(nothing is read then); running out of text inside the run is unexpected. -/
def readNameRun (cur : Cursor) : Lex (Option (List Char) × Cursor) :=
  match cur.rest with
  | [] => cur.fail .unexpectedEof
  | c :: r =>
    if isNameByte c then
      let run := (c :: r).takeWhile isNameByte
      let after := (c :: r).dropWhile isNameByte
      if after.isEmpty then (Cursor.mk [] cur.line).fail .unexpectedEof
      else .ok (some run, ⟨after, cur.line⟩)
    else .ok (none, cur)

/-- A name at the cursor, checked against the name rule. -/
def readName (cur : Cursor) : Lex (Option String × Cursor) := do
  match ← readNameRun cur with
  | (none, c) => return (none, c)
  | (some run, c) =>
    if isName run then return (some (String.ofList run), c)
    else c.fail (.invalidName (String.ofList run))

/-- A name with an optional prefix; a name with two or more `:` is no qualified name. -/
def readQName (cur : Cursor) : Lex (Option QName × Cursor) := do
  match ← readName cur with
  | (none, c) => return (none, c)
  | (some s, c) =>
    match s.splitOn ":" with
    | [l] => return (some ⟨"", l⟩, c)
    | [sp, l] =>
      if sp.isEmpty || l.isEmpty then return (some ⟨"", s⟩, c) else return (some ⟨sp, l⟩, c)
    | _ => return (none, c)

/-- Skips blanks: space, carriage return, line feed, tab. -/
def skipSpace : Cursor → Cursor
  | ⟨[], line⟩ => ⟨[], line⟩
  | ⟨c :: r, line⟩ =>
    if c == ' ' || c == '\r' || c == '\t' then skipSpace ⟨r, line⟩
    else if c == '\n' then skipSpace ⟨r, line + 1⟩
    else ⟨c :: r, line⟩

/-- The value of a digit in base 10 or 16, if it is one. -/
def digitValue (hex : Bool) (c : Char) : Option Nat :=
  if c.isDigit then some (c.toNat - 48)
  else if hex && 'a' ≤ c && c ≤ 'f' then some (c.toNat - 87)
  else if hex && 'A' ≤ c && c ≤ 'F' then some (c.toNat - 55)
  else none

/-- The number written by digits in base 10 or 16; `none` when there are none or it does not
fit in 64 bits. -/
def parseDigits (hex : Bool) (ds : List Char) : Option Nat :=
  if ds.isEmpty then none
  else
    let n := ds.foldl (fun acc c => acc * (if hex then 16 else 10) + ((digitValue hex c).getD 0)) 0
    if n < Nat.pow 2 64 then some n else none

/-- The character a character reference denotes: surrogates read as U+FFFD. -/
def referencedChar (n : Nat) : Char :=
  if 0xD800 ≤ n && n ≤ 0xDFFF then '�' else Char.ofNat n

/-- The predefined entities. -/
def predefinedEntities : List (String × String) :=
  [("lt", "<"), ("gt", ">"), ("amp", "&"), ("apos", String.singleton (Char.ofNat 39)),
   ("quot", "\"")]

/-- What an entity reference reads as: its replacement text, or, when it does not resolve,
the characters read for it (which stay in the text). -/
inductive EntityRead where
  | resolved (text : String)
  | literal (raw : List Char)

/-- Reads an entity reference after its `&`. -/
def readEntity (entities : List (String × String)) (cur : Cursor) : Lex (EntityRead × Cursor) := do
  let (b, c1) ← cur.take
  if b == '#' then
    let (b2, c2) ← c1.take
    let (hex, digitsFrom, lead) :=
      if b2 == 'x' then (true, c2, "&#x".toList) else (false, c1, "&#".toList)
    let (first, c3) ← digitsFrom.take
    let rec digits (fuel : Nat) (acc : List Char) (b : Char) (c : Cursor) :
        Lex (List Char × Char × Cursor) :=
      match fuel with
      | 0 => .ok (acc, b, c)
      | fuel + 1 =>
        if (digitValue hex b).isSome then do
          let (b', c') ← c.take
          digits fuel (acc ++ [b]) b' c'
        else .ok (acc, b, c)
    let (ds, last, c4) ← digits (digitsFrom.rest.length + 1) [] first c3
    if last != ';' then
      -- the character after the digits is left unread
      return (.literal (lead ++ ds), ⟨last :: c4.rest, if last == '\n' then c4.line - 1 else c4.line⟩)
    match parseDigits hex ds with
    | some n =>
      if n ≤ 0x10FFFF then return (.resolved (String.singleton (referencedChar n)), c4)
      else return (.literal (lead ++ ds ++ [';']), c4)
    | none => return (.literal (lead ++ ds ++ [';']), c4)
  else
    let (name, c2) ← readNameRun cur
    let nameChars := name.getD []
    let (b2, c3) ← c2.take
    if b2 != ';' then return (.literal ('&' :: nameChars), c2)
    let raw := '&' :: nameChars ++ [';']
    if isName nameChars then
      let s := String.ofList nameChars
      match predefinedEntities.lookup s with
      | some t => return (.resolved t, c3)
      | none =>
        match entities.lookup s with
        | some t => return (.resolved t, c3)
        | none => return (.literal raw, c3)
    else return (.literal raw, c3)

/-- Where a run of character data ends. -/
inductive TextEnd where
  /-- Before a `<` (ordinary text). -/
  | markup
  /-- At the closing quote of an attribute value. -/
  | quote (q : Char)
  /-- At `]]>` (a CDATA section). -/
  | cdata
  deriving BEq

/-- The characters of a run of character data, up to its end, with entities resolved and line
ends normalized. `b0` and `b1` are the two characters read last. -/
def readTextLoop (entities : List (String × String)) (stop : TextEnd) :
    Nat → List Char → Char → Char → Cursor → Lex (List Char × Cursor)
  | 0, acc, _, _, cur => .ok (acc, cur)
  | fuel + 1, acc, b0, b1, cur =>
    match cur.rest with
    | [] => if stop == .cdata then cur.fail .eofInCdata else .ok (acc, cur)
    | b :: _ =>
      let next := cur.advance
      if stop != .cdata && (match stop with | .quote _ => false | _ => true) && b0 == ']' &&
          b1 == ']' && b == '>' then next.fail .cdataEndInText
      else if stop == .cdata && b0 == ']' && b1 == ']' && b == '>' then
        .ok (acc.dropLast.dropLast, next)
      else if b == '<' && stop != .cdata then
        match stop with
        | .quote _ => next.fail .ltInQuoted
        | _ => .ok (acc, cur)
      else if (match stop with | .quote q => b == q | _ => false) then .ok (acc, next)
      else if b == '&' && stop != .cdata then
        match readEntity entities next with
        | .error e => .error e
        | .ok (.resolved t, c) => readTextLoop entities stop fuel (acc ++ t.toList) '\x00' '\x00' c
        | .ok (.literal raw, c) => readTextLoop entities stop fuel (acc ++ raw) '\x00' '\x00' c
      else if b == '\r' then readTextLoop entities stop fuel (acc ++ ['\n']) b1 b next
      else if b1 == '\r' && b == '\n' then readTextLoop entities stop fuel acc b1 b next
      else readTextLoop entities stop fuel (acc ++ [b]) b1 b next

/-- A run of character data; every character read must be one markup can hold. -/
def readText (entities : List (String × String)) (stop : TextEnd) (cur : Cursor) :
    Lex (String × Cursor) := do
  let (data, after) ← readTextLoop entities stop (cur.rest.length + 1) [] '\x00' '\x00' cur
  match data.find? (fun c => !isMarkupChar c.toNat) with
  | some c => after.fail (.illegalChar c.toNat)
  | none => return (String.ofList data, after)

/-- Characters of an unquoted attribute value. -/
def isUnquotedChar (c : Char) : Bool :=
  c.isAlphanum || c == '_' || c == ':' || c == '-'

/-- An attribute value after `=`: quoted, or a run of unquoted characters. -/
def readAttrValue (entities : List (String × String)) (cur : Cursor) : Lex (String × Cursor) := do
  let (b, c1) ← cur.take
  if b == '"' || b == Char.ofNat 39 then readText entities (.quote b) c1
  else
    let run := cur.rest.takeWhile isUnquotedChar
    let after := cur.rest.dropWhile isUnquotedChar
    if after.isEmpty then (Cursor.mk [] cur.line).fail .unexpectedEof
    else return (String.ofList run, ⟨after, cur.line⟩)

/-- The attributes of a start tag and whether it closes itself, up to its `>`. -/
def readAttrs (entities : List (String × String)) :
    Nat → List Attr → Cursor → Lex (List Attr × Bool × Cursor)
  | 0, acc, cur => .ok (acc, false, cur)
  | fuel + 1, acc, cur => do
    let c0 := skipSpace cur
    let (b, c1) ← c0.take
    if b == '/' then
      let (b2, c2) ← c1.take
      if b2 != '>' then c2.fail .expectedSelfClose else return (acc, true, c2)
    else if b == '>' then return (acc, false, c1)
    else
      match ← readQName c0 with
      | (none, c) => c.fail .expectedAttrName
      | (some name, c) =>
        let c' := skipSpace c
        let (b2, c2) ← c'.take
        if b2 != '=' then readAttrs entities fuel (acc ++ [⟨name, name.localName⟩]) c'
        else
          let (v, c3) ← readAttrValue entities (skipSpace c2)
          readAttrs entities fuel (acc ++ [⟨name, v⟩]) c3

/-- The line after reading `b` on line `line`. -/
def lineAfter (b : Char) (line : Nat) : Nat :=
  if b == '\n' then line + 1 else line

/-- Characters up to and including the first `?>`; the text before it. -/
def readInstructionBody : List Char → Char → List Char → Nat → Lex (List Char × Cursor)
  | _, _, [], line => .error (.unexpectedEof, line)
  | acc, b0, b :: r, line =>
    if b0 == '?' && b == '>' then .ok (acc.dropLast, ⟨r, lineAfter b line⟩)
    else readInstructionBody (acc ++ [b]) b r (lineAfter b line)

/-- The body of a comment after `<!--`, up to `-->`; `--` may not appear before the end. -/
def readCommentBody : List Char → Char → Char → List Char → Nat → Lex (List Char × Cursor)
  | _, _, _, [], line => .error (.unexpectedEof, line)
  | acc, b0, b1, b :: r, line =>
    if b0 == '-' && b1 == '-' then
      if b != '>' then .error (.doubleDashInComment, lineAfter b line)
      else .ok (acc.dropLast.dropLast, ⟨r, lineAfter b line⟩)
    else readCommentBody (acc ++ [b]) b1 b r (lineAfter b line)

/-- Skips a comment inside a directive, up to and including `-->`. -/
def skipDirectiveComment : Char → Char → List Char → Nat → Lex Cursor
  | _, _, [], line => .error (.unexpectedEof, line)
  | b0, b1, b :: r, line =>
    if b0 == '-' && b1 == '-' && b == '>' then .ok ⟨r, lineAfter b line⟩
    else skipDirectiveComment b1 b r (lineAfter b line)

/-- The body of a directive after `<!` and its first character: up to a `>` outside quotes
and outside nested `<…>`; comments inside become a blank. `pending` is a character read already
and not handled yet; every step, reading a character or handling one, takes one unit of fuel. -/
def readDirectiveBody : Nat → List Char → Char → Nat → Option Char → Cursor →
    Lex (List Char × Cursor)
  | 0, acc, _, _, _, cur => .ok (acc, cur)
  | fuel + 1, acc, inquote, depth, none, cur => do
    let (b, c1) ← cur.take
    if inquote == '\x00' && b == '>' && depth == 0 then return (acc, c1)
    readDirectiveBody fuel acc inquote depth (some b) c1
  | fuel + 1, acc, inquote, depth, some b, c1 => do
    let acc := acc ++ [b]
    if b == inquote then readDirectiveBody fuel acc '\x00' depth none c1
    else if inquote != '\x00' then readDirectiveBody fuel acc inquote depth none c1
    else if b == Char.ofNat 39 || b == '"' then readDirectiveBody fuel acc b depth none c1
    else if b == '>' then readDirectiveBody fuel acc inquote (depth - 1) none c1
    else if b == '<' then
      let (x1, c2) ← c1.take
      if x1 != '!' then readDirectiveBody fuel acc inquote (depth + 1) (some x1) c2
      else
        let (x2, c3) ← c2.take
        if x2 != '-' then readDirectiveBody fuel (acc ++ ['!']) inquote (depth + 1) (some x2) c3
        else
          let (x3, c4) ← c3.take
          if x3 != '-' then
            readDirectiveBody fuel (acc ++ ['!', '-']) inquote (depth + 1) (some x3) c4
          else
            let c5 ← skipDirectiveComment '\x00' '\x00' c4.rest c4.line
            readDirectiveBody fuel (acc.dropLast ++ [' ']) inquote depth none c5
    else readDirectiveBody fuel acc inquote depth none c1

/-- The value of the first `param="…"` (or with single quotes) in an instruction body whose
`=` is followed by a quote and whose value is closed; `""` when there is none. -/
def instructionParam (param : String) (body : String) : String :=
  let key := (param ++ "=").toList
  let rec search : Nat → List Char → String
    | 0, _ => ""
    | fuel + 1, cs =>
      match (List.range cs.length).find? (fun k => key.isPrefixOf (cs.drop k)) with
      | none => ""
      | some k =>
        match cs.drop (k + key.length) with
        | [] => ""
        | q :: r =>
          if q == '"' || q == Char.ofNat 39 then
            if r.contains q then String.ofList (r.takeWhile (· != q)) else ""
          else search fuel r
  search (body.length + 1) body.toList

/-- Reads the six characters of `CDATA[` after `<![`. -/
def expectCdata : List Char → Cursor → Lex Cursor
  | [], cur => .ok cur
  | c :: cs, cur => do
    let (b, next) ← cur.take
    if b != c then next.fail .badCdataStart else expectCdata cs next

/-- The next token at the cursor and the cursor after it; `none` at the end of the text. -/
def nextToken (entities : List (String × String)) (cur : Cursor) : Lex (Option (Token × Cursor)) :=
  match cur.rest with
  | [] => .ok none
  | b :: _ =>
    if b != '<' then do
      let (data, c) ← readText entities .markup cur
      return some (.text data, c)
    else do
      let c1 := cur.advance
      let (b, c2) ← c1.take
      if b == '/' then
        match ← readQName c2 with
        | (none, c) => c.fail .expectedEndName
        | (some name, c) =>
          let (b', c3) ← (skipSpace c).take
          if b' != '>' then c3.fail (.junkInEndTag name.localName) else return some (.stop name, c3)
      else if b == '?' then
        match ← readName c2 with
        | (none, c) => c.fail .expectedTarget
        | (some target, c) =>
          let c' := skipSpace c
          let (body, c3) ← readInstructionBody [] '\x00' c'.rest c'.line
          let inst := String.ofList body
          let version := instructionParam "version" inst
          if target == "xml" && !version.isEmpty && version != "1.0" then
            c3.fail (.unsupportedVersion version)
          else return some (.instruction target inst, c3)
      else if b == '!' then
        let (b', c3) ← c2.take
        if b' == '-' then
          let (b3, c4) ← c3.take
          if b3 != '-' then c4.fail .badCommentStart
          else
            let (body, c5) ← readCommentBody [] '\x00' '\x00' c4.rest c4.line
            return some (.comment (String.ofList body), c5)
        else if b' == '[' then
          let c4 ← expectCdata "CDATA[".toList c3
          let (data, c5) ← readText entities .cdata c4
          return some (.text data, c5)
        else
          let (body, c4) ← readDirectiveBody (2 * c3.rest.length + 4) [b'] '\x00' 0 none c3
          return some (.directive (String.ofList body), c4)
      else
        match ← readQName c1 with
        | (none, c) => c.fail .expectedElementName
        | (some name, c) =>
          let (attrs, selfClosing, c') ← readAttrs entities (c.rest.length + 1) [] c
          return some (.start name attrs selfClosing, c')

end UtilityStyles.Markup
