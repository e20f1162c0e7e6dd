import UtilityStyles.Yaml.Token
/-!
# Cutting a YAML text into tokens

The scanner reads the text once, from left to right, and keeps a queue of tokens that the parser
takes from the front. Indentation is turned into tokens: a line that starts a deeper block opens
it (`blockSequenceStart`, `blockMappingStart`) and a line that comes back out closes it
(`blockEnd`), in the block context only; brackets nest flow collections instead.

A key without `?` (a simple key) is only recognised when the `:` after it is read, so the place
where a key could start is remembered (`SimpleKey`), one per flow level, and a `key` token (and
the opening of a mapping) is put into the queue at that place afterwards. A possible key lapses
when the line ends or when it grows past 1024 characters; a key at the indentation of its block
is required, and lapsing is then an error. The parser is therefore handed a token only once the
queue holds at least three and the front token can no longer become a key.

## Main definitions

* `SimpleKey`, `Scanner`, `Scanner.start`.
* `Scanner.fetchNextToken`, `Scanner.fetchMoreTokens`.
* `Scanner.peekToken`, `Scanner.skipToken`.
-/

namespace UtilityStyles.Yaml

/-- A place where a simple key may start. -/
structure SimpleKey where
  possible : Bool
  /-- A key at the indentation of its block must be one. -/
  required : Bool
  /-- The number of the token the key would stand before. -/
  tokenNumber : Nat
  mark : Mark
  deriving Repr, Inhabited

/-- The state of the scanner. `mark.index` is the position of the next character. -/
structure Scanner where
  input : Array Char
  mark : Mark
  /-- Tokens scanned and not yet taken by the parser, the next one first. -/
  queue : List Token
  tokensParsed : Nat
  /-- The column of the innermost block; `-1` outside every block. -/
  indent : Int
  indents : List Int
  simpleKeyAllowed : Bool
  /-- One possible simple key per flow level, the innermost first. -/
  simpleKeys : List SimpleKey
  flowLevel : Nat
  streamStartProduced : Bool
  streamEndProduced : Bool
  deriving Inhabited

namespace Scanner

/-- A scanner at the start of a text; a byte order mark in front is dropped. -/
def start (text : String) : Scanner :=
  let cs := match text.toList with
    | c :: rest => if c.toNat == 0xFEFF then rest else c :: rest
    | [] => []
  { input := cs.toArray, mark := ⟨0, 0, 0⟩, queue := [], tokensParsed := 0, indent := -1,
    indents := [], simpleKeyAllowed := false, simpleKeys := [], flowLevel := 0,
    streamStartProduced := false, streamEndProduced := false }

/-- A bound on the steps of any loop over the rest of the text. -/
def budget (s : Scanner) : Nat := s.input.size + 2

/-- The character `k` places ahead; the end character past the end of the text. -/
def ahead (s : Scanner) (k : Nat) : Char := s.input.getD (s.mark.index + k) endChar

/-- The next character. -/
def cur (s : Scanner) : Char := s.ahead 0

/-- Moves past one character of a line. -/
def skip (s : Scanner) : Scanner :=
  { s with mark := { s.mark with index := s.mark.index + 1, column := s.mark.column + 1 } }

/-- Moves past a line break (a carriage return and line feed count as one). -/
def skipLine (s : Scanner) : Scanner :=
  if s.cur == '\r' && s.ahead 1 == '\n' then
    { s with mark := ⟨s.mark.index + 2, s.mark.line + 1, 0⟩ }
  else if isBreak s.cur then
    { s with mark := ⟨s.mark.index + 1, s.mark.line + 1, 0⟩ }
  else s

/-- Moves past the next character and adds it to a text. -/
def read (s : Scanner) (acc : String) : Scanner × String := (s.skip, acc.push s.cur)

/-- Moves past a line break and adds it to a text: as a line feed, except line and paragraph
separators, which are kept. -/
def readLine (s : Scanner) (acc : String) : Scanner × String :=
  let c := s.cur
  if c == '\r' || c == '\n' || c.toNat == 0x85 then (s.skipLine, acc.push '\n')
  else if isBreak c then (s.skipLine, acc.push c)
  else (s, acc)

/-- Moves on while a test holds. -/
def skipWhile (p : Scanner → Bool) : Nat → Scanner → Scanner
  | 0, s => s
  | n + 1, s => if p s then skipWhile p n s.skip else s

/-- Reads characters into a text while they pass a test. -/
def readWhile (p : Char → Bool) : Nat → Scanner → String → Scanner × String
  | 0, s, acc => (s, acc)
  | n + 1, s, acc =>
    if p s.cur then
      let (s', acc') := s.read acc
      readWhile p n s' acc'
    else (s, acc)

/-- Moves on to a position, across line breaks. -/
def advanceTo (target : Nat) : Nat → Scanner → Scanner
  | 0, s => s
  | n + 1, s =>
    if s.mark.index < target then advanceTo target n (if isBreak s.cur then s.skipLine else s.skip)
    else s

/-- The offset of the next comment when only blanks and line breaks stand before it, at most 512
characters ahead. -/
def commentAhead (s : Scanner) : Nat → Nat → Option Nat
  | 0, _ => none
  | n + 1, k =>
    let c := s.ahead k
    if c == '#' then some k
    else if isBlank c || isBreak c then commentAhead s n (k + 1)
    else none

/-- Eats a comment up to its line break; comments that follow on their own lines, after blanks
and empty lines only, are eaten with it. -/
def eatComments : Nat → Scanner → Scanner
  | 0, s => s
  | n + 1, s =>
    let s := skipWhile (fun s => !isBreakZ s.cur) s.budget s
    match s.commentAhead 512 0 with
    | some k => eatComments n (advanceTo (s.mark.index + k) s.budget s)
    | none => s

/-- Eats blanks, comments and line breaks up to the next token. Tabs count as blanks only in the
flow context and where no simple key may start; a line break in the block context allows one. -/
def scanToNextToken : Nat → Scanner → Scanner
  | 0, s => s
  | n + 1, s =>
    let s := if s.mark.column == 0 && s.cur.toNat == 0xFEFF then s.skip else s
    let s := skipWhile (fun s => s.cur == ' ' ||
      ((s.flowLevel > 0 || !s.simpleKeyAllowed) && s.cur == '\t')) s.budget s
    let s := if s.cur == '#' then eatComments s.budget s else s
    if isBreak s.cur then
      let s := s.skipLine
      scanToNextToken n (if s.flowLevel == 0 then { s with simpleKeyAllowed := true } else s)
    else s

/-- An error of the scanner at the current position. -/
def fail (s : Scanner) (context : String) (contextMark : Mark) (problem : String) : YamlError :=
  .scanner context contextMark problem s.mark

/-- The number the next token will have. -/
def nextTokenNumber (s : Scanner) : Nat := s.tokensParsed + s.queue.length

/-- Appends a token to the queue. -/
def push (s : Scanner) (kind : TokenKind) (start stop : Mark) : Scanner :=
  { s with queue := s.queue ++ [⟨kind, start, stop⟩] }

/-- Puts a token into the queue at a place counted from its front. -/
def insertAt (s : Scanner) (pos : Nat) (t : Token) : Scanner :=
  { s with queue := s.queue.take pos ++ t :: s.queue.drop pos }

/-- Drops the possible simple key of the current flow level; an error when it was required. -/
def removeSimpleKey (s : Scanner) : Except YamlError Scanner :=
  match s.simpleKeys with
  | k :: rest =>
    if k.possible then
      if k.required then .error (s.fail "while scanning a simple key" k.mark ("could not find expected " ++ Text.inApostrophes ":"))
      else .ok { s with simpleKeys := { k with possible := false } :: rest }
    else .ok s
  | [] => .ok s

/-- Remembers that a simple key may start here, when one may. -/
def saveSimpleKey (s : Scanner) : Except YamlError Scanner :=
  if s.simpleKeyAllowed then
    let k : SimpleKey :=
      ⟨true, s.flowLevel == 0 && s.indent == (s.mark.column : Int), s.nextTokenNumber, s.mark⟩
    (s.removeSimpleKey).map fun s' => { s' with simpleKeys := k :: s'.simpleKeys.drop 1 }
  else .ok s

/-- Whether a possible simple key still stands: it lapses when the scanner has left its line or
gone 1024 characters past it, which is an error for a required key. -/
def keyValid (s : Scanner) (k : SimpleKey) : Except YamlError (Bool × SimpleKey) :=
  if !k.possible then .ok (false, k)
  else if k.mark.line < s.mark.line || k.mark.index + 1024 < s.mark.index then
    if k.required then .error (s.fail "while scanning a simple key" k.mark ("could not find expected " ++ Text.inApostrophes ":"))
    else .ok (false, { k with possible := false })
  else .ok (true, k)

/-- Enters a flow collection. -/
def increaseFlowLevel (s : Scanner) : Except YamlError Scanner :=
  let k : SimpleKey := ⟨false, false, s.nextTokenNumber, s.mark⟩
  let s := { s with simpleKeys := k :: s.simpleKeys, flowLevel := s.flowLevel + 1 }
  if s.flowLevel > 10000 then .error (s.fail "while increasing flow level" k.mark "exceeded max depth of 10000")
  else .ok s

/-- Leaves a flow collection. -/
def decreaseFlowLevel (s : Scanner) : Scanner :=
  if s.flowLevel > 0 then { s with flowLevel := s.flowLevel - 1, simpleKeys := s.simpleKeys.drop 1 }
  else s

/-- Opens a block at a column deeper than the current one, with its token put at a place of the
queue (given by token number) or at its end. -/
def rollIndent (s : Scanner) (column : Int) (number : Option Nat) (kind : TokenKind) (mark : Mark) :
    Except YamlError Scanner :=
  if s.flowLevel > 0 then .ok s
  else if s.indent < column then
    let s := { s with indents := s.indent :: s.indents, indent := column }
    if s.indents.length > 10000 then
      .error (s.fail "while increasing indent level" ((s.simpleKeys.headD default).mark)
        "exceeded max depth of 10000")
    else
      let t : Token := ⟨kind, mark, mark⟩
      .ok (match number with
        | some n => s.insertAt (n - s.tokensParsed) t
        | none => { s with queue := s.queue ++ [t] })
  else .ok s

/-- Closes the blocks deeper than a column. -/
def unrollLoop (column : Int) (blockMark : Mark) : Nat → Scanner → Scanner
  | 0, s => s
  | n + 1, s =>
    if s.indent > column then
      match s.indents with
      | i :: rest =>
        unrollLoop column blockMark n
          { s with queue := s.queue ++ [⟨.blockEnd, blockMark, blockMark⟩], indent := i, indents := rest }
      | [] => s
    else s

/-- Closes the blocks deeper than a column, in the block context; the closing tokens stand just
before where the scan for the next token began. -/
def unrollIndent (s : Scanner) (column : Int) (scanMark : Mark) : Scanner :=
  if s.flowLevel > 0 then s
  else unrollLoop column { scanMark with index := scanMark.index - 1 } (s.indents.length + 1) s

/-- The first token of every stream. -/
def fetchStreamStart (s : Scanner) : Scanner :=
  { s with indent := -1, simpleKeys := [⟨false, false, 0, s.mark⟩], simpleKeyAllowed := true,
           streamStartProduced := true }.push .streamStart s.mark s.mark

/-- The end of the stream: a line is ended, every block closed and every possible key dropped. -/
def fetchStreamEnd (s : Scanner) : Except YamlError Scanner := do
  let s := if s.mark.column != 0 then { s with mark := { s.mark with column := 0, line := s.mark.line + 1 } } else s
  let s := s.unrollIndent (-1) s.mark
  let s ← s.removeSimpleKey
  let s := { s with simpleKeyAllowed := false }
  return s.push .streamEnd s.mark s.mark

/-- Reads the digits of a version number, at most two. -/
def versionNumber (s : Scanner) (startMark : Mark) : Except YamlError (Scanner × Nat) :=
  let (s', ds) := readWhile isDigit 3 s ""
  if ds.length > 2 then
    .error ((s.skip.skip).fail "while scanning a %YAML directive" startMark "found extremely long version number")
  else if ds.isEmpty then
    .error (s'.fail "while scanning a %YAML directive" startMark "did not find expected version number")
  else .ok (s', ds.foldl (fun n c => 10 * n + (c.toNat - 48)) 0)

/-- The tag context of an error: a directive's or a tag's. -/
def tagContext (directive : Bool) : String :=
  if directive then "while parsing a %TAG directive" else "while parsing a tag"

/-- Reads a tag handle: `!`, then letters and digits, then `!` when there is one. -/
def scanTagHandle (s : Scanner) (directive : Bool) (startMark : Mark) :
    Except YamlError (Scanner × String) :=
  if s.cur != '!' then .error (s.fail (tagContext directive) startMark ("did not find expected " ++ Text.inApostrophes "!"))
  else
    let (s, h) := s.read ""
    let (s, h) := readWhile isWordChar s.budget s h
    if s.cur == '!' then .ok (s.read h)
    else if directive && h != "!" then
      .error (s.fail (tagContext directive) startMark ("did not find expected " ++ Text.inApostrophes "!"))
    else .ok (s, h)

/-- A character of a tag's URI; the flow indicators only inside `!<…>`. -/
def isUriChar (uriChar : Bool) (c : Char) : Bool :=
  isWordChar c || ";/?:@&=+$.%!~*()".toList.contains c || c.toNat == 39 ||
    (uriChar && (c == ',' || c == '[' || c == ']'))

/-- Reads the escaped octets of a URI, `%` and two hexadecimal digits each. -/
def uriEscapes (directive : Bool) (startMark : Mark) : Nat → Scanner → String →
    Except YamlError (Scanner × String)
  | 0, s, acc => .ok (s, acc)
  | n + 1, s, acc =>
    if s.cur != '%' then .ok (s, acc)
    else
      match hexValue (s.ahead 1), hexValue (s.ahead 2) with
      | some a, some b =>
        uriEscapes directive startMark n s.skip.skip.skip (acc.push (Char.ofNat (16 * a + b)))
      | _, _ => .error (s.fail (tagContext directive) startMark "did not find URI escaped octet")

/-- Reads the URI of a tag after the given head (whose `!` is dropped). -/
def scanTagUri (s : Scanner) (uriChar directive : Bool) (head : String) (startMark : Mark) :
    Except YamlError (Scanner × String) :=
  let rec go : Nat → Scanner → String → Bool → Except YamlError (Scanner × String × Bool)
    | 0, s, acc, has => .ok (s, acc, has)
    | n + 1, s, acc, has =>
      if isUriChar uriChar s.cur then
        if s.cur == '%' then
          match uriEscapes directive startMark s.budget s acc with
          | .ok (s', acc') => go n s' acc' true
          | .error e => .error e
        else
          let (s', acc') := s.read acc
          go n s' acc' true
      else .ok (s, acc, has)
  match go s.budget s (if head.length > 1 then head.drop 1 |>.toString else "") (head.length > 0) with
  | .ok (s', acc, has) =>
    if has then .ok (s', acc)
    else .error (s'.fail (tagContext directive) startMark "did not find expected tag URI")
  | .error e => .error e

/-- Reads a `%TAG` directive's handle and prefix. -/
def tagDirectiveValue (s : Scanner) (startMark : Mark) : Except YamlError (Scanner × TokenKind) := do
  let s := skipWhile (fun s => isBlank s.cur) s.budget s
  let (s, handle) ← s.scanTagHandle true startMark
  if !isBlank s.cur then
    throw (s.fail "while scanning a %TAG directive" startMark "did not find expected whitespace")
  let s := skipWhile (fun s => isBlank s.cur) s.budget s
  let (s, pfx) ← s.scanTagUri true true "" startMark
  if !isBlankZ s.cur then
    throw (s.fail "while scanning a %TAG directive" startMark "did not find expected whitespace or line break")
  return (s, .tagDirective handle pfx)

/-- Reads a directive line: `%YAML` with a version or `%TAG` with a handle and a prefix. -/
def fetchDirective (s : Scanner) : Except YamlError Scanner := do
  let s := s.unrollIndent (-1) s.mark
  let s ← s.removeSimpleKey
  let s := { s with simpleKeyAllowed := false }
  let startMark := s.mark
  let s := s.skip
  let (s, name) := readWhile isWordChar s.budget s ""
  if name.isEmpty then
    throw (s.fail "while scanning a directive" startMark "could not find expected directive name")
  if !isBlankZ s.cur then
    throw (s.fail "while scanning a directive" startMark "found unexpected non-alphabetical character")
  let (s, kind) ←
    if name == "YAML" then do
      let s := skipWhile (fun s => isBlank s.cur) s.budget s
      let (s, major) ← s.versionNumber startMark
      if s.cur != '.' then
        throw (s.fail "while scanning a %YAML directive" startMark ("did not find expected digit or " ++ Text.inApostrophes "." ++ " character"))
      let (s, minor) ← s.skip.versionNumber startMark
      pure (s, TokenKind.versionDirective major minor)
    else if name == "TAG" then s.tagDirectiveValue startMark
    else throw (s.fail "while scanning a directive" startMark "found unknown directive name")
  let endMark := s.mark
  let s := skipWhile (fun s => isBlank s.cur) s.budget s
  let s := if s.cur == '#' then skipWhile (fun s => !isBreakZ s.cur) s.budget s else s
  if !isBreakZ s.cur then
    throw (s.fail "while scanning a directive" startMark "did not find expected comment or line break")
  let s := s.skipLine
  return s.push kind startMark endMark

/-- A document start `---` or end `...` at the start of a line. -/
def fetchDocumentIndicator (s : Scanner) (kind : TokenKind) : Except YamlError Scanner := do
  let s := s.unrollIndent (-1) s.mark
  let s ← s.removeSimpleKey
  let startMark := s.mark
  let s := { s with simpleKeyAllowed := false }.skip.skip.skip
  return s.push kind startMark s.mark

/-- An opening bracket of a flow collection. -/
def fetchFlowCollectionStart (s : Scanner) (kind : TokenKind) : Except YamlError Scanner := do
  let s ← s.saveSimpleKey
  let s ← s.increaseFlowLevel
  let startMark := s.mark
  let s := { s with simpleKeyAllowed := true }.skip
  return s.push kind startMark s.mark

/-- A closing bracket of a flow collection. -/
def fetchFlowCollectionEnd (s : Scanner) (kind : TokenKind) : Except YamlError Scanner := do
  let s ← s.removeSimpleKey
  let s := s.decreaseFlowLevel
  let startMark := s.mark
  let s := { s with simpleKeyAllowed := false }.skip
  return s.push kind startMark s.mark

/-- A comma between flow entries. -/
def fetchFlowEntry (s : Scanner) : Except YamlError Scanner := do
  let s ← s.removeSimpleKey
  let startMark := s.mark
  let s := { s with simpleKeyAllowed := true }.skip
  return s.push .flowEntry startMark s.mark

/-- A block sequence entry `-`; in the block context it may open a sequence. -/
def fetchBlockEntry (s : Scanner) : Except YamlError Scanner := do
  let s ← if s.flowLevel == 0 then do
      if !s.simpleKeyAllowed then
        throw (s.fail "" s.mark "block sequence entries are not allowed in this context")
      s.rollIndent s.mark.column none .blockSequenceStart s.mark
    else pure s
  let s ← s.removeSimpleKey
  let startMark := s.mark
  let s := { s with simpleKeyAllowed := true }.skip
  return s.push .blockEntry startMark s.mark

/-- A complex key `?`; in the block context it may open a mapping. -/
def fetchKey (s : Scanner) : Except YamlError Scanner := do
  let s ← if s.flowLevel == 0 then do
      if !s.simpleKeyAllowed then
        throw (s.fail "" s.mark "mapping keys are not allowed in this context")
      s.rollIndent s.mark.column none .blockMappingStart s.mark
    else pure s
  let s ← s.removeSimpleKey
  let startMark := s.mark
  let s := { s with simpleKeyAllowed := s.flowLevel == 0 }.skip
  return s.push .key startMark s.mark

/-- A value indicator `:`. After a simple key, the key token (and the opening of a mapping) is
put in front of the key; otherwise it follows a complex key. -/
def fetchValue (s : Scanner) : Except YamlError Scanner := do
  let k := s.simpleKeys.headD default
  let (valid, k) ← s.keyValid k
  let s := { s with simpleKeys := k :: s.simpleKeys.drop 1 }
  let s ← if valid then do
      let s := s.insertAt (k.tokenNumber - s.tokensParsed) ⟨.key, k.mark, k.mark⟩
      let s ← s.rollIndent k.mark.column (some k.tokenNumber) .blockMappingStart k.mark
      pure { s with simpleKeys := { k with possible := false } :: s.simpleKeys.drop 1,
                    simpleKeyAllowed := false }
    else do
      let s ← if s.flowLevel == 0 then do
          if !s.simpleKeyAllowed then
            throw (s.fail "" s.mark "mapping values are not allowed in this context")
          s.rollIndent s.mark.column none .blockMappingStart s.mark
        else pure s
      pure { s with simpleKeyAllowed := s.flowLevel == 0 }
  let startMark := s.mark
  let s := s.skip
  return s.push .value startMark s.mark

/-- An anchor `&name` or an alias `*name`. -/
def fetchAnchor (s : Scanner) (isAlias : Bool) : Except YamlError Scanner := do
  let s ← s.saveSimpleKey
  let s := { s with simpleKeyAllowed := false }
  let startMark := s.mark
  let (s, name) := readWhile isWordChar s.budget s.skip ""
  let c := s.cur
  if name.isEmpty || !(isBlankZ c || "?:,]\x7d%@".toList.contains c || c.toNat == 96) then
    throw (s.fail (if isAlias then "while scanning an alias" else "while scanning an anchor") startMark
      "did not find expected alphabetic or numeric character")
  return s.push (if isAlias then .alias name else .anchor name) startMark s.mark

/-- A tag: `!<uri>`, `!handle!suffix`, `!suffix` or `!` alone. -/
def fetchTag (s : Scanner) : Except YamlError Scanner := do
  let s ← s.saveSimpleKey
  let s := { s with simpleKeyAllowed := false }
  let startMark := s.mark
  let (s, handle, suffix) ←
    if s.ahead 1 == '<' then do
      let (s, suffix) ← s.skip.skip.scanTagUri true false "" startMark
      if s.cur != '>' then throw (s.fail "while scanning a tag" startMark ("did not find the expected " ++ Text.inApostrophes ">"))
      pure (s.skip, "", suffix)
    else do
      let (s, h) ← s.scanTagHandle false startMark
      if h.length > 1 && h.startsWith "!" && h.endsWith "!" then do
        let (s, suffix) ← s.scanTagUri false false "" startMark
        pure (s, h, suffix)
      else do
        let (s, suffix) ← s.scanTagUri false false h startMark
        if suffix.isEmpty then pure (s, "", "!") else pure (s, "!", suffix)
  if !isBlankZ s.cur && (s.flowLevel == 0 || s.cur != ',') then
    throw (s.fail "while scanning a tag" startMark "did not find expected whitespace or line break")
  return s.push (.tag handle suffix) startMark s.mark

/-- The pieces of a scalar being read: its text, the line breaks and blanks read since its last
character, and whether a line break came among them. -/
structure Pending where
  s : Scanner
  text : String
  leadingBreak : String
  trailingBreaks : String
  whitespaces : String
  leadingBlanks : Bool
  deriving Inhabited

/-- Joins the blanks and line breaks read into the text: a single line feed folds into a blank,
further ones stay; blanks within a line stay. -/
def Pending.join (p : Pending) : Pending :=
  if p.leadingBlanks then
    let text :=
      if p.leadingBreak.startsWith "\n" then
        if p.trailingBreaks.isEmpty then p.text.push ' ' else p.text ++ p.trailingBreaks
      else p.text ++ p.leadingBreak ++ p.trailingBreaks
    { p with text, leadingBreak := "", trailingBreaks := "", leadingBlanks := false }
  else { p with text := p.text ++ p.whitespaces, whitespaces := "" }

/-- Reads blanks and line breaks between the lines of a scalar. A tab where the indentation
of a plain scalar's continuation line should be is an error when `plainIndent` is given. -/
def Pending.blanks (plainIndent : Option Int) (startMark : Mark) :
    Nat → Pending → Except YamlError Pending
  | 0, p => .ok p
  | n + 1, p =>
    let s := p.s
    if isBlank s.cur then
      match plainIndent with
      | some ind =>
        if p.leadingBlanks && (s.mark.column : Int) < ind && s.cur == '\t' then
          .error (s.fail "while scanning a plain scalar" startMark "found a tab character that violates indentation")
        else if !p.leadingBlanks then
          let (s', w) := s.read p.whitespaces
          Pending.blanks plainIndent startMark n { p with s := s', whitespaces := w }
        else Pending.blanks plainIndent startMark n { p with s := s.skip }
      | none =>
        if !p.leadingBlanks then
          let (s', w) := s.read p.whitespaces
          Pending.blanks plainIndent startMark n { p with s := s', whitespaces := w }
        else Pending.blanks plainIndent startMark n { p with s := s.skip }
    else if isBreak s.cur then
      if !p.leadingBlanks then
        let (s', lb) := s.readLine ""
        Pending.blanks plainIndent startMark n
          { p with s := s', whitespaces := "", leadingBreak := lb, leadingBlanks := true }
      else
        let (s', tb) := s.readLine p.trailingBreaks
        Pending.blanks plainIndent startMark n { p with s := s', trailingBreaks := tb }
    else .ok p

/-- Whether a document marker `---` or `...` starts at the current place of a line start. -/
def atDocumentMarker (s : Scanner) : Bool :=
  s.mark.column == 0 &&
    ((s.cur == '-' && s.ahead 1 == '-' && s.ahead 2 == '-') ||
      (s.cur == '.' && s.ahead 1 == '.' && s.ahead 2 == '.')) &&
    isBlankZ (s.ahead 3)

/-- Reads the characters of one stretch of a plain scalar, up to a blank or an indicator. -/
def plainWord (flow : Bool) : Nat → Pending × Mark → Pending × Mark
  | 0, acc => acc
  | n + 1, (p, endMark) =>
    let s := p.s
    if isBlankZ s.cur then (p, endMark)
    else if (s.cur == ':' && isBlankZ (s.ahead 1)) ||
        (flow && (s.cur == ',' || s.cur == '[' || s.cur == ']' || s.cur == '{' || s.cur == '}')) then
      (p, endMark)
    else
      let p := if p.leadingBlanks || !p.whitespaces.isEmpty then p.join else p
      let (s', text) := p.s.read p.text
      plainWord flow n ({ p with s := s', text }, s'.mark)

/-- Reads a plain scalar line by line: it ends at a comment, a document marker, an indicator,
or a line indented no deeper than its block. -/
def plainLines (indent : Int) (startMark : Mark) :
    Nat → Pending × Mark → Except YamlError (Pending × Mark)
  | 0, acc => .ok acc
  | n + 1, (p, endMark) =>
    let s := p.s
    if s.atDocumentMarker || s.cur == '#' then .ok (p, endMark)
    else
      let (p, endMark) := plainWord (s.flowLevel > 0) p.s.budget (p, endMark)
      if !(isBlank p.s.cur || isBreak p.s.cur) then .ok (p, endMark)
      else
        match Pending.blanks (some indent) startMark p.s.budget p with
        | .error e => .error e
        | .ok p =>
          if p.s.flowLevel == 0 && (p.s.mark.column : Int) < indent then .ok (p, endMark)
          else plainLines indent startMark n (p, endMark)

/-- A plain scalar. A line break inside it allows a simple key after it. -/
def fetchPlainScalar (s : Scanner) : Except YamlError Scanner := do
  let s ← s.saveSimpleKey
  let s := { s with simpleKeyAllowed := false }
  let startMark := s.mark
  let (p, endMark) ← plainLines (s.indent + 1) startMark s.budget (⟨s, "", "", "", "", false⟩, s.mark)
  let s := if p.leadingBlanks then { p.s with simpleKeyAllowed := true } else p.s
  return s.push (.scalar p.text .plain) startMark endMark

/-- The character an escape letter stands for in a double-quoted scalar, and how many hexadecimal
digits follow the letters `x`, `u` and `U`. -/
def escapeOf (c : Char) : Option (Option Char × Nat) :=
  match c with
  | '0' => some (some (Char.ofNat 0), 0)
  | 'a' => some (some (Char.ofNat 7), 0)
  | 'b' => some (some (Char.ofNat 8), 0)
  | 't' | '\t' => some (some '\t', 0)
  | 'n' => some (some '\n', 0)
  | 'v' => some (some (Char.ofNat 11), 0)
  | 'f' => some (some (Char.ofNat 12), 0)
  | 'r' => some (some '\r', 0)
  | 'e' => some (some (Char.ofNat 27), 0)
  | ' ' => some (some ' ', 0)
  | '"' => some (some '"', 0)
  | '/' => some (some '/', 0)
  | '\\' => some (some '\\', 0)
  | 'N' => some (some (Char.ofNat 0x85), 0)
  | '_' => some (some (Char.ofNat 0xA0), 0)
  | 'L' => some (some (Char.ofNat 0x2028), 0)
  | 'P' => some (some (Char.ofNat 0x2029), 0)
  | 'x' => some (none, 2)
  | 'u' => some (none, 4)
  | 'U' => some (none, 8)
  | _ => if c.toNat == 39 then some (some c, 0) else none

/-- The value of `k` hexadecimal digits ahead, from an offset. -/
def hexAhead (s : Scanner) (offset : Nat) : Nat → Option Nat
  | 0 => some 0
  | k + 1 =>
    match hexAhead s offset k, hexValue (s.ahead (offset + k)) with
    | some v, some d => some (16 * v + d)
    | _, _ => none

/-- Reads the characters of one line of a quoted scalar, up to a blank or the closing quote. An
escaped line break ends the line too. -/
def quotedWord (single : Bool) (startMark : Mark) : Nat → Pending → Except YamlError Pending
  | 0, p => .ok p
  | n + 1, p =>
    let s := p.s
    let c := s.cur
    if isBlankZ c then .ok p
    else if single && c.toNat == 39 && (s.ahead 1).toNat == 39 then
      quotedWord single startMark n { p with s := s.skip.skip, text := p.text.push c }
    else if single && c.toNat == 39 then .ok p
    else if !single && c == '"' then .ok p
    else if !single && c == '\\' && isBreak (s.ahead 1) then
      .ok { p with s := s.skip.skipLine, leadingBlanks := true }
    else if !single && c == '\\' then
      match escapeOf (s.ahead 1) with
      | none => .error (s.fail "while parsing a quoted scalar" startMark "found unknown escape character")
      | some (some e, _) => quotedWord single startMark n { p with s := s.skip.skip, text := p.text.push e }
      | some (none, len) =>
        let s := s.skip.skip
        match hexAhead s 0 len with
        | none => .error (s.fail "while parsing a quoted scalar" startMark "did not find expected hexdecimal number")
        | some v =>
          if (0xD800 ≤ v && v ≤ 0xDFFF) || v > 0x10FFFF then
            .error (s.fail "while parsing a quoted scalar" startMark "found invalid Unicode character escape code")
          else
            quotedWord single startMark n
              { p with s := advanceTo (s.mark.index + len) (len + 1) s, text := p.text.push (Char.ofNat v) }
    else
      let (s', text) := s.read p.text
      quotedWord single startMark n { p with s := s', text }

/-- Reads the lines of a quoted scalar up to its closing quote. -/
def quotedLines (single : Bool) (startMark : Mark) : Nat → Pending → Except YamlError Pending
  | 0, p => .ok p
  | n + 1, p => do
    let s := p.s
    if s.atDocumentMarker then
      throw (s.fail "while scanning a quoted scalar" startMark "found unexpected document indicator")
    if s.cur == endChar then
      throw (s.fail "while scanning a quoted scalar" startMark "found unexpected end of stream")
    let p ← quotedWord single startMark s.budget { p with leadingBlanks := false }
    let c := p.s.cur
    if (single && c.toNat == 39) || (!single && c == '"') then return p
    let p ← Pending.blanks none startMark p.s.budget p
    let p := if p.leadingBlanks then
        let q := p.join
        { q with leadingBlanks := false }
      else { p with text := p.text ++ p.whitespaces, whitespaces := "" }
    quotedLines single startMark n p

/-- A single- or double-quoted scalar. -/
def fetchFlowScalar (s : Scanner) (single : Bool) : Except YamlError Scanner := do
  let s ← s.saveSimpleKey
  let s := { s with simpleKeyAllowed := false }
  let startMark := s.mark
  let p ← quotedLines single startMark s.budget ⟨s.skip, "", "", "", "", false⟩
  let s := p.s.skip
  return s.push (.scalar p.text (if single then .singleQuoted else .doubleQuoted)) startMark s.mark

/-- Eats the indentation and empty lines before a line of a block scalar, and settles the
indentation when it is not yet known: the deepest of the empty lines, at least one deeper
than the enclosing block and at least one. -/
def blockBreaks (blockIndent : Int) (startMark : Mark) (indent : Nat) :
    Nat → Scanner × String × Mark × Nat → Except YamlError (Scanner × String × Mark × Nat)
  | 0, acc => .ok acc
  | n + 1, (s, breaks, endMark, maxIndent) =>
    let s := skipWhile (fun s => (indent == 0 || s.mark.column < indent) && s.cur == ' ') s.budget s
    let maxIndent := max maxIndent s.mark.column
    if (indent == 0 || s.mark.column < indent) && s.cur == '\t' then
      .error (s.fail "while scanning a block scalar" startMark
        "found a tab character where an indentation space is expected")
    else if !isBreak s.cur then .ok (s, breaks, endMark, maxIndent)
    else
      let (s, breaks) := s.readLine breaks
      blockBreaks blockIndent startMark indent n (s, breaks, s.mark, maxIndent)

/-- The indentation of a block scalar: the given one, or the one its first lines settle. -/
def settleIndent (blockIndent : Int) (indent maxIndent : Nat) : Nat :=
  if indent != 0 then indent
  else
    let i : Int := max (max (maxIndent : Int) (blockIndent + 1)) 1
    i.toNat

/-- The state of reading a block scalar's lines. -/
structure BlockLines where
  s : Scanner
  text : String
  leadingBreak : String
  trailingBreaks : String
  leadingBlank : Bool
  endMark : Mark
  deriving Inhabited

/-- Reads the lines of a block scalar at its indentation. Folding joins two lines by a blank
unless either is indented more or an empty line stands between them. -/
def blockLines (literal : Bool) (blockIndent : Int) (startMark : Mark) (indent : Nat) :
    Nat → BlockLines → Except YamlError BlockLines
  | 0, b => .ok b
  | n + 1, b =>
    let s := b.s
    if s.mark.column != indent || s.cur == endChar then .ok b
    else
      let trailingBlank := isBlank s.cur
      let text :=
        if !literal && !b.leadingBlank && !trailingBlank && b.leadingBreak.startsWith "\n" then
          if b.trailingBreaks.isEmpty then b.text.push ' ' else b.text
        else b.text ++ b.leadingBreak
      let text := text ++ b.trailingBreaks
      let leadingBlank := isBlank s.cur
      let (s, text) := readWhile (fun c => !isBreakZ c) s.budget s text
      let (s, leadingBreak) := s.readLine ""
      match blockBreaks blockIndent startMark indent s.budget (s, "", s.mark, 0) with
      | .error e => .error e
      | .ok (s, trailing, endMark, _) =>
        blockLines literal blockIndent startMark indent n
          ⟨s, text, leadingBreak, trailing, leadingBlank, endMark⟩

/-- Reads the header of a block scalar: chomping (`+` keep, `-` strip) and an indentation digit,
in either order. -/
def blockHeader (s : Scanner) (startMark : Mark) : Except YamlError (Scanner × Int × Nat) :=
  let chompOf (c : Char) : Int := if c == '+' then 1 else -1
  let zero := s.fail "while scanning a block scalar" startMark "found an indentation indicator equal to 0"
  if s.cur == '+' || s.cur == '-' then
    let chomp := chompOf s.cur
    let s := s.skip
    if isDigit s.cur then
      if s.cur == '0' then .error (s.fail "while scanning a block scalar" startMark
        "found an indentation indicator equal to 0")
      else .ok (s.skip, chomp, s.cur.toNat - 48)
    else .ok (s, chomp, 0)
  else if isDigit s.cur then
    if s.cur == '0' then .error zero
    else
      let inc := s.cur.toNat - 48
      let s := s.skip
      if s.cur == '+' || s.cur == '-' then .ok (s.skip, chompOf s.cur, inc) else .ok (s, 0, inc)
  else .ok (s, 0, 0)

/-- A literal `|` or folded `>` block scalar. -/
def fetchBlockScalar (s : Scanner) (literal : Bool) : Except YamlError Scanner := do
  let s ← s.removeSimpleKey
  let s := { s with simpleKeyAllowed := true }
  let startMark := s.mark
  let (s, chomp, increment) ← s.skip.blockHeader startMark
  let s := skipWhile (fun s => isBlank s.cur) s.budget s
  let s := if s.cur == '#' then skipWhile (fun s => !isBreakZ s.cur) s.budget s else s
  if !isBreakZ s.cur then
    throw (s.fail "while scanning a block scalar" startMark "did not find expected comment or line break")
  let s := s.skipLine
  let given : Nat :=
    if increment > 0 then (if s.indent ≥ 0 then (s.indent + increment).toNat else increment) else 0
  let (s, breaks, endMark, maxIndent) ← blockBreaks s.indent startMark given s.budget (s, "", s.mark, 0)
  let indent := settleIndent s.indent given maxIndent
  let b ← blockLines literal s.indent startMark indent s.budget ⟨s, "", "", breaks, false, endMark⟩
  let text := if chomp != -1 then b.text ++ b.leadingBreak else b.text
  let text := if chomp == 1 then text ++ b.trailingBreaks else text
  return b.s.push (.scalar text (if literal then .literal else .folded)) startMark b.endMark

/-- Whether a plain scalar starts at the next character. -/
def startsPlain (s : Scanner) : Bool :=
  let c := s.cur
  let indicator := isBlankZ c || "-?:,[]{}#&*!|>\"%@".toList.contains c || c.toNat == 39 || c.toNat == 96
  !indicator || (c == '-' && !isBlank (s.ahead 1)) ||
    (s.flowLevel == 0 && (c == '?' || c == ':') && !isBlankZ (s.ahead 1))

/-- Scans the next token (and any block ends before it) into the queue. -/
def fetchNextToken (s : Scanner) : Except YamlError Scanner :=
  if !s.streamStartProduced then .ok s.fetchStreamStart
  else
    let scanMark := s.mark
    let s := scanToNextToken s.budget s
    let s := s.unrollIndent s.mark.column scanMark
    let c := s.cur
    if c == endChar then s.fetchStreamEnd
    else if s.mark.column == 0 && c == '%' then s.fetchDirective
    else if s.mark.column == 0 && c == '-' && s.ahead 1 == '-' && s.ahead 2 == '-' && isBlankZ (s.ahead 3) then
      s.fetchDocumentIndicator .documentStart
    else if s.mark.column == 0 && c == '.' && s.ahead 1 == '.' && s.ahead 2 == '.' && isBlankZ (s.ahead 3) then
      s.fetchDocumentIndicator .documentEnd
    else if c == '[' then s.fetchFlowCollectionStart .flowSequenceStart
    else if c == '{' then s.fetchFlowCollectionStart .flowMappingStart
    else if c == ']' then s.fetchFlowCollectionEnd .flowSequenceEnd
    else if c == '}' then s.fetchFlowCollectionEnd .flowMappingEnd
    else if c == ',' then s.fetchFlowEntry
    else if c == '-' && isBlankZ (s.ahead 1) then s.fetchBlockEntry
    else if c == '?' && (s.flowLevel > 0 || isBlankZ (s.ahead 1)) then s.fetchKey
    else if c == ':' && (s.flowLevel > 0 || isBlankZ (s.ahead 1)) then s.fetchValue
    else if c == '*' then s.fetchAnchor true
    else if c == '&' then s.fetchAnchor false
    else if c == '!' then s.fetchTag
    else if c == '|' && s.flowLevel == 0 then s.fetchBlockScalar true
    else if c == '>' && s.flowLevel == 0 then s.fetchBlockScalar false
    else if c.toNat == 39 then s.fetchFlowScalar true
    else if c == '"' then s.fetchFlowScalar false
    else if s.startsPlain then s.fetchPlainScalar
    else .error (s.fail "while scanning for the next token" s.mark "found character that cannot start any token")

/-- Checks whether the front token may still become a simple key; such a key that has lapsed
is marked so. -/
def headKeyPending (s : Scanner) : Except YamlError (Bool × Scanner) :=
  match s.simpleKeys.findIdx? (fun k => k.possible && k.tokenNumber == s.tokensParsed) with
  | none => .ok (false, s)
  | some i =>
    match s.keyValid (s.simpleKeys.getD i default) with
    | .error e => .error e
    | .ok (v, k) => .ok (v, { s with simpleKeys := s.simpleKeys.set i k })

/-- Scans until the queue holds at least three tokens and the front one cannot become a key. -/
def fetchMoreTokens : Nat → Scanner → Except YamlError Scanner
  | 0, s => .ok s
  | n + 1, s => do
    let (pending, s) ← if s.queue.length > 2 then s.headKeyPending else pure (true, s)
    if !pending then return s
    let s ← s.fetchNextToken
    fetchMoreTokens n s

/-- The front token, scanning as far as needed. -/
def peekToken (s : Scanner) : Except YamlError (Token × Scanner) := do
  let s ← fetchMoreTokens (4 * s.budget + 16) s
  match s.queue with
  | t :: _ => return (t, s)
  | [] => return (⟨.streamEnd, s.mark, s.mark⟩, s)

/-- Takes the front token off the queue. -/
def skipToken (s : Scanner) : Scanner :=
  match s.queue with
  | t :: rest =>
    { s with queue := rest, tokensParsed := s.tokensParsed + 1,
             streamEndProduced := t.kind == .streamEnd }
  | [] => s

end Scanner

end UtilityStyles.Yaml
