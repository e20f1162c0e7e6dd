import UtilityStyles.Css.Token
/-!
# Reading CSS tokens

The tokenizer of CSS Syntax Level 3, as selectors and style attributes need it: blanks,
punctuation and brackets, strings, comments, numbers (with percentages and dimensions),
identifiers, functions and `url(…)`, hashes, at-keywords, match operators, custom property
names (`--name`) and unicode ranges. Any other character is a one-character delimiter.

Identifier characters are ASCII letters, digits, `_`, `-` and every character above ASCII; a
backslash escapes the next character (a hex escape takes up to six hex digits and one blank
after them).

## Main definitions

* `Css.nextToken` : the token at the start of a text and the rest.
* `Css.tokenize` : all the tokens of a text.
-/

namespace UtilityStyles.Css

/-- Characters that may start an identifier. -/
def isIdentStart (c : Char) : Bool :=
  c.isAlpha || c == '_' || c.toNat ≥ 0x80

/-- Characters that may continue an identifier. -/
def isIdentChar (c : Char) : Bool :=
  isIdentStart c || c.isDigit || c == '-'

/-- Hexadecimal digits. -/
def isHexDigit (c : Char) : Bool :=
  c.isDigit || ('a' ≤ c && c ≤ 'f') || ('A' ≤ c && c ≤ 'F')

/-- CSS blanks: space, tab, line feed, carriage return, form feed. -/
def isBlank (c : Char) : Bool :=
  c == ' ' || c == '\t' || c == '\n' || c == '\r' || c.toNat == 12

/-- Line breaks: line feed, carriage return, form feed. -/
def isLineBreak (c : Char) : Bool :=
  c == '\n' || c == '\r' || c.toNat == 12

/-- An escape at the start of `cs`: a backslash and the character it escapes (a hex escape
takes up to six hex digits and one blank). A backslash before a line break or at the end is
no escape. -/
def readEscape : List Char → Option (List Char × List Char)
  | '\\' :: c :: r =>
    if isLineBreak c then none
    else if isHexDigit c then
      let hs := ((c :: r).takeWhile isHexDigit).take 6
      let rest := (c :: r).drop hs.length
      match rest with
      | w :: rest' => if isBlank w then some ('\\' :: hs ++ [w], rest') else some ('\\' :: hs, rest)
      | [] => some ('\\' :: hs, [])
    else some (['\\', c], r)
  | _ => none

/-- The identifier characters and escapes at the start of `cs`, and the rest. -/
def readNameRest : Nat → List Char → List Char × List Char
  | 0, cs => ([], cs)
  | _, [] => ([], [])
  | fuel + 1, c :: r =>
    if isIdentChar c then
      let (a, b) := readNameRest fuel r
      (c :: a, b)
    else if c == '\\' then
      match readEscape (c :: r) with
      | some (e, r') =>
        let (a, b) := readNameRest fuel r'
        (e ++ a, b)
      | none => ([], c :: r)
    else ([], c :: r)

/-- The rest of a name, however long the text is. -/
def readName (cs : List Char) : List Char × List Char :=
  readNameRest cs.length cs

/-- An identifier at the start of `cs`: an optional `-`, a start character or escape, and name
characters. -/
def readIdent (cs : List Char) : Option (List Char × List Char) :=
  let (dash, body) : List Char × List Char :=
    match cs with
    | '-' :: r => (['-'], r)
    | _ => ([], cs)
  match body with
  | c :: r =>
    if isIdentStart c then
      let (a, b) := readName r
      some (dash ++ c :: a, b)
    else if c == '\\' then
      match readEscape body with
      | some (e, r') =>
        let (a, b) := readName r'
        some (dash ++ e ++ a, b)
      | none => none
    else none
  | [] => none

/-- An optional sign at the start of `cs`, and the rest. -/
def splitSign : List Char → List Char × List Char
  | '+' :: r => (['+'], r)
  | '-' :: r => (['-'], r)
  | cs => ([], cs)

/-- The fraction of a number whose digits `ds` were read, at the start of `r1`: `.` and digits.
A `.` not followed by digits is left for the next token. `none` when there are neither digits
nor a fraction; the flag says whether an exponent may follow. -/
def readFraction (ds r1 : List Char) : Option (List Char × List Char × Bool) :=
  match r1 with
  | '.' :: r2 =>
    let fs := r2.takeWhile Char.isDigit
    if fs.isEmpty then (if ds.isEmpty then none else some ([], r1, false))
    else some ('.' :: fs, r2.drop fs.length, true)
  | _ => if ds.isEmpty then none else some ([], r1, true)

/-- The exponent of a number at the start of `r3`, when one may follow: `e` or `E`, a sign and
digits. An `e` not followed by digits is left for the next token. -/
def readExponent (withExp : Bool) (r3 : List Char) : List Char × List Char :=
  match withExp, r3 with
  | true, e :: r5 =>
    if e == 'e' || e == 'E' then
      let (esign, r6) := splitSign r5
      let eds := r6.takeWhile Char.isDigit
      if eds.isEmpty then ([], r3) else (e :: esign ++ eds, r6.drop eds.length)
    else ([], r3)
  | _, _ => ([], r3)

/-- A number at the start of `cs`: a sign, digits, a fraction and an exponent. A `.` or an `e`
not followed by digits is left for the next token. -/
def readNumber (cs : List Char) : Option (List Char × List Char) :=
  let (sign, body) := splitSign cs
  let ds := body.takeWhile Char.isDigit
  match readFraction ds (body.dropWhile Char.isDigit) with
  | none => none
  | some (fpart, r3, withExp) =>
    let (epart, r4) := readExponent withExp r3
    some (sign ++ ds ++ fpart ++ epart, r4)

/-- A number, percentage or dimension at the start of `cs`. -/
def readNumeric (cs : List Char) : Option (TokenKind × List Char × List Char) :=
  match readNumber cs with
  | none => none
  | some (n, rest) =>
    match rest with
    | '%' :: r => some (.percentage, n ++ ['%'], r)
    | _ =>
      match readIdent rest with
      | some (u, r) => some (.dimension, n ++ u, r)
      | none => some (.number, n, rest)

/-- Skips blanks. -/
def skipBlanks (cs : List Char) : List Char × List Char :=
  (cs.takeWhile isBlank, cs.dropWhile isBlank)

/-- The rest of a string after its opening quote `q`: up to the closing quote (kept), a line
break (then it is a bad string) or the end of the text. -/
def readStringRest (q : Char) : Nat → List Char → TokenKind × List Char × List Char
  | 0, cs => (.string, [], cs)
  | _, [] => (.string, [], [])
  | fuel + 1, c :: r =>
    if isLineBreak c then (.badString, [c], r)
    else if c == q then (.string, [c], r)
    else if c == '\\' then
      match readEscape (c :: r) with
      | some (e, r') =>
        let (k, a, b) := readStringRest q fuel r'
        (k, e ++ a, b)
      | none =>
        -- a backslash before a line break escapes it; at the end it stands alone
        let (nl, r') : List Char × List Char :=
          match r with
          | '\r' :: '\n' :: x => (['\r', '\n'], x)
          | x :: xs => if isLineBreak x then ([x], xs) else ([], r)
          | [] => ([], [])
        let (k, a, b) := readStringRest q fuel r'
        (k, '\\' :: nl ++ a, b)
    else
      let (k, a, b) := readStringRest q fuel r
      (k, c :: a, b)

/-- A string at the start of `cs`, which starts with a quote. -/
def readString : List Char → TokenKind × List Char × List Char
  | q :: r =>
    let (k, a, b) := readStringRest q (r.length + 1) r
    (k, q :: a, b)
  | [] => (.string, [], [])

/-- The body of an unquoted URL: up to `)` or the end; `none` at a quote, `(`, a blank, a
control character or a backslash that escapes nothing (the text read so far is returned with
it, to continue from there). -/
def readUnquotedUrl : Nat → List Char → Bool × List Char × List Char
  | 0, cs => (true, [], cs)
  | _, [] => (true, [], [])
  | fuel + 1, c :: r =>
    if c == ')' then (true, [], c :: r)
    else if c == '"' || c == Char.ofNat 39 || c == '(' || c == '\\' || c == ' ' ||
        c.toNat ≤ 0x1F || c.toNat == 0x7F then
      if c == '\\' then
        match readEscape (c :: r) with
        | some (e, r') =>
          let (ok, a, b) := readUnquotedUrl fuel r'
          (ok, e ++ a, b)
        | none => (false, [], c :: r)
      else (false, [], c :: r)
    else
      let (ok, a, b) := readUnquotedUrl fuel r
      (ok, c :: a, b)

/-- What is left of a bad URL: up to and including `)`, or to the end. -/
def readBadUrlRest : Nat → List Char → List Char × List Char
  | 0, cs => ([], cs)
  | _, [] => ([], [])
  | fuel + 1, c :: r =>
    if c == ')' then ([c], r)
    else
      match readEscape (c :: r) with
      | some (e, r') =>
        let (a, b) := readBadUrlRest fuel r'
        (e ++ a, b)
      | none =>
        let (a, b) := readBadUrlRest fuel r
        (c :: a, b)

/-- A bad URL: the text read so far and what is left of it. -/
def badUrl (read : List Char) (rest : List Char) : TokenKind × List Char × List Char :=
  let (a, b) := readBadUrlRest (rest.length + 1) rest
  (.badUrl, read ++ a, b)

/-- A URL after `url(`: blanks, a quoted or unquoted body, blanks and `)`. -/
def readUrl (head : List Char) (cs : List Char) : TokenKind × List Char × List Char :=
  let (w1, r1) := skipBlanks cs
  let body : Option (List Char × List Char) :=
    match r1 with
    | q :: _ =>
      if q == '"' || q == Char.ofNat 39 then
        match readString r1 with
        | (.badString, s, r) => none.orElse fun _ => some (s ++ ['\x00'], r)
        | (_, s, r) => some (s, r)
      else
        match readUnquotedUrl (r1.length + 1) r1 with
        | (true, s, r) => some (s, r)
        | (false, s, r) =>
          match r with
          | w :: r' => if isBlank w then some (s ++ [w], r') else some (s ++ ['\x00'], r)
          | [] => some (s ++ ['\x00'], r)
    | [] => some ([], [])
  match body with
  | none => badUrl (head ++ w1) r1
  | some (s, r2) =>
    if s.getLast? == some '\x00' then badUrl (head ++ w1 ++ s.dropLast) r2
    else
      let (w2, r3) := skipBlanks r2
      match r3 with
      | ')' :: r4 => (.url, head ++ w1 ++ s ++ w2 ++ [')'], r4)
      | [] => (.url, head ++ w1 ++ s ++ w2, [])
      | _ => badUrl (head ++ w1 ++ s ++ w2) r3

/-- Whether an identifier reads `url`, ignoring case and backslashes. -/
def isUrlName (ident : List Char) : Bool :=
  (ident.filter (· != '\\')).map Char.toLower == ['u', 'r', 'l']

/-- An identifier, function or URL at the start of `cs`. -/
def readIdentLike (cs : List Char) : Option (TokenKind × List Char × List Char) :=
  match readIdent cs with
  | none => none
  | some (name, rest) =>
    match rest with
    | '(' :: r =>
      if isUrlName name then some (readUrl (name ++ ['(']) r)
      else some (.function, name ++ ['('], r)
    | _ => some (.ident, name, rest)

/-- A unicode range `U+…` at the start of `cs`: up to six hex digits, then a `-` and up to six
more, or `?` marks filling up to six places. -/
def readUnicodeRange (cs : List Char) : Option (List Char × List Char) :=
  match cs with
  | u :: '+' :: r =>
    if u != 'u' && u != 'U' then none
    else
      let hs := r.takeWhile isHexDigit
      let r1 := r.drop hs.length
      let k := hs.length
      match r1 with
      | '-' :: r2 =>
        if k == 0 || k > 6 then none
        else
          let hs2 := r2.takeWhile isHexDigit
          if hs2.isEmpty || hs2.length > 6 then none
          else some (u :: '+' :: hs ++ '-' :: hs2, r2.drop hs2.length)
      | '?' :: _ =>
        let qs := r1.takeWhile (· == '?')
        let n := k + qs.length
        if n == 0 || n > 6 then none else some (u :: '+' :: hs ++ qs, r1.drop qs.length)
      | _ => if k == 0 || k > 6 then none else some (u :: '+' :: hs, r1)
  | _ => none

/-- A comment after its `/*`: up to and including `*/`, or to the end. -/
def readCommentRest : List Char → List Char × List Char
  | [] => ([], [])
  | '*' :: '/' :: r => (['*', '/'], r)
  | c :: r =>
    let (a, b) := readCommentRest r
    (c :: a, b)

/-- A match operator (`~=`, `|=`, `^=`, `$=`, `*=`) at the start of `cs`. -/
def readMatch : List Char → Option (TokenKind × List Char × List Char)
  | c :: '=' :: r =>
    if c == '~' then some (.includeMatch, [c, '='], r)
    else if c == '|' then some (.dashMatch, [c, '='], r)
    else if c == '^' then some (.prefixMatch, [c, '='], r)
    else if c == '$' then some (.suffixMatch, [c, '='], r)
    else if c == '*' then some (.substringMatch, [c, '='], r)
    else none
  | _ => none

/-- A hash at the start of `cs`: `#` and at least one name character or escape. -/
def readHash : List Char → Option (List Char × List Char)
  | '#' :: r =>
    match readName r with
    | ([], _) => none
    | (name, rest) => some ('#' :: name, rest)
  | _ => none

/-- The first successful reader. -/
def firstOf (cs : List Char) :
    List (List Char → Option (TokenKind × List Char × List Char)) →
      Option (TokenKind × List Char × List Char)
  | [] => none
  | f :: fs => (f cs).orElse fun _ => firstOf cs fs

/-- Tags the text a reader returns with a kind. -/
def kinded (k : TokenKind) (f : List Char → Option (List Char × List Char)) :
    List Char → Option (TokenKind × List Char × List Char) :=
  fun cs => (f cs).map fun (t, r) => (k, t, r)

/-- The comment closer `-->`. -/
def readCdc (cs : List Char) : Option (List Char × List Char) :=
  if "-->".toList.isPrefixOf cs then some ("-->".toList, cs.drop 3) else none

/-- A custom property name at a `-`: the `-`, then an identifier read after it (which starts
with the second `-`). -/
def readCustomPropertyName : List Char → Option (List Char × List Char)
  | '-' :: rest => (readIdent rest).map fun (t, b) => ('-' :: t, b)
  | _ => none

/-- The token at the start of a non-empty text, and the rest. -/
def tokenAt (c : Char) (r : List Char) : TokenKind × List Char × List Char :=
  let cs := c :: r
  let delim : TokenKind × List Char × List Char := (.delim, [c], r)
  let orDelim (o : Option (TokenKind × List Char × List Char)) := o.getD delim
  if isBlank c then (.whitespace, c :: r.takeWhile isBlank, r.dropWhile isBlank)
  else if c == ':' then (.colon, [c], r)
  else if c == ';' then (.semicolon, [c], r)
  else if c == ',' then (.comma, [c], r)
  else if c == '(' then (.leftParen, [c], r)
  else if c == ')' then (.rightParen, [c], r)
  else if c == '[' then (.leftBracket, [c], r)
  else if c == ']' then (.rightBracket, [c], r)
  else if c == '{' then (.leftBrace, [c], r)
  else if c == '}' then (.rightBrace, [c], r)
  else if c == '#' then orDelim (kinded .hash readHash cs)
  else if c == '"' || c == Char.ofNat 39 then readString cs
  else if c == '.' || c == '+' then orDelim (readNumeric cs)
  else if c == '-' then
    orDelim (firstOf cs [readNumeric, readIdentLike,
      kinded .cdc readCdc, kinded .customPropertyName readCustomPropertyName])
  else if c == '@' then
    orDelim (kinded .atKeyword (fun x => (readIdent (x.drop 1)).map fun (t, b) => ('@' :: t, b)) cs)
  else if c == '$' || c == '*' || c == '^' || c == '~' then orDelim (readMatch cs)
  else if c == '/' then
    match r with
    | '*' :: rest =>
      let (a, b) := readCommentRest rest
      (.comment, '/' :: '*' :: a, b)
    | _ => delim
  else if c == '<' then
    if "<!--".toList.isPrefixOf cs then (.cdo, "<!--".toList, cs.drop 4) else delim
  else if c == '\\' then orDelim (readIdentLike cs)
  else if c == 'u' || c == 'U' then
    orDelim (firstOf cs [kinded .unicodeRange readUnicodeRange, readIdentLike])
  else if c == '|' then
    orDelim (firstOf cs [readMatch,
      kinded .column fun x => if "||".toList.isPrefixOf x then some ("||".toList, x.drop 2) else none])
  else orDelim (firstOf cs [readNumeric, readIdentLike])

/-- The token at the start of a text and the rest; `none` at the end. -/
def nextToken : List Char → Option (Token × List Char)
  | [] => none
  | c :: r =>
    let (k, t, rest) := tokenAt c r
    some (⟨k, t⟩, rest)

/-- The tokens of a text, every character read once. -/
def tokenizeFrom : Nat → List Char → List Token
  | 0, _ => []
  | fuel + 1, cs =>
    match nextToken cs with
    | none => []
    | some (t, rest) => t :: tokenizeFrom fuel rest

/-- All the tokens of a text. -/
def tokenize (s : String) : List Token :=
  tokenizeFrom (s.length + 1) s.toList

end UtilityStyles.Css
