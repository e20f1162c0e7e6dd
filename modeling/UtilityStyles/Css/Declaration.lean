import UtilityStyles.Css.Lexer
import UtilityStyles.Text.Blank
import UtilityStyles.Text.Case
/-!
# Declarations of a style attribute

A style attribute is a list of declarations `name: value` separated by `;`. Reading stops at
the first thing that is not a declaration (a number, a stray `}`, a name without `:`, a closing
bracket that nothing opened) and keeps what was read before it.

* A declaration's name is lowered; its value is its tokens, where blanks and comments between
  two tokens become one space, except around `,`, `/`, `:`, `!` and `=`, which stand without
  spaces (`red !important` reads `red!important`).
* A custom property (`--name: value`) keeps its name and the exact text of its value, up to the
  `;` or `}` that ends it outside brackets.
* An at-rule (`@name …;`, or `@name … { … }`) is skipped.
* A `*` before a name is kept with it, as older browsers read it.

## Main definitions

* `Css.readDeclarations` : the declarations of a style attribute, in order.
-/

namespace UtilityStyles.Css

open UtilityStyles.Text (lowerText trimBlank isAllBlank)

/-- The next token that is neither blank nor a comment, whether a blank or comment stood before
it, and the rest; no token at the end of the text. -/
def popToken : List Token → Option Token × Bool × List Token
  | [] => (none, false, [])
  | t :: rest =>
    if t.kind == .whitespace || t.kind == .comment then
      let (n, _, r) := popToken rest
      (n, true, r)
    else (some t, false, rest)

/-- The tokens that open a bracket. -/
def TokenKind.opens (k : TokenKind) : Bool :=
  k == .leftParen || k == .leftBrace || k == .leftBracket || k == .function

/-- The tokens that close a bracket. -/
def TokenKind.closes (k : TokenKind) : Bool :=
  k == .rightParen || k == .rightBrace || k == .rightBracket

/-- Whether a token ends a declaration at bracket depth zero. -/
def TokenKind.endsDeclaration (k : TokenKind) : Bool :=
  k == .semicolon || k == .rightBrace

/-- The one-character tokens around which blanks are dropped in a value. -/
def isTightChar (t : Token) : Bool :=
  match t.text with
  | [c] => c == ',' || c == '/' || c == ':' || c == '!' || c == '='
  | _ => false

/-- How a declaration's value ended. -/
inductive ValueEnd where
  /-- At `;` or at the end of the text. -/
  | plain
  /-- At a `}` outside brackets, which the next read then meets. -/
  | brace
  deriving Repr, BEq, DecidableEq

/-- The value of a declaration after its `:`, as the text of its tokens; `none` when a closing
bracket stands outside brackets. `tight` holds where blanks are dropped (at the start and after
`,`, `/`, `:`, `!`, `=`). -/
def readValue : Nat → Nat → Bool → List Char → List Token →
    Option (List Char × ValueEnd × List Token)
  | 0, _, _, acc, _ => some (acc, .plain, [])
  | fuel + 1, depth, tight, acc, ts =>
    match popToken ts with
    | (none, _, _) => some (acc, .plain, [])
    | (some t, spaced, rest) =>
      if t.kind.endsDeclaration && depth == 0 then
        some (acc, if t.kind == .rightBrace then .brace else .plain, rest)
      else if t.kind.closes && depth == 0 then none
      else
        let depth' := if t.kind.opens then depth + 1 else if t.kind.closes then depth - 1 else depth
        if isTightChar t then readValue fuel depth' true (acc ++ t.text) rest
        else if spaced && !tight then readValue fuel depth' false (acc ++ ' ' :: t.text) rest
        else readValue fuel depth' false (acc ++ t.text) rest

/-- The exact text of a custom property's value, up to `;` or `}` outside brackets or the end of
the text. A closing bracket outside brackets makes the depth negative, and the value then runs
on. -/
def readRawValue : List Token → Int → List Char → List Char × ValueEnd × List Token
  | [], _, acc => (acc, .plain, [])
  | t :: rest, depth, acc =>
    if t.kind.endsDeclaration && depth == 0 then
      (acc, if t.kind == .rightBrace then .brace else .plain, rest)
    else
      let depth' := if t.kind.opens then depth + 1 else if t.kind.closes then depth - 1 else depth
      readRawValue rest depth' (acc ++ t.text)

/-- What an at-rule's prelude ended with. -/
inductive PreludeEnd where
  /-- At `;` or at the end of the text. -/
  | plain
  /-- At `}` outside brackets. -/
  | brace
  /-- At `{` outside brackets: a block follows. -/
  | block
  deriving Repr, BEq, DecidableEq

/-- Skips an at-rule's prelude, up to `;`, `}` or `{` outside brackets. -/
def skipPrelude : List Token → Int → PreludeEnd × List Token
  | [], _ => (.plain, [])
  | t :: rest, depth =>
    if t.kind == .leftBrace && depth == 0 then (.block, rest)
    else if t.kind.endsDeclaration && depth == 0 then
      (if t.kind == .rightBrace then .brace else .plain, rest)
    else
      let depth' := if t.kind.opens then depth + 1 else if t.kind.closes then depth - 1 else depth
      skipPrelude rest depth'

/-- Skips an at-rule's block, up to the `}` that closes it. -/
def skipBlock : List Token → Int → List Token
  | [], _ => []
  | t :: rest, depth =>
    if t.kind == .rightBrace && depth == 0 then rest
    else
      let depth' := if t.kind.opens then depth + 1 else if t.kind.closes then depth - 1 else depth
      skipBlock rest depth'

/-- The first token of the next item of a declaration list: `;` and blanks are skipped, and a
`*` is joined to the token after it (which gives the kind). -/
def itemStart (ts : List Token) : Option Token × List Token :=
  let (first, _, rest) := popToken ts
  let rec skipSemicolons : Nat → Option Token → List Token → Option Token × List Token
    | 0, t, r => (t, r)
    | fuel + 1, some t, r =>
      if t.kind == .semicolon then
        let (n, _, r') := popToken r
        skipSemicolons fuel n r'
      else (some t, r)
    | _ + 1, none, r => (none, r)
  match skipSemicolons (rest.length + 1) first rest with
  | (some t, r) =>
    if t.isDelim '*' then
      match popToken r with
      | (some n, _, r') => (some ⟨n.kind, t.text ++ n.text⟩, r')
      | (none, _, r') => (none, r')
    else (some t, r)
  | (none, r) => (none, r)

/-- One item read from a declaration list. -/
inductive Item where
  /-- A declaration and its value. -/
  | declaration (name value : String)
  /-- Something that is read and set aside (an at-rule). -/
  | skipped
  /-- Something that is not a declaration: reading stops. -/
  | stop
  deriving Repr, BEq

/-- Reads the item that starts with `t`; returns it, whether a `}` ended it, and the rest. -/
def readItem (t : Token) (rest : List Token) : Item × ValueEnd × List Token :=
  if t.kind == .atKeyword then
    match skipPrelude rest 0 with
    | (.block, r) => (.skipped, .plain, skipBlock r 0)
    | (.brace, r) => (.skipped, .brace, r)
    | (.plain, r) => (.skipped, .plain, r)
  else if t.kind == .ident || t.kind == .delim then
    match popToken rest with
    | (some c, _, r) =>
      if c.kind == .colon then
        match readValue (r.length + 1) 0 true [] r with
        | some (v, e, r') =>
          let name := lowerText (String.ofList (t.text.map asciiLower))
          (.declaration name (trimBlank (String.ofList v)), e, r')
        | none => (.stop, .plain, [])
      else (.stop, .plain, [])
    | (none, _, _) => (.stop, .plain, [])
  else if t.kind == .customPropertyName then
    match popToken rest with
    | (some c, _, r) =>
      if c.kind == .colon then
        let (v, e, r') := readRawValue r 0 []
        (.declaration (String.ofList t.text) (trimBlank (String.ofList v)), e, r')
      else (.stop, .plain, [])
    | (none, _, _) => (.stop, .plain, [])
  else (.stop, .plain, [])
where
  /-- Lowers an ASCII letter. -/
  asciiLower (c : Char) : Char := if 'A' ≤ c && c ≤ 'Z' then Char.ofNat (c.toNat + 32) else c

/-- Reads declarations until the text ends or something else stands. A `}` that ended the last
item is met first, and stops the reading. -/
def readItems : Nat → ValueEnd → List Token → List (String × String)
  | 0, _, _ => []
  | _ + 1, .brace, _ => []
  | fuel + 1, .plain, ts =>
    match itemStart ts with
    | (none, _) => []
    | (some t, rest) =>
      match readItem t rest with
      | (.declaration n v, e, r) => (n, v) :: readItems fuel e r
      | (.skipped, e, r) => readItems fuel e r
      | (.stop, _, _) => []

/-- The declarations of a style attribute, in order; a blank attribute has none. -/
def readDeclarations (attr : String) : List (String × String) :=
  if isAllBlank attr then []
  else
    let ts := tokenize attr
    readItems (ts.length + 1) .plain ts

end UtilityStyles.Css
