/-!
# CSS tokens

Selectors and style attributes are read as CSS tokens (CSS Syntax Level 3), each with the text
it was read from. Comments are tokens too, so a reader can skip them or keep them.

## Main definitions

* `TokenKind`, `Token`.
-/

namespace UtilityStyles.Css

/-- The kinds of CSS tokens. -/
inductive TokenKind where
  | ident
  | function
  | atKeyword
  | hash
  | string
  | badString
  | url
  | badUrl
  | delim
  | number
  | percentage
  | dimension
  | unicodeRange
  | includeMatch
  | dashMatch
  | prefixMatch
  | suffixMatch
  | substringMatch
  | column
  | whitespace
  | cdo
  | cdc
  | colon
  | semicolon
  | comma
  | leftBracket
  | rightBracket
  | leftParen
  | rightParen
  | leftBrace
  | rightBrace
  | comment
  | customPropertyName
  deriving Repr, BEq, DecidableEq, Inhabited

/-- A token and the text it was read from. -/
structure Token where
  kind : TokenKind
  text : List Char
  deriving Repr, BEq, Inhabited

/-- Whether a token is the one-character delimiter `c`. -/
def Token.isDelim (t : Token) (c : Char) : Bool :=
  t.kind == .delim && t.text == [c]

end UtilityStyles.Css
