import UtilityStyles.Css.Lexer
import UtilityStyles.Markup.Node
import UtilityStyles.Text.Blank
import UtilityStyles.Text.Case
import UtilityStyles.Text.Quote
/-!
# Selectors

The selectors that pick elements out of a document: a comma-separated list of chains of
compound selectors, joined by blanks (descendant) or `>` (child). A compound selector is an
optional type (`div`) or `*`, then any number of `#id`, `.class`, `[attr]` and `[attr=value]`.
Pseudo-classes and every other combinator are refused with a message naming the selector.

Comments are dropped before reading. Type names are lowered and compared with the element's
name ignoring case; a backslash in an id or class escapes the next character (`.hover\:x` is the
class `hover:x`); attribute names and values are taken as written. A quoted value is cut out of
its token between the first and the last character: a value that is only its opening quote, at
the very end of the text, cannot be cut, and reading it stops the program
(`SelectorProblem.quoteOutOfRange`, a fault and not a refusal).

## Main definitions

* `Selector`, `Selector.parse`, `SelectorError.message`.
* `Selector.matches` : whether an element, given with its ancestors, is selected.
-/

namespace UtilityStyles.Css

open UtilityStyles.Markup (Attr)
open UtilityStyles.Text (lowerText sameFold fields quote)

/-- A condition on an attribute: present, or present with a value. -/
structure AttrTest where
  name : String
  value : Option String
  deriving Repr, BEq, DecidableEq

/-- A compound selector: conditions that one element meets at once. -/
structure Compound where
  tag : Option String
  id : Option String
  classes : List String
  attrs : List AttrTest
  deriving Repr, BEq, DecidableEq

/-- A chain of compound selectors, read from the right: the last one selects the element, the
ones before it its ancestors. -/
inductive Chain where
  /-- One compound selector. -/
  | single (c : Compound)
  /-- `left > c`: the element meets `c`, its parent `left`. -/
  | child (left : Chain) (c : Compound)
  /-- `left c`: the element meets `c`, some ancestor `left`. -/
  | descendant (left : Chain) (c : Compound)
  deriving Repr, BEq

/-- A selector: a list of chains, any of which may select an element. -/
structure Selector where
  chains : List Chain
  deriving Repr, BEq

/-- Why a selector is refused. -/
inductive SelectorProblem where
  | unexpected (text : String)
  | expectedClassName
  | pseudoClass
  | expectedSelector (text : String)
  | empty
  | expectedAttrName
  | expectedAttrValue
  | expectedCloseBracket
  /-- Not a refusal: a quoted value is cut out of its token between the first and the last
  character, and a token that is only its opening quote has no last one to cut at, so reading
  it stops the program. -/
  | quoteOutOfRange
  deriving Repr, BEq, DecidableEq

/-- The words of a selector problem. -/
def SelectorProblem.message : SelectorProblem → String
  | .unexpected t => "unexpected " ++ quote t
  | .expectedClassName => "expected class name after \x27.\x27"
  | .pseudoClass => "pseudo-classes are not supported"
  | .expectedSelector t => "expected a selector, got " ++ quote t
  | .empty => "empty selector"
  | .expectedAttrName => "expected attribute name"
  | .expectedAttrValue => "expected attribute value"
  | .expectedCloseBracket => "expected \x27]\x27"
  | .quoteOutOfRange => "runtime error: slice bounds out of range [1:0]"

/-- Whether a problem stops the program instead of refusing the selector. -/
def SelectorProblem.isFault : SelectorProblem → Bool
  | .quoteOutOfRange => true
  | _ => false

/-- A refused selector and why. -/
structure SelectorError where
  source : String
  problem : SelectorProblem
  deriving Repr, BEq

/-- The message of a refused selector. -/
def SelectorError.message (e : SelectorError) : String :=
  "unsupported selector " ++ quote e.source ++ ": " ++ e.problem.message

/-- Drops the backslashes that escape a character: a backslash stands for the character after
it. -/
def unescape : List Char → List Char
  | '\\' :: c :: rest => c :: unescape rest
  | ['\\'] => []
  | c :: rest => c :: unescape rest
  | [] => []

/-- Skips blank tokens; says whether there were any. -/
def skipSpace (ts : List Token) : Bool × List Token :=
  (!(ts.takeWhile (·.kind == .whitespace)).isEmpty, ts.dropWhile (·.kind == .whitespace))

/-- The text of a token. -/
def Token.str (t : Token) : String := String.ofList t.text

/-- The value of a quoted string token: without its first and its last character. -/
def stringValue (t : Token) : String :=
  String.ofList (t.text.drop 1).dropLast

/-- The value an attribute is compared with: an identifier or a number as written, a string
without its quotes. A string token that is only its opening quote cannot be cut. -/
def attrValue (v : Token) : Except SelectorProblem String :=
  if v.kind == .ident || v.kind == .number then pure v.str
  else if v.kind == .string then
    if v.text.length < 2 then throw .quoteOutOfRange else pure (stringValue v)
  else throw .expectedAttrValue

/-- The name of an attribute condition, after blanks. -/
def readAttrName (ts : List Token) : Except SelectorProblem (String × List Token) :=
  match (skipSpace ts).2 with
  | t :: r => if t.kind == .ident then pure (t.str, r) else throw .expectedAttrName
  | [] => throw .expectedAttrName

/-- What an attribute must equal, after blanks: `=`, blanks and a value, with the blanks after
the value; nothing when no `=` follows. -/
def readAttrMatch (ts : List Token) : Except SelectorProblem (Option String × List Token) :=
  match (skipSpace ts).2 with
  | t :: r =>
    if t.isDelim '=' then
      match (skipSpace r).2 with
      | v :: r' => do
        let value ← attrValue v
        pure (some value, (skipSpace r').2)
      | [] => throw .expectedAttrValue
    else pure (none, t :: r)
  | [] => pure (none, [])

/-- An attribute condition after its `[`, up to and including `]`. -/
def readAttrTest (ts : List Token) : Except SelectorProblem (AttrTest × List Token) := do
  let (name, ts) ← readAttrName ts
  let (value, ts) ← readAttrMatch ts
  match ts with
  | t :: r => if t.kind == .rightBracket then pure (⟨name, value⟩, r) else throw .expectedCloseBracket
  | [] => throw .expectedCloseBracket

/-- The conditions of a compound selector after its type; `started` says whether anything was
read yet. -/
def readConditions : Nat → Compound → Bool → List Token →
    Except SelectorProblem (Compound × List Token)
  | 0, c, _, ts => pure (c, ts)
  | _ + 1, c, started, [] => if started then pure (c, []) else throw .empty
  | fuel + 1, c, started, t :: r =>
    if t.kind == .hash then
      let id := String.ofList (unescape (t.text.drop 1))
      readConditions fuel { c with id := if id.isEmpty then none else some id } true r
    else if t.isDelim '.' then
      match r with
      | n :: r' =>
        if n.kind == .ident then
          readConditions fuel { c with classes := c.classes ++ [String.ofList (unescape n.text)] } true r'
        else throw .expectedClassName
      | [] => throw .expectedClassName
    else if t.kind == .leftBracket then do
      let (a, r') ← readAttrTest r
      readConditions fuel { c with attrs := c.attrs ++ [a] } true r'
    else if t.kind == .colon then throw .pseudoClass
    else if started then pure (c, t :: r)
    else throw (.expectedSelector t.str)

/-- A compound selector: an optional type or `*`, then its conditions. -/
def readCompound (ts : List Token) : Except SelectorProblem (Compound × List Token) :=
  let blank : Compound := ⟨none, none, [], []⟩
  match ts with
  | t :: r =>
    if t.kind == .ident then
      readConditions (r.length + 1) { blank with tag := some (lowerText t.str) } true r
    else if t.isDelim '*' then readConditions (r.length + 1) blank true r
    else readConditions (ts.length + 1) blank false ts
  | [] => readConditions 1 blank false []

/-- Extends a chain to the right by a compound selector, after a combinator. -/
def Chain.extend : Option (Chain × Bool) → Compound → Chain
  | none, c => .single c
  | some (l, true), c => .child l c
  | some (l, false), c => .descendant l c

/-- A chain, up to a comma or the end; `left` is the chain read so far and whether `>` joins it
to what follows. -/
def readChain : Nat → Option (Chain × Bool) → List Token →
    Except SelectorProblem (Chain × List Token)
  | 0, _, ts => throw (.unexpected ((ts.head?.map Token.str).getD ""))
  | fuel + 1, left, ts => do
    let (c, ts) ← readCompound ts
    let chain := Chain.extend left c
    let (spaced, ts) := skipSpace ts
    match ts with
    | [] => pure (chain, [])
    | t :: r =>
      if t.kind == .comma then pure (chain, ts)
      else if t.isDelim '>' then readChain fuel (some (chain, true)) (skipSpace r).2
      else if spaced then readChain fuel (some (chain, false)) ts
      else throw (.unexpected t.str)

/-- The chains of a selector list, separated by commas. -/
def readChains : Nat → List Token → Except SelectorProblem (List Chain)
  | 0, _ => pure []
  | fuel + 1, ts => do
    let (chain, ts) ← readChain (ts.length + 1) none (skipSpace ts).2
    match (skipSpace ts).2 with
    | [] => pure [chain]
    | t :: r =>
      if t.kind == .comma then return chain :: (← readChains fuel r)
      else throw (.unexpected t.str)

/-- Reads a selector list; comments are dropped first. -/
def Selector.parse (source : String) : Except SelectorError Selector :=
  let ts := (tokenize source).filter (·.kind != .comment)
  match readChains (ts.length + 1) ts with
  | .ok chains => .ok ⟨chains⟩
  | .error p => .error ⟨source, p⟩

/-- What a selector sees of an element: its local name and its attributes. -/
structure ElementView where
  tag : String
  attrs : List Attr
  deriving Repr, Inhabited

/-- Whether an element meets the conditions of a compound selector. The class attribute is read
as blank-separated names. -/
def Compound.matches (c : Compound) (e : ElementView) : Bool :=
  let attr (k : String) := Attr.lookup e.attrs k
  let classes := fields ((attr "class").getD "")
  (c.tag.all fun t => sameFold e.tag t) &&
  (c.id.all fun i => (attr "id").getD "" == i) &&
  c.classes.all (classes.contains ·) &&
  c.attrs.all fun a =>
    match attr a.name with
    | none => false
    | some v => a.value.all (· == v)

/-- The non-empty suffixes of a list, longest first. -/
def suffixes {α : Type} : List α → List (List α)
  | [] => []
  | a :: rest => (a :: rest) :: suffixes rest

/-- Whether a chain selects an element, given the element followed by its ancestors, nearest
first. -/
def Chain.matches : Chain → List ElementView → Bool
  | .single c, e :: _ => c.matches e
  | .child l c, e :: up => c.matches e && !up.isEmpty && l.matches up
  | .descendant l c, e :: up => c.matches e && (suffixes up).any fun t => l.matches t
  | _, [] => false

/-- Whether a selector selects an element, given with its ancestors, nearest first. -/
def Selector.matches (s : Selector) (lineage : List ElementView) : Bool :=
  s.chains.any fun ch => ch.matches lineage

end UtilityStyles.Css
