import UtilityStyles.Markup.Lexer
/-!
# Reading a markup tree

The tokens of a text are assembled into a tree: a start tag opens an element, an end tag must
close the innermost open element (same prefix and local name), and every element must be
closed when the text ends. Several top-level elements are allowed; the first is the document's
root. When a start tag repeats an attribute, the later value replaces the earlier one in the
earlier one's place.

## Main definitions

* `ReadError`, `ReadError.message` : why a text is not a tree.
* `readNodes` : the top-level nodes of a text.
-/

namespace UtilityStyles.Markup

/-- Why a text does not read as a tree. -/
inductive ReadError where
  /-- A syntax problem, on a line. -/
  | malformed (problem : SyntaxProblem) (line : Nat)
  /-- An end tag that does not close the innermost open element, or an element left open. -/
  | unbalanced
  deriving Repr, BEq

/-- The message of a read error. -/
def ReadError.message : ReadError → String
  | .malformed (.unsupportedVersion v) _ => "xml: " ++ (SyntaxProblem.unsupportedVersion v).message
  | .malformed p line => "XML syntax error on line " ++ toString line ++ ": " ++ p.message
  | .unbalanced => "etree: invalid XML format"

/-- Attributes with repeated names merged: the later value replaces the earlier one in place. -/
def mergeAttrs : List Attr → List Attr → List Attr
  | acc, [] => acc
  | acc, a :: rest =>
    if acc.any (·.name == a.name) then
      mergeAttrs (acc.map fun b => if b.name == a.name then { b with value := a.value } else b) rest
    else mergeAttrs (acc ++ [a]) rest

/-- An open element: its name, attributes and the children read so far (in reverse). -/
structure Frame where
  name : QName
  attrs : List Attr
  children : List Node

/-- Adds a node to the innermost open element, or to the top level when none is open. -/
def addNode (n : Node) (stack : List Frame) (top : List Node) : List Frame × List Node :=
  match stack with
  | [] => ([], n :: top)
  | f :: rest => ({ f with children := n :: f.children } :: rest, top)

/-- Closes the innermost open element. -/
def closeFrame (f : Frame) (rest : List Frame) (top : List Node) : List Frame × List Node :=
  addNode (.element f.name f.attrs f.children.reverse) rest top

/-- Applies one token to the open elements and the top level. -/
def applyToken (t : Token) (stack : List Frame) (top : List Node) :
    Except ReadError (List Frame × List Node) :=
  match t with
  | .start name attrs selfClosing =>
    let f : Frame := ⟨name, mergeAttrs [] attrs, []⟩
    if selfClosing then .ok (closeFrame f stack top) else .ok (f :: stack, top)
  | .stop name =>
    match stack with
    | f :: rest => if f.name == name then .ok (closeFrame f rest top) else .error .unbalanced
    | [] => .error .unbalanced
  | .text data => .ok (addNode (.text data) stack top)
  | .comment data => .ok (addNode (.comment data) stack top)
  | .directive data => .ok (addNode (.directive data) stack top)
  | .instruction target data => .ok (addNode (.instruction target data) stack top)

/-- Reads tokens until the text ends. -/
def readLoop (entities : List (String × String)) :
    Nat → List Frame → List Node → Cursor → Except ReadError (List Node)
  | 0, _, top, _ => .ok top.reverse
  | fuel + 1, stack, top, cur =>
    match nextToken entities cur with
    | .error (p, line) => .error (.malformed p line)
    | .ok none => if stack.isEmpty then .ok top.reverse else .error .unbalanced
    | .ok (some (t, cur')) =>
      match applyToken t stack top with
      | .error e => .error e
      | .ok (stack', top') => readLoop entities fuel stack' top' cur'

/-- The top-level nodes of a text, reading the given extra entities. -/
def readNodes (entities : List (String × String)) (text : String) : Except ReadError (List Node) :=
  readLoop entities (text.length + 1) [] [] ⟨text.toList, 1⟩

end UtilityStyles.Markup
