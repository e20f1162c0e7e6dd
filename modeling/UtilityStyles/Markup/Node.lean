/-!
# Markup trees and their text

A document is a list of nodes: elements with attributes and children, character data,
comments, directives (`<!DOCTYPE …>`) and processing instructions (`<?xml …?>`). Names keep the
prefix they were written with (`ns:x` has prefix `ns` and local name `x`).

Writing a tree back: an element without children is written `<name …/>`; attribute values are
in double quotes; in character data and attribute values `&`, `<`, `>`, `'` and `"` are written
as the entities `&amp;`, `&lt;`, `&gt;`, `&apos;` and `&quot;`, and characters that markup cannot
hold are written as U+FFFD.

## Main definitions

* `QName`, `Attr`, `Node`.
* `Node.renderWith` : the text of nodes, with the attributes of numbered elements supplied
  from outside (the elements of the document's root, numbered in document order).
-/

namespace UtilityStyles.Markup

/-- A name as written: an optional prefix before `:`, and the local name. -/
structure QName where
  space : String
  localName : String
  deriving Repr, BEq, DecidableEq, Inhabited

/-- The name as written, `prefix:local` or `local`. -/
def QName.full (n : QName) : String :=
  if n.space.isEmpty then n.localName else n.space ++ ":" ++ n.localName

/-- An attribute and its value. -/
structure Attr where
  name : QName
  value : String
  deriving Repr, BEq, DecidableEq, Inhabited

/-- A key split at its first `:` into prefix and local name. -/
def QName.ofKey (key : String) : QName :=
  match key.toList.span (· != ':') with
  | (lead, _ :: rest) => ⟨String.ofList lead, String.ofList rest⟩
  | (all, []) => ⟨"", String.ofList all⟩

/-- Whether a key names an attribute: a key without prefix names that local name under any
prefix, a key with one names exactly that prefix and local name. -/
def QName.selects (key attr : QName) : Bool :=
  (key.space.isEmpty || key.space == attr.space) && key.localName == attr.localName

/-- The value of the first attribute that a key names. -/
def Attr.lookup (attrs : List Attr) (key : String) : Option String :=
  (attrs.find? fun a => (QName.ofKey key).selects a.name).map (·.value)

/-- Sets the attribute of exactly the name a key gives, in place, or appends it. -/
def Attr.put (attrs : List Attr) (key value : String) : List Attr :=
  let name := QName.ofKey key
  if attrs.any (·.name == name) then
    attrs.map fun a => if a.name == name then { a with value := value } else a
  else attrs ++ [⟨name, value⟩]

/-- Removes the first attribute of exactly the name a key gives. -/
def Attr.remove : List Attr → String → List Attr
  | [], _ => []
  | a :: rest, key => if a.name == QName.ofKey key then rest else a :: Attr.remove rest key

/-- A node of a markup tree. -/
inductive Node where
  | element (name : QName) (attrs : List Attr) (children : List Node)
  | text (data : String)
  | comment (data : String)
  | directive (data : String)
  | instruction (target data : String)
  deriving Repr, Inhabited

/-- Whether a code point can stand in markup: tab, line feed, carriage return, and the ranges
from the space to U+D7FF, U+E000 to U+FFFD and U+10000 up. -/
def isMarkupChar (n : Nat) : Bool :=
  n == 0x09 || n == 0x0A || n == 0x0D || (0x20 ≤ n && n ≤ 0xD7FF) ||
    (0xE000 ≤ n && n ≤ 0xFFFD) || (0x10000 ≤ n && n ≤ 0x10FFFF)

/-- The written form of one character of character data or of an attribute value. -/
def escapeChar (c : Char) : List Char :=
  if c == '&' then "&amp;".toList
  else if c == '<' then "&lt;".toList
  else if c == '>' then "&gt;".toList
  else if c == Char.ofNat 39 then "&apos;".toList
  else if c == '"' then "&quot;".toList
  else if isMarkupChar c.toNat then [c]
  else ['�']

/-- Character data or an attribute value as written. -/
def escape (s : String) : String :=
  String.ofList (s.toList.flatMap escapeChar)

/-- An attribute as written, with a leading blank. -/
def Attr.render (a : Attr) : String :=
  " " ++ a.name.full ++ "=\"" ++ escape a.value ++ "\""

/-- A start tag's name and attributes as written. -/
def renderAttrs (attrs : List Attr) : String :=
  String.join (attrs.map Attr.render)

mutual
/-- The text of a node. Elements are numbered from `next` in document order when `numbered`
holds, and a numbered element takes its attributes from `attrsOf` when it gives some. Returns
the next free number. -/
def Node.renderWith (attrsOf : Nat → Option (List Attr)) (numbered : Bool) (next : Nat) :
    Node → String × Nat
  | .element name attrs children =>
    let own := if numbered then (attrsOf next).getD attrs else attrs
    let start := if numbered then next + 1 else next
    let (inner, after) := renderAll attrsOf numbered start children
    let tag := name.full
    if children.isEmpty then ("<" ++ tag ++ renderAttrs own ++ "/>", after)
    else ("<" ++ tag ++ renderAttrs own ++ ">" ++ inner ++ "</" ++ tag ++ ">", after)
  | .text data => (escape data, next)
  | .comment data => ("<!--" ++ data ++ "-->", next)
  | .directive data => ("<!" ++ data ++ ">", next)
  | .instruction target data =>
    ("<?" ++ target ++ (if data.isEmpty then "" else " " ++ data) ++ "?>", next)

/-- The text of a list of nodes, numbering as `Node.renderWith` does. -/
def renderAll (attrsOf : Nat → Option (List Attr)) (numbered : Bool) (next : Nat) :
    List Node → String × Nat
  | [] => ("", next)
  | n :: rest =>
    let (a, mid) := n.renderWith attrsOf numbered next
    let (b, after) := renderAll attrsOf numbered mid rest
    (a ++ b, after)
end

/-- Whether a node is an element. -/
def Node.isElement : Node → Bool
  | .element .. => true
  | _ => false

/-- The text of a document's top-level nodes: the first element (the root) and its descendants
are numbered from `0` and take their attributes from `attrsOf`. -/
def renderDocument (attrsOf : Nat → Option (List Attr)) : List Node → String
  | [] => ""
  | n :: rest =>
    if n.isElement then (n.renderWith attrsOf true 0).1 ++ (renderAll attrsOf false 0 rest).1
    else (n.renderWith attrsOf false 0).1 ++ renderDocument attrsOf rest

end UtilityStyles.Markup
