import UtilityStyles.Markup.Reader
import UtilityStyles.Css.InlineStyle
import UtilityStyles.Css.Selector
/-!
# Pages

A page is a markup document whose elements carry inline styles. Its elements are those of the
document's root (its first top-level element) and the root's descendants, numbered from `0` in
document order. Each element's inline style is read from its `style` attribute when the page is
loaded; changing the style writes the attribute back (removing it when the style is empty).

Besides the predefined entities, a page reads `&nbsp;`, `&copy;`, `&mdash;` and `&ndash;`.

## Main definitions

* `Page`, `Page.load`, `LoadError.message`.
* `Page.setStyle`, `Page.styleValue`, `Page.query`, `Page.render`.
-/

namespace UtilityStyles

open UtilityStyles.Markup (QName Attr Node ReadError readNodes renderDocument)
open UtilityStyles.Css (InlineStyle Selector SelectorError ElementView)
open UtilityStyles.Text (fields)

/-- One element of a page. -/
structure Page.Element where
  name : QName
  parent : Option Nat
  attrs : List Attr
  style : InlineStyle
  deriving Repr, Inhabited

/-- A page: the document's top-level nodes as read, and its elements in document order. -/
structure Page where
  nodes : List Node
  elements : Array Page.Element
  deriving Repr, Inhabited

/-- Why a text does not load as a page. -/
inductive LoadError where
  /-- The text is not a well-formed document. -/
  | unreadable (e : ReadError)
  /-- The document has no element. -/
  | noRoot
  deriving Repr, BEq

/-- The message of a load error. -/
def LoadError.message : LoadError → String
  | .unreadable e => "parse document: " ++ e.message
  | .noRoot => "parse document: no root element"

/-- The entities a page reads besides the predefined ones. -/
def Page.entities : List (String × String) :=
  [("nbsp", "\u00a0"), ("copy", "©"), ("mdash", "—"), ("ndash", "–")]

mutual
/-- Appends an element and its descendant elements, in document order. -/
def Page.collectNode (parent : Option Nat) (acc : Array Page.Element) : Node → Array Page.Element
  | .element name attrs children =>
    let here := acc.size
    let style := InlineStyle.ofAttr ((Attr.lookup attrs "style").getD "")
    Page.collectAll (some here) (acc.push ⟨name, parent, attrs, style⟩) children
  | _ => acc

/-- Appends the elements of a list of nodes, in document order. -/
def Page.collectAll (parent : Option Nat) (acc : Array Page.Element) :
    List Node → Array Page.Element
  | [] => acc
  | n :: rest => Page.collectAll parent (Page.collectNode parent acc n) rest
end

/-- The first top-level element of a document. -/
def Page.rootOf : List Node → Option Node
  | [] => none
  | n :: rest => if n.isElement then some n else Page.rootOf rest

/-- Loads a page from its text. -/
def Page.load (text : String) : Except LoadError Page :=
  match readNodes Page.entities text with
  | .error e => .error (.unreadable e)
  | .ok nodes =>
    match Page.rootOf nodes with
    | none => .error .noRoot
    | some root => .ok ⟨nodes, Page.collectNode none #[] root⟩

namespace Page

/-- The number of elements. -/
def size (p : Page) : Nat := p.elements.size

/-- The element with a number; a blank element past the end. -/
def get (p : Page) (i : Nat) : Page.Element := p.elements.getD i default

/-- An element's local name. -/
def tag (p : Page) (i : Nat) : String := (p.get i).name.localName

/-- The value of an element's attribute that a key names. -/
def attr (p : Page) (i : Nat) (key : String) : Option String := Attr.lookup (p.get i).attrs key

/-- An element's id, empty when it has none. -/
def id (p : Page) (i : Nat) : String := (p.attr i "id").getD ""

/-- An element's class attribute, empty when it has none. -/
def classAttr (p : Page) (i : Nat) : String := (p.attr i "class").getD ""

/-- An element's class names: its class attribute split at blanks. -/
def classNames (p : Page) (i : Nat) : List String := fields (p.classAttr i)

/-- Whether an element has a class name. -/
def hasClass (p : Page) (i : Nat) (name : String) : Bool := (p.classNames i).contains name

/-- An element's parent element; the root has none. -/
def parent (p : Page) (i : Nat) : Option Nat := (p.get i).parent

/-- The value of a property in an element's inline style, empty when it is not set. -/
def styleValue (p : Page) (i : Nat) (property : String) : String := (p.get i).style.get property

/-- The text of an element's inline style. -/
def styleText (p : Page) (i : Nat) : String := (p.get i).style.render

/-- Sets a property of an element's inline style, and writes the style attribute back: the
attribute named exactly `style` is set in place or appended, or removed when the style is
empty. -/
def setStyle (p : Page) (i : Nat) (property value : String) : Page :=
  if h : i < p.elements.size then
    let e := p.elements[i]
    let style := e.style.set property value
    let attrs :=
      if style.size == 0 then Attr.remove e.attrs "style" else Attr.put e.attrs "style" style.render
    { p with elements := p.elements.set i { e with style := style, attrs := attrs } }
  else p

/-- Sets a custom property, adding the leading `--` when the name lacks it. -/
def setCustomProperty (p : Page) (i : Nat) (name value : String) : Page :=
  p.setStyle i (if name.startsWith "--" then name else "--" ++ name) value

/-- What a selector sees of an element. -/
def view (p : Page) (i : Nat) : ElementView := ⟨p.tag i, (p.get i).attrs⟩

/-- An element followed by its ancestors, nearest first. -/
def lineageFrom (p : Page) : Nat → Nat → List ElementView
  | 0, _ => []
  | fuel + 1, i => p.view i :: ((p.parent i).map (p.lineageFrom fuel)).getD []

/-- An element followed by its ancestors, nearest first. -/
def lineage (p : Page) (i : Nat) : List ElementView := p.lineageFrom (p.size + 1) i

/-- The elements a selector picks, in document order. -/
def select (p : Page) (s : Selector) : List Nat :=
  (List.range p.size).filter fun i => s.matches (p.lineage i)

/-- The elements a selector text picks, in document order. -/
def query (p : Page) (selector : String) : Except SelectorError (List Nat) :=
  (Selector.parse selector).map p.select

/-- The text of the page, with each element's current attributes. -/
def render (p : Page) : String :=
  renderDocument (fun i => (p.elements[i]?).map (·.attrs)) p.nodes

end Page

end UtilityStyles
