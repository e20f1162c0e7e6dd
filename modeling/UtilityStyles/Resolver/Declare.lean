import UtilityStyles.Resolver.Session
import UtilityStyles.Config.Value
import UtilityStyles.Text.Quote
/-!
# Declaring styles by selector

Classes can be declared for the elements a selector picks: each picked element gets the classes
applied under a binding of its own. Declarations come in bulk as loosely typed maps from
selector to classes; a map in place of the classes nests selectors (its keys are joined to the
outer selector by a blank, as descendants). Keys are taken in sorted order, and anything that is
neither classes nor a map is refused.

## Main definitions

* `DeclareError`, `DeclareError.message`.
* `Session.makeStyle`, `Session.makeStyles`.
-/

namespace UtilityStyles

open UtilityStyles.Css (SelectorError)
open UtilityStyles.Text (quote)

/-- Why a style declaration fails. -/
inductive DeclareError where
  /-- The selector is refused. -/
  | invalidSelector (selector : String) (e : SelectorError)
  /-- The declared value is neither classes nor a map; its kind is given. -/
  | invalidStyles (selector : String) (kind : String)
  deriving Repr, BEq

/-- The message of a declaration error. -/
def DeclareError.message : DeclareError → String
  | .invalidSelector sel e => "make style " ++ quote sel ++ ": invalid selector: " ++ e.message
  | .invalidStyles sel kind => "invalid styles declaration for " ++ quote sel ++ ": got " ++ kind

/-- Whether a declaration error is about the value's kind. -/
def DeclareError.isInvalidStyles : DeclareError → Bool
  | .invalidStyles .. => true
  | _ => false

/-- Whether a declaration error is about the selector. -/
def DeclareError.isInvalidSelector : DeclareError → Bool
  | .invalidSelector .. => true
  | _ => false

mutual
/-- How deeply maps and lists nest in a value. -/
def Config.Value.depth : Config.Value → Nat
  | .list vs => Config.Value.depthItems vs + 1
  | .map ms => Config.Value.depthMembers ms + 1
  | _ => 0

/-- The deepest nesting among list items. -/
def Config.Value.depthItems : List Config.Value → Nat
  | [] => 0
  | v :: rest => max v.depth (Config.Value.depthItems rest)

/-- The deepest nesting among map members. -/
def Config.Value.depthMembers : List (String × Config.Value) → Nat
  | [] => 0
  | (_, v) :: rest => max v.depth (Config.Value.depthMembers rest)
end

namespace Session

/-- Applies classes to every element a selector picks, each under a binding of its own; returns
how many were picked. -/
def makeStyle (s : Session) (selector classes : String) : Except DeclareError (Session × Nat) :=
  match s.page.query selector with
  | .error e => .error (.invalidSelector selector e)
  | .ok els => .ok (els.foldl (fun acc el => (acc.applyMulti el classes).1) s, els.length)

/-- Declares a value for a selector: classes, or a map of nested selectors taken in sorted
order. Returns the errors in the order they arose. -/
def declareWith : Nat → Session → String → Config.Value → Session × List DeclareError
  | _, s, sel, .str classes =>
    match s.makeStyle sel classes with
    | .ok (s', _) => (s', [])
    | .error e => (s, [e])
  | fuel + 1, s, sel, .map members =>
    (sortByKey members).foldl
      (fun (acc, errs) (child, v) =>
        let (acc', more) := declareWith fuel acc (sel ++ " " ++ child) v
        (acc', errs ++ more))
      (s, [])
  | _, s, sel, v =>
    (s.note .warn "invalid styles declaration" [("selector", .text sel), ("type", .text v.kindName)],
      [.invalidStyles sel v.kindName])

/-- Declares a value for a selector. -/
def declare (s : Session) (selector : String) (styles : Config.Value) :
    Session × List DeclareError :=
  declareWith (styles.depth + 1) s selector styles

/-- Declares maps of selectors, each map's keys in sorted order. Returns the session, the
selectors declared (sorted, each once), and the errors in the order they arose. -/
def makeStyles (s : Session) (decls : List (List (String × Config.Value))) :
    Session × List String × List DeclareError :=
  let (s', defined, errs) := decls.foldl
    (fun (acc, defined, errs) d =>
      (sortByKey d).foldl
        (fun (acc, defined, errs) (sel, v) =>
          let (acc', more) := acc.declare sel v
          (acc', if defined.contains sel then defined else defined ++ [sel], errs ++ more))
        (acc, defined, errs))
    (s, [], [])
  (s', (defined.map fun k => (k, ())) |> sortByKey |>.map (·.1), errs)

end Session

end UtilityStyles
