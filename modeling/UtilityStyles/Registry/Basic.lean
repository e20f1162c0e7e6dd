import UtilityStyles.Registry.Target
import UtilityStyles.Registry.Defaults
import UtilityStyles.Config.Value
import UtilityStyles.Text.Blank
import UtilityStyles.Text.Quote
/-!
# The property registry

A registry maps each class type to the list of properties it was defined with. The targets of
a type are compiled from that list (`compileTargets`), so a type has targets exactly when it
has a definition. Definitions are kept sorted by type, one per type.

A definition is refused when the type is empty, when the list is empty, or when a property name
is blank; a refused definition leaves the registry as it was. Building a registry from a table,
or defining a table of loosely typed entries, goes through the types in sorted order and
collects one error per refused entry.

## Main definitions

* `Registry` : the definitions.
* `DefinitionError` : why a definition is refused, with its message.
* `Registry.define`, `Registry.defineAll`, `Registry.ofTable`, `Registry.merge` : building.
* `Registry.targets?`, `Registry.properties?`, `Registry.types` : looking up.
-/

namespace UtilityStyles

/-- Why a property definition is refused. -/
inductive DefinitionError where
  /-- The type is the empty text. -/
  | emptyType
  /-- The property list is empty. -/
  | noProperties (type : String)
  /-- A property name is blank. -/
  | blankProperty (type : String)
  /-- A loosely typed entry is neither a string nor a list of strings; `kind` names its kind. -/
  | notStringList (type : String) (kind : String)
  deriving Repr, BEq

/-- The message of a refused definition. -/
def DefinitionError.message : DefinitionError → String
  | .emptyType => "invalid property definition: empty type"
  | .noProperties t => "invalid property definition: type " ++ Text.quote t ++ " has no properties"
  | .blankProperty t =>
    "invalid property definition: type " ++ Text.quote t ++ " has an empty property name"
  | .notStringList t k =>
    "invalid property definition: " ++ Text.quote t ++
      " must be a string or a list of strings, got " ++ k

/-- Class types and their property lists, sorted by type, one entry per type. -/
structure Registry where
  definitions : List (String × List String)
  deriving Inhabited

/-- Sorts a table by its keys. -/
def sortByKey {α : Type} (table : List (String × α)) : List (String × α) :=
  table.mergeSort fun a b => a.1 ≤ b.1

namespace Registry

/-- The registry without definitions. -/
def empty : Registry :=
  ⟨[]⟩

/-- Puts a definition in its sorted place, replacing an earlier one of the same type. -/
def insertSorted (type : String) (props : List String) :
    List (String × List String) → List (String × List String)
  | [] => [(type, props)]
  | (t, ps) :: rest =>
    if type < t then (type, props) :: (t, ps) :: rest
    else if type == t then (type, props) :: rest
    else (t, ps) :: insertSorted type props rest

/-- The property list a type was defined with. -/
def properties? (r : Registry) (type : String) : Option (List String) :=
  r.definitions.lookup type

/-- The compiled targets of a type, in definition order. -/
def targets? (r : Registry) (type : String) : Option (List Target) :=
  (r.properties? type).map (compileTargets type)

/-- The defined types, sorted. -/
def types (r : Registry) : List String :=
  r.definitions.map Prod.fst

/-- The number of defined types. -/
def size (r : Registry) : Nat :=
  r.definitions.length

/-- Why a definition would be refused, if it would. -/
def check (type : String) (props : List String) : Option DefinitionError :=
  if type.isEmpty then some .emptyType
  else if props.isEmpty then some (.noProperties type)
  else if props.any Text.isAllBlank then some (.blankProperty type)
  else none

/-- Defines a type, replacing an earlier definition. -/
def define (r : Registry) (type : String) (props : List String) :
    Except DefinitionError Registry :=
  match check type props with
  | some e => .error e
  | none => .ok ⟨insertSorted type props r.definitions⟩

/-- Defines each entry of a list in turn, collecting the errors of refused entries. -/
def defineEach (r : Registry) :
    List (String × Except DefinitionError (List String)) → Registry × List DefinitionError
  | [] => (r, [])
  | (type, entry) :: rest =>
    let (r', err) : Registry × List DefinitionError :=
      match entry with
      | .error e => (r, [e])
      | .ok props =>
        match r.define type props with
        | .ok r' => (r', [])
        | .error e => (r, [e])
    let (r'', errs) := r'.defineEach rest
    (r'', err ++ errs)

/-- A registry built from a table of types and property lists, defined in sorted order of
type, with the errors of the refused entries. -/
def ofTable (table : List (String × List String)) : Registry × List DefinitionError :=
  empty.defineEach ((sortByKey table).map fun (t, ps) => (t, .ok ps))

/-- The default registry. -/
def defaults : Registry :=
  (ofTable defaultProperties).1

/-- The properties of a loosely typed entry: a string or a list of strings. -/
def entryProperties (type : String) (v : Config.Value) : Except DefinitionError (List String) :=
  match v.stringList? with
  | some ps => .ok ps
  | none => .error (.notStringList type v.kindName)

/-- Defines loosely typed entries in sorted order of type, with the errors of refused ones. -/
def defineAll (r : Registry) (defs : List (String × Config.Value)) :
    Registry × List DefinitionError :=
  r.defineEach ((sortByKey defs).map fun (t, v) => (t, entryProperties t v))

/-- Copies every definition of `other` into `r`; types defined in both take `other`'s. -/
def merge (r other : Registry) : Registry :=
  ⟨other.definitions.foldl (fun acc (t, ps) => insertSorted t ps acc) r.definitions⟩

end Registry

end UtilityStyles
