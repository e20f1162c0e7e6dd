import UtilityStyles.Config.Text
import UtilityStyles.Text.Case
/-!
# Layered settings

The settings of a run are a tree of named values built from layers, each merged over the ones
before: the settings file, then the environment, then the command-line flags that were given. A
layer's map meets an existing map member by member; any other value replaces what was there.

A setting is named by the keys on its path joined with dots (`apply.output-dir`). A name
*exists* when some node of the tree is reached by such a path, even a null one or an empty map;
looking a name up gives its value, or nothing when it is missing or null.

An environment variable `TENOX_REST` names the setting `rest`, lower-cased, with `_` read as
`-`; when the first word is a section (`apply`, `lint`) it opens that section:
`TENOX_APPLY_OUTPUT_DIR` is `apply.output-dir`. A variable that names nothing is ignored.

## Main definitions

* `Store`, `Store.load`, `mergeMembers`.
* `Store.has`, `Store.get?`, `Store.string`, `Store.bool`, `Store.int`, `Store.float`,
  `Store.strings`.
* `envKey`, `envLayer`, `unflatten`.
-/

namespace UtilityStyles.Settings

open UtilityStyles.Config (Value)

/-- Puts a member into a map, in place of the one with the same key. -/
def setMember (members : List (String × Value)) (k : String) (v : Value) : List (String × Value) :=
  if members.any (·.1 == k) then members.map fun (k', v') => if k' == k then (k', v) else (k', v')
  else members ++ [(k, v)]

mutual

/-- A layer's value over an existing one: maps merge, anything else replaces. -/
def mergeValue : Value → Value → Value
  | .map incoming, .map existing => .map (mergeMembers incoming existing)
  | v, _ => v

/-- A layer's members merged over existing members. -/
def mergeMembers : List (String × Value) → List (String × Value) → List (String × Value)
  | [], existing => existing
  | (k, v) :: rest, existing =>
    let merged := match existing.find? (·.1 == k) with
      | some (_, old) => setMember existing k (mergeValue v old)
      | none => existing ++ [(k, v)]
    mergeMembers rest merged

end

mutual

/-- Every node below a map with the path of keys that reaches it, the map's members first. -/
def memberPaths : List (String × Value) → List (List String × Value)
  | [] => []
  | (k, v) :: rest => ([k], v) :: ((valuePaths v).map fun (p, x) => (k :: p, x)) ++ memberPaths rest

/-- The nodes inside a value: a map's members and what lies below them. -/
def valuePaths : Value → List (List String × Value)
  | .map ms => memberPaths ms
  | _ => []

end

/-- Settings: the merged tree of the layers. -/
structure Store where
  members : List (String × Value)
  deriving Inhabited

namespace Store

/-- Settings built from layers, each merged over the ones before. -/
def load (layers : List (List (String × Value))) : Store :=
  ⟨layers.foldl (fun acc layer => mergeMembers layer acc) []⟩

/-- The node a dotted name reaches, if any. -/
def node? (s : Store) (name : String) : Option Value :=
  ((memberPaths s.members).find? fun (p, _) => ".".intercalate p == name).map (·.2)

/-- Whether a dotted name reaches a node. -/
def has (s : Store) (name : String) : Bool := (s.node? name).isSome

/-- The value of a setting; nothing when it is missing or null. -/
def get? (s : Store) (name : String) : Option Value :=
  match s.node? name with
  | some .null => none
  | v => v

/-- A string setting; empty when missing. -/
def string (s : Store) (name : String) : String :=
  ((s.get? name).map Value.asString).getD ""

/-- A truth setting; false when missing. -/
def bool (s : Store) (name : String) : Bool :=
  ((s.get? name).map Value.asBool).getD false

/-- An integer setting; zero when missing. -/
def int (s : Store) (name : String) : Int :=
  ((s.get? name).map Value.asInt).getD 0

/-- A float setting; zero when missing. -/
def float (s : Store) (name : String) : Float :=
  ((s.get? name).map Value.asFloat).getD 0

/-- A list setting; empty when missing or not a list. -/
def strings (s : Store) (name : String) : List String :=
  ((s.get? name).map Value.asStrings).getD []

/-- The first nonempty of two string settings, else a default. -/
def stringOr (s : Store) (name fallback default_ : String) : String :=
  let v := s.string name
  if !v.isEmpty then v
  else
    let w := s.string fallback
    if !w.isEmpty then w else default_

/-- A truth setting under the first of two names that exists, else a default. -/
def boolOr (s : Store) (name fallback : String) (default_ : Bool) : Bool :=
  if s.has name then s.bool name
  else if s.has fallback then s.bool fallback
  else default_

/-- An integer setting under the first of two names that exists, else a default. -/
def intOr (s : Store) (name fallback : String) (default_ : Int) : Int :=
  if s.has name then s.int name
  else if s.has fallback then s.int fallback
  else default_

end Store

/-- The sections whose settings an environment variable's first word opens. -/
def sections : List String := ["apply", "lint"]

/-- The setting an environment variable names; empty when it names none. -/
def envKey (name : String) : String :=
  let rest := if name.startsWith "TENOX_" then (name.drop 6).toString else name
  let parts := (Text.lowerText rest).splitOn "_"
  match parts with
  | first :: more@(_ :: _) =>
    if sections.contains first then first ++ "." ++ "-".intercalate more else "-".intercalate parts
  | _ => "-".intercalate parts

/-- Puts a value into a tree at a path of keys, making maps on the way. A key that holds
something other than a map is passed over, and the path goes on at the same level. -/
def insertPath : List String → Value → List (String × Value) → List (String × Value)
  | [], _, m => m
  | [k], v, m => setMember m k v
  | k :: rest, v, m =>
    match m.find? (·.1 == k) with
    | none => setMember m k (.map (insertPath rest v []))
    | some (_, .map sub) => setMember m k (.map (insertPath rest v sub))
    | some _ => insertPath rest v m

/-- A tree from dotted names and their values, in order. -/
def unflatten (flat : List (String × Value)) : List (String × Value) :=
  flat.foldl (fun acc (k, v) => insertPath (k.splitOn ".") v acc) []

/-- The settings layer of the environment: the variables that start with `TENOX_`, each under
the setting it names as a string; a later variable naming the same setting wins. -/
def envLayer (env : List (String × String)) : List (String × Value) :=
  let named := env.filterMap fun (name, value) =>
    if !(name ++ "=" ++ value).startsWith "TENOX_" then none
    else
      let key := envKey name
      if key.isEmpty then none else some (key, value)
  let latest := named.foldl (fun acc (k, v) =>
    if acc.any (·.1 == k) then acc.map (fun (k', v') => if k' == k then (k', v) else (k', v'))
    else acc ++ [(k, v)]) []
  unflatten (latest.map fun (k, v) => (k, Value.str v))

end UtilityStyles.Settings
