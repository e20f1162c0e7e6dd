import UtilityStyles.Yaml.Parser
import UtilityStyles.Config.Text
/-!
# Reading a YAML document as settings

A settings file is a YAML document whose top node is a mapping from strings to values. Decoding
collects type errors and carries on; the document is refused when any occurred. It is refused at
once on a failure (an alias inside the node it names, a merge that is not of mappings, a key
that is a collection in a mapping of general keys, or a scalar that does not fit its tag).

* A mapping with two keys of the same kind and text is a type error, one per repeated key, and
  is left out.
* A mapping whose keys are all strings keeps them; any other mapping writes its keys as text
  (`<nil>` for a null key). In a mapping of strings, a null key is dropped and a collection key is
  a type error.
* A merge key `<<` adds the pairs of a mapping (or of each mapping of a list) whose keys the
  mapping does not have yet.
* An empty document, or a null one, is an empty mapping; any other scalar, and a list, is a type
  error.

## Main definitions

* `decodeSettings` : the settings of a parsed document.
* `readSettings` : the settings of a YAML text.
-/

namespace UtilityStyles.Yaml

open UtilityStyles.Config (Value)

/-- Decoding steps: they collect type errors and may fail. -/
abbrev DecodeM := StateT (List String) (Except YamlError)

/-- Records a type error. -/
def typeError (msg : String) : DecodeM Unit := modify (· ++ [msg])

/-- The backquote. -/
def backquote : String := String.singleton (Char.ofNat 96)

/-- A scalar's text as a type error shows it: in backquotes, and cut to seven bytes and an
ellipsis when longer than ten. -/
def shownText (text : String) : String :=
  if text.utf8ByteSize > 10 then
    " " ++ backquote ++ String.fromUTF8! (text.toUTF8.extract 0 (fitPrefix text 7)) ++ "..." ++ backquote
  else " " ++ backquote ++ text ++ backquote
where
  /-- The byte length of the longest run of whole characters within a number of bytes. -/
  fitPrefix (s : String) (limit : Nat) : Nat :=
    (s.toList.foldl (fun (n, stop) c =>
      if stop || n + c.utf8Size > limit then (n, true) else (n + c.utf8Size, false)) (0, false)).1

/-- The type error of a node that cannot go where it is put. -/
def cannotUnmarshal (n : Node) (target : String) : String :=
  let shown := match n with
    | .scalar _ text _ _ => shownText text
    | _ => ""
  "line " ++ toString n.line ++ ": cannot unmarshal " ++ n.shortTag ++ shown ++ " into " ++ target

/-- The kind and text by which keys are compared for repetition. -/
def keyIdentity : Node → Nat × String
  | .scalar _ t _ _ => (0, t)
  | .sequence _ _ _ => (1, "")
  | .mapping _ _ _ => (2, "")
  | .alias name _ _ => (3, name)

/-- The type errors of a mapping's repeated keys: each later key against every earlier one. -/
def repeatedKeys (keys : List Node) : List String :=
  let indexed := keys.zipIdx
  indexed.flatMap fun (nj, j) =>
    (indexed.filter fun (ni, i) => i < j && keyIdentity ni == keyIdentity nj).map fun (ni, _) =>
      "line " ++ toString nj.line ++ ": mapping key " ++ Text.quote (keyIdentity nj).2 ++
        " already defined at line " ++ toString ni.line

/-- Whether a key is a merge key. -/
def isMergeKey : Node → Bool
  | .scalar tag text _ _ => text == "<<" && (tag == "!!merge")
  | _ => false

/-- The value of a scalar. -/
def scalarValue (tag text : String) : DecodeM Value :=
  if tag == "!!str" then pure (.str text)
  else
    match resolveTagged tag text with
    | .ok (_, v) => pure v
    | .error e => throw e

/-- A value as a key of a mapping of general keys is written: its text, `<nil>` for null. -/
def keyText (v : Value) : String := v.text

/-- Puts a member into a map, in place of one with the same key. -/
def setMember (members : List (String × Value)) (k : String) (v : Value) : List (String × Value) :=
  if members.any (·.1 == k) then members.map fun (k', v') => if k' == k then (k', v) else (k', v')
  else members ++ [(k, v)]

/-- The failure when a merge is not of mappings. -/
def mergeFailure : YamlError := .failure "map merge requires map or sequence of maps as the value"

/-- The text of a value as a literal of the host language writes it, for the message about a
key that is a collection. -/
def literalText : Value → String
  | .list items => "[]interface {}\x7b" ++ ", ".intercalate (items.map itemLiteral) ++ "\x7d"
  | .map members => "map[string]interface {}\x7b" ++
      ", ".intercalate (members.map fun (k, v) => Text.quote k ++ ":" ++ itemLiteral v) ++ "\x7d"
  | v => itemLiteral v
where
  /-- An item inside a collection literal. -/
  itemLiteral : Value → String
    | .str s => Text.quote s
    | .null => "interface {}(nil)"
    | .list _ => "[]interface {}\x7b...\x7d"
    | .map _ => "map[string]interface {}\x7b...\x7d"
    | v => v.text

mutual

/-- Decodes a node as a value; none when it is left out (a mapping with repeated keys). -/
def decodeValue : Nat → Node → DecodeM (Option Value)
  | 0, _ => throw (.failure "document too deep")
  | n + 1, node =>
    match node with
    | .scalar tag text _ _ => do return some (← scalarValue tag text)
    | .sequence _ items _ => do
      let vs ← decodeItems n items
      return some (.list vs)
    | .mapping _ pairs _ => do
      let stringKeys := pairs.all fun (k, _) => k.shortTag == "!!str" || k.shortTag == "!!merge"
      match ← decodeMembers n stringKeys pairs with
      | some ms => return some (.map ms)
      | none => return none
    | .alias name target _ =>
      match target with
      | some t => decodeValue n t
      | none => throw (.failure ("anchor " ++ Text.inApostrophes name ++ " value contains itself"))

/-- Decodes the items of a list, leaving out those that are left out. -/
def decodeItems : Nat → List Node → DecodeM (List Value)
  | 0, _ => pure []
  | _, [] => pure []
  | n + 1, i :: rest => do
    let v ← decodeValue n i
    let vs ← decodeItems n rest
    return match v with
      | some v => v :: vs
      | none => vs

/-- Decodes a key of a mapping of strings; none for a null key or one that is a collection. -/
def decodeStringKey : Nat → Node → DecodeM (Option String)
  | 0, _ => pure none
  | n + 1, node =>
    match node with
    | .scalar tag text _ _ => do
      match ← scalarValue tag text with
      | .null => return none
      | _ => return some text
    | .alias name target _ =>
      match target with
      | some t => decodeStringKey n t
      | none => throw (.failure ("anchor " ++ Text.inApostrophes name ++ " value contains itself"))
    | other => do
      typeError (cannotUnmarshal other "string")
      return none

/-- Decodes the pairs of a mapping into members, after checking for repeated keys; then merges
in the mappings of its merge key. -/
def decodeMembers : Nat → Bool → List (Node × Node) → DecodeM (Option (List (String × Value)))
  | 0, _, _ => pure none
  | n + 1, stringKeys, pairs => do
    let dups := repeatedKeys (pairs.map (·.1))
    if !dups.isEmpty then
      modify (· ++ dups)
      return none
    let (members, merge) ← decodePairs n stringKeys pairs [] none
    match merge with
    | none => return some members
    | some m =>
      let own := members.map (·.1)
      let sources ← match m with
        | .mapping _ _ _ => pure [m]
        | .alias _ (some t@(.mapping _ _ _)) _ => pure [t]
        | .sequence _ items _ =>
          items.mapM fun i => match i with
            | .mapping _ _ _ => pure i
            | .alias _ (some t@(.mapping _ _ _)) _ => pure t
            | _ => throw mergeFailure
        | _ => throw mergeFailure
      let merged ← mergeSources n stringKeys sources own []
      return some (members ++ merged)

/-- Decodes pairs in order; a merge key's value is kept aside. -/
def decodePairs : Nat → Bool → List (Node × Node) → List (String × Value) → Option Node →
    DecodeM (List (String × Value) × Option Node)
  | 0, _, _, acc, merge => pure (acc, merge)
  | _, _, [], acc, merge => pure (acc, merge)
  | n + 1, stringKeys, (k, v) :: rest, acc, merge => do
    if isMergeKey k then
      decodePairs n stringKeys rest acc (some v)
    else
      let key ← if stringKeys then decodeStringKey n k
        else do
          match ← decodeValue n k with
          | some kv =>
            match kv with
            | .list _ | .map _ => throw (.failure ("invalid map key: " ++ literalText kv))
            | _ => pure (some (keyText kv))
          | none => pure none
      match key with
      | none => decodePairs n stringKeys rest acc merge
      | some key =>
        match ← decodeValue n v with
        | some val => decodePairs n stringKeys rest (setMember acc key val) merge
        | none =>
          if v.shortTag == "!!null" then decodePairs n stringKeys rest (setMember acc key .null) merge
          else decodePairs n stringKeys rest acc merge

/-- Merges the members of mappings, each key only when no earlier one has it. -/
def mergeSources : Nat → Bool → List Node → List String → List (String × Value) →
    DecodeM (List (String × Value))
  | 0, _, _, _, acc => pure acc
  | _, _, [], _, acc => pure acc
  | n + 1, stringKeys, src :: rest, taken, acc => do
    let ms ← match src with
      | .mapping _ pairs _ => decodeMembers n stringKeys pairs
      | _ => pure none
    let fresh := (ms.getD []).filter fun (k, _) => !taken.contains k
    mergeSources n stringKeys rest (taken ++ fresh.map (·.1)) (acc ++ fresh)

end

/-- The members of a document's top node, which must be a mapping or null. -/
def decodeTop : Nat → Node → DecodeM (List (String × Value))
  | 0, _ => throw (.failure "document too deep")
  | depth + 1, node =>
    match node with
    | .mapping _ pairs _ => do return (← decodeMembers depth true pairs).getD []
    | .alias name target _ =>
      match target with
      | some t => decodeTop depth t
      | none => throw (.failure ("anchor " ++ Text.inApostrophes name ++ " value contains itself"))
    | .scalar tag text _ _ => do
      match ← scalarValue tag text with
      | .null => return []
      | _ => do typeError (cannotUnmarshal node "map[string]interface {}"); return []
    | _ => do
      typeError (cannotUnmarshal node "map[string]interface {}")
      return []

/-- The settings of a parsed document. -/
def decodeSettings (doc : Option Node) (depth : Nat) : Except YamlError (List (String × Value)) :=
  match doc with
  | none => .ok []
  | some node =>
    match (decodeTop depth node).run [] with
    | .error e => .error e
    | .ok (members, errs) => if errs.isEmpty then .ok members else .error (.unmarshal errs)

/-- The settings of a YAML text. -/
def readSettings (text : String) : Except YamlError (List (String × Value)) := do
  let doc ← parseDocument text
  decodeSettings doc (text.length + 8)

end UtilityStyles.Yaml
