import UtilityStyles.Yaml.Scanner
import UtilityStyles.Yaml.Resolve
/-!
# Parsing YAML tokens into a document tree

The parser reads the first document of a stream into a tree of nodes, taking tokens from the
scanner in the order the YAML grammar asks for them. Block collections are delimited by the
indentation tokens, flow collections by their brackets; an entry or value that is missing is an
empty plain scalar. Inside a block mapping, a sequence may stand at the indentation of its key
(an indentless sequence).

Each node records its tag in short form (`!!str`, `!!map`, …): an explicit tag as written,
otherwise `!!seq` and `!!map` for collections, `!!str` for quoted and block scalars, `!!merge` for
a plain `<<`, and for any other plain scalar the tag its text resolves to. Lines are counted
from one.

An anchor names its node as soon as the node starts; an alias refers to the node named last
under its name, or to none when that node is still being read (it contains the alias).

## Main definitions

* `Node`, `Node.shortTag`.
* `parseDocument` : the first document of a text.
-/

namespace UtilityStyles.Yaml

/-- A node of a YAML document. -/
inductive Node where
  | scalar (tag : String) (text : String) (style : ScalarStyle) (line : Nat)
  | sequence (tag : String) (items : List Node) (line : Nat)
  | mapping (tag : String) (pairs : List (Node × Node)) (line : Nat)
  /-- An alias and the node it names; none when the alias lies inside that node. -/
  | alias (name : String) (target : Option Node) (line : Nat)
  deriving Inhabited

/-- The prefix of the standard tags. -/
def standardPrefix : String := "tag:yaml.org,2002:"

/-- A tag in short form: standard tags as `!!name`. -/
def shortForm (tag : String) : String :=
  if tag.startsWith standardPrefix then "!!" ++ (tag.drop standardPrefix.length).toString else tag

/-- The short tag of a node; an alias has its node's. -/
def Node.shortTag : Node → String
  | .scalar t _ _ _ => t
  | .sequence t _ _ => t
  | .mapping t _ _ => t
  | .alias _ (some n) _ => n.shortTag
  | .alias _ none _ => ""

/-- The line of a node. -/
def Node.line : Node → Nat
  | .scalar _ _ _ l => l
  | .sequence _ _ l => l
  | .mapping _ _ l => l
  | .alias _ _ l => l

/-- The state of the parser: the scanner, the tag handles in force, and the anchors met so far
(the latest first; none while the named node is being read). -/
structure ParserState where
  scanner : Scanner
  tagHandles : List (String × String)
  anchors : List (String × Option Node)
  deriving Inhabited

/-- Parsing steps: they read the state and may fail. -/
abbrev ParseM := StateT ParserState (Except YamlError)

/-- The next token, scanning as needed. -/
def peekTok : ParseM Token := do
  let st ← get
  match st.scanner.peekToken with
  | .ok (t, s) =>
    set { st with scanner := s }
    return t
  | .error e => throw e

/-- Takes the next token. -/
def skipTok : ParseM Unit :=
  modify fun st => { st with scanner := st.scanner.skipToken }

/-- A parser error with a context. -/
def parseFail {α : Type} (context : String) (contextMark : Mark) (problem : String) (problemMark : Mark) :
    ParseM α :=
  throw (.parser context contextMark problem problemMark)

/-- Whether a token is of a kind that leaves an entry empty. -/
def isKind (t : Token) (kinds : List TokenKind) : Bool := kinds.contains t.kind

/-- Marks an anchor as naming a node being read. -/
def openAnchor (name : String) : ParseM Unit :=
  if name.isEmpty then pure () else modify fun st => { st with anchors := (name, none) :: st.anchors }

/-- Names a finished node by its anchor. -/
def closeAnchor (name : String) (n : Node) : ParseM Node := do
  if !name.isEmpty then
    modify fun st => { st with anchors := (name, some n) :: st.anchors }
  return n

/-- The node an alias names. -/
def lookupAnchor (name : String) : ParseM (Option Node) := do
  let st ← get
  match st.anchors.find? (·.1 == name) with
  | some (_, target) => return target
  | none => throw (.failure ("unknown anchor " ++ Text.inApostrophes name ++ " referenced"))

/-- The tag of a scalar node: an explicit tag, else the style's or the text's. -/
def scalarTag (tag text : String) (style : ScalarStyle) : String :=
  if tag != "" && tag != "!" then shortForm tag
  else if style != .plain then "!!str"
  else if text == "<<" then "!!merge"
  else (resolvePlain text).1

/-- The tag of a collection node. -/
def collectionTag (tag default_ : String) : String :=
  if tag != "" && tag != "!" then shortForm tag else default_

/-- An empty plain scalar at a position. -/
def emptyScalar (m : Mark) : Node := .scalar "!!null" "" .plain (m.line + 1)

mutual

/-- A node: an alias, or a node with an optional anchor and tag. In the block context a node may
be a block collection; with `indentless`, a sequence may start at the current indentation. -/
def parseNode : Nat → Bool → Bool → ParseM Node
  | 0, _, _ => throw (.failure "document too deep")
  | n + 1, block, indentless => do
    let t ← peekTok
    match t.kind with
    | .alias name =>
      skipTok
      let target ← lookupAnchor name
      return .alias name target (t.start.line + 1)
    | _ =>
      let startMark := t.start
      let (anchor, tagParts, tagMark, t) ← match t.kind with
        | .anchor a => do
          skipTok
          let t2 ← peekTok
          match t2.kind with
          | .tag h s => do skipTok; let t3 ← peekTok; pure (a, some (h, s), t2.start, t3)
          | _ => pure (a, none, t2.start, t2)
        | .tag h s => do
          skipTok
          let t2 ← peekTok
          match t2.kind with
          | .anchor a => do skipTok; let t3 ← peekTok; pure (a, some (h, s), t.start, t3)
          | _ => pure ("", some (h, s), t.start, t2)
        | _ => pure ("", none, t.start, t)
      let tag ← match tagParts with
        | none => pure ""
        | some (h, s) =>
          if h.isEmpty then pure s
          else do
            let st ← get
            match st.tagHandles.find? (·.1 == h) with
            | some (_, pfx) => pure (pfx ++ s)
            | none => parseFail "while parsing a node" startMark "found undefined tag handle" tagMark
      let line := startMark.line + 1
      if indentless && t.kind == .blockEntry then
        openAnchor anchor
        let items ← parseIndentlessSequence n []
        closeAnchor anchor (.sequence (collectionTag tag "!!seq") items line)
      else
        match t.kind with
        | .scalar text style =>
          skipTok
          closeAnchor anchor (.scalar (scalarTag tag text style) text style line)
        | .flowSequenceStart =>
          openAnchor anchor
          skipTok
          let items ← parseFlowSequence n t.start true []
          closeAnchor anchor (.sequence (collectionTag tag "!!seq") items line)
        | .flowMappingStart =>
          openAnchor anchor
          skipTok
          let pairs ← parseFlowMapping n t.start true []
          closeAnchor anchor (.mapping (collectionTag tag "!!map") pairs line)
        | .blockSequenceStart =>
          if block then do
            openAnchor anchor
            skipTok
            let items ← parseBlockSequence n t.start []
            closeAnchor anchor (.sequence (collectionTag tag "!!seq") items line)
          else if !anchor.isEmpty || !tag.isEmpty then
            closeAnchor anchor (.scalar (scalarTag tag "" .plain) "" .plain line)
          else parseFail "while parsing a flow node" startMark "did not find expected node content" t.start
        | .blockMappingStart =>
          if block then do
            openAnchor anchor
            skipTok
            let pairs ← parseBlockMapping n t.start []
            closeAnchor anchor (.mapping (collectionTag tag "!!map") pairs line)
          else if !anchor.isEmpty || !tag.isEmpty then
            closeAnchor anchor (.scalar (scalarTag tag "" .plain) "" .plain line)
          else parseFail "while parsing a flow node" startMark "did not find expected node content" t.start
        | _ =>
          if !anchor.isEmpty || !tag.isEmpty then
            closeAnchor anchor (.scalar (scalarTag tag "" .plain) "" .plain line)
          else
            parseFail (if block then "while parsing a block node" else "while parsing a flow node")
              startMark "did not find expected node content" t.start

/-- The entries of a block sequence, after its opening token, up to its block end. -/
def parseBlockSequence : Nat → Mark → List Node → ParseM (List Node)
  | 0, _, acc => pure acc.reverse
  | n + 1, contextMark, acc => do
    let t ← peekTok
    match t.kind with
    | .blockEntry =>
      skipTok
      let t2 ← peekTok
      let item ← if isKind t2 [.blockEntry, .blockEnd] then pure (emptyScalar t.stop)
        else parseNode n true false
      parseBlockSequence n contextMark (item :: acc)
    | .blockEnd =>
      skipTok
      return acc.reverse
    | _ => parseFail "while parsing a block collection" contextMark ("did not find expected " ++ Text.inApostrophes "-" ++ " indicator") t.start

/-- The entries of a sequence at the indentation of its mapping key. -/
def parseIndentlessSequence : Nat → List Node → ParseM (List Node)
  | 0, acc => pure acc.reverse
  | n + 1, acc => do
    let t ← peekTok
    match t.kind with
    | .blockEntry =>
      skipTok
      let t2 ← peekTok
      let item ← if isKind t2 [.blockEntry, .key, .value, .blockEnd] then pure (emptyScalar t.stop)
        else parseNode n true false
      parseIndentlessSequence n (item :: acc)
    | _ => return acc.reverse

/-- The pairs of a block mapping, after its opening token, up to its block end. -/
def parseBlockMapping : Nat → Mark → List (Node × Node) → ParseM (List (Node × Node))
  | 0, _, acc => pure acc.reverse
  | n + 1, contextMark, acc => do
    let t ← peekTok
    match t.kind with
    | .key =>
      skipTok
      let t2 ← peekTok
      let k ← if isKind t2 [.key, .value, .blockEnd] then pure (emptyScalar t.stop)
        else parseNode n true true
      let t3 ← peekTok
      let v ← if t3.kind == .value then do
          skipTok
          let t4 ← peekTok
          if isKind t4 [.key, .value, .blockEnd] then pure (emptyScalar t3.stop)
          else parseNode n true true
        else pure (emptyScalar t3.start)
      parseBlockMapping n contextMark ((k, v) :: acc)
    | .blockEnd =>
      skipTok
      return acc.reverse
    | _ => parseFail "while parsing a block mapping" contextMark "did not find expected key" t.start

/-- The entries of a flow sequence, after its opening bracket, up to its closing one. A
`key: value` entry is a mapping of one pair. -/
def parseFlowSequence : Nat → Mark → Bool → List Node → ParseM (List Node)
  | 0, _, _, acc => pure acc.reverse
  | n + 1, contextMark, first, acc => do
    let t ← peekTok
    if t.kind == .flowSequenceEnd then
      skipTok
      return acc.reverse
    let t ← if first then pure t
      else if t.kind == .flowEntry then do skipTok; peekTok
      else parseFail "while parsing a flow sequence" contextMark ("did not find expected " ++ Text.inApostrophes "," ++ " or " ++ Text.inApostrophes "]") t.start
    match t.kind with
    | .flowSequenceEnd =>
      skipTok
      return acc.reverse
    | .key =>
      skipTok
      let t2 ← peekTok
      let k ← if isKind t2 [.value, .flowEntry, .flowSequenceEnd] then pure (emptyScalar t2.stop)
        else parseNode n false false
      let t3 ← peekTok
      let v ← if t3.kind == .value then do
          skipTok
          let t4 ← peekTok
          if isKind t4 [.flowEntry, .flowSequenceEnd] then pure (emptyScalar t3.start)
          else parseNode n false false
        else pure (emptyScalar t3.start)
      let _ ← peekTok
      parseFlowSequence n contextMark false (.mapping "!!map" [(k, v)] (t.start.line + 1) :: acc)
    | _ =>
      let item ← parseNode n false false
      parseFlowSequence n contextMark false (item :: acc)

/-- The pairs of a flow mapping, after its opening brace, up to its closing one. A key without
a value has an empty one. -/
def parseFlowMapping : Nat → Mark → Bool → List (Node × Node) → ParseM (List (Node × Node))
  | 0, _, _, acc => pure acc.reverse
  | n + 1, contextMark, first, acc => do
    let t ← peekTok
    if t.kind == .flowMappingEnd then
      skipTok
      return acc.reverse
    let t ← if first then pure t
      else if t.kind == .flowEntry then do skipTok; peekTok
      else parseFail "while parsing a flow mapping" contextMark ("did not find expected " ++ Text.inApostrophes "," ++ " or " ++ Text.inApostrophes "\x7d") t.start
    match t.kind with
    | .flowMappingEnd =>
      skipTok
      return acc.reverse
    | .key =>
      skipTok
      let t2 ← peekTok
      let k ← if isKind t2 [.value, .flowEntry, .flowMappingEnd] then pure (emptyScalar t2.start)
        else parseNode n false false
      let t3 ← peekTok
      let v ← if t3.kind == .value then do
          skipTok
          let t4 ← peekTok
          if isKind t4 [.flowEntry, .flowMappingEnd] then pure (emptyScalar t4.start)
          else parseNode n false false
        else pure (emptyScalar t3.start)
      parseFlowMapping n contextMark false ((k, v) :: acc)
    | _ =>
      let k ← parseNode n false false
      let t3 ← peekTok
      parseFlowMapping n contextMark false ((k, emptyScalar t3.start) :: acc)

end

/-- The default tag handles. -/
def defaultHandles : List (String × String) := [("!", "!"), ("!!", standardPrefix)]

/-- Reads the directives before a document and settles the tag handles in force. -/
def processDirectives : Nat → Bool → List (String × String) → ParseM Unit
  | 0, _, _ => pure ()
  | n + 1, seenVersion, handles => do
    let t ← peekTok
    match t.kind with
    | .versionDirective major minor =>
      if seenVersion then parseFail "" ⟨0, 0, 0⟩ "found duplicate %YAML directive" t.start
      else if major != 1 || minor != 1 then parseFail "" ⟨0, 0, 0⟩ "found incompatible YAML document" t.start
      else do
        skipTok
        processDirectives n true handles
    | .tagDirective h p =>
      if handles.any (·.1 == h) then parseFail "" ⟨0, 0, 0⟩ "found duplicate %TAG directive" t.start
      else do
        skipTok
        processDirectives n seenVersion (handles ++ [(h, p)])
    | _ =>
      let extra := defaultHandles.filter fun (h, _) => !handles.any (·.1 == h)
      modify fun st => { st with tagHandles := handles ++ extra }

/-- The node of the first document of a stream, none when the stream has no document. -/
def parseStream (depth : Nat) : ParseM (Option Node) := do
  let _ ← peekTok
  skipTok
  let t ← peekTok
  let directive := match t.kind with
    | .versionDirective _ _ | .tagDirective _ _ => true
    | _ => false
  if t.kind == .streamEnd then return none
  let content ←
    if !directive && t.kind != .documentStart then do
      processDirectives depth false []
      parseNode depth true false
    else do
      processDirectives depth false []
      let t ← peekTok
      if t.kind != .documentStart then parseFail "" ⟨0, 0, 0⟩ "did not find expected <document start>" t.start
      skipTok
      let t ← peekTok
      let bare := match t.kind with
        | .versionDirective _ _ | .tagDirective _ _ | .documentStart | .documentEnd | .streamEnd => true
        | _ => false
      if bare then pure (emptyScalar t.start) else parseNode depth true false
  let t ← peekTok
  if t.kind == .documentEnd then skipTok
  return some content

/-- Parses the first document of a text; none when the text holds no document. A character that
YAML does not allow anywhere in the text is refused first. -/
def parseDocument (text : String) : Except YamlError (Option Node) :=
  if text.toList.any (fun c => !allowedChar c) then .error (.reader "control characters are not allowed")
  else
    let s := Scanner.start text
    (parseStream (s.input.size + 8)).run' ⟨s, defaultHandles, []⟩

end UtilityStyles.Yaml
