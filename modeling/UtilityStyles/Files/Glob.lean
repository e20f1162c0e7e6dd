import UtilityStyles.Files.Tree
/-!
# Glob patterns

Patterns select paths of a file tree. In a pattern, `*` stands for any run of characters within
one path element, `?` for one character, `[…]` for one character of a class (`[!…]` or `[^…]`
for one outside it, `a-z` for a range), `{a,b}` for any of its alternatives, and a path element
`**` for any number of directories. A backslash makes the next character plain.

A pattern is valid when every class and every escape is complete and the braces balance; an
invalid pattern is refused with `syntax error in pattern`.

Matches come in the order a walk finds them: the entries of a directory sorted by name; for
`**`, each directory before the directories below it, and the entries of each directory that
match the rest of the pattern when the walk reaches it; the matches of alternatives merged in
sorted order without repeats.

## Main definitions

* `Glob.valid`, `Glob.matchElement`.
* `Glob.expand` : the paths a pattern selects in a file tree.
-/

namespace UtilityStyles.Glob

/-- The characters that make a pattern more than a plain path. -/
def isMeta (c : Char) : Bool := c == '*' || c == '?' || c == '[' || c == '{'

/-- Whether a pattern is well formed: no escape at its end, every class closed and not empty,
and the braces balanced. -/
def validFrom : Nat → Nat → List Char → Bool
  | 0, _, _ => true
  | _ + 1, depth, [] => depth == 0
  | fuel + 1, depth, '\\' :: rest =>
    match rest with
    | [] => false
    | _ :: r => validFrom fuel depth r
  | fuel + 1, depth, '[' :: rest =>
    let body := match rest with
      | c :: r => if c == '^' || c == '!' then r else c :: r
      | [] => []
    match body with
    | [] => false
    | c :: _ =>
      if c == ']' then false
      else
        match closeClass body with
        | some r => validFrom fuel depth r
        | none => false
  | fuel + 1, depth, '{' :: rest => validFrom fuel (depth + 1) rest
  | fuel + 1, depth, '}' :: rest => if depth == 0 then false else validFrom fuel (depth - 1) rest
  | fuel + 1, depth, _ :: rest => validFrom fuel depth rest
where
  /-- The rest after the `]` that closes a class, skipping escaped characters. -/
  closeClass : List Char → Option (List Char)
    | [] => none
    | '\\' :: [] => none
    | '\\' :: _ :: r => closeClass r
    | ']' :: r => some r
    | _ :: r => closeClass r

/-- Whether a pattern is well formed. -/
def valid (p : String) : Bool := validFrom (p.length + 1) 0 p.toList

/-- The items of a class after its `[` and negation mark: whether `c` is among them, and the
rest after the closing `]`. A `-` between two characters makes a range; elsewhere it is plain. -/
def classItems (c : Char) : Option Char → List Char → Option (Bool × List Char)
  | _, [] => none
  | _, ']' :: r => some (false, r)
  | some lo, '-' :: x :: r =>
    if x == ']' then
      match classItems c (some '-') (x :: r) with
      | some (m, r') => some (m || c == '-', r')
      | none => none
    else
      if x == '\\' then
        match r with
        | y :: r2 =>
          match classItems c none r2 with
          | some (m, r3) => some (m || (lo ≤ c && c ≤ y), r3)
          | none => none
        | [] => none
      else
        match classItems c none r with
        | some (m, r3) => some (m || (lo ≤ c && c ≤ x), r3)
        | none => none
  | _, '\\' :: x :: r =>
    match classItems c (some x) r with
    | some (m, r') => some (m || c == x, r')
    | none => none
  | _, x :: r =>
    match classItems c (some x) r with
    | some (m, r') => some (m || c == x, r')
    | none => none

/-- The alternatives of a brace group after its `{`, and the rest after its `}`. -/
def splitAlternatives : Nat → Nat → List Char → List Char → List (List Char) →
    Option (List (List Char) × List Char)
  | 0, _, _, _, _ => none
  | _ + 1, _, _, [], _ => none
  | fuel + 1, depth, cur, '\\' :: x :: r, alts => splitAlternatives fuel depth (cur ++ ['\\', x]) r alts
  | fuel + 1, depth, cur, '{' :: r, alts => splitAlternatives fuel (depth + 1) (cur ++ ['{']) r alts
  | fuel + 1, depth, cur, '}' :: r, alts =>
    if depth == 0 then some (alts ++ [cur], r)
    else splitAlternatives fuel (depth - 1) (cur ++ ['}']) r alts
  | fuel + 1, depth, cur, ',' :: r, alts =>
    if depth == 0 then splitAlternatives fuel depth [] r (alts ++ [cur])
    else splitAlternatives fuel depth (cur ++ [',']) r alts
  | fuel + 1, depth, cur, x :: r, alts => splitAlternatives fuel depth (cur ++ [x]) r alts

/-- Whether what is left of a pattern matches the empty text. -/
def matchesEmpty : Nat → List Char → Bool
  | 0, _ => false
  | _ + 1, [] => true
  | fuel + 1, '*' :: r => matchesEmpty fuel r
  | fuel + 1, '{' :: r =>
    match splitAlternatives (r.length + 1) 0 [] r [] with
    | some (alts, after) => alts.any fun a => matchesEmpty fuel (a ++ after)
    | none => false
  | _ + 1, _ => false

/-- Whether a pattern matches a whole text (a path element), by its rules; every recursive call
reads a shorter pattern or a shorter text. -/
def matchFrom : Nat → List Char → List Char → Bool
  | 0, _, _ => false
  | _ + 1, [], n => n.isEmpty
  | fuel + 1, '*' :: p, n =>
    matchFrom fuel p n ||
      match n with
      | c :: n' => c != '/' && matchFrom fuel ('*' :: p) n'
      | [] => false
  | fuel + 1, '{' :: p, n =>
    match splitAlternatives (p.length + 1) 0 [] p [] with
    | some (alts, after) => alts.any fun a => matchFrom fuel (a ++ after) n
    | none => false
  | fuel + 1, p, [] => matchesEmpty fuel p
  | fuel + 1, '?' :: p, c :: n => c != '/' && matchFrom fuel p n
  | fuel + 1, '[' :: p, c :: n =>
    let (negate, body) : Bool × List Char :=
      match p with
      | x :: r => if x == '!' || x == '^' then (true, r) else (false, p)
      | [] => (false, p)
    match body with
    | ']' :: _ => false
    | _ =>
      match classItems c none body with
      | some (m, rest) => m != negate && matchFrom fuel rest n
      | none => false
  | fuel + 1, '\\' :: x :: p, c :: n => x == c && matchFrom fuel p n
  | fuel + 1, x :: p, c :: n => x == c && matchFrom fuel p n

/-- Whether a pattern matches a path element. -/
def matchElement (pattern name : String) : Bool :=
  matchFrom (pattern.length + name.length + 2) pattern.toList name.toList

/-- The position of the first character of a pattern that is not plain. -/
def indexMeta : List Char → Option Nat
  | [] => none
  | '\\' :: _ :: r => (indexMeta r).map (· + 2)
  | c :: r => if isMeta c then some 0 else (indexMeta r).map (· + 1)

/-- A pattern's escapes removed. -/
def unescape : List Char → List Char
  | '\\' :: c :: r => c :: unescape r
  | c :: r => c :: unescape r
  | [] => []

/-- The position of the last slash or closing brace that is not escaped. -/
def lastSlashOrBrace (p : List Char) : Option Nat :=
  ((List.range p.length).reverse).find? fun i =>
    (p[i]? == some '/' || p[i]? == some '}') && (i == 0 || p[i - 1]? != some '\\')

/-- The position of the last slash that is not escaped. -/
def lastSlash (p : List Char) : Option Nat :=
  ((List.range p.length).reverse).find? fun i =>
    p[i]? == some '/' && (i == 0 || p[i - 1]? != some '\\')

/-- The position of the `{` that opens the group closed by a `}` just after `p`. -/
def openingBrace (p : List Char) : Option Nat :=
  let step := fun (acc : Nat × Option Nat) (i : Nat) =>
    match acc with
    | (_, some found) => (0, some found)
    | (depth, none) =>
      let escaped := i != 0 && p[i - 1]? == some '\\'
      if p[i]? == some '}' && !escaped then (depth + 1, none)
      else if p[i]? == some '{' && !escaped then
        if depth == 1 then (0, some i) else (depth - 1, none)
      else (depth, none)
  ((List.range p.length).reverse.foldl step (1, none)).2

/-- The alternatives between `open` and `close` of a pattern. -/
def alternativesBetween (p : List Char) (opening closing : Nat) : List (List Char) :=
  match splitAlternatives (p.length + 1) 0 [] ((p.drop (opening + 1)).take (closing - opening - 1) ++ ['}']) [] with
  | some (alts, _) => alts
  | none => []

/-- A relative path joined under a directory, `.` standing for none. -/
def under (dir name : String) : String :=
  if dir == "." || dir.isEmpty then name else Path.join [dir, name]

/-- Merges sorted lists without repeats. -/
def mergeUnique (a b : List String) : List String :=
  (a ++ b).mergeSort (· ≤ ·) |>.eraseDups

/-- What a glob sees of a file tree: entries of directories and the kind of a path, by paths
relative to the directory the glob starts from. -/
structure View where
  readDir : String → Option (List (String × Bool))
  kindOf : String → Option Bool

/-- The directory `dir` and every directory below it, each before the ones below it, with the
files along the way when `withFiles` holds. -/
def walkAll (v : View) (withFiles : Bool) : Nat → String → List String
  | 0, _ => []
  | fuel + 1, dir =>
    match v.readDir dir with
    | none => []
    | some kids =>
      dir :: kids.flatMap fun (name, isDir) =>
        if isDir then walkAll v withFiles fuel (under dir name)
        else if withFiles then [under dir name] else []

/-- The entries of a directory whose names match a pattern element; directories only unless
`withFiles` holds. -/
def matchIn (v : View) (depth : Nat) (dir : String) (pattern : List Char) (withFiles : Bool) :
    List String :=
  if pattern.isEmpty then
    if v.kindOf dir == some true then [dir] else []
  else if pattern == ['*', '*'] then walkAll v withFiles depth dir
  else
    match v.readDir dir with
    | none => []
    | some kids =>
      kids.filterMap fun (name, isDir) =>
        if matchElement (String.ofList pattern) name && (withFiles || isDir) then
          some (under dir name)
        else none

/-- The paths a (valid) pattern selects, relative to the view's directory; `withFiles` says
whether files may match (only directories match the parts before the last slash). -/
def globFrom (v : View) (depth : Nat) : Nat → List Char → Bool → List String
  | 0, _, _ => []
  | fuel + 1, pattern, withFiles =>
    match indexMeta pattern with
    | none =>
      let path := String.ofList (unescape pattern)
      match v.kindOf path with
      | some isDir => if withFiles || isDir then [path] else []
      | none => []
    | some metaAt =>
      let splitAt := lastSlashOrBrace pattern
      let plain : Option (String × List Char) :=
        match splitAt with
        | none => some (".", pattern)
        | some i =>
          if pattern[i]? == some '}' then
            match openingBrace (pattern.take i) with
            | some _ => none
            | none =>
              match lastSlash (pattern.take i) with
              | some j => some (String.ofList (pattern.take j), pattern.drop (j + 1))
              | none => some (".", pattern)
          else some (String.ofList (pattern.take i), pattern.drop (i + 1))
      match plain with
      | some (dir, rest) =>
        if metaAt < dir.length then
          (globFrom v depth fuel dir.toList false).flatMap fun d => matchIn v depth d rest withFiles
        else matchIn v depth dir rest withFiles
      | none =>
        -- alternatives whose group ends the pattern's last part: each is globbed in turn
        let closing := splitAt.getD 0
        let opening := (openingBrace (pattern.take closing)).getD 0
        let head := pattern.take opening
        let after := pattern.drop (closing + 1)
        let alts := alternativesBetween pattern opening closing
        let (dirs, start) : List String × List Char :=
          match lastSlashOrBrace head with
          | some j =>
            if head[j]? == some '}' then ([""], head)
            else (globFrom v depth fuel (head.take j) false, head.drop (j + 1))
          | none => ([""], head)
        dirs.flatMap fun d =>
          let lead := if d.isEmpty || d == "." then [] else d.toList ++ ['/']
          alts.foldl (fun acc a => mergeUnique acc (globFrom v depth fuel (lead ++ start ++ a ++ after) withFiles)) []

/-- Why a pattern selects nothing. -/
inductive GlobError where
  /-- The pattern is not well formed. -/
  | badPattern
  deriving Repr, BEq

/-- The message of a glob error. -/
def GlobError.message : GlobError → String
  | .badPattern => "syntax error in pattern"

/-- The text before the last slash that comes before the first character that is not plain, and
the rest: the directory a glob starts from, and the pattern it reads there. -/
def splitPattern (p : List Char) : String × List Char :=
  let rec go : List Char → Nat → Option Nat → Option Nat
    | [], _, last => last
    | '\\' :: _ :: r, i, last => go r (i + 2) last
    | c :: r, i, last =>
      if c == '/' then go r (i + 1) (some i)
      else if isMeta c then last
      else go r (i + 1) last
  match go p 0 none with
  | some 0 => ("/", p.drop 1)
  | some i => (String.ofList (p.take i), p.drop (i + 1))
  | none => (".", p)

/-- The paths of a file tree that an absolute or cwd-relative pattern selects, as paths that
start like the pattern: files and directories, in walk order. -/
def expand (t : FileTree) (cwd : String) (pattern : String) : Except GlobError (List String) :=
  let cleaned := (Path.clean pattern).toList
  let (root, rest) := splitPattern cleaned
  if rest.isEmpty || rest == ['.'] || rest == ['.', '.'] then
    if !valid (String.ofList cleaned) then .error .badPattern
    else
      let path := String.ofList (unescape cleaned)
      match t.kindOf cwd path with
      | some _ => .ok [path]
      | none => .ok []
  else if !valid (String.ofList rest) then .error .badPattern
  else
    let v : View := {
      readDir := fun rel => t.readDir cwd (under root rel)
      kindOf := fun rel => t.kindOf cwd (under root rel) }
    let depth := t.entries.length + 1
    .ok ((globFrom v depth (rest.length + 1) rest true).map fun m =>
      if root == "." then m else Path.join [root, m])

end UtilityStyles.Glob
