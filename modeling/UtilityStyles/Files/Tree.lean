import UtilityStyles.Files.Path
/-!
# File trees

A file tree maps absolute, clean paths to entries: files with their contents, and directories.
The root `/` is always a directory, and every ancestor of an entry is a directory. Paths given
to the operations are resolved against a working directory; messages name a path as it was
given.

Creating directories and writing files fail as an operating system does: a directory cannot be
made where a file stands (`mkdir p: not a directory`), a file cannot be written where a
directory stands (`open p: is a directory`) or under a missing directory (`open p: no such file
or directory`).

## Main definitions

* `FileTree`, `FileTree.ofFiles`.
* `FileTree.kindOf`, `FileTree.readDir`, `FileTree.fileText`.
* `FileTree.mkdirAll`, `FileTree.writeFile`.
-/

namespace UtilityStyles

/-- An entry of a file tree. -/
inductive Entry where
  | file (content : String)
  | directory
  deriving Repr, BEq, Inhabited

/-- A file tree: entries by absolute, clean path. -/
structure FileTree where
  entries : List (String × Entry)
  deriving Repr, Inhabited

namespace FileTree

/-- The absolute paths of a path's ancestors, nearest last, the root first. -/
def ancestors (p : String) : List String :=
  let es := Path.elements p
  (List.range es.length).map fun k => "/" ++ "/".intercalate (es.take k)

/-- Records a directory and its ancestors, if they are not there yet. -/
def addDirs (t : FileTree) (dirs : List String) : FileTree :=
  dirs.foldl (fun acc d =>
    if acc.entries.any (·.1 == d) then acc else ⟨acc.entries ++ [(d, .directory)]⟩) t

/-- The entry at an absolute, clean path. -/
def entryAt (t : FileTree) (p : String) : Option Entry :=
  (t.entries.find? (·.1 == p)).map (·.2)

/-- Puts an entry at an absolute, clean path, replacing what stands there. -/
def put (t : FileTree) (p : String) (e : Entry) : FileTree :=
  if t.entries.any (·.1 == p) then ⟨t.entries.map fun (q, x) => if q == p then (q, e) else (q, x)⟩
  else ⟨t.entries ++ [(p, e)]⟩

/-- A tree holding the given files, by paths relative to `root`, with `root` and all ancestors
as directories. -/
def ofFiles (root : String) (files : List (String × String)) : FileTree :=
  let rootAbs := Path.clean root
  let withRoot := addDirs ⟨[("/", .directory)]⟩ (ancestors rootAbs ++ [rootAbs])
  files.foldl (fun acc (rel, content) =>
    let p := Path.join [rootAbs, rel]
    (addDirs acc (ancestors p)).put p (.file content)) withRoot

/-- What stands at a path: `some true` for a directory, `some false` for a file. -/
def kindOf (t : FileTree) (cwd p : String) : Option Bool :=
  match t.entryAt (Path.resolve cwd p) with
  | some .directory => some true
  | some (.file _) => some false
  | none => none

/-- The contents of a file. -/
def fileText (t : FileTree) (cwd p : String) : Option String :=
  match t.entryAt (Path.resolve cwd p) with
  | some (.file c) => some c
  | _ => none

/-- Whether `p` is a direct child of the directory `d`; gives its name. -/
def childName (d p : String) : Option String :=
  if p == d then none
  else if Path.dir p == d then some (Path.base p) else none

/-- The entries of a directory, sorted by name, with whether each is a directory; `none` when
the path is not a directory. -/
def readDir (t : FileTree) (cwd p : String) : Option (List (String × Bool)) :=
  let d := Path.resolve cwd p
  match t.entryAt d with
  | some .directory =>
    let kids := t.entries.filterMap fun (q, e) =>
      (childName d q).map fun n => (n, e == .directory)
    some (kids.mergeSort fun a b => a.1 ≤ b.1)
  | _ => none

/-- The text of a path's parent: what stands before the slash that precedes its last element
(trailing slashes aside); empty when there is none. -/
def parentText (p : String) : String :=
  let cs := p.toList.reverse.dropWhile (· == '/')
  String.ofList ((cs.dropWhile (· != '/')).drop 1).reverse

/-- Makes a directory and its missing parents. -/
def mkdirAllFuel (cwd : String) : Nat → FileTree → String → Except String FileTree
  | 0, t, _ => .ok t
  | fuel + 1, t, p =>
    match t.kindOf cwd p with
    | some true => .ok t
    | some false => .error ("mkdir " ++ p ++ ": not a directory")
    | none =>
      let parent := parentText p
      let upper : Except String FileTree :=
        if parent.isEmpty then .ok t else mkdirAllFuel cwd fuel t parent
      match upper with
      | .error e => .error e
      | .ok t' =>
        let abs := Path.resolve cwd p
        match t'.entryAt (Path.dir abs) with
        | some .directory => .ok (t'.put abs .directory)
        | some (.file _) => .error ("mkdir " ++ p ++ ": not a directory")
        | none => .error ("mkdir " ++ p ++ ": no such file or directory")

/-- Makes a directory and its missing parents. -/
def mkdirAll (t : FileTree) (cwd p : String) : Except String FileTree :=
  mkdirAllFuel cwd (p.length + 1) t p

/-- Writes a file, replacing one that is there. -/
def writeFile (t : FileTree) (cwd p content : String) : Except String FileTree :=
  let abs := Path.resolve cwd p
  match t.entryAt abs with
  | some .directory => .error ("open " ++ p ++ ": is a directory")
  | _ =>
    match t.entryAt (Path.dir abs) with
    | some .directory => .ok (t.put abs (.file content))
    | some (.file _) => .error ("open " ++ p ++ ": not a directory")
    | none =>
      if (ancestors abs).any fun a => t.entryAt a matches some (.file _) then
        .error ("open " ++ p ++ ": not a directory")
      else .error ("open " ++ p ++ ": no such file or directory")

/-- The files of the tree with their contents, by absolute path. -/
def files (t : FileTree) : List (String × String) :=
  t.entries.filterMap fun (p, e) =>
    match e with
    | .file c => some (p, c)
    | .directory => none

end FileTree

end UtilityStyles
