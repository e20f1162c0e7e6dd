import UtilityStyles.Files.Glob
import UtilityStyles.Files.Ignore
import UtilityStyles.Text.Quote
/-!
# Finding the documents of a project

A run works on the files that its patterns select under a base directory. Patterns are taken in
order; a relative pattern is read under the base. Each file counts once, however many patterns
select it; directories and paths that do not exist are passed over. A file that the base's
ignore file (`.gitignore`) ignores is counted as discovered and skipped; only files inside the
base are subject to it, by their path relative to the base.

## Main definitions

* `Discovery`, `DiscoverError`, `discover`.
* `ignoredBy`, `outputRel`, `displayPath` : paths relative to the base.
-/

namespace UtilityStyles.Batch

open UtilityStyles.Text (quote)

/-- The files a run works on, in the order found, with the counts of files found and of files
the ignore file skipped. -/
structure Discovery where
  files : List String
  discovered : Nat
  skipped : Nat
  deriving Repr, Inhabited

/-- Why files cannot be found: a pattern is not well formed. -/
inductive DiscoverError where
  | badPattern (pattern : String)
  deriving Repr, BEq

/-- The message of a discovery error. -/
def DiscoverError.message : DiscoverError → String
  | .badPattern p => "glob pattern " ++ quote p ++ ": " ++ Glob.GlobError.badPattern.message

/-- The ignore file of a base directory, if it can be read. -/
def ignoreFileOf (t : FileTree) (cwd base : String) : Option IgnoreList :=
  (t.fileText cwd (Path.join [base, ".gitignore"])).map IgnoreList.ofText

/-- Whether an ignore file ignores a path: only paths inside the base are subject to it, read
relative to the base (the path itself when there is no base). -/
def ignoredBy (ignore : Option IgnoreList) (base path : String) : Bool :=
  match ignore with
  | none => false
  | some l =>
    match (if base.isEmpty then some path else Path.rel base path) with
    | none => false
    | some rel => !(Path.isAbs rel || Path.startsWithParent rel) && l.ignores rel

/-- A pattern read under the base, unless there is no base or the pattern is absolute. -/
def underBase (base pattern : String) : String :=
  if !base.isEmpty && !Path.isAbs pattern then Path.join [base, pattern] else pattern

/-- Takes in the paths one pattern selected: files not yet seen are counted, and kept unless the
ignore file skips them. -/
def takeMatches (t : FileTree) (cwd base : String) (ignore : Option IgnoreList) :
    Discovery × List String → List String → Discovery × List String
  | acc, [] => acc
  | (d, seen), m :: rest =>
    if seen.contains m || t.kindOf cwd m != some false then
      takeMatches t cwd base ignore (d, seen) rest
    else
      let d' := if ignoredBy ignore base m
        then { d with discovered := d.discovered + 1, skipped := d.skipped + 1 }
        else { d with discovered := d.discovered + 1, files := d.files ++ [m] }
      takeMatches t cwd base ignore (d', seen ++ [m]) rest

/-- The files that patterns select under a base directory. -/
def discover (t : FileTree) (cwd base : String) (patterns : List String) :
    Except DiscoverError Discovery :=
  let ignore := ignoreFileOf t cwd base
  let step (acc : Discovery × List String) (pattern : String) :
      Except DiscoverError (Discovery × List String) :=
    match Glob.expand t cwd (underBase base pattern) with
    | .error _ => .error (.badPattern pattern)
    | .ok ms => .ok (takeMatches t cwd base ignore acc ms)
  (patterns.foldlM step (⟨[], 0, 0⟩, [])).map (·.1)

/-- Where a file goes below an output directory: its path relative to the base when it lies
inside; otherwise its name when it is absolute or goes up, and else its path. -/
def outputRel (base path : String) : String :=
  let inside := if base.isEmpty then none
    else (Path.rel base path).filter fun r => !Path.startsWithParent r
  match inside with
  | some r => r
  | none => if Path.isAbs path || Path.startsWithParent path then Path.base path else path

/-- The path of a file as reports show it: relative to the base when it lies inside. -/
def displayPath (base path : String) : String :=
  if base.isEmpty then path
  else ((Path.rel base path).filter fun r => !Path.startsWithParent r).getD path

end UtilityStyles.Batch
