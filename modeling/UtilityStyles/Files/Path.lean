/-!
# Slash-separated paths

Paths are texts of elements separated by `/`; a path that starts with `/` is absolute. The
lexical operations here never look at a file system:

* `clean` gives the shortest equivalent path: repeated slashes become one, `.` elements go, a
  `..` element removes the element before it (at the root it is dropped; at the start of a
  relative path it stays). The empty path cleans to `.`.
* `join` joins the non-empty paths by `/` and cleans the result.
* `rel` gives the path of a target relative to a base, going up with `..` where needed.

## Main definitions

* `Path.clean`, `Path.join`, `Path.rel`, `Path.isAbs`, `Path.base`, `Path.dir`.
-/

namespace UtilityStyles.Path

/-- Whether a path is absolute. -/
def isAbs (p : String) : Bool := p.startsWith "/"

/-- The elements of a path: the texts between slashes, empty ones dropped. -/
def elements (p : String) : List String :=
  (p.splitOn "/").filter (!·.isEmpty)

/-- Applies one element to the elements kept so far (in reverse): `.` is dropped, `..` removes
the last real element, or is kept on a relative path that has none. -/
def step (rooted : Bool) (acc : List String) (e : String) : List String :=
  if e == "." then acc
  else if e == ".." then
    match acc with
    | top :: rest => if top == ".." then e :: acc else rest
    | [] => if rooted then [] else [e]
  else e :: acc

/-- The elements of the cleaned path. -/
def cleanElements (p : String) : List String :=
  ((elements p).foldl (step (isAbs p)) []).reverse

/-- The shortest path equivalent to a path, by lexical processing alone. -/
def clean (p : String) : String :=
  if p.isEmpty then "."
  else
    let es := cleanElements p
    if isAbs p then "/" ++ "/".intercalate es
    else if es.isEmpty then "."
    else "/".intercalate es

/-- Joins paths with `/` and cleans the result; empty paths are skipped, and joining only empty
paths gives the empty path. -/
def join (ps : List String) : String :=
  match ps.filter (!·.isEmpty) with
  | [] => ""
  | qs => clean ("/".intercalate qs)

/-- The last element of a path; `.` for the empty path and `/` for the root. -/
def base (p : String) : String :=
  if p.isEmpty then "."
  else
    match (elements p).getLast? with
    | some e => e
    | none => "/"

/-- All but the last element of a path, cleaned; `.` when there is no slash. -/
def dir (p : String) : String :=
  let cs := p.toList
  match cs.reverse.dropWhile (· != '/') with
  | [] => "."
  | rest => clean (String.ofList rest.reverse)

/-- The elements that two lists share at their start, and what is left of each. -/
def dropCommon : List String → List String → List String × List String
  | a :: as, b :: bs => if a == b then dropCommon as bs else (a :: as, b :: bs)
  | as, bs => (as, bs)

/-- The path of `target` relative to `base`: `none` when one is absolute and the other not, or
when the base would need to go up through a `..` it cannot undo. -/
def rel (base target : String) : Option String :=
  let b := clean base
  let t := clean target
  if b == t then some "."
  else if isAbs b != isAbs t then none
  else
    let bs := if b == "." then [] else elements b
    let ts := if t == "." then [] else elements t
    match dropCommon bs ts with
    | (first :: _, _) =>
      if first == ".." then none
      else
        let (upRest, down) := dropCommon bs ts
        some ("/".intercalate (upRest.map (fun _ => "..") ++ down))
    | ([], down) => some ("/".intercalate down)

/-- Whether a relative path starts by going up (`../`). -/
def startsWithParent (p : String) : Bool := p.startsWith "../"

/-- A path made absolute against a working directory, and cleaned. -/
def resolve (cwd p : String) : String :=
  if isAbs p then clean p else join [cwd, p]

end UtilityStyles.Path
