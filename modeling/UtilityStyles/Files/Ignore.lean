import UtilityStyles.Text.Regex
/-!
# Ignore files

An ignore file lists patterns, one per line, for paths to leave out. Blank lines and lines that
start with `#` say nothing; a line that starts with `!` takes paths back in. Each line becomes a
regular expression on slash-separated relative paths:

* `.` is plain, `?` is plain, `*` is any run within one element, `**/` any leading directories,
  `/**/` one or more directories, and `/**` anything below;
* a pattern that starts with `/`, or has a slash before a `*.` part, is anchored at the top,
  and otherwise may match at any depth;
* a pattern names a path and everything below it.

A path is ignored when the last line that matches it, taking back-in lines into account only
after a match, ignores it. Lines that do not make a regular expression are skipped.

## Main definitions

* `IgnoreRule`, `IgnoreRule.ofLine`.
* `IgnoreList`, `IgnoreList.ofText`, `IgnoreList.ignores`.
-/

namespace UtilityStyles

/-- One line of an ignore file: its expression, and whether it takes paths back in. -/
structure IgnoreRule where
  pattern : Regex
  negated : Bool

/-- The text of an ignore line's expression. -/
def IgnoreRule.expression (line : String) : String :=
  let l1 := if line.startsWith "#" || line.startsWith "!" then String.ofList (line.toList.drop 1) else line
  let anchorProbe := Regex.parse "([^/+])/.*\\*\\."
  let l2 := if (anchorProbe.map (·.search l1)).getD false && !l1.startsWith "/" then "/" ++ l1 else l1
  let l3 := l2.replace "." "\\."
  let magic := "#$~"
  let l4 := if l3.startsWith "/**/" then String.ofList (l3.toList.drop 1) else l3
  let l5 := l4.replace "/**/" "(/|/.+/)"
  let l6 := l5.replace "**/" ("(|." ++ magic ++ "/)")
  let l7 := l6.replace "/**" ("(|/." ++ magic ++ ")")
  let l8 := l7.replace "\\*" ("\\" ++ magic)
  let l9 := l8.replace "*" "([^/]*)"
  let l10 := l9.replace "?" "\\?"
  let l11 := l10.replace magic "*"
  let expr := if l11.endsWith "/" then l11 ++ "(|.*)$" else l11 ++ "(|/.*)$"
  if expr.startsWith "/" then "^(|/)" ++ String.ofList (expr.toList.drop 1)
  else "^(|.*/)" ++ expr

/-- The rule of one line of an ignore file, if the line says something. -/
def IgnoreRule.ofLine (raw : String) : Option IgnoreRule :=
  let line0 := String.ofList (raw.toList.reverse.dropWhile (· == '\r')).reverse
  if line0.startsWith "#" then none
  else
    let line := String.ofList ((line0.toList.dropWhile (· == ' ')).reverse.dropWhile (· == ' ')).reverse
    if line.isEmpty then none
    else
      let (negated, body) :=
        if line.startsWith "!" then (true, String.ofList (line.toList.drop 1)) else (false, line)
      (Regex.parse (IgnoreRule.expression body)).map fun r => ⟨r, negated⟩

/-- The rules of an ignore file, in order. -/
structure IgnoreList where
  rules : List IgnoreRule

namespace IgnoreList

/-- The rules of an ignore file's text, one per line. -/
def ofText (text : String) : IgnoreList :=
  ⟨(text.splitOn "\n").filterMap IgnoreRule.ofLine⟩

/-- Whether a relative, slash-separated path is ignored. -/
def ignores (l : IgnoreList) (path : String) : Bool :=
  l.rules.foldl (fun ignored r =>
    if r.pattern.search path then (if r.negated then false else true) else ignored) false

end IgnoreList

end UtilityStyles
