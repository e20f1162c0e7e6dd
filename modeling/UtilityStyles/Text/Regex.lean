/-!
# Regular expressions

Regular expressions in the usual syntax: literals, `.` (any character but a line feed),
classes `[…]` with ranges and negation, the escapes `\d`, `\w`, `\s` and their negations,
groups `(…)` and `(?:…)`, alternation `|`, the repetitions `*`, `+`, `?`, `{n}`, `{n,}`,
`{n,m}` (each optionally followed by `?`), and the anchors `^` and `$` (start and end of the
text). A `{` that does not start a well-formed repetition is a literal.

An expression is matched by derivatives: the derivative of an expression by a character
matches the rests of the texts it matches that start with that character, so a text matches
when the expression derived by all its characters matches the empty text. A search matches
when some part of the text matches.

## Main definitions

* `Regex`, `Regex.parse`.
* `Regex.matchesAll`, `Regex.search`.
-/

namespace UtilityStyles

/-- A test on one character. -/
inductive CharTest where
  /-- This character. -/
  | lit (c : Char)
  /-- Any character but a line feed. -/
  | notNewline
  /-- Any character. -/
  | anything
  /-- A character in (or, negated, outside) ranges. -/
  | ranges (negated : Bool) (rs : List (Char × Char))
  deriving Repr, BEq, DecidableEq

/-- Whether a character passes a test. -/
def CharTest.holds : CharTest → Char → Bool
  | .lit c, x => c == x
  | .notNewline, x => x != '\n'
  | .anything, _ => true
  | .ranges neg rs, x => neg != rs.any fun (lo, hi) => lo ≤ x && x ≤ hi

/-- A regular expression. -/
inductive Regex where
  /-- Matches nothing. -/
  | nothing
  /-- Matches the empty text. -/
  | empty
  /-- Matches one character that passes a test. -/
  | char (t : CharTest)
  | seq (a b : Regex)
  | alt (a b : Regex)
  | star (r : Regex)
  /-- Matches the empty text at the start of the text. -/
  | textStart
  /-- Matches the empty text at the end of the text. -/
  | textEnd
  deriving Repr, BEq, Inhabited

namespace Regex

/-- Sequence, simplified where a side matches nothing or only the empty text. -/
def mkSeq : Regex → Regex → Regex
  | .nothing, _ => .nothing
  | _, .nothing => .nothing
  | .empty, b => b
  | a, .empty => a
  | a, b => .seq a b

/-- Alternation, simplified where a side matches nothing or both sides are the same. -/
def mkAlt : Regex → Regex → Regex
  | .nothing, b => b
  | a, .nothing => a
  | a, b => if a == b then a else .alt a b

/-- Whether an expression matches the empty text at a position; `atStart` and `atEnd` say
whether the position is the start or the end of the text. -/
def nullable (atStart atEnd : Bool) : Regex → Bool
  | .nothing => false
  | .empty => true
  | .char _ => false
  | .seq a b => nullable atStart atEnd a && nullable atStart atEnd b
  | .alt a b => nullable atStart atEnd a || nullable atStart atEnd b
  | .star _ => true
  | .textStart => atStart
  | .textEnd => atEnd

/-- The derivative by a character read at a position (`atStart` when it is the first). -/
def deriv (atStart : Bool) (c : Char) : Regex → Regex
  | .nothing | .empty | .textStart | .textEnd => .nothing
  | .char t => if t.holds c then .empty else .nothing
  | .seq a b =>
    let first := mkSeq (deriv atStart c a) b
    if nullable atStart false a then mkAlt first (deriv atStart c b) else first
  | .alt a b => mkAlt (deriv atStart c a) (deriv atStart c b)
  | .star r => mkSeq (deriv atStart c r) (.star r)

/-- The expression derived by characters read from a position on. -/
def derivAll : Regex → Bool → List Char → Regex
  | r, _, [] => r
  | r, atStart, c :: rest => derivAll (deriv atStart c r) false rest

/-- Whether an expression matches a whole text. -/
def matchesAll (r : Regex) (s : String) : Bool :=
  nullable s.isEmpty true (derivAll r true s.toList)

/-- Whether some part of a text matches an expression. -/
def search (r : Regex) (s : String) : Bool :=
  let anyRun := Regex.star (.char .anything)
  matchesAll (mkSeq anyRun (mkSeq r anyRun)) s

/-- `r` repeated exactly `n` times. -/
def power (r : Regex) : Nat → Regex
  | 0 => .empty
  | n + 1 => mkSeq r (power r n)

/-- `r` repeated at most `n` times. -/
def upTo (r : Regex) : Nat → Regex
  | 0 => .empty
  | n + 1 => mkAlt .empty (mkSeq r (upTo r n))

/-- The digits at the start of a text, as a number, and the rest. -/
def readCount (cs : List Char) : Option (Nat × List Char) :=
  let ds := cs.takeWhile Char.isDigit
  if ds.isEmpty then none
  else some (ds.foldl (fun n d => 10 * n + (d.toNat - '0'.toNat)) 0, cs.drop ds.length)

/-- A counted repetition `{n}`, `{n,}` or `{n,m}` at the start of a text (after its `{`): the
least and most counts, and the rest after `}`. -/
def readRepeat (cs : List Char) : Option ((Nat × Option Nat) × List Char) :=
  match readCount cs with
  | none => none
  | some (n, '}' :: r) => some ((n, some n), r)
  | some (n, ',' :: '}' :: r) => some ((n, none), r)
  | some (n, ',' :: r) =>
    match readCount r with
    | some (m, '}' :: r') => if n ≤ m then some ((n, some m), r') else none
    | _ => none
  | _ => none

/-- Applies a counted repetition. -/
def repeatCount (r : Regex) : Nat × Option Nat → Regex
  | (n, some m) => mkSeq (power r n) (upTo r (m - n))
  | (n, none) => mkSeq (power r n) (.star r)

/-- The ranges of the escapes `\d`, `\w`, `\s`. -/
def perlClass : Char → Option (List (Char × Char))
  | 'd' => some [('0', '9')]
  | 'w' => some [('0', '9'), ('A', 'Z'), ('a', 'z'), ('_', '_')]
  | 's' => some [('\t', '\n'), (Char.ofNat 12, '\r'), (' ', ' ')]
  | _ => none

/-- The character an escape stands for, when it stands for one. -/
def escapedChar (c : Char) : Option Char :=
  if c == 'n' then some '\n' else if c == 't' then some '\t'
  else if c == 'r' then some '\r' else if c == 'f' then some (Char.ofNat 12)
  else if c == 'v' then some (Char.ofNat 11)
  else if c.toNat < 128 && !c.isAlphanum then some c
  else none

/-- One item of a class: a character (escaped or not), and the rest. -/
def classChar : List Char → Option (Char × List Char)
  | '\\' :: c :: r => (escapedChar c).map (·, r)
  | c :: r => some (c, r)
  | [] => none

/-- The items of a class up to its `]`, and the rest; `first` allows a leading `]`. -/
def classBody : Nat → Bool → List Char → Option (List (Char × Char) × List Char)
  | 0, _, _ => none
  | _ + 1, _, [] => none
  | _ + 1, false, ']' :: r => some ([], r)
  | fuel + 1, _, '\\' :: c :: r =>
    match perlClass c with
    | some rs =>
      (classBody fuel false r).map fun (items, rest) => (rs ++ items, rest)
    | none =>
      match escapedChar c with
      | some x => rangeFrom fuel x r
      | none => none
  | fuel + 1, _, c :: r => rangeFrom fuel c r
where
  /-- A range whose low end `lo` was read, or the single character `lo`. -/
  rangeFrom : Nat → Char → List Char → Option (List (Char × Char) × List Char)
    | 0, _, _ => none
    | fuel + 1, lo, '-' :: rest =>
      match rest with
      | ']' :: _ => (classBody fuel false rest).map fun (items, r) => ((lo, lo) :: ('-', '-') :: items, r)
      | _ =>
        match classChar rest with
        | some (hi, r) =>
          if lo ≤ hi then (classBody fuel false r).map fun (items, r') => ((lo, hi) :: items, r')
          else none
        | none => none
    | fuel + 1, lo, rest => (classBody fuel false rest).map fun (items, r) => ((lo, lo) :: items, r)

mutual
/-- An alternation: sequences separated by `|`, up to `)` or the end. -/
def parseAlt : Nat → List Char → Option (Regex × List Char)
  | 0, _ => none
  | fuel + 1, cs =>
    match parseSeq fuel .empty cs with
    | some (r, '|' :: rest) =>
      (parseAlt fuel rest).map fun (r2, rest2) => (Regex.alt r r2, rest2)
    | other => other

/-- A sequence of repeated atoms, up to `|`, `)` or the end. -/
def parseSeq : Nat → Regex → List Char → Option (Regex × List Char)
  | 0, _, _ => none
  | _ + 1, acc, [] => some (acc, [])
  | _ + 1, acc, '|' :: rest => some (acc, '|' :: rest)
  | _ + 1, acc, ')' :: rest => some (acc, ')' :: rest)
  | fuel + 1, acc, cs =>
    match parseAtom fuel cs with
    | none => none
    | some (atom, rest) =>
      match parseRepeats atom rest with
      | none => none
      | some (r, rest') => parseSeq fuel (mkSeq acc r) rest'

/-- One atom: a literal, `.`, a class, an escape, an anchor or a group. -/
def parseAtom : Nat → List Char → Option (Regex × List Char)
  | 0, _ => none
  | _, [] => none
  | fuel + 1, '(' :: rest =>
    let body := match rest with
      | '?' :: ':' :: r => some r
      | '?' :: _ => none
      | r => some r
    match body with
    | none => none
    | some b =>
      match parseAlt fuel b with
      | some (r, ')' :: after) => some (r, after)
      | _ => none
  | _ + 1, '[' :: rest =>
    let (neg, body) : Bool × List Char :=
      match rest with
      | '^' :: r => (true, r)
      | r => (false, r)
    (classBody (body.length + 1) true body).map fun (rs, r) => (.char (.ranges neg rs), r)
  | _ + 1, '.' :: rest => some (.char .notNewline, rest)
  | _ + 1, '^' :: rest => some (.textStart, rest)
  | _ + 1, '$' :: rest => some (.textEnd, rest)
  | _ + 1, '\\' :: c :: rest =>
    if c == 'A' then some (.textStart, rest)
    else if c == 'z' then some (.textEnd, rest)
    else if c.isUpper && (perlClass c.toLower).isSome then
      (perlClass c.toLower).map fun rs => (.char (.ranges true rs), rest)
    else
      match perlClass c with
      | some rs => some (.char (.ranges false rs), rest)
      | none => (escapedChar c).map fun x => (.char (.lit x), rest)
  | _ + 1, '\\' :: [] => none
  | _ + 1, c :: rest =>
    if c == '*' || c == '+' || c == '?' then none
    else if c == '{' && (readRepeat rest).isSome then none
    else some (.char (.lit c), rest)

/-- The repetitions after an atom; a second repetition in a row is refused. -/
def parseRepeats (atom : Regex) (cs : List Char) : Option (Regex × List Char) :=
  let lazyMark : List Char → List Char := fun r =>
    match r with
    | '?' :: r' => r'
    | _ => r
  let once : Option (Regex × List Char) :=
    match cs with
    | '*' :: r => some (.star atom, lazyMark r)
    | '+' :: r => some (mkSeq atom (.star atom), lazyMark r)
    | '?' :: r => some (mkAlt .empty atom, lazyMark r)
    | '{' :: r =>
      match readRepeat r with
      | some (counts, r') => some (repeatCount atom counts, lazyMark r')
      | none => none
    | _ => none
  match once with
  | none => some (atom, cs)
  | some (r, rest) =>
    match rest with
    | c :: _ =>
      if c == '*' || c == '+' || c == '?' then none
      else if c == '{' && (readRepeat (rest.drop 1)).isSome then none
      else some (r, rest)
    | [] => some (r, rest)
end

/-- Reads a regular expression; `none` when the text is not one. -/
def parse (s : String) : Option Regex :=
  match parseAlt (3 * s.length + 3) s.toList with
  | some (r, []) => some r
  | _ => none

end Regex

end UtilityStyles
