import UtilityStyles.Cli.Flag
/-!
# Reading a command line

The arguments after the command's name are flags and positional arguments, in any order.

* `--` ends the flags; every argument after it is positional. So is `-`, the empty argument, and
  every argument that does not start with `-`.
* `--name=value` and `--name value` set a flag; a truth flag named alone is set to `true`.
* `-abc` names shorthands one after another: a truth flag takes none, another flag takes the rest
  of the argument as its value (`-w500`, `-w=500`), or the next argument when it is last.

Reading stops at the first error. Shorthands are single bytes: a shorthand that is not ASCII is
reported as the character of its first byte.

## Main definitions

* `FlagError`, `FlagError.message`.
* `Parsed`, `parseArgs`.
-/

namespace UtilityStyles.Cli

/-- Why a command line cannot be read. -/
inductive FlagError where
  /-- A long flag with a malformed name (`---x`, `--=x`). -/
  | badSyntax (arg : String)
  | unknownFlag (name : String)
  | unknownShorthand (c : Char) (shorthands : String)
  | needsArgument (name : String)
  | shorthandNeedsArgument (c : Char) (shorthands : String)
  /-- A value the flag cannot take; the message names the value, the flag and the reason. -/
  | invalid (message : String)
  deriving Repr, BEq, Inhabited

/-- A character between apostrophes, escaped as in `Text.quote` with the apostrophe escaped in
place of the double quote. -/
def quoteChar (c : Char) : String :=
  let body : List Char :=
    if c.toNat == 39 then ['\\', c]
    else if c == '"' then [c]
    else Text.quoteChar c
  Text.apostrophe ++ String.ofList body ++ Text.apostrophe

/-- The message of a command-line error. -/
def FlagError.message : FlagError → String
  | .badSyntax arg => "bad flag syntax: " ++ arg
  | .unknownFlag name => "unknown flag: --" ++ name
  | .unknownShorthand c s => "unknown shorthand flag: " ++ quoteChar c ++ " in -" ++ s
  | .needsArgument name => "flag needs an argument: --" ++ name
  | .shorthandNeedsArgument c s => "flag needs an argument: " ++ quoteChar c ++ " in -" ++ s
  | .invalid m => m

/-- What a command line sets: the flags and the positional arguments. -/
structure Parsed where
  flags : List FlagSetting
  positional : List String
  deriving Inhabited

/-- The flag with a long name. -/
def findLong (flags : List FlagSetting) (name : String) : Option FlagSetting :=
  flags.find? (·.spec.name == name)

/-- The flag with a shorthand. -/
def findShort (flags : List FlagSetting) (c : Char) : Option FlagSetting :=
  flags.find? (·.spec.shorthand == some c)

/-- Sets a flag from text. -/
def setFlag (flags : List FlagSetting) (f : FlagSetting) (text : String) :
    Except FlagError (List FlagSetting) :=
  match f.assign text with
  | .ok f' => .ok (flags.map fun g => if g.spec.name == f.spec.name then f' else g)
  | .error m => .error (.invalid m)

/-- The character a shorthand byte stands for: itself when ASCII, else the character whose code
is its first byte. -/
def shorthandChar (c : Char) : Char :=
  if c.toNat < 128 then c
  else
    match (String.singleton c).toUTF8.toList with
    | b :: _ => Char.ofNat b.toNat
    | [] => c

/-- Reads the shorthands of one argument; `rest` are the arguments after it. Returns the flags
and the arguments left. -/
def parseShorthands (flags : List FlagSetting) (rest : List String) :
    List Char → Except FlagError (List FlagSetting × List String)
  | [] => .ok (flags, rest)
  | c :: more =>
    let all := String.ofList (c :: more)
    if all.startsWith "test." then .ok (flags, rest)
    else
      match findShort flags c with
      | none => .error (.unknownShorthand (shorthandChar c) all)
      | some f =>
        match more with
        | '=' :: value@(_ :: _) =>
          (setFlag flags f (String.ofList value)).map fun fl => (fl, rest)
        | _ =>
          if f.spec.optionalValue then
            match setFlag flags f "true" with
            | .ok fl => parseShorthands fl rest more
            | .error e => .error e
          else if !more.isEmpty then
            (setFlag flags f (String.ofList more)).map fun fl => (fl, rest)
          else
            match rest with
            | v :: rest' => (setFlag flags f v).map fun fl => (fl, rest')
            | [] => .error (.shorthandNeedsArgument c all)

/-- Reads a long flag (`name` is what follows `--`); `rest` are the arguments after it. -/
def parseLong (flags : List FlagSetting) (arg name : String) (rest : List String) :
    Except FlagError (List FlagSetting × List String) :=
  match name.toList with
  | [] | '-' :: _ | '=' :: _ => .error (.badSyntax arg)
  | cs =>
    let key := String.ofList (cs.takeWhile (· != '='))
    let given := cs.dropWhile (· != '=')
    match findLong flags key with
    | none => .error (.unknownFlag key)
    | some f =>
      match given with
      | _ :: value => (setFlag flags f (String.ofList value)).map fun fl => (fl, rest)
      | [] =>
        if f.spec.optionalValue then (setFlag flags f "true").map fun fl => (fl, rest)
        else
          match rest with
          | v :: rest' => (setFlag flags f v).map fun fl => (fl, rest')
          | [] => .error (.needsArgument key)

/-- Reads arguments in order, with the positional ones so far; every step takes at least one
argument, so `fuel` above their number suffices. -/
def parseFrom (flags : List FlagSetting) (positional : List String) :
    Nat → List String → Except FlagError Parsed
  | _, [] => .ok ⟨flags, positional⟩
  | 0, _ => .ok ⟨flags, positional⟩
  | fuel + 1, arg :: rest =>
    match arg.toList with
    | '-' :: '-' :: [] => .ok ⟨flags, positional ++ rest⟩
    | '-' :: '-' :: name =>
      match parseLong flags arg (String.ofList name) rest with
      | .ok (fl, rest') => parseFrom fl positional fuel rest'
      | .error e => .error e
    | '-' :: c :: more =>
      match parseShorthands flags rest (c :: more) with
      | .ok (fl, rest') => parseFrom fl positional fuel rest'
      | .error e => .error e
    | _ => parseFrom flags (positional ++ [arg]) fuel rest

/-- Reads a command line against a command's flags. -/
def parseArgs (flags : List FlagSpec) (args : List String) : Except FlagError Parsed :=
  parseFrom (flags.map FlagSetting.fresh) [] (args.length + 1) args

end UtilityStyles.Cli
