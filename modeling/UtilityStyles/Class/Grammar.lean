import UtilityStyles.Class.Parse
/-!
# The class grammar as a language

The texts that the class grammar describes, said without the search that `parseClass` makes:

```
class  ::= (prefix ":")? type "-" value unit
prefix ::= [a-z-]+
type   ::= "-"? chain  |  "[--" [a-zA-Z0-9_-]+ "]"
chain  ::= word ("-" word)*
value  ::= "-"? digits ("." digits)?  |  chain  |  "#" hexdigits
         |  "[" (any but "]")+ "]"  |  "$" (any but a blank)+
unit   ::= [a-zA-Z%]*
```

Each nonterminal is a predicate on lists of characters. A chain is read from the left, one
character at a time, the way the parser reads it: a word character, then word characters and
hyphens each followed by a word character (`ChainRest`).

## Main definitions

* `IsChain`, `IsType`, `IsNumber`, `IsValue`, `IsUnit`, `IsPrefix`, `IsClass`.
* `MatchesAt` : a text of the grammar starts at a position.
-/

namespace UtilityStyles.Class

/-- A non-empty run of decimal digits. -/
def IsDigits (ds : List Char) : Prop := ds ≠ [] ∧ ∀ c ∈ ds, c.isDigit = true

/-- What may follow the first character of a word chain: word characters, and hyphens each
followed by a word character. -/
inductive ChainRest : List Char → Prop
  | nil : ChainRest []
  | word {c : Char} {x : List Char} : isWordChar c = true → ChainRest x → ChainRest (c :: x)
  | hyphen {d : Char} {x : List Char} : isWordChar d = true → ChainRest x →
      ChainRest ('-' :: d :: x)

/-- A word chain `w₁-…-wₖ`: words of word characters joined by single hyphens. -/
def IsChain (t : List Char) : Prop :=
  ∃ c x, t = c :: x ∧ isWordChar c = true ∧ ChainRest x

/-- A type written with words: a chain, or a chain after a `-`. -/
def IsWordType (t : List Char) : Prop :=
  IsChain t ∨ ∃ t₀, t = '-' :: t₀ ∧ IsChain t₀

/-- A custom property type `[--name]`, the name of word characters and hyphens. -/
def IsCustomType (t : List Char) : Prop :=
  ∃ name, t = "[--".toList ++ name ++ [']'] ∧ name ≠ [] ∧
    ∀ c ∈ name, isWordChar c = true ∨ c = '-'

/-- A type of the grammar. -/
def IsType (t : List Char) : Prop := IsWordType t ∨ IsCustomType t

/-- A signed decimal: an optional `-`, digits, and an optional fraction of digits. -/
def IsNumber (v : List Char) : Prop :=
  ∃ sign ds fr, v = sign ++ ds ++ fr ∧ (sign = [] ∨ sign = ['-']) ∧ IsDigits ds ∧
    (fr = [] ∨ ∃ fs, fr = '.' :: fs ∧ IsDigits fs)

/-- A value of the grammar, by its five alternatives. -/
inductive IsValue : List Char → Prop
  | number {v : List Char} : IsNumber v → IsValue v
  | chain {v : List Char} : IsChain v → IsValue v
  | hex {hs : List Char} : hs ≠ [] → (∀ c ∈ hs, isHexChar c = true) → IsValue ('#' :: hs)
  | bracket {inner : List Char} : inner ≠ [] → ']' ∉ inner → IsValue ('[' :: (inner ++ [']']))
  | ref {name : List Char} : name ≠ [] → (∀ c ∈ name, isValueBlank c = false) →
      IsValue ('$' :: name)

/-- A unit: letters and `%`, possibly none. -/
def IsUnit (u : List Char) : Prop := ∀ c ∈ u, isUnitChar c = true

/-- A prefix: a non-empty run of lower-case letters and `-`. -/
def IsPrefix (p : List Char) : Prop := p ≠ [] ∧ ∀ c ∈ p, isPrefixChar c = true

/-- The texts of the class grammar. -/
inductive IsClass : List Char → Prop
  | bare {t v u : List Char} : IsType t → IsValue v → IsUnit u → IsClass (t ++ '-' :: (v ++ u))
  | prefixed {p t v u : List Char} : IsPrefix p → IsType t → IsValue v → IsUnit u →
      IsClass (p ++ ':' :: (t ++ '-' :: (v ++ u)))

/-- A text of the grammar starts at position `i` of `cs`. -/
def MatchesAt (cs : List Char) (i : Nat) : Prop :=
  ∃ x, x <+: cs.drop i ∧ IsClass x

end UtilityStyles.Class
