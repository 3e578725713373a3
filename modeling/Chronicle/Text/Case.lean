import Chronicle.Text.Case.Table

/-!
Lower case.  Every character is mapped by itself, to one character or, for the capital I with a dot,
to two; only the capital sigma looks at its neighbours, since it has a form for the end of a word.
-/

namespace Chronicle.Text

namespace Case

def isAsciiUpper (n : Nat) : Bool := 0x41 ≤ n && n ≤ 0x5A

def isAsciiLower (n : Nat) : Bool := 0x61 ≤ n && n ≤ 0x7A

/-- The lower-case form of a character, by itself. -/
def lowerChar (c : Char) : List Char :=
  let n := c.toNat
  if n < 0x80 then (if isAsciiUpper n then [Char.ofNat (n + 0x20)] else [c])
  else if c = 'İ' then ['i', '\u0307']
  else match lowerRuns.findSome? (·.image? n) with
    | some m => [Char.ofNat m]
    | none => [c]

/-- The character has a case. -/
def isCased (c : Char) : Bool :=
  let n := c.toNat
  if n < 0x80 then isAsciiUpper n || isAsciiLower n else inRanges casedRanges n

/-- The character does not separate a letter from a sigma. -/
def isIgnorable (c : Char) : Bool := inRanges ignorableRanges c.toNat

/-- The first character that is not ignorable has a case. -/
def meetsCased (cs : List Char) : Bool :=
  match cs.dropWhile isIgnorable with
  | c :: _ => isCased c
  | [] => false

/-- The form of a sigma between `before`, in reverse order, and `after`: at the end of a word it is
the final one. -/
def lowerSigma (before after : List Char) : Char :=
  if meetsCased before && !meetsCased after then 'ς' else 'σ'

/-- The lower-case form of characters that stand after `before`, which is in reverse order. -/
def lowerFrom (before : List Char) : List Char → List Char
  | [] => []
  | c :: after =>
    if c = 'Σ' then lowerSigma before after :: lowerFrom (c :: before) after
    else lowerChar c ++ lowerFrom (c :: before) after

end Case

/-- A text in lower case. -/
def toLower (s : String) : String := String.ofList (Case.lowerFrom [] s.toList)

/-- The items of `part` occur in a list one after the other. -/
def hasInfix {α : Type} [DecidableEq α] (part : List α) : List α → Bool
  | [] => part.isEmpty
  | c :: cs => part.isPrefixOf (c :: cs) || hasInfix part cs

/-- `part` occurs in `s`. -/
def occursIn (part s : String) : Bool := hasInfix part.toList s.toList

end Chronicle.Text
