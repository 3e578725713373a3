import Chronicle.Text.Width.Table

/-!
Widths on a terminal: how many cells a text takes.  Characters are counted one by one, except where
several of them make one emoji: a pictograph asked to look like an emoji or like text, one with a
skin tone, and several joined into one.
-/

namespace Chronicle.Text

namespace Width

/-- The cells of a character by itself. -/
def ofChar (c : Char) : Nat :=
  let n := c.toNat
  if n ≤ 0xA0 then 1
  else if inRanges zeroRanges n then 0
  else if inRanges wideRanges n then 2
  else 1

/-- The character that joins emoji. -/
def joiner : Char := '\u200D'

/-- Asks for the look of an emoji. -/
def emojiSelector : Char := '\uFE0F'

/-- Asks for the look of text. -/
def textSelector : Char := '\uFE0E'

def isEmoji (c : Char) : Bool := inRanges emojiRanges c.toNat

/-- One of a pair that makes a flag; each takes one cell. -/
def isRegional (c : Char) : Bool := 0x1F1E6 ≤ c.toNat && c.toNat ≤ 0x1F1FF

/-- Looks like an emoji unless asked to look like text. -/
def isPresentation (c : Char) : Bool :=
  inRanges presentationRanges c.toNat && !isRegional c

def isModifier (c : Char) : Bool := 0x1F3FB ≤ c.toNat && c.toNat ≤ 0x1F3FF

def isModifierBase (c : Char) : Bool := inRanges modifierBaseRanges c.toNat

/-- An emoji that looks like text when asked to; the squared ideographs do not. -/
def canBeText (c : Char) : Bool :=
  isPresentation c && !(0x1F200 ≤ c.toNat && c.toNat ≤ 0x1F2FF)

/-- A complete emoji at the front of a text, and the rest. -/
def takeEmoji? : List Char → Option (List Char)
  | c :: d :: rest =>
    if d = emojiSelector && isEmoji c then some rest
    else if isModifier d && isModifierBase c then some rest
    else if isPresentation c && d ≠ textSelector then some (d :: rest)
    else none
  | [c] => if isPresentation c then some [] else none
  | [] => none

/-- The longest sequence of joined emoji at the front of a text: how many, and the rest. -/
def takeJoined (fuel : Nat) (cs : List Char) : Nat × List Char :=
  match fuel, takeEmoji? cs with
  | fuel + 1, some (j :: rest) =>
    if j = joiner then
      match takeJoined fuel rest with
      | (0, _) => (1, j :: rest)
      | (n, rest) => (n + 1, rest)
    else (1, j :: rest)
  | _, some [] => (1, [])
  | _, _ => (0, cs)

/-- The cells of characters; `fuel` bounds their number. -/
def ofChars (fuel : Nat) (cs : List Char) : Nat :=
  match fuel, cs with
  | 0, _ => 0
  | _, [] => 0
  | fuel + 1, c :: rest =>
    match takeJoined fuel (c :: rest) with
    | (_ + 1, after) => 2 + ofChars fuel after
    | (0, _) =>
      match rest with
      | d :: after =>
        if c = '\r' && d = '\n' then 1 + ofChars fuel after
        else if d = textSelector && canBeText c then 1 + ofChars fuel after
        else ofChar c + ofChars fuel rest
      | [] => ofChar c

end Width

/-- The cells that a text takes. -/
def width (s : String) : Nat := Width.ofChars s.length s.toList

end Chronicle.Text
