import Chronicle.Text.Cluster.Table

/-!
Grapheme clusters: the pieces of a text that a reader takes for one character each.  Whether two
neighbouring characters belong to one cluster depends on their classes and on a little of what
precedes them in the cluster, which `Context` keeps; `joins` is the list of Unicode's rules.
-/

namespace Chronicle.Text

namespace Cluster

/-- What a character is for the rules. -/
inductive BreakClass where
  | carriageReturn
  | lineFeed
  | control
  | extend
  /-- Extends the cluster, and links the consonants around it. -/
  | linker
  /-- The zero-width joiner. -/
  | joiner
  | regional
  | prepended
  | spacing
  | leading
  | vowel
  | trailing
  /-- A Hangul syllable without a final consonant. -/
  | openSyllable
  /-- A Hangul syllable with a final consonant. -/
  | closedSyllable
  | pictograph
  | consonant
  | other
deriving DecidableEq, Repr, Inhabited

/-- The syllables of Hangul come in groups of twenty-eight, the open one first. -/
def syllableClass (n : Nat) : BreakClass :=
  if (n - 0xAC00) % 28 = 0 then .openSyllable else .closedSyllable

/-- The class of a character. -/
def breakClass (c : Char) : BreakClass :=
  let n := c.toNat
  if n = 0x0D then .carriageReturn
  else if n = 0x0A then .lineFeed
  else if n < 0x20 then .control
  else if n < 0x7F then .other
  else if n = 0x200D then .joiner
  else if 0xAC00 ≤ n && n ≤ 0xD7A3 then syllableClass n
  else if 0x1F1E6 ≤ n && n ≤ 0x1F1FF then .regional
  else if (0x1100 ≤ n && n ≤ 0x115F) || (0xA960 ≤ n && n ≤ 0xA97C) then .leading
  else if (0x1160 ≤ n && n ≤ 0x11A7) || (0xD7B0 ≤ n && n ≤ 0xD7C6) then .vowel
  else if (0x11A8 ≤ n && n ≤ 0x11FF) || (0xD7CB ≤ n && n ≤ 0xD7FB) then .trailing
  else if linkers.contains n then .linker
  else if inRanges extendRanges n then .extend
  else if inRanges spacingRanges n then .spacing
  else if inRanges pictographRanges n then .pictograph
  else if inRanges controlRanges n then .control
  else if inRanges prependRanges n then .prepended
  else if inRanges consonantRanges n then .consonant
  else .other

/-- How much of an emoji sequence stands before a place. -/
inductive EmojiState where
  | none
  /-- A pictograph and what extends it. -/
  | pictograph
  /-- The same and a joiner. -/
  | joined
deriving DecidableEq, Repr, Inhabited

/-- How much of a conjunct stands before a place. -/
inductive ConjunctState where
  | none
  /-- A consonant and what extends it. -/
  | consonant
  /-- The same with a linker. -/
  | linked
deriving DecidableEq, Repr, Inhabited

/-- What the rules ask of the characters before a place: the class of the last, whether it is the
first of a pair of regional indicators, and the two states. -/
structure Context where
  last : BreakClass
  halfFlag : Bool
  emoji : EmojiState
  conjunct : ConjunctState
deriving DecidableEq, Repr, Inhabited

def EmojiState.next (s : EmojiState) : BreakClass → EmojiState
  | .pictograph => .pictograph
  | .extend | .linker => if s = .pictograph then .pictograph else .none
  | .joiner => if s = .pictograph then .joined else .none
  | _ => .none

def ConjunctState.next (s : ConjunctState) : BreakClass → ConjunctState
  | .consonant => .consonant
  | .linker => if s = .none then .none else .linked
  | .extend | .joiner => s
  | _ => .none

/-- The context at the start of a cluster that begins with a class. -/
def Context.start (b : BreakClass) : Context :=
  ⟨b, b = .regional, EmojiState.none.next b, ConjunctState.none.next b⟩

/-- The context one character further on. -/
def Context.next (x : Context) (b : BreakClass) : Context :=
  ⟨b, b = .regional && !x.halfFlag, x.emoji.next b, x.conjunct.next b⟩

/-- A class always begins and ends a cluster, the pair of carriage return and line feed apart. -/
def BreakClass.isControl : BreakClass → Bool
  | .carriageReturn | .lineFeed | .control => true
  | _ => false

/-- Two parts of one Hangul syllable. -/
def isSyllable : BreakClass → BreakClass → Bool
  | .leading, .leading | .leading, .vowel | .leading, .openSyllable
  | .leading, .closedSyllable => true
  | .openSyllable, .vowel | .openSyllable, .trailing | .vowel, .vowel | .vowel, .trailing => true
  | .closedSyllable, .trailing | .trailing, .trailing => true
  | _, _ => false

/-- A character of class `b` belongs to the cluster before it. -/
def joins (x : Context) (b : BreakClass) : Bool :=
  if x.last = .carriageReturn && b = .lineFeed then true
  else if x.last.isControl || b.isControl then false
  else if isSyllable x.last b then true
  else match b with
    | .extend | .linker | .joiner | .spacing => true
    | .consonant => x.last = .prepended || x.conjunct = .linked
    | .pictograph => x.last = .prepended || x.emoji = .joined
    | .regional => x.last = .prepended || x.halfFlag
    | _ => x.last = .prepended

/-- The clusters of `current.reverse ++ cs`, where `current` is the start of the first. -/
def split (current : List Char) (x : Context) : List Char → List (List Char)
  | [] => [current.reverse]
  | c :: cs =>
    let b := breakClass c
    if joins x b then split (c :: current) (x.next b) cs
    else current.reverse :: split [c] (.start b) cs

end Cluster

/-- The grapheme clusters of a text. -/
def clusters (s : String) : List String :=
  match s.toList with
  | [] => []
  | c :: cs => (Cluster.split [c] (.start (Cluster.breakClass c)) cs).map String.ofList

end Chronicle.Text
