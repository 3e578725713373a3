import Chronicle.Shell.Basic

/-!
Tokens of a command line: words, whose quotes are gone, and operators.
-/

namespace Chronicle.Shell

inductive Token where
  /-- A word, and whether no part of it was quoted. -/
  | word (w : Word) (isBare : Bool)
  | operator (s : String)
  | redirect (r : Redirection)
deriving DecidableEq, Repr, Inhabited

namespace Token

def isNameStart (c : Char) : Bool :=
  ('a' ≤ c && c ≤ 'z') || ('A' ≤ c && c ≤ 'Z') || c == '_'

def isNameChar (c : Char) : Bool := isNameStart c || ('0' ≤ c && c ≤ '9')

/-- A character that ends a word that is not quoted. -/
def endsWord (c : Char) : Bool := " \t\n;|&<>()".toList.contains c

/-- A parameter, after its dollar sign. -/
def parameter (cs : List Char) : Part × List Char :=
  match cs with
  | '$' :: rest => (.process, rest)
  | '?' :: rest => (.status, rest)
  | '{' :: rest =>
    (.variable (String.ofList (rest.takeWhile isNameChar)), (rest.dropWhile (· ≠ '}')).drop 1)
  | c :: _ =>
    if isNameStart c then
      (.variable (String.ofList (cs.takeWhile isNameChar)), cs.dropWhile isNameChar)
    else (.text ['$'], cs)
  | [] => (.text ['$'], [])

/-- Adds a character to the last piece of a word, given in reverse order. -/
def pushChar (c : Char) : Word → Word
  | .text cs :: w => .text (cs ++ [c]) :: w
  | w => .text [c] :: w

/-- The pieces between double quotes, after `done` in reverse order. -/
def doubleQuoted (fuel : Nat) (done : Word) (cs : List Char) : Option (Word × List Char) :=
  match fuel, cs with
  | 0, _ => none
  | _, [] => none
  | _, '"' :: rest => some (done, rest)
  | fuel + 1, '\\' :: c :: rest =>
    if "\"\\$\x60".toList.contains c then doubleQuoted fuel (pushChar c done) rest
    else if c = '\n' then doubleQuoted fuel done rest
    else doubleQuoted fuel (pushChar c (pushChar '\\' done)) rest
  | fuel + 1, '$' :: rest =>
    let (part, rest) := parameter rest
    doubleQuoted fuel (part :: done) rest
  | fuel + 1, c :: rest => doubleQuoted fuel (pushChar c done) rest

/-- A word, after its pieces `done` in reverse order; quotes make it a word even if it is empty. -/
def readWord (fuel : Nat) (done : Word) (isBare : Bool) (cs : List Char) :
    Option ((Word × Bool) × List Char) :=
  match fuel, cs with
  | 0, _ => none
  | _, [] => some ((done.reverse, isBare), [])
  | fuel + 1, '\'' :: rest =>
    match rest.dropWhile (· ≠ '\'') with
    | [] => none
    | _ :: after =>
      readWord fuel ((rest.takeWhile (· ≠ '\'')).foldl (fun w c => pushChar c w) (.text [] :: done))
        false after
  | fuel + 1, '"' :: rest =>
    (doubleQuoted (rest.length + 1) (.text [] :: done) rest).bind fun (done, rest) =>
      readWord fuel done false rest
  | fuel + 1, '\\' :: '\n' :: rest => readWord fuel done isBare rest
  | fuel + 1, '\\' :: c :: rest => readWord fuel (pushChar c done) false rest
  | fuel + 1, '$' :: rest =>
    let (part, rest) := parameter rest
    readWord fuel (part :: done) isBare rest
  | fuel + 1, c :: rest =>
    if endsWord c then some ((done.reverse, isBare), c :: rest)
    else readWord fuel (pushChar c done) isBare rest

/-- The output that a digit names. -/
def outputOf? : Char → Option Output
  | '1' => some .standard
  | '2' => some .error
  | _ => none

/-- The target of a redirection, after its arrow. -/
def target? (cs : List Char) : Option (Target × List Char) :=
  match cs with
  | '&' :: c :: rest => (outputOf? c).map fun o => (.output o, rest)
  | _ =>
    let cs := cs.dropWhile (fun c => c = ' ' || c = '>')
    let path := "/dev/null".toList
    (path.isPrefixOf? cs).map fun rest => (.discard, rest)

/-- A redirection of an output. -/
def redirection? (source : Output) (cs : List Char) : Option (Token × List Char) :=
  (target? cs).map fun (target, rest) => (.redirect ⟨source, target⟩, rest)

/-- The token at the front of a text that does not begin with a blank. -/
def next? (cs : List Char) : Option (Token × List Char) :=
  match cs with
  | '&' :: '&' :: rest => some (.operator "&&", rest)
  | '|' :: '|' :: rest => some (.operator "||", rest)
  | '|' :: rest => some (.operator "|", rest)
  | ';' :: rest => some (.operator ";", rest)
  | '\n' :: rest => some (.operator ";", rest)
  | '(' :: rest => some (.operator "(", rest)
  | ')' :: rest => some (.operator ")", rest)
  | '>' :: rest => redirection? .standard rest
  | '1' :: '>' :: rest => redirection? .standard rest
  | '2' :: '>' :: rest => redirection? .error rest
  | _ => (readWord (cs.length + 1) [] true cs).map fun ((w, isBare), rest) => (.word w isBare, rest)

/-- The tokens of a text; `fuel` bounds their number. -/
def readAll (fuel : Nat) (cs : List Char) : Option (List Token) :=
  match fuel with
  | 0 => none
  | fuel + 1 =>
    match cs.dropWhile (fun c => c = ' ' || c = '\t') with
    | [] => some []
    | '#' :: rest => readAll fuel (rest.dropWhile (· ≠ '\n'))
    | cs =>
      match next? cs with
      | none => none
      | some (t, rest) => if rest.length < cs.length then (readAll fuel rest).map (t :: ·) else none

end Token

end Chronicle.Shell
