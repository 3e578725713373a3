import Chronicle.Toml.Lexeme

/-!
Strings.  Double quotes allow escapes and single quotes do not; three quotes of either sort enclose
a text of several lines, which may hold up to two quotes in a row, also right before its end.
-/

namespace Chronicle.Toml

/-- The character of an escape of one letter. -/
def simpleEscape? : Char → Option Char
  | 'b' => some '\x08'
  | 't' => some '\t'
  | 'n' => some '\n'
  | 'f' => some '\x0c'
  | 'r' => some '\r'
  | '"' => some '"'
  | '\\' => some '\\'
  | _ => none

/-- The character with the code point that `count` hexadecimal digits write. -/
def codePoint? (count : Nat) (cs : List Char) : Option (Char × List Char) :=
  let digits := cs.take count
  let n := ofDigits 16 digits
  if digits.length = count && digits.all isHexDigit then
    if h : n.isValidChar then some (Char.ofNatAux n h, cs.drop count) else none
  else none

/-- The character of an escape, after its backslash. -/
def escape? : List Char → Option (Char × List Char)
  | 'u' :: rest => codePoint? 4 rest
  | 'U' :: rest => codePoint? 8 rest
  | c :: rest => (simpleEscape? c).map (·, rest)
  | [] => none

/-- Skips blanks and line ends; `fuel` bounds the lines. -/
def skipFolded (fuel : Nat) (cs : List Char) : List Char :=
  match fuel, newline? (skipSpace cs) with
  | fuel + 1, some rest => skipFolded fuel rest
  | _, _ => skipSpace cs

/-- The text up to a double quote, after `done` in reverse order. -/
def basic (fuel : Nat) (done : List Char) (cs : List Char) : Option (String × List Char) :=
  match fuel, cs with
  | 0, _ => none
  | _, [] => none
  | fuel + 1, c :: rest =>
    if c = '"' then some (String.ofList done.reverse, rest)
    else if c = '\\' then (escape? rest).bind fun (c, rest) => basic fuel (c :: done) rest
    else if isPlain c then basic fuel (c :: done) rest
    else none

/-- The text up to a single quote, after `done` in reverse order. -/
def verbatim (done : List Char) : List Char → Option (String × List Char)
  | [] => none
  | '\'' :: rest => some (String.ofList done.reverse, rest)
  | c :: rest => if isPlain c then verbatim (c :: done) rest else none

/-- What a run of quotes means inside a text of several lines: up to two are part of it, three end
it after as many more as there are, up to two. -/
def closingRun (quote : Char) (cs : List Char) : Nat × List Char :=
  let run := min (cs.takeWhile (· == quote)).length 5
  (run, cs.drop run)

/-- The text of several lines up to three quotes, after `done` in reverse order; escapes are read
only between double quotes. -/
def multiline (quote : Char) (fuel : Nat) (done : List Char) (cs : List Char) :
    Option (String × List Char) :=
  match fuel, cs with
  | 0, _ => none
  | _, [] => none
  | fuel + 1, c :: rest =>
    if c = quote then
      let (run, rest) := closingRun quote (c :: rest)
      let kept := List.replicate (if run < 3 then run else run - 3) quote
      if run < 3 then multiline quote fuel (kept ++ done) rest
      else some (String.ofList (kept ++ done).reverse, rest)
    else if c = '\\' && quote = '"' then
      match newline? (skipSpace rest) with
      | some rest => multiline quote fuel done (skipFolded (rest.length + 1) rest)
      | none => (escape? rest).bind fun (c, rest) => multiline quote fuel (c :: done) rest
    else match newline? (c :: rest) with
      | some rest => multiline quote fuel ('\n' :: done) rest
      | none => if isPlain c then multiline quote fuel (c :: done) rest else none

/-- The text after the first line end of a text of several lines, which does not belong to it. -/
def dropFirstNewline (cs : List Char) : List Char := (newline? cs).getD cs

/-- A string of any sort. -/
def quoted? (cs : List Char) : Option (String × List Char) :=
  match cs with
  | '"' :: '"' :: '"' :: rest => multiline '"' (rest.length + 1) [] (dropFirstNewline rest)
  | '\'' :: '\'' :: '\'' :: rest => multiline '\'' (rest.length + 1) [] (dropFirstNewline rest)
  | '"' :: rest => basic (rest.length + 1) [] rest
  | '\'' :: rest => verbatim [] rest
  | _ => none

/-- A key of one part: plain characters, or a string on one line. -/
def simpleKey? : List Char → Option (String × List Char)
  | '"' :: rest => basic (rest.length + 1) [] rest
  | '\'' :: rest => verbatim [] rest
  | cs =>
    let name := cs.takeWhile isBare
    if name.isEmpty then none else some (String.ofList name, cs.dropWhile isBare)

end Chronicle.Toml
