import Chronicle.Shell.Token

/-!
Reading a command line into a command.  Every reader takes tokens off the front and gives the rest.
-/

namespace Chronicle.Shell.Reader

/-- The text of a word that is not quoted and has no parameters. -/
def bareText? : Token → Option String
  | .word [.text cs] true => some (String.ofList cs)
  | _ => none

def isWord (s : String) (t : Token) : Bool := bareText? t == some s

/-- The variable and the value of a word that assigns. -/
def assignment? : Token → Option (String × Word)
  | .word (.text cs :: rest) _ =>
    let name := cs.takeWhile Token.isNameChar
    match cs.dropWhile Token.isNameChar with
    | '=' :: value =>
      if (name.head?.map Token.isNameStart).getD false then
        some (String.ofList name, .text value :: rest)
      else none
    | _ => none
  | _ => none

/-- Words that end a list inside a loop or a group. -/
def isListEnd (t : Token) : Bool :=
  isWord "done" t || isWord "\x7d" t || t == .operator ")"

/-- The words and redirections of a command. -/
def takeWords : List Token → List Token × List Redirection × List Token
  | .word w isBare :: rest =>
    let (ws, rs, rest) := takeWords rest
    (.word w isBare :: ws, rs, rest)
  | .redirect r :: rest =>
    let (ws, rs, rest) := takeWords rest
    (ws, r :: rs, rest)
  | rest => ([], [], rest)

def wordOf : Token → Word
  | .word w _ => w
  | _ => []

/-- A command with its redirections. -/
def withRedirections (c : Command) (rs : List Redirection) : Command :=
  if rs.isEmpty then c else .redirect c rs

/-- Skips operators that only separate. -/
def skipSeparators (ts : List Token) : List Token := ts.dropWhile (· == .operator ";")

/-- The redirections after a command. -/
def redirectionsAfter (c : Command) (ts : List Token) : Option (Command × List Token) :=
  match takeWords ts with
  | ([], rs, rest) => some (withRedirections c rs, rest)
  | _ => none

/-- A command made of words. -/
def simple (ts : List Token) : Option (Command × List Token) :=
  let (ws, rs, rest) := takeWords ts
  if ws.isEmpty && rs.isEmpty then none
  else
    let assigning := ws.takeWhile fun t => (assignment? t).isSome
    let words := (ws.drop assigning.length).map wordOf
    some (withRedirections (.simple (assigning.filterMap assignment?) words) rs, rest)

mutual

/-- Commands with semicolons between them, up to the end of a group or the text. -/
def list (fuel : Nat) (ts : List Token) : Option (Command × List Token) :=
  match fuel with
  | 0 => none
  | fuel + 1 =>
    match skipSeparators ts with
    | [] => some (.nothing, [])
    | t :: rest =>
      if isListEnd t then some (.nothing, t :: rest)
      else do
        let (c, rest) ← chain fuel (t :: rest)
        match rest with
        | .operator ";" :: rest =>
          let (d, rest) ← list fuel rest
          return (.sequence c d, rest)
        | _ => return (c, rest)

/-- Pipelines that depend on the one before, from left to right. -/
def chain (fuel : Nat) (ts : List Token) : Option (Command × List Token) :=
  match fuel with
  | 0 => none
  | fuel + 1 => do
    let (c, rest) ← pipeline fuel ts
    chainAfter fuel c rest

/-- What follows a pipeline in a chain. -/
def chainAfter (fuel : Nat) (c : Command) (ts : List Token) : Option (Command × List Token) :=
  match fuel with
  | 0 => none
  | fuel + 1 =>
    match ts with
    | .operator "&&" :: rest => do
      let (d, rest) ← pipeline fuel (skipSeparators rest)
      chainAfter fuel (.both c d) rest
    | .operator "||" :: rest => do
      let (d, rest) ← pipeline fuel (skipSeparators rest)
      chainAfter fuel (.either c d) rest
    | _ => some (c, ts)

/-- Commands with bars between them; an exclamation mark turns the status round. -/
def pipeline (fuel : Nat) (ts : List Token) : Option (Command × List Token) :=
  match fuel with
  | 0 => none
  | fuel + 1 =>
    match ts with
    | [] => none
    | t :: rest =>
      if isWord "!" t then (pipeline fuel rest).map fun (c, rest) => (.negate c, rest)
      else do
        let (c, rest) ← command fuel (t :: rest)
        match rest with
        | .operator "|" :: rest =>
          let (d, rest) ← pipeline fuel (skipSeparators rest)
          return (.pipe c d, rest)
        | _ => return (c, rest)

/-- One command. -/
def command (fuel : Nat) (ts : List Token) : Option (Command × List Token) :=
  match fuel with
  | 0 => none
  | fuel + 1 =>
    match ts with
    | [] => none
    | .operator "(" :: rest => do
      match ← list fuel rest with
      | (c, .operator ")" :: rest) => redirectionsAfter (.subshell c) rest
      | _ => none
    | t :: rest =>
      if isWord "\x7b" t then do
        match ← list fuel rest with
        | (c, t :: rest) => if isWord "\x7d" t then redirectionsAfter c rest else none
        | _ => none
      else if isWord "for" t then loop fuel rest
      else simple (t :: rest)

/-- A loop, after its first word. -/
def loop (fuel : Nat) (ts : List Token) : Option (Command × List Token) :=
  match fuel with
  | 0 => none
  | fuel + 1 =>
    match ts with
    | name :: isIn :: rest =>
      let (items, _, rest) := takeWords rest
      match bareText? name, skipSeparators rest with
      | some name, isDo :: rest =>
        if isWord "in" isIn && isWord "do" isDo then do
          match ← list fuel rest with
          | (body, t :: rest) =>
            if isWord "done" t then redirectionsAfter (.loop name (items.map wordOf) body) rest
            else none
          | _ => none
        else none
      | _, _ => none
    | _ => none

end

/-- The command that a text holds. -/
def read? (s : String) : Option Command := do
  let cs := s.toList
  let ts ← Token.readAll (cs.length + 1) cs
  match ← list (8 * ts.length + 8) ts with
  | (c, []) => return c
  | _ => none

end Chronicle.Shell.Reader
