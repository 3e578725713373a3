import Chronicle.Toml.Moment
import Chronicle.Toml.Number
import Chronicle.Toml.Quoted
import Chronicle.Toml.Tables

/-!
Reading TOML: a text becomes statements, and these become tables.  A text that is no document is
refused as a whole, so a reader gives no more than that it failed.
-/

namespace Chronicle.Toml

/-- Containers that may be open at once, and parts that a key may have. -/
def maxDepth : Nat := 79

/-- The parts of a key between dots, with blanks around each. -/
def keyParts (fuel : Nat) (cs : List Char) : Option (List String × List Char) :=
  match fuel with
  | 0 => none
  | fuel + 1 => do
    let (part, rest) ← simpleKey? (skipSpace cs)
    match skipSpace rest with
    | '.' :: rest =>
      let (parts, rest) ← keyParts fuel rest
      return (part :: parts, rest)
    | rest => return ([part], rest)

/-- A key: the path to a table, and the name of a member of it. -/
def key? (cs : List Char) : Option ((List String × String) × List Char) := do
  let (parts, rest) ← keyParts maxDepth cs
  let name ← parts.getLast?
  return ((parts.dropLast, name), rest)

/-- A value that is no container. -/
def scalar? (cs : List Char) : Option (Toml × List Char) :=
  match cs with
  | 't' :: 'r' :: 'u' :: 'e' :: rest => some (.bool true, rest)
  | 'f' :: 'a' :: 'l' :: 's' :: 'e' :: rest => some (.bool false, rest)
  | '"' :: _ => (quoted? cs).map fun (s, rest) => (.text s, rest)
  | '\'' :: _ => (quoted? cs).map fun (s, rest) => (.text s, rest)
  | _ =>
    match moment? cs with
    | some rest => some (.moment, rest)
    | none => number? cs

mutual

/-- A value in which `depth` more containers may be open; `fuel` bounds the pieces it has. -/
def value (fuel depth : Nat) (cs : List Char) : Option (Toml × List Char) :=
  match fuel, cs with
  | 0, _ => none
  | fuel + 1, '[' :: rest =>
    match depth with
    | 0 => none
    | depth + 1 => (elements fuel depth rest).map fun (items, rest) => (.list items, rest)
  | fuel + 1, '{' :: rest =>
    match depth with
    | 0 => none
    | depth + 1 => do
      let (assignments, rest) ← literalStart fuel depth rest
      return (← literalOf assignments, rest)
  | _, cs => scalar? cs

/-- The elements of an array up to its end; a comma may follow the last one. -/
def elements (fuel depth : Nat) (cs : List Char) : Option (List Toml × List Char) :=
  match fuel with
  | 0 => none
  | fuel + 1 => do
    match ← skipLines (cs.length + 1) cs with
    | ']' :: rest => return ([], rest)
    | cs =>
      let (v, rest) ← value fuel depth cs
      match ← skipLines (rest.length + 1) rest with
      | ',' :: rest =>
        let (vs, rest) ← elements fuel depth rest
        return (v :: vs, rest)
      | ']' :: rest => return ([v], rest)
      | _ => none

/-- The assignments of a table written as a value, after its opening brace. -/
def literalStart (fuel depth : Nat) (cs : List Char) :
    Option (List (List String × String × Toml) × List Char) :=
  match fuel with
  | 0 => none
  | fuel + 1 =>
    match skipSpace cs with
    | '}' :: rest => some ([], rest)
    | cs => literalMembers fuel depth cs

/-- At least one assignment, up to the closing brace; no comma follows the last one. -/
def literalMembers (fuel depth : Nat) (cs : List Char) :
    Option (List (List String × String × Toml) × List Char) :=
  match fuel with
  | 0 => none
  | fuel + 1 => do
    let ((path, name), rest) ← key? cs
    match rest with
    | '=' :: rest =>
      let (v, rest) ← value fuel depth (skipSpace rest)
      match skipSpace rest with
      | ',' :: rest =>
        let (ms, rest) ← literalMembers fuel depth rest
        return ((path, name, v) :: ms, rest)
      | '}' :: rest => return ([(path, name, v)], rest)
      | _ => none
    | _ => none

end

/-- A header, from its first bracket. -/
def header? (cs : List Char) : Option (Statement × List Char) :=
  match cs with
  | '[' :: '[' :: rest => do
    let ((path, name), rest) ← key? rest
    match rest with
    | ']' :: ']' :: rest => return (.element path name, rest)
    | _ => none
  | '[' :: rest => do
    let ((path, name), rest) ← key? rest
    match rest with
    | ']' :: rest => return (.table path name, rest)
    | _ => none
  | _ => none

/-- An assignment. -/
def assignment? (cs : List Char) : Option (Statement × List Char) := do
  let ((path, name), rest) ← key? cs
  match rest with
  | '=' :: rest =>
    let (v, rest) ← value (2 * rest.length + 2) maxDepth (skipSpace rest)
    return (.assign path name v, rest)
  | _ => none

/-- A header or an assignment, to the end of its line. -/
def statement? (cs : List Char) : Option (Statement × List Char) := do
  let (s, rest) ← match cs with
    | '[' :: _ => header? cs
    | _ => assignment? cs
  return (s, ← endOfLine? rest)

/-- The statements of a document; `fuel` bounds its lines. -/
def statements (fuel : Nat) (cs : List Char) : Option (List Statement) :=
  match fuel with
  | 0 => none
  | fuel + 1 => do
    match skipSpace cs with
    | [] => return []
    | '#' :: rest => statements fuel (← lineEnd? (rest.dropWhile isPlain))
    | '\n' :: rest => statements fuel rest
    | '\r' :: rest => statements fuel (← newline? ('\r' :: rest))
    | cs =>
      let (s, rest) ← statement? cs
      return s :: (← statements fuel rest)

/-- The text without the mark that may stand at its start. -/
def dropMark : List Char → List Char
  | '\uFEFF' :: rest => rest
  | cs => cs

/-- The members of the document that a text holds. -/
def read (s : String) : Option Members :=
  let cs := dropMark s.toList
  (statements (cs.length + 1) cs).bind build

end Chronicle.Toml
