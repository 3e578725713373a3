import Chronicle.Json.Basic

/-!
Writing JSON, on one line or with every member and element on a line of its own.
-/

namespace Chronicle.Json

/-- The digits of the hexadecimal numbers below sixteen. -/
def hexDigit (n : Nat) : Char :=
  if n < 10 then Char.ofNat ('0'.toNat + n) else Char.ofNat ('a'.toNat + n - 10)

/-- A character inside quotes. -/
def escapeChar (c : Char) : List Char :=
  if c = '"' then ['\\', '"']
  else if c = '\\' then ['\\', '\\']
  else if c = '\n' then ['\\', 'n']
  else if c = '\r' then ['\\', 'r']
  else if c = '\t' then ['\\', 't']
  else if c = '\x08' then ['\\', 'b']
  else if c = '\x0c' then ['\\', 'f']
  else if c.toNat < 0x20 then
    ['\\', 'u', '0', '0', hexDigit (c.toNat / 16), hexDigit (c.toNat % 16)]
  else [c]

/-- A text between quotes. -/
def quote (s : String) : String :=
  String.ofList ('"' :: s.toList.flatMap escapeChar ++ ['"'])

def renderDecimal (d : Decimal) : String :=
  (if d.negative then "-" else "") ++ toString d.significand ++ "e" ++ toString d.exponent

mutual

/-- A value on one line. -/
def render : Json → String
  | .null => "null"
  | .bool true => "true"
  | .bool false => "false"
  | .whole n => toString n
  | .real d => renderDecimal d
  | .text s => quote s
  | .list items => "[" ++ ",".intercalate (renderItems items) ++ "]"
  | .object members => "\x7b" ++ ",".intercalate (renderMembers members) ++ "\x7d"

def renderItems : List Json → List String
  | [] => []
  | v :: rest => render v :: renderItems rest

def renderMembers : List (String × Json) → List String
  | [] => []
  | (key, v) :: rest => (quote key ++ ":" ++ render v) :: renderMembers rest

end

/-- The start of a line `depth` levels in. -/
def indent (depth : Nat) : String := "\n" ++ String.ofList (List.replicate (2 * depth) ' ')

mutual

/-- A value over several lines, two blanks a level; empty containers stay closed. -/
def renderPretty (depth : Nat) : Json → String
  | .list [] => "[]"
  | .object [] => "\x7b\x7d"
  | .list (v :: items) =>
    "[" ++ indent (depth + 1) ++
      ("," ++ indent (depth + 1)).intercalate (prettyItems (depth + 1) (v :: items)) ++
      indent depth ++ "]"
  | .object (m :: members) =>
    "\x7b" ++ indent (depth + 1) ++
      ("," ++ indent (depth + 1)).intercalate (prettyMembers (depth + 1) (m :: members)) ++
      indent depth ++ "\x7d"
  | v => render v

def prettyItems (depth : Nat) : List Json → List String
  | [] => []
  | v :: rest => renderPretty depth v :: prettyItems depth rest

def prettyMembers (depth : Nat) : List (String × Json) → List String
  | [] => []
  | (key, v) :: rest => (quote key ++ ": " ++ renderPretty depth v) :: prettyMembers depth rest

end

end Chronicle.Json
