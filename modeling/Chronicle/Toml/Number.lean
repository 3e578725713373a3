import Chronicle.Limits
import Chronicle.Toml.Lexeme

/-!
Numbers.  Whole numbers have 64 bits and a sign; a decimal number is the nearest double.  Digits may
be grouped with underscores, each between two digits.
-/

namespace Chronicle.Toml

/-- A group of digits with underscores between them, after `done` in reverse order. -/
def digitRun (isDigit : Char → Bool) (done : List Char) : List Char → Option (List Char × List Char)
  | '_' :: c :: rest => if isDigit c then digitRun isDigit (c :: done) rest else none
  | ['_'] => none
  | c :: rest =>
    if isDigit c then digitRun isDigit (c :: done) rest else some (done.reverse, c :: rest)
  | [] => some (done.reverse, [])

/-- One digit or more, with underscores between them. -/
def digits1? (isDigit : Char → Bool) : List Char → Option (List Char × List Char)
  | c :: rest => if isDigit c then digitRun isDigit [c] rest else none
  | [] => none

/-- The digits of a whole number: a zero stands alone. -/
def decimalDigits? : List Char → Option (List Char × List Char)
  | '0' :: rest => some (['0'], rest)
  | cs => digits1? isDigit cs

def sign : List Char → Bool × List Char
  | '-' :: rest => (true, rest)
  | '+' :: rest => (false, rest)
  | cs => (false, cs)

/-- A whole number in the range of 64 bits. -/
def fits (negative : Bool) (n : Nat) : Option Toml :=
  if negative then (if n ≤ signedLimit then some (.whole (-(n : Int))) else none)
  else if n < signedLimit then some (.whole n) else none

/-- A whole number in another base, after its mark. -/
def based? (base : Nat) (isDigit : Char → Bool) (cs : List Char) : Option (Toml × List Char) := do
  let (ds, rest) ← digits1? isDigit cs
  let v ← fits false (ofDigits base ds)
  return (v, rest)

/-- A decimal as a double, unless it is too large; one too far below zero is infinite. -/
def decimal (negative : Bool) (digits : List Char) (exponent : Int) : Option Toml :=
  match Binary64.ofDecimal negative (ofDigits 10 digits) exponent with
  | .infinite false => none
  | x => some (.real x)

/-- The exponent of a decimal, after its letter. -/
def exponent? (cs : List Char) : Option (Int × List Char) := do
  let (down, cs) := sign cs
  let (ds, rest) ← digits1? isDigit cs
  let n : Int := ofDigits 10 ds
  return (if down then -n else n, rest)

/-- What may follow the digits of a decimal: an exponent. -/
def afterDigits? (negative : Bool) (digits : List Char) (places : Nat) (cs : List Char) :
    Option (Toml × List Char) :=
  let finish (e : Int) (rest : List Char) : Option (Toml × List Char) :=
    (decimal negative digits (e - places)).map (·, rest)
  match cs with
  | 'e' :: rest => (exponent? rest).bind fun (e, rest) => finish e rest
  | 'E' :: rest => (exponent? rest).bind fun (e, rest) => finish e rest
  | cs => finish 0 cs

/-- A number whose digits before a point are `whole`. -/
def afterWhole? (negative : Bool) (whole : List Char) : List Char → Option (Toml × List Char)
  | '.' :: rest => do
    let (fraction, rest) ← digits1? isDigit rest
    afterDigits? negative (whole ++ fraction) fraction.length rest
  | 'e' :: rest => afterDigits? negative whole 0 ('e' :: rest)
  | 'E' :: rest => afterDigits? negative whole 0 ('E' :: rest)
  | rest => (fits negative (ofDigits 10 whole)).map (·, rest)

/-- A number after its sign. -/
def unsigned? (negative : Bool) : List Char → Option (Toml × List Char)
  | 'i' :: 'n' :: 'f' :: rest => some (.real (.infinite negative), rest)
  | 'n' :: 'a' :: 'n' :: rest => some (.real .nan, rest)
  | cs => (decimalDigits? cs).bind fun (ds, rest) => afterWhole? negative ds rest

/-- A number of any sort. -/
def number? (cs : List Char) : Option (Toml × List Char) :=
  match cs with
  | '0' :: 'x' :: rest => based? 16 isHexDigit rest
  | '0' :: 'o' :: rest => based? 8 isOctalDigit rest
  | '0' :: 'b' :: rest => based? 2 isBinaryDigit rest
  | cs =>
    let (negative, cs) := sign cs
    unsigned? negative cs

end Chronicle.Toml
