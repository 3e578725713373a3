import Chronicle.Text.Utf8

/-!
Escapes and directives of printed text.  What is printed is a sequence of bytes, since an escape may
stand for a byte that is no text.
-/

namespace Chronicle.Shell.Format

def octalValue? (c : Char) : Option Nat :=
  if '0' ≤ c && c ≤ '7' then some (c.toNat - '0'.toNat) else none

def hexValue? (c : Char) : Option Nat :=
  if '0' ≤ c && c ≤ '9' then some (c.toNat - '0'.toNat)
  else if 'a' ≤ c && c ≤ 'f' then some (c.toNat - 'a'.toNat + 10)
  else if 'A' ≤ c && c ≤ 'F' then some (c.toNat - 'A'.toNat + 10)
  else none

/-- The number that up to `most` digits write. -/
def takeNumber (base : Nat) (digit? : Char → Option Nat) (most : Nat) (cs : List Char) :
    Nat × List Char :=
  let digits := (cs.take most).takeWhile fun c => (digit? c).isSome
  (digits.foldl (fun n c => n * base + (digit? c).getD 0) 0, cs.drop digits.length)

def bytesOf (c : Char) : List UInt8 := Text.Utf8.encode (String.singleton c)

/-- The bytes of an escape, after its backslash. -/
def escape (cs : List Char) : List UInt8 × List Char :=
  match cs with
  | 'n' :: rest => ([10], rest)
  | 't' :: rest => ([9], rest)
  | 'r' :: rest => ([13], rest)
  | 'a' :: rest => ([7], rest)
  | 'b' :: rest => ([8], rest)
  | 'f' :: rest => ([12], rest)
  | 'v' :: rest => ([11], rest)
  | 'e' :: rest => ([27], rest)
  | '\\' :: rest => ([92], rest)
  | '"' :: rest => ([34], rest)
  | 'x' :: rest =>
    let (n, after) := takeNumber 16 hexValue? 2 rest
    if after.length = rest.length then (bytesOf '\\' ++ bytesOf 'x', rest) else ([UInt8.ofNat n], after)
  | 'u' :: rest =>
    let (n, after) := takeNumber 16 hexValue? 4 rest
    (bytesOf (Char.ofNat n), after)
  | 'U' :: rest =>
    let (n, after) := takeNumber 16 hexValue? 8 rest
    (bytesOf (Char.ofNat n), after)
  | c :: rest =>
    if (octalValue? c).isSome then
      let (n, after) := takeNumber 8 octalValue? 3 (c :: rest)
      ([UInt8.ofNat n], after)
    else (bytesOf '\\' ++ bytesOf c, rest)
  | [] => (bytesOf '\\', [])

/-- A text with its escapes replaced; `fuel` bounds the pieces. -/
def unescape (fuel : Nat) (cs : List Char) : List UInt8 :=
  match fuel, cs with
  | 0, _ => []
  | _, [] => []
  | fuel + 1, '\\' :: rest =>
    let (bs, rest) := escape rest
    bs ++ unescape fuel rest
  | fuel + 1, c :: rest => bytesOf c ++ unescape fuel rest

/-- A directive: flags, width, precision and the letter that says what is printed. -/
structure Directive where
  left : Bool
  zeros : Bool
  width : Nat
  precision : Option Nat
  letter : Char
deriving DecidableEq, Repr, Inhabited

def decimalValue? (c : Char) : Option Nat :=
  if '0' ≤ c && c ≤ '9' then some (c.toNat - '0'.toNat) else none

/-- The directive after a percent sign. -/
def directive? (cs : List Char) : Option (Directive × List Char) :=
  let flags := cs.takeWhile fun c => c = '-' || c = '0' || c = '+' || c = ' '
  let (width, cs) := takeNumber 10 decimalValue? 9 (cs.drop flags.length)
  let (precision, cs) := match cs with
    | '.' :: rest =>
      let (n, rest) := takeNumber 10 decimalValue? 9 rest
      (some n, rest)
    | cs => (none, cs)
  match cs with
  | letter :: rest => some (⟨flags.contains '-', flags.contains '0', width, precision, letter⟩, rest)
  | [] => none

/-- The whole number that an argument writes; anything else counts as zero. -/
def intOf (s : String) : Int :=
  match s.toList with
  | '-' :: cs => -((takeNumber 10 decimalValue? cs.length cs).1 : Int)
  | '+' :: cs => ((takeNumber 10 decimalValue? cs.length cs).1 : Int)
  | cs => ((takeNumber 10 decimalValue? cs.length cs).1 : Int)

/-- Fills up to the width. -/
def Directive.pad (d : Directive) (isNumber : Bool) (bs : List UInt8) : List UInt8 :=
  let missing := d.width - bs.length
  if d.left then bs ++ List.replicate missing 32
  else if d.zeros && isNumber then
    match bs with
    | 45 :: digits => 45 :: List.replicate missing 48 ++ digits
    | _ => List.replicate missing 48 ++ bs
  else List.replicate missing 32 ++ bs

/-- The digits of a number in a base. -/
def inBase (base n : Nat) : String := String.ofList (Nat.toDigits base n)

/-- What a directive prints of an argument. -/
def Directive.print (d : Directive) (argument : String) : List UInt8 :=
  let cut (s : String) : String := match d.precision with
    | some n => String.ofList (s.toList.take n)
    | none => s
  let number (s : String) : List UInt8 := d.pad true (Text.Utf8.encode s)
  match d.letter with
  | 's' => d.pad false (Text.Utf8.encode (cut argument))
  | 'b' => d.pad false (unescape argument.length argument.toList)
  | 'c' => d.pad false (Text.Utf8.encode (String.ofList (argument.toList.take 1)))
  | 'd' => number (toString (intOf argument))
  | 'i' => number (toString (intOf argument))
  | 'u' => number (toString (intOf argument).toNat)
  | 'x' => number (inBase 16 (intOf argument).toNat)
  | 'X' => number (String.ofList ((inBase 16 (intOf argument).toNat).toList.map Char.toUpper))
  | 'o' => number (inBase 8 (intOf argument).toNat)
  | _ => []

/-- Prints a format once: the bytes, and the arguments that are left. -/
def printOnce (fuel : Nat) (cs : List Char) (arguments : List String) : List UInt8 × List String :=
  match fuel, cs with
  | 0, _ => ([], arguments)
  | _, [] => ([], arguments)
  | fuel + 1, '\\' :: rest =>
    let (bs, rest) := escape rest
    let (more, arguments) := printOnce fuel rest arguments
    (bs ++ more, arguments)
  | fuel + 1, '%' :: '%' :: rest =>
    let (more, arguments) := printOnce fuel rest arguments
    (37 :: more, arguments)
  | fuel + 1, '%' :: rest =>
    match directive? rest with
    | none => ([], arguments)
    | some (d, rest) =>
      let bs := d.print (arguments.head?.getD "")
      let (more, arguments) := printOnce fuel rest (arguments.drop 1)
      (bs ++ more, arguments)
  | fuel + 1, c :: rest =>
    let (more, arguments) := printOnce fuel rest arguments
    (bytesOf c ++ more, arguments)

/-- Prints a format as often as it takes to use up the arguments, once at least. -/
def print (fuel : Nat) (format : List Char) (arguments : List String) : List UInt8 :=
  let (bs, left) := printOnce format.length format arguments
  match fuel with
  | 0 => bs
  | fuel + 1 =>
    if left.isEmpty || left.length = arguments.length then bs else bs ++ print fuel format left

end Chronicle.Shell.Format
