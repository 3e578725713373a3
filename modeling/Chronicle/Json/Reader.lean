import Chronicle.Limits
import Chronicle.Json.Basic

/-!
Reading JSON.  A reader takes characters off the front of the text and gives a value with the
rest.  It fails in one of two ways, told apart because a caller may wait for more input after the
first: the text ends inside a value, or it goes on in a way no JSON text does.  Faults are met in
reading order, so the pieces below (the start of a member, the start of an element) are public: a
decoder that looks at some values early strings them together itself.
-/

namespace Chronicle.Json

/-- Why a text is no JSON value. -/
inductive Fault where
  | truncated
  | malformed
deriving DecidableEq, Repr, Inhabited

namespace Reader

/-- Containers that may be open at once. -/
def maxDepth : Nat := 127

def isSpace (c : Char) : Bool := c == ' ' || c == '\n' || c == '\t' || c == '\r'

def skipSpace (cs : List Char) : List Char := cs.dropWhile isSpace

def isDigit (c : Char) : Bool := '0' ≤ c && c ≤ '9'

def digitValue (c : Char) : Nat := c.toNat - '0'.toNat

/-- The rest after a fixed word. -/
def keyword : List Char → List Char → Except Fault (List Char)
  | [], cs => .ok cs
  | _ :: _, [] => .error .truncated
  | k :: ks, c :: cs => if k = c then keyword ks cs else .error .malformed

/-! ## Numbers -/

/-- The digits kept of a number: digits that would carry the significand beyond a word are not
kept, and `full` says that one has been met. -/
structure Kept where
  significand : Nat
  exponent : Int
  full : Bool

/-- One more digit before the point. -/
def Kept.pushWhole (k : Kept) (c : Char) : Kept :=
  let next := k.significand * 10 + digitValue c
  if k.full || maxWord < next then { k with exponent := k.exponent + 1, full := true }
  else { k with significand := next }

/-- One more digit after the point. -/
def Kept.pushFraction (k : Kept) (c : Char) : Kept :=
  let next := k.significand * 10 + digitValue c
  if k.full || maxWord < next then { k with full := true }
  else { k with significand := next, exponent := k.exponent - 1 }

/-- A decimal as a value, unless no double can hold it. -/
def finishReal (negative : Bool) (k : Kept) (cs : List Char) : Except Fault (Json × List Char) :=
  let d : Decimal := ⟨negative, k.significand, k.exponent⟩
  if d.isOutOfRange then .error .malformed else .ok (.real d, cs)

/-- The digits of a decimal number, at least one. -/
def digits1 (cs : List Char) : Except Fault (List Char × List Char) :=
  match cs with
  | [] => .error .truncated
  | c :: _ => if isDigit c then .ok (cs.takeWhile isDigit, cs.dropWhile isDigit) else .error .malformed

/-- The sign of an exponent and what follows. -/
def exponentSign : List Char → Bool × List Char
  | '+' :: cs => (false, cs)
  | '-' :: cs => (true, cs)
  | cs => (false, cs)

/-- The part of a number after its `e`. -/
def exponentPart (negative : Bool) (k : Kept) (cs : List Char) : Except Fault (Json × List Char) :=
  let (down, cs) := exponentSign cs
  (digits1 cs).bind fun (ds, rest) =>
    let n : Int := (ds.foldl (fun n c => n * 10 + digitValue c) 0 : Nat)
    finishReal negative { k with exponent := k.exponent + if down then -n else n } rest

/-- The part of a number after its point. -/
def fractionPart (negative : Bool) (k : Kept) (cs : List Char) : Except Fault (Json × List Char) :=
  (digits1 cs).bind fun (ds, rest) =>
    let k := ds.foldl Kept.pushFraction { k with full := false }
    match rest with
    | 'e' :: rest => exponentPart negative k rest
    | 'E' :: rest => exponentPart negative k rest
    | rest => finishReal negative k rest

/-- A whole number of sign `negative`; negative zero and numbers beyond a word are decimals. -/
def finishWhole (negative : Bool) (k : Kept) (cs : List Char) : Except Fault (Json × List Char) :=
  if k.full then finishReal negative k cs
  else if !negative then .ok (.whole k.significand, cs)
  else if k.significand = 0 || signedLimit < k.significand then finishReal true k cs
  else .ok (.whole (-(k.significand : Int)), cs)

/-- What may follow the digits before the point. -/
def afterWhole (negative : Bool) (k : Kept) : List Char → Except Fault (Json × List Char)
  | '.' :: cs => fractionPart negative k cs
  | 'e' :: cs => exponentPart negative k cs
  | 'E' :: cs => exponentPart negative k cs
  | cs => finishWhole negative k cs

/-- A number after its sign.  A zero stands alone before the point. -/
def unsignedNumber (negative : Bool) (cs : List Char) : Except Fault (Json × List Char) :=
  match cs with
  | [] => .error .truncated
  | '0' :: rest =>
    match rest with
    | c :: _ => if isDigit c then .error .malformed else afterWhole negative ⟨0, 0, false⟩ rest
    | [] => afterWhole negative ⟨0, 0, false⟩ rest
  | c :: _ =>
    if isDigit c then
      afterWhole negative ((cs.takeWhile isDigit).foldl Kept.pushWhole ⟨0, 0, false⟩)
        (cs.dropWhile isDigit)
    else .error .malformed

/-! ## Strings -/

def hexValue? (c : Char) : Option Nat :=
  if isDigit c then some (digitValue c)
  else if 'a' ≤ c && c ≤ 'f' then some (c.toNat - 'a'.toNat + 10)
  else if 'A' ≤ c && c ≤ 'F' then some (c.toNat - 'A'.toNat + 10)
  else none

/-- The number that four hexadecimal digits write. -/
def hex4? (a b c d : Char) : Option Nat := do
  let a ← hexValue? a
  let b ← hexValue? b
  let c ← hexValue? c
  let d ← hexValue? d
  return ((a * 16 + b) * 16 + c) * 16 + d

/-- The fault of an escape with fewer than four characters left: fewer than four bytes are too few
to tell, else one of them is no digit. -/
def shortHexFault (cs : List Char) : Fault :=
  if (String.ofList cs).utf8ByteSize < 4 then .truncated else .malformed

def simpleEscape? : Char → Option Char
  | '"' => some '"'
  | '\\' => some '\\'
  | '/' => some '/'
  | 'b' => some '\x08'
  | 'f' => some '\x0c'
  | 'n' => some '\n'
  | 'r' => some '\r'
  | 't' => some '\t'
  | _ => none

def isHighSurrogate (n : Nat) : Bool := 0xD800 ≤ n && n ≤ 0xDBFF

def isLowSurrogate (n : Nat) : Bool := 0xDC00 ≤ n && n ≤ 0xDFFF

/-- The character that two surrogates stand for. -/
def surrogatePair (high low : Nat) : Char :=
  Char.ofNat ((high - 0xD800) * 0x400 + (low - 0xDC00) + 0x10000)

/-- The characters of a string up to its closing quote, after `done` in reverse order. -/
def stringBody (done : List Char) : List Char → Except Fault (String × List Char)
  | [] => .error .truncated
  | '"' :: rest => .ok (String.ofList done.reverse, rest)
  | '\\' :: [] => .error .truncated
  | '\\' :: 'u' :: a :: b :: c :: d :: rest =>
    match hex4? a b c d with
    | none => .error .malformed
    | some n =>
      if isLowSurrogate n then .error .malformed
      else if isHighSurrogate n then
        match rest with
        | [] => .error .truncated
        | '\\' :: [] => .error .truncated
        | '\\' :: 'u' :: e :: f :: g :: h :: rest =>
          match hex4? e f g h with
          | none => .error .malformed
          | some m =>
            if isLowSurrogate m then stringBody (surrogatePair n m :: done) rest
            else .error .malformed
        | '\\' :: 'u' :: cs => .error (shortHexFault cs)
        | _ => .error .malformed
      else stringBody (Char.ofNat n :: done) rest
  | '\\' :: 'u' :: cs => .error (shortHexFault cs)
  | '\\' :: c :: rest =>
    match simpleEscape? c with
    | some e => stringBody (e :: done) rest
    | none => .error .malformed
  | c :: rest => if c.toNat < 0x20 then .error .malformed else stringBody (c :: done) rest

/-! ## Containers -/

/-- What comes next in a container: its end, or an item, each with the rest of the text. -/
inductive Next (α : Type) where
  | done (rest : List Char)
  | item (a : α) (rest : List Char)

/-- The start of the next element of an array, whose opening bracket has been read. -/
def element (isFirst : Bool) (cs : List Char) : Except Fault (Next Unit) :=
  match skipSpace cs with
  | [] => .error .truncated
  | ']' :: rest => .ok (.done rest)
  | c :: rest =>
    if isFirst then .ok (.item () (c :: rest))
    else if c = ',' then
      match skipSpace rest with
      | [] => .error .truncated
      | ']' :: _ => .error .malformed
      | rest => .ok (.item () rest)
    else .error .malformed

/-- A key, from its opening quote. -/
def keyAt : List Char → Except Fault (Next String)
  | [] => .error .truncated
  | '"' :: rest => (stringBody [] rest).map fun (key, rest) => .item key rest
  | _ => .error .malformed

/-- The key of the next member of an object, whose opening brace has been read. -/
def memberKey (isFirst : Bool) (cs : List Char) : Except Fault (Next String) :=
  match skipSpace cs with
  | [] => .error .truncated
  | '}' :: rest => .ok (.done rest)
  | c :: rest =>
    if isFirst then keyAt (c :: rest)
    else if c = ',' then keyAt (skipSpace rest)
    else .error .malformed

/-- The rest after the colon of a member. -/
def colon (cs : List Char) : Except Fault (List Char) :=
  match skipSpace cs with
  | [] => .error .truncated
  | ':' :: rest => .ok rest
  | _ => .error .malformed

mutual

/-- A value in which `depth` more containers may be open; `fuel` bounds the pieces it consists of. -/
def value (fuel depth : Nat) (cs : List Char) : Except Fault (Json × List Char) :=
  match fuel with
  | 0 => .error .malformed
  | fuel + 1 =>
    match skipSpace cs with
    | [] => .error .truncated
    | 'n' :: rest => (keyword ['u', 'l', 'l'] rest).map fun rest => (.null, rest)
    | 't' :: rest => (keyword ['r', 'u', 'e'] rest).map fun rest => (.bool true, rest)
    | 'f' :: rest => (keyword ['a', 'l', 's', 'e'] rest).map fun rest => (.bool false, rest)
    | '-' :: rest => unsignedNumber true rest
    | '"' :: rest => (stringBody [] rest).map fun (s, rest) => (.text s, rest)
    | '[' :: rest =>
      match depth with
      | 0 => .error .malformed
      | depth + 1 => (elements fuel depth true rest).map fun (items, rest) => (.list items, rest)
    | '{' :: rest =>
      match depth with
      | 0 => .error .malformed
      | depth + 1 => (members fuel depth true rest).map fun (ms, rest) => (.object ms, rest)
    | c :: rest => if isDigit c then unsignedNumber false (c :: rest) else .error .malformed

/-- The elements of an array up to its end; `isFirst` before the first one. -/
def elements (fuel depth : Nat) (isFirst : Bool) (cs : List Char) :
    Except Fault (List Json × List Char) :=
  match fuel with
  | 0 => .error .malformed
  | fuel + 1 =>
    match element isFirst cs with
    | .error e => .error e
    | .ok (.done rest) => .ok ([], rest)
    | .ok (.item () rest) =>
      match value fuel depth rest with
      | .error e => .error e
      | .ok (v, rest) => (elements fuel depth false rest).map fun (vs, rest) => (v :: vs, rest)

/-- The members of an object up to its end; `isFirst` before the first one. -/
def members (fuel depth : Nat) (isFirst : Bool) (cs : List Char) :
    Except Fault (List (String × Json) × List Char) :=
  match fuel with
  | 0 => .error .malformed
  | fuel + 1 =>
    match memberKey isFirst cs with
    | .error e => .error e
    | .ok (.done rest) => .ok ([], rest)
    | .ok (.item key rest) =>
      match colon rest with
      | .error e => .error e
      | .ok rest =>
        match value fuel depth rest with
        | .error e => .error e
        | .ok (v, rest) =>
          (members fuel depth false rest).map fun (ms, rest) => ((key, v) :: ms, rest)

end

end Reader

/-- Nothing but white space is left. -/
def Reader.atEnd (cs : List Char) : Bool := (Reader.skipSpace cs).isEmpty

/-- Pieces enough for a text: each takes at least one character. -/
def Reader.fuelFor (cs : List Char) : Nat := 2 * cs.length + 2

/-- The value that a text holds, with nothing after it. -/
def read (s : String) : Except Fault Json :=
  let cs := s.toList
  match Reader.value (Reader.fuelFor cs) Reader.maxDepth cs with
  | .error e => .error e
  | .ok (v, rest) => if Reader.atEnd rest then .ok v else .error .malformed

end Chronicle.Json
