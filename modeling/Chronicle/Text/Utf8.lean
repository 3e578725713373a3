/-!
Reading bytes as text.  A character takes one to four bytes; overlong forms, surrogates and code
points beyond U+10FFFF are refused, and a sequence of bytes is text only as a whole.
-/

namespace Chronicle.Text.Utf8

/-- The six low bits of a continuation byte. -/
def tail? (b : UInt8) : Option Nat :=
  let n := b.toNat
  if 0x80 ≤ n ∧ n ≤ 0xBF then some (n - 0x80) else none

/-- The character with code point `n`, when there is one and it needs at least `least`. -/
def char? (least n : Nat) : Option Char :=
  if h : n.isValidChar then if least ≤ n then some (Char.ofNatAux n h) else none else none

/-- The text that a sequence of bytes encodes. -/
def decode : List UInt8 → Option (List Char)
  | [] => some []
  | a :: rest =>
    let n := a.toNat
    if n < 0x80 then
      (decode rest).bind fun cs => (char? 0 n).map (· :: cs)
    else if n < 0xC0 then none
    else if n < 0xE0 then
      match rest with
      | b :: rest => do
        let y ← tail? b
        let c ← char? 0x80 ((n - 0xC0) * 64 + y)
        let cs ← decode rest
        return c :: cs
      | _ => none
    else if n < 0xF0 then
      match rest with
      | b :: b' :: rest => do
        let y ← tail? b
        let z ← tail? b'
        let c ← char? 0x800 (((n - 0xE0) * 64 + y) * 64 + z)
        let cs ← decode rest
        return c :: cs
      | _ => none
    else if n < 0xF8 then
      match rest with
      | b :: b' :: b'' :: rest => do
        let y ← tail? b
        let z ← tail? b'
        let w ← tail? b''
        let c ← char? 0x10000 ((((n - 0xF0) * 64 + y) * 64 + z) * 64 + w)
        let cs ← decode rest
        return c :: cs
      | _ => none
    else none

/-- The text of a sequence of bytes as a string. -/
def decodeString (bytes : List UInt8) : Option String :=
  (decode bytes).map String.ofList

/-- The bytes of a string. -/
def encode (s : String) : List UInt8 := s.toUTF8.toList

end Chronicle.Text.Utf8
