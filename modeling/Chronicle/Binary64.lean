/-!
Doubles without a floating-point unit.  A double is a sign, a mantissa below `2 ^ 53` and a power
of two, or one of the special values; every operation is computed on whole numbers and rounded
once, to the nearest double and to the even one on a tie.
-/

namespace Chronicle

/-- A 64-bit binary floating-point number.  `finite s m e` is `m * 2 ^ e`, negated when `s`; the
least exponent is `-1074`, and a mantissa below `2 ^ 52` occurs with that exponent only. -/
inductive Binary64 where
  | nan
  | infinite (negative : Bool)
  | finite (negative : Bool) (mantissa : Nat) (exponent : Int)
deriving DecidableEq, Repr, Inhabited

namespace Binary64

/-- The exponent of the smallest positive double. -/
def leastExponent : Int := -1074

/-- The exponent of the largest finite doubles. -/
def greatestExponent : Int := 971

/-- Every mantissa is below it. -/
def mantissaLimit : Nat := 1 <<< 53

/-- The least mantissa that has a leading bit, which is not stored. -/
def leadingBit : Nat := 1 <<< 52

/-- The whole number nearest to `num / den`; of two equally near the even one. -/
def roundDiv (num den : Nat) : Nat :=
  let q := num / den
  let r := num % den
  if 2 * r < den then q else if den < 2 * r then q + 1 else q + q % 2

/-- `num / den ≥ 2 ^ e`, decided on whole numbers. -/
def atLeastPower (num den : Nat) (e : Int) : Bool :=
  if 0 ≤ e then den <<< e.toNat ≤ num else den ≤ num <<< (-e).toNat

/-- The largest `e` with `2 ^ e ≤ num / den`, for positive `num` and `den`. -/
def binaryOrder (num den : Nat) : Int :=
  let guess : Int := (num.log2 : Int) - (den.log2 : Int)
  if atLeastPower num den guess then guess else guess - 1

/-- `num / den` in units of `2 ^ e`, rounded. -/
def inUnits (num den : Nat) (e : Int) : Nat :=
  if 0 ≤ e then roundDiv num (den <<< e.toNat) else roundDiv (num <<< (-e).toNat) den

/-- The double nearest to `num / den`, for a positive `den`. -/
def ofRatio (negative : Bool) (num den : Nat) : Binary64 :=
  if num = 0 then finite negative 0 leastExponent
  else
    let e := max (binaryOrder num den - 52) leastExponent
    let m := inUnits num den e
    let (m, e) := if m = mantissaLimit then (leadingBit, e + 1) else (m, e)
    if greatestExponent < e then infinite negative else finite negative m e

/-- The double nearest to `m * 2 ^ e`. -/
def ofDyadic (negative : Bool) (m : Nat) (e : Int) : Binary64 :=
  if 0 ≤ e then ofRatio negative (m <<< e.toNat) 1 else ofRatio negative m (1 <<< (-e).toNat)

def ofNat (n : Nat) : Binary64 := ofRatio false n 1

/-- The double nearest to a whole number. -/
def ofInt (n : Int) : Binary64 := ofRatio (decide (n < 0)) n.natAbs 1

def zero : Binary64 := ofNat 0

def one : Binary64 := ofNat 1

/-- The double nearest to `digits * 10 ^ exponent`.  Beyond four hundred places on either side the
answer is settled without computing the power. -/
def ofDecimal (negative : Bool) (digits : Nat) (exponent : Int) : Binary64 :=
  if digits = 0 then finite negative 0 leastExponent
  else if 400 < exponent then infinite negative
  else if (digits.log2 : Int) + exponent < -400 then finite negative 0 leastExponent
  else if 0 ≤ exponent then ofRatio negative (digits * Nat.pow 10 exponent.toNat) 1
  else ofRatio negative digits (Nat.pow 10 (-exponent).toNat)

/-- The product of two doubles. -/
def mul : Binary64 → Binary64 → Binary64
  | finite s m e, finite t n f => ofDyadic (s != t) (m * n) (e + f)
  | nan, _ => nan
  | _, nan => nan
  | infinite s, infinite t => infinite (s != t)
  | infinite s, finite t n _ => if n = 0 then nan else infinite (s != t)
  | finite s m _, infinite t => if m = 0 then nan else infinite (s != t)

/-- The quotient of two doubles. -/
def div : Binary64 → Binary64 → Binary64
  | finite s m e, finite t n f =>
    if n = 0 then (if m = 0 then nan else infinite (s != t))
    else
      let d := e - f
      if 0 ≤ d then ofRatio (s != t) (m <<< d.toNat) n else ofRatio (s != t) m (n <<< (-d).toNat)
  | nan, _ => nan
  | _, nan => nan
  | infinite _, infinite _ => nan
  | infinite s, finite t _ _ => infinite (s != t)
  | finite s _ _, infinite t => finite (s != t) 0 leastExponent

/-- The mantissa with its sign. -/
def signed (negative : Bool) (m : Nat) : Int := if negative then -(m : Int) else (m : Int)

/-- `m * 2 ^ e` in units of `2 ^ unit`, for `unit ≤ e`. -/
def scaled (m : Int) (e unit : Int) : Int := m * (1 <<< (e - unit).toNat : Nat)

/-- The sum of two doubles.  A sum that cancels is the positive zero, unless both are negative. -/
def add : Binary64 → Binary64 → Binary64
  | finite s m e, finite t n f =>
    let unit := min e f
    let total := scaled (signed s m) e unit + scaled (signed t n) f unit
    if total = 0 then finite (s && t) 0 leastExponent
    else ofDyadic (decide (total < 0)) total.natAbs unit
  | nan, _ => nan
  | _, nan => nan
  | infinite s, infinite t => if s = t then infinite s else nan
  | infinite s, finite _ _ _ => infinite s
  | finite _ _ _, infinite t => infinite t

def neg : Binary64 → Binary64
  | nan => nan
  | infinite s => infinite (!s)
  | finite s m e => finite (!s) m e

def sub (x y : Binary64) : Binary64 := add x (neg y)

/-- `x ≤ y`; nothing compares with `nan`. -/
def le : Binary64 → Binary64 → Bool
  | nan, _ => false
  | _, nan => false
  | infinite s, infinite t => s || !t
  | infinite s, finite _ _ _ => s
  | finite _ _ _, infinite t => !t
  | finite s m e, finite t n f =>
    let unit := min e f
    scaled (signed s m) e unit ≤ scaled (signed t n) f unit

/-- `x < y`; nothing compares with `nan`. -/
def lt (x y : Binary64) : Bool := le x y && !le y x

/-- The nearest number of `[0, 1]`; `nan` stays as it is. -/
def clampUnit (x : Binary64) : Binary64 :=
  if lt x zero then zero else if lt one x then one else x

/-- The word that stores a double: sign, eleven bits of exponent, fifty-two of mantissa. -/
def toBits : Binary64 → Nat
  | nan => (2047 <<< 52) + (1 <<< 51)
  | infinite s => (s.toNat <<< 63) + (2047 <<< 52)
  | finite s m e =>
    (s.toNat <<< 63) +
      (if m < leadingBit then m else ((e + 1075).toNat <<< 52) + (m - leadingBit))

/-- A finite double of no negative sign in tenths, rounded as `roundDiv` rounds. -/
def tenths : Binary64 → Nat
  | finite _ m e =>
    if 0 ≤ e then (10 * m) <<< e.toNat else roundDiv (10 * m) (1 <<< (-e).toNat)
  | _ => 0

end Binary64

end Chronicle
