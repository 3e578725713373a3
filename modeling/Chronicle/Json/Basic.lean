import Chronicle.Binary64

/-!
JSON values.  Members of an object keep their order and may repeat a key, because a reader of a
record has to notice a repeated field.  A number is whole when it is written without a fraction and
an exponent and fits a machine word; any other number is kept as the decimal it was written as.
-/

namespace Chronicle

/-- `± significand * 10 ^ exponent`. -/
structure Decimal where
  negative : Bool
  significand : Nat
  exponent : Int
deriving DecidableEq, Repr, Inhabited

inductive Json where
  | null
  | bool (b : Bool)
  | whole (n : Int)
  | real (x : Decimal)
  | text (s : String)
  | list (items : List Json)
  | object (members : List (String × Json))
deriving Repr, Inhabited

namespace Decimal

/-- A power of ten as a double. -/
def powerOfTen (n : Nat) : Binary64 := Binary64.ofDecimal false 1 n

/-- `x * 10 ^ exponent` by one rounded product or quotient with a power of ten up to `10 ^ 308`;
smaller numbers are first brought nearer, three times at most, since they are zero by then. -/
def scaleBy (fuel : Nat) (x : Binary64) (exponent : Int) : Binary64 :=
  if 0 ≤ exponent then x.mul (powerOfTen (min exponent.toNat 400))
  else if -308 ≤ exponent then x.div (powerOfTen (-exponent).toNat)
  else match fuel with
    | 0 => .finite false 0 Binary64.leastExponent
    | fuel + 1 => scaleBy fuel (x.div (powerOfTen 308)) (exponent + 308)

/-- The double that a JSON decimal stands for: its significand rounded, then scaled. -/
def toBinary64 (d : Decimal) : Binary64 :=
  let x :=
    if d.significand = 0 then .finite false 0 Binary64.leastExponent
    else scaleBy 4 (Binary64.ofNat d.significand) d.exponent
  if d.negative then x.neg else x

/-- The decimal is beyond every double. -/
def isOutOfRange (d : Decimal) : Bool :=
  match d.toBinary64 with
  | .infinite _ => true
  | _ => false

end Decimal

namespace Json

def nat (n : Nat) : Json := .whole n

/-- The first member with a key. -/
def member? (key : String) : Json → Option Json
  | .object members => members.lookup key
  | _ => none

/-- `null` for nothing. -/
def ofOption {α : Type} (f : α → Json) : Option α → Json
  | none => .null
  | some a => f a

end Json

end Chronicle
