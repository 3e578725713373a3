import Chronicle.Limits
import Chronicle.Toml.Basic

/-!
Fields of records in a configuration.  A record is a table, whose members are found by name and may
include others, or an array, whose elements are found by place and may go on.
-/

namespace Chronicle.Config

/-- The fields of a record. -/
inductive Fields where
  | named (members : Toml.Members)
  | placed (items : List Toml)

namespace Fields

/-- The fields that a value holds.  A moment holds none that has a name. -/
def of? : Toml → Option Fields
  | .table _ ms => some (named ms)
  | .list items => some (placed items)
  | .tables items => some (placed (items.map (.table .headed)))
  | .moment => some (named [])
  | _ => none

/-- The value of a field, among fields with the names `names`. -/
def get? (names : List String) (name : String) : Fields → Option Toml
  | named ms => ms.lookup name
  | placed items => items[names.idxOf name]?

/-- A field with a default. -/
def withDefault {α : Type} (fs : Fields) (names : List String) (name : String)
    (value? : Toml → Option α) (default : α) : Option α :=
  match fs.get? names name with
  | none => some default
  | some v => value? v

/-- A field that has to be there. -/
def required {α : Type} (fs : Fields) (names : List String) (name : String)
    (value? : Toml → Option α) : Option α :=
  (fs.get? names name).bind value?

end Fields

/-- A whole number from zero to `most`. -/
def natUpTo? (most : Nat) : Toml → Option Nat
  | .whole n => if 0 ≤ n ∧ n ≤ (most : Int) then some n.toNat else none
  | _ => none

/-- A 64-bit number without a sign. -/
def word? : Toml → Option Nat := natUpTo? maxWord

/-- A number as a double. -/
def double? : Toml → Option Binary64
  | .whole n => some (.ofInt n)
  | .real x => some x
  | _ => none

def text? : Toml → Option String
  | .text s => some s
  | _ => none

end Chronicle.Config
