import Chronicle.Binary64

/-!
TOML values.  A table remembers how it came to be, since that decides what may still be added to it;
an array of tables that was opened by headers is told from an array that was written as a value.
-/

namespace Chronicle

/-- How a table came to be. -/
inductive TableForm where
  /-- It was written as a value, between braces. -/
  | literal
  /-- It has a header of its own. -/
  | headed
  /-- It lies on the path of a header. -/
  | implied
  /-- It lies on the path of a key. -/
  | dotted
deriving DecidableEq, Repr, Inhabited

namespace TableForm

/-- A path may go through a table: a path of keys through none that has a header or was written as a
value, a path of a header through all but the latter. -/
def admits (form : TableForm) (byKeys : Bool) : Bool :=
  match form with
  | literal => false
  | headed => !byKeys
  | implied => true
  | dotted => true

/-- The form of the tables that a path makes. -/
def madeBy (byKeys : Bool) : TableForm := if byKeys then dotted else implied

end TableForm

inductive Toml where
  | text (s : String)
  | whole (n : Int)
  | real (x : Binary64)
  | bool (b : Bool)
  /-- A date, a time or both; which one is not kept. -/
  | moment
  | list (items : List Toml)
  | table (form : TableForm) (members : List (String × Toml))
  /-- Tables under the headers of one array. -/
  | tables (items : List (List (String × Toml)))
deriving Repr, Inhabited

namespace Toml

/-- The members of a table in the order in which they were first named. -/
abbrev Members := List (String × Toml)

end Toml

end Chronicle
