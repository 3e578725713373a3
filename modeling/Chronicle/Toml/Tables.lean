import Chronicle.Toml.Basic

/-!
Building tables.  A document is a sequence of statements, and each adds to the table it names: a
header opens a table or one more table of an array, an assignment gives a key its value.  No key is
given a value twice, no table is opened twice, and a path made of keys goes only through tables that
such paths have made.
-/

namespace Chronicle.Toml

/-- Gives the members of a key another value. -/
def replace (key : String) (v : Toml) (ms : Members) : Members :=
  ms.map fun m => if m.1 = key then (key, v) else m

/-- Changes the table at the end of a path with `f`, making the tables on the way that are not there
yet.  In an array of tables a path goes on from the last one. -/
def within (byKeys : Bool) (f : TableForm → Members → Option Members) :
    List String → TableForm → Members → Option Members
  | [], form, ms => f form ms
  | key :: path, _, ms =>
    match ms.lookup key with
    | none =>
      (within byKeys f path (TableForm.madeBy byKeys) []).map fun inner =>
        ms ++ [(key, .table (TableForm.madeBy byKeys) inner)]
    | some (.table form inner) =>
      if form.admits byKeys then
        (within byKeys f path form inner).map fun inner => replace key (.table form inner) ms
      else none
    | some (.tables items) =>
      items.getLast?.bind fun last =>
        (within byKeys f path .headed last).map fun last =>
          replace key (.tables (items.dropLast ++ [last])) ms
    | some _ => none

/-- Gives a new key a value in a table, which has to be made of keys exactly when a path led to
it. -/
def assignHere (byPath : Bool) (key : String) (v : Toml) (form : TableForm) (ms : Members) :
    Option Members :=
  if (form = .dotted) ≠ byPath then none
  else match ms.lookup key with
    | none => some (ms ++ [(key, v)])
    | some _ => none

/-- Gives the key at the end of a path a value. -/
def assign (path : List String) (key : String) (v : Toml) (form : TableForm) (ms : Members) :
    Option Members :=
  within true (assignHere (!path.isEmpty) key v) path form ms

/-- Opens a table that no header has opened yet. -/
def openTable (key : String) (_ : TableForm) (ms : Members) : Option Members :=
  match ms.lookup key with
  | none => some (ms ++ [(key, .table .headed [])])
  | some (.table .implied inner) => some (replace key (.table .headed inner) ms)
  | some _ => none

/-- Opens one more table of an array. -/
def openElement (key : String) (_ : TableForm) (ms : Members) : Option Members :=
  match ms.lookup key with
  | none => some (ms ++ [(key, .tables [[]])])
  | some (.tables items) => some (replace key (.tables (items ++ [[]])) ms)
  | some _ => none

/-- A statement; `path` leads to the table that holds `key`. -/
inductive Statement where
  | assign (path : List String) (key : String) (v : Toml)
  | table (path : List String) (key : String)
  | element (path : List String) (key : String)
deriving Repr, Inhabited

/-- A document as far as it has been read: its tables, and the path of the last header. -/
structure Draft where
  root : Members
  header : List String
deriving Repr, Inhabited

/-- The document with one more statement. -/
def Draft.add (d : Draft) : Statement → Option Draft
  | .assign path key v =>
    (within false (Toml.assign path key v) d.header .headed d.root).map fun root => { d with root }
  | .table path key =>
    (within false (openTable key) path .headed d.root).map fun root => ⟨root, path ++ [key]⟩
  | .element path key =>
    (within false (openElement key) path .headed d.root).map fun root => ⟨root, path ++ [key]⟩

/-- The tables of a document. -/
def build (statements : List Statement) : Option Members :=
  (statements.foldlM Draft.add ⟨[], []⟩).map (·.root)

/-- The table written as a value that holds assignments. -/
def literalOf (assignments : List (List String × String × Toml)) : Option Toml :=
  (assignments.foldlM (fun ms (path, key, v) => assign path key v .literal ms) []).map
    (.table .literal)

end Chronicle.Toml
