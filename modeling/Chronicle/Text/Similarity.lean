import Chronicle.Binary64

/-!
How alike two texts are: the share of the longer text that need not be edited to reach the other,
as a double.  The division and the subtraction are each rounded, as a caller that compares with a
threshold will notice.
-/

namespace Chronicle.Text

section Distance

variable {α : Type} [DecidableEq α]

/-- One row of distances from the row above it, for the item `x`: `left` is the distance before the
first item of the other list, `corner` the one above that. -/
def editRow (x : α) (left corner : Nat) : List α → List Nat → List Nat
  | y :: ys, up :: ups =>
    let d := min (min (left + 1) (up + 1)) (corner + if x = y then 0 else 1)
    d :: editRow x d up ys ups
  | _, _ => []

/-- The distances from a list to the non-empty front parts of `ys`, given those of its first `done`
items. -/
def editRows (ys : List α) (done : Nat) (row : List Nat) : List α → List Nat
  | [] => row
  | x :: xs => editRows ys (done + 1) (editRow x (done + 1) done ys row) xs

/-- The least number of items to insert, delete or replace to turn `xs` into `ys`. -/
def editDistance (xs ys : List α) : Nat :=
  (editRows ys 0 (List.range' 1 ys.length) xs).getLast?.getD xs.length

end Distance

/-- One less the distance divided by the longer length; two empty texts are alike. -/
def similarity (a b : String) : Binary64 :=
  let longest := max a.length b.length
  if longest = 0 then Binary64.one
  else Binary64.one.sub (Binary64.ofRatio false (editDistance a.toList b.toList) longest)

/-- Two texts are equal, or alike to the degree `threshold` at least. -/
def alike (existing incoming : String) (threshold : Binary64) : Bool :=
  existing == incoming || threshold.le (similarity existing incoming)

end Chronicle.Text
