import Chronicle.Text.Cluster
import Chronicle.Text.Width
import Chronicle.Theme

/-!
The grid of cells that a terminal shows, and how styled text is laid on one row of it.  Text is cut at
the edge between two grapheme clusters; nothing is wrapped.
-/

namespace Chronicle.Screen

/-- The look of a cell. -/
structure Look where
  fg : Color
  bg : Color
  bold : Bool
  dim : Bool
  underlined : Bool
deriving DecidableEq, Repr, Inhabited

namespace Look

/-- Two colours and nothing else. -/
def plain (fg bg : Color) : Look := ⟨fg, bg, false, false, false⟩

/-- The look of a cell that nothing was drawn on. -/
def untouched : Look := plain .reset .reset

end Look

structure Cell where
  symbol : String
  look : Look
deriving DecidableEq, Repr, Inhabited

def Cell.blank (look : Look) : Cell := ⟨" ", look⟩

/-- A piece of text with a look. -/
structure Piece where
  text : String
  look : Look
deriving DecidableEq, Repr, Inhabited

/-- The grapheme clusters of pieces of text, each with its look.  A line feed that stands alone is
not drawn. -/
def clustersOf (pieces : List Piece) : List Cell :=
  pieces.flatMap fun p => ((Text.clusters p.text).filter (· ≠ "\n")).map (⟨·, p.look⟩)

/-- The cells that a cluster of a width takes: the cell after a wide cluster is left untouched. -/
def cellsOf (base : Look) (cluster : Cell) : Nat → List Cell
  | 0 => []
  | 1 => [cluster]
  | n + 2 => cluster :: .blank .untouched :: List.replicate n (.blank base)

/-- The cells of the clusters that fit, `room` being what is left of the `total`.  A cluster wider
than the whole row is left out, and the first that does not fit into what is left ends the row. -/
def fit (base : Look) (total room : Nat) : List Cell → List Cell
  | [] => []
  | cluster :: rest =>
    let w := Text.width cluster.symbol
    if total < w then fit base total room rest
    else if room < w then []
    else cellsOf base cluster w ++ fit base total (room - w) rest

/-- A row of `width` cells with text from its left edge. -/
def drawRow (width : Nat) (base : Look) (pieces : List Piece) : List Cell :=
  let cells := fit base width width (clustersOf pieces)
  cells ++ List.replicate (width - cells.length) (.blank base)

/-- The text of a row. -/
def rowText (row : List Cell) : String := String.join (row.map (·.symbol))

/-- The places at which the look changes, with the look from there on. -/
def looksFrom (x : Nat) (last : Option Look) : List Cell → List (Nat × Look)
  | [] => []
  | c :: rest =>
    if last = some c.look then looksFrom (x + 1) last rest
    else (x, c.look) :: looksFrom (x + 1) (some c.look) rest

end Chronicle.Screen
