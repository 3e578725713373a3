import Chronicle.Text.Blank

/-!
Lines.  A line ends at a line feed, or at a carriage return followed by one; a last line without an
end counts when it is not empty.  A carriage return anywhere else belongs to its line.  The rule is
the same for characters and for bytes, so it is written once over both.
-/

namespace Chronicle.Text

section Split

variable {α : Type} [DecidableEq α]

/-- A finished line, from its items in reverse order: one carriage return at its end is dropped. -/
def closeLine (ret : α) : List α → List α
  | [] => []
  | c :: rest => if c = ret then rest.reverse else (c :: rest).reverse

/-- The lines of `current.reverse ++ items`, where `current` holds no line feed. -/
def splitLinesFrom (feed ret : α) : List α → List α → List (List α)
  | [], [] => []
  | c :: current, [] => [(c :: current).reverse]
  | current, c :: items =>
    if c = feed then closeLine ret current :: splitLinesFrom feed ret [] items
    else splitLinesFrom feed ret (c :: current) items

/-- The lines of a sequence. -/
def splitLines (feed ret : α) (items : List α) : List (List α) :=
  splitLinesFrom feed ret [] items

end Split

/-- The lines of a text. -/
def lines (s : String) : List String :=
  (splitLines '\n' '\r' s.toList).map String.ofList

/-- The lines of a sequence of bytes. -/
def byteLines (bytes : List UInt8) : List (List UInt8) := splitLines 10 13 bytes

/-- The last line of a text that is not blank. -/
def lastFullLine? (s : String) : Option String :=
  (lines s).reverse.find? fun line => !allBlank line

end Chronicle.Text
