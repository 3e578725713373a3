import Chronicle.Text.Blank

/-!
Pipelines.  A command is shown as the commands between its bars, each without the blanks around it;
a piece of nothing but blanks is left out.
-/

namespace Chronicle.Pipeline

/-- The pieces of a text between bars; a text without a bar is one piece. -/
def pieces : List Char → List (List Char)
  | [] => [[]]
  | c :: cs =>
    if c = '|' then [] :: pieces cs
    else match pieces cs with
      | [] => [[c]]
      | p :: ps => (c :: p) :: ps

/-- The commands of a pipeline. -/
def segments (command : String) : List String :=
  (((pieces command.toList).map Text.strip).filter (!·.isEmpty)).map String.ofList

/-- The commands of a pipeline in one line. -/
def join (segments : List String) : String := " | ".intercalate segments

end Chronicle.Pipeline
