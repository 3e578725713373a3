import Chronicle.Proofs.Text.Utf8

/-!
# What the lines of a sequence are

`LinesOf` says how a sequence is made of its lines: each is followed by a line feed, or by a carriage
return and a line feed, and after the last one there may be neither.  Every sequence is made of one list of
lines only, the one that it is cut into (`linesOf_iff`), so nothing else has to be known of how it is cut.
-/

namespace Chronicle.Text

variable {α : Type} {feed ret : α} {line current items : List α} {lines : List (List α)}

/-- The items are those of the lines, each with what ends it. -/
inductive LinesOf (feed ret : α) : List α → List (List α) → Prop where
  | nil : LinesOf feed ret [] []
  /-- A last line without an end. -/
  | last {line : List α} (whole : feed ∉ line) (nonempty : line ≠ []) : LinesOf feed ret line [line]
  | feed {line items : List α} {lines : List (List α)} (whole : feed ∉ line)
      (plain : line.getLast? ≠ some ret) (rest : LinesOf feed ret items lines) :
      LinesOf feed ret (line ++ feed :: items) (line :: lines)
  | ret {line items : List α} {lines : List (List α)} (whole : feed ∉ line)
      (rest : LinesOf feed ret items lines) :
      LinesOf feed ret (line ++ ret :: feed :: items) (line :: lines)

variable [DecidableEq α]

theorem closeLine_reverse (plain : line.getLast? ≠ some ret) : closeLine ret line.reverse = line := by
  rw [← List.head?_reverse] at plain
  have back : line.reverse.reverse = line := List.reverse_reverse line
  cases reversed : line.reverse with
  | nil =>
      rw [reversed] at back
      exact back
  | cons a before =>
      rw [reversed] at plain back
      have other : a ≠ ret := fun same => plain (congrArg some same)
      rw [closeLine, if_neg other]
      exact back

theorem linesOf_splitLinesFrom (whole : feed ∉ current) (items : List α) :
    LinesOf feed ret (current.reverse ++ items) (splitLinesFrom feed ret current items) := by
  induction items generalizing current with
  | nil =>
      cases current with
      | nil => exact .nil
      | cons a current =>
          rw [List.append_nil]
          exact .last (by rwa [List.mem_reverse]) (by simp)
  | cons c items ih =>
      rw [splitLinesFrom]
      split
      · next same =>
          subst same
          have rest : LinesOf c ret items (splitLinesFrom c ret [] items) := ih List.not_mem_nil
          cases current with
          | nil => exact .feed List.not_mem_nil (by simp) rest
          | cons a before =>
              rw [closeLine]
              split
              · next same =>
                  subst same
                  rw [List.reverse_cons, List.append_assoc]
                  refine .ret ?_ rest
                  rw [List.mem_reverse]
                  exact fun mem => whole (List.mem_cons_of_mem a mem)
              · next other =>
                  refine .feed (by rwa [List.mem_reverse]) ?_ rest
                  simpa using other
      · next other =>
          have longer : feed ∉ c :: current := by
            intro mem
            rcases List.mem_cons.mp mem with same | mem
            · exact other same.symm
            · exact whole mem
          have more := ih longer
          rwa [List.reverse_cons, List.append_assoc] at more

/-- The lines that a sequence is made of are those that it is cut into. -/
theorem linesOf_iff (apart : feed ≠ ret) : LinesOf feed ret items lines ↔ lines = splitLines feed ret items := by
  constructor
  · intro made
    induction made with
    | nil => rfl
    | @last line whole nonempty =>
        have cut := splitLinesFrom_append ret whole [] []
        rw [List.append_nil, List.append_nil,
          splitLinesFrom_nil feed ret (List.reverse_ne_nil_iff.mpr nonempty), List.reverse_reverse] at cut
        exact cut.symm
    | @feed line items lines whole plain rest ih =>
        rw [splitLines, splitLinesFrom_append ret whole, List.append_nil, splitLinesFrom, if_pos rfl,
          closeLine_reverse plain, ih]
        rfl
    | @ret line items lines whole rest ih =>
        have longer : feed ∉ line ++ [ret] := by simpa [apart] using whole
        have split : line ++ ret :: feed :: items = (line ++ [ret]) ++ feed :: items := by simp
        rw [split, splitLines, splitLinesFrom_append ret longer, List.append_nil, splitLinesFrom,
          if_pos rfl, List.reverse_append, ih]
        simp [closeLine, splitLines]
  · rintro rfl
    exact linesOf_splitLinesFrom List.not_mem_nil items

end Chronicle.Text
