import Chronicle.Proofs.Text
import Chronicle.Screen.Label

/-!
# The commands of a pipeline

A command line is cut at its bars, and each piece that is not blank is a command.  `IsCommand` says what
a piece is then, and every list of such pieces, written in one line, is read as that list
(`commands_join`).  So the commands of a line are a normal form of it.

A line is read piece by piece: what stands before a bar and what stands after it are read apart
(`commands_append`), and a line without a bar is one command or none (`commands_of_plain`).  These two say all
about the reading of lines.
-/

namespace Chronicle.Pipeline

variable {cs piece : List Char} {texts : List (List Char)}

/-! ## Pieces -/

theorem pieces_eq_splitOn (cs : List Char) : pieces cs = cs.splitOn '|' := by
  induction cs with
  | nil => rfl
  | cons c cs ih =>
      rw [pieces, List.splitOn_cons_eq_if_modifyHead, ih]
      simp only [beq_iff_eq]
      split
      · rfl
      · cases some : cs.splitOn '|' with
        | nil => exact absurd some (List.splitOn_ne_nil _ _)
        | cons p ps => rfl

/-- There is a first piece. -/
theorem exists_pieces (cs : List Char) : ∃ p ps, pieces cs = p :: ps := by
  rw [pieces_eq_splitOn]
  exact List.exists_cons_of_ne_nil (List.splitOn_ne_nil _ _)

theorem bar_not_mem_of_mem_pieces (mem : piece ∈ pieces cs) : '|' ∉ piece := by
  induction cs generalizing piece with
  | nil =>
      rw [List.mem_singleton.mp mem]
      exact List.not_mem_nil
  | cons c cs ih =>
      rw [pieces] at mem
      split at mem
      · rcases List.mem_cons.mp mem with rfl | later
        · exact List.not_mem_nil
        · exact ih later
      · next other =>
          obtain ⟨p, ps, rest⟩ := exists_pieces cs
          rw [rest] at mem ih
          rcases List.mem_cons.mp mem with rfl | later
          · intro bar
            rcases List.mem_cons.mp bar with same | bar
            · exact other same.symm
            · exact ih List.mem_cons_self bar
          · exact ih (List.mem_cons_of_mem p later)

/-! ## Commands -/

/-- The commands of a line, as lists of characters. -/
def commands (cs : List Char) : List (List Char) :=
  ((pieces cs).map Text.strip).filter (!·.isEmpty)

theorem segments_eq_map (line : String) : segments line = (commands line.toList).map String.ofList := rfl

theorem commands_append (a b : List Char) : commands (a ++ '|' :: b) = commands a ++ commands b := by
  rw [commands, pieces_eq_splitOn, List.splitOn_append_cons_self, List.map_append, List.filter_append,
    ← pieces_eq_splitOn, ← pieces_eq_splitOn]
  rfl

theorem commands_of_plain (plain : '|' ∉ cs) :
    commands cs = if cs.all Text.isBlank then [] else [Text.strip cs] := by
  rw [commands, pieces_eq_splitOn, List.splitOn_eq_singleton plain]
  cases blank : cs.all Text.isBlank with
  | true => simp [Text.strip_eq_nil_iff.mpr blank]
  | false =>
      have full : Text.strip cs ≠ [] := Text.strip_eq_nil_iff.not.mpr (Bool.eq_false_iff.mp blank)
      simp [full]

theorem commands_cons_blank {c : Char} (blank : Text.isBlank c = true) (cs : List Char) :
    commands (c :: cs) = commands cs := by
  have other : c ≠ '|' := by
    rintro rfl
    exact absurd blank (by decide)
  obtain ⟨p, ps, rest⟩ := exists_pieces cs
  rw [commands, pieces, if_neg other, commands, rest, List.map_cons, List.map_cons,
    Text.strip_cons_blank blank]

/-- What a command of a pipeline is. -/
structure IsCommand (text : List Char) : Prop where
  nonempty : text ≠ []
  trimmed : Text.IsTrimmed text
  plain : '|' ∉ text

theorem isCommand_of_mem (mem : piece ∈ commands cs) : IsCommand piece := by
  obtain ⟨mem, full⟩ := List.mem_filter.mp mem
  obtain ⟨whole, at_whole, rfl⟩ := List.mem_map.mp mem
  refine ⟨by simpa using full, Text.isTrimmed_strip whole, fun bar => ?_⟩
  exact bar_not_mem_of_mem_pieces at_whole ((Text.strip_sublist whole).subset bar)

/-- A command is read as itself, also with a blank behind it. -/
theorem IsCommand.commands_concat {text : List Char} (is : IsCommand text) :
    commands text = [text] ∧ commands (text ++ [' ']) = [text] := by
  have full : ∀ cs, Text.strip cs = text → ¬ cs.all Text.isBlank = true := by
    rintro cs same blank
    exact is.nonempty (same.symm.trans (Text.strip_eq_nil_iff.mpr blank))
  have alone := is.trimmed.strip_eq is.nonempty
  have padded := is.trimmed.strip_concat is.nonempty (c := ' ') (by decide)
  refine ⟨?_, ?_⟩
  · rw [commands_of_plain is.plain, if_neg (full text alone), alone]
  · rw [commands_of_plain (by simp [is.plain]), if_neg (full _ padded), padded]

/-- Commands that are written in one line are read as those commands. -/
theorem commands_join (are : ∀ text ∈ texts, IsCommand text) :
    commands (" | ".toList.intercalate texts) = texts := by
  induction texts with
  | nil => rfl
  | cons text texts ih =>
      have is := are text List.mem_cons_self
      have rest := ih fun text' mem => are text' (List.mem_cons_of_mem text mem)
      cases texts with
      | nil =>
          rw [List.intercalate_singleton]
          exact is.commands_concat.1
      | cons next texts =>
          rw [List.intercalate_cons_cons]
          generalize " | ".toList.intercalate (next :: texts) = line at rest
          have split : text ++ " | ".toList ++ line = (text ++ [' ']) ++ '|' :: ' ' :: line := by simp
          rw [split, commands_append, is.commands_concat.2, commands_cons_blank (by decide), rest]
          rfl

/-- The commands of a line, in one line again. -/
theorem segments_join (line : String) : segments (join (segments line)) = segments line := by
  have texts : (segments line).map String.toList = commands line.toList := by
    simp [segments_eq_map, Function.comp_def]
  rw [segments_eq_map, join, String.toList_intercalate, texts,
    commands_join fun text mem => isCommand_of_mem mem, segments_eq_map]

/-! ## Lines -/

/-- How a tool is started on the line `a`, and on `a` and `b` with a bar between them. -/
structure Reads (tool a b : String) : Prop where
  commands : ∀ segment ∈ (ToolUse.start tool a).segments, IsCommand segment.toList
  /-- What stands before a bar is read without what stands after it. -/
  append : (ToolUse.start tool (a ++ "|" ++ b)).segments =
    (ToolUse.start tool a).segments ++ (ToolUse.start tool b).segments
  plain : '|' ∉ a.toList →
    (ToolUse.start tool a).segments = if Text.allBlank a then [] else [Text.trim a]
  /-- The line that is shown and searched is as good as the line itself. -/
  again : ToolUse.start tool (join (ToolUse.start tool a).segments) = ToolUse.start tool a
  label : Screen.label (.toolUse (.start tool a)) =
    tool ++ ": " ++ join (ToolUse.start tool a).segments
  searchText : (Kind.toolUse (.start tool a)).searchText =
    tool ++ " " ++ join (ToolUse.start tool a).segments ++ " "

theorem reads_start (tool a b : String) : Reads tool a b where
  commands segment mem := by
    obtain ⟨text, at_text, rfl⟩ := List.mem_map.mp mem
    rw [String.toList_ofList]
    exact isCommand_of_mem at_text
  append := by
    show segments (a ++ "|" ++ b) = segments a ++ segments b
    simp only [segments_eq_map, String.toList_append, List.append_assoc]
    rw [← List.map_append, ← commands_append]
    rfl
  plain plain := by
    show segments a = _
    rw [segments_eq_map, commands_of_plain plain, Text.allBlank]
    split <;> rfl
  again := by
    show ToolUse.start tool (join (segments a)) = ToolUse.start tool a
    rw [ToolUse.start, segments_join, ← ToolUse.start]
  label := by simp [Screen.label, Screen.toolLabel, ToolUse.start]
  searchText := by simp [Kind.searchText, ToolUse.start]

/-- Blanks of every kind, a piece that is blank and a bar at the end. -/
example : segments "\u2003cargo test |\t| tee out.log |  |" = ["cargo test", "tee out.log"] := by
  decide +kernel

end Chronicle.Pipeline
