import Chronicle.Binary64
import Chronicle.Text.Lines
import Chronicle.Timeline.Entry

/-!
Labels: the one line of text that stands for an entry, and lengths of time as they are shown.
-/

namespace Chronicle.Screen

/-- Two numbers as a range of lines. -/
def rangeText (range : Nat × Nat) : String := toString range.1 ++ "-" ++ toString range.2

/-- The label of a tool: its command, its last line, how many lines it wrote, the first exit code
that is not zero. -/
def toolLabel (t : ToolUse) : String :=
  t.tool ++ ": " ++ Pipeline.join t.segments ++
    (match t.lastLine with
      | some line => " · " ++ line
      | none => "") ++
    (if 0 < t.output.lines then " (" ++ toString t.output.lines ++ " lines)" else "") ++
    (match t.exitCodes.find? (· ≠ 0) with
      | some code => " [exit " ++ toString code ++ "]"
      | none => "")

/-- The label of an entry, by what it is about. -/
def label : Kind → String
  | .toolUse t => toolLabel t
  | .fileEdit path added removed =>
    "Edited " ++ path ++ " +" ++ toString added ++ " -" ++ toString removed
  | .fileRead path ranges =>
    if ranges.isEmpty then "Read " ++ path
    else "Read " ++ path ++ " L" ++ ",".intercalate (ranges.map rangeText)
  | .deleted paths => "Deleted " ++ ", ".intercalate paths
  | .thought body => (Text.lines body).head?.getD ""
  | .instruction author text confirmed =>
    author ++ ": " ++ text ++ if confirmed then "" else " (sending)"
  | .taskCompleted summary => "Done: " ++ summary

/-- A number with two digits at least. -/
def twoDigits (n : Nat) : String := if n < 10 then "0" ++ toString n else toString n

/-- The double nearest to a length of time in seconds: the whole seconds and the fraction are
rounded first, then their sum. -/
def secondsOf (d : Duration) : Binary64 :=
  (Binary64.ofNat d.seconds).add (Binary64.ofRatio false d.subsecNanos Duration.nanosPerSecond)

/-- A length of time: below a minute in seconds with one decimal, else in minutes and seconds. -/
def elapsedText (d : Duration) : String :=
  if 60 ≤ d.seconds then toString (d.seconds / 60) ++ "m" ++ twoDigits (d.seconds % 60) ++ "s"
  else
    let tenths := (secondsOf d).tenths
    toString (tenths / 10) ++ "." ++ toString (tenths % 10) ++ "s"

end Chronicle.Screen
