import Chronicle.Json.Basic
import Chronicle.Message

/-!
Messages as JSON values: the label of a message, and its fields.
-/

namespace Chronicle

/-- A minted id is told from a producer's by its form. -/
def CorrelationId.toJson : CorrelationId → Json
  | producer v => .text v
  | minted v => .object [("local", .text v)]

def Key.toJson (k : Key) : Json :=
  .object [("index", .nat k.index), ("generation", .nat k.generation)]

/-- Ranges of lines, each a list of two numbers. -/
def rangesJson (ranges : List (Nat × Nat)) : Json :=
  .list (ranges.map fun r => .list [.nat r.1, .nat r.2])

/-- The argument of a command: a number or a text. -/
def Command.argument : Command → List (String × Json)
  | forkAt n => [("n", .nat n)]
  | forkAtRow n => [("n", .nat n)]
  | scrollUp n => [("n", .nat n)]
  | scrollDown n => [("n", .nat n)]
  | resize n => [("n", .nat n)]
  | draftChar c => [("s", .text (String.singleton c))]
  | search query => [("s", .text query)]
  | _ => []

def Command.toJson (c : Command) : Json := .object (("c", .text c.name) :: c.argument)

namespace Message

/-- The fields of a message. -/
def members : Message → List (String × Json)
  | thoughtDelta id text done =>
    [("id", id.toJson), ("text", .text text), ("done", .bool done)]
  | toolStarted id tool line =>
    [("id", id.toJson), ("tool_name", .text tool), ("command", .text line)]
  | toolProgress id line bytes =>
    [("id", id.toJson), ("line", .text line), ("bytes", .nat bytes)]
  | toolCompleted id codes output summary =>
    [("id", id.toJson), ("exit_codes", .list (codes.map .whole)), ("output", .text output),
      ("summary", .ofOption .text summary)]
  | streamDelta target chunk => [("target", target.toJson), ("chunk", .text chunk)]
  | fileEdit id path added removed =>
    [("id", id.toJson), ("path", .text path), ("lines_added", .nat added),
      ("lines_removed", .nat removed)]
  | fileRead id path ranges =>
    [("id", id.toJson), ("path", .text path), ("ranges", rangesJson ranges)]
  | filesDeleted id paths => [("id", id.toJson), ("paths", .list (paths.map .text))]
  | log id level message =>
    [("id", .ofOption CorrelationId.toJson id), ("level", .text level.name),
      ("message", .text message)]
  | inputSubmitted id author text =>
    [("id", id.toJson), ("author", .text author), ("text", .text text)]
  | inputAcknowledged id author text =>
    [("id", .ofOption CorrelationId.toJson id), ("author", .text author), ("text", .text text)]
  | taskCompleted id summary => [("id", id.toJson), ("summary", .text summary)]
  | connectionError reason => [("reason", .text reason)]
  | connectionRestored => []
  | command c => [("command", c.toJson)]

def toJson (m : Message) : Json := .object (("label", .text m.label) :: m.members)

end Message

end Chronicle
