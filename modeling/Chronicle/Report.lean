import Chronicle.Message.Json
import Chronicle.Snapshot

/-!
Reports: the whole timeline and the state of a session as one JSON value.
-/

namespace Chronicle

/-! ## Values of the timeline as JSON -/

def Status.name : Status → String
  | pending => "pending"
  | running => "running"
  | completed => "completed"
  | failed => "failed"

/-- The members that describe what an entry is about. -/
def Kind.members : Kind → List (String × Json)
  | toolUse t =>
    [("type", .text "tool_use"), ("tool_name", .text t.tool),
      ("command_segments", .list (t.segments.map .text)),
      ("exit_codes", .list (t.exitCodes.map .whole)),
      ("output_size", .object [("bytes", .nat t.output.bytes), ("lines", .nat t.output.lines)]),
      ("last_line", .ofOption .text t.lastLine)]
  | fileEdit path added removed =>
    [("type", .text "file_edit"), ("path", .text path), ("lines_added", .nat added),
      ("lines_removed", .nat removed)]
  | fileRead path ranges =>
    [("type", .text "file_read"), ("path", .text path),
      ("ranges", rangesJson ranges)]
  | deleted paths => [("type", .text "deleted"), ("paths", .list (paths.map .text))]
  | thought body => [("type", .text "thought"), ("markdown_body", .text body)]
  | instruction author text confirmed =>
    [("type", .text "user_instruction"), ("author", .text author), ("text", .text text),
      ("confirmed", .bool confirmed)]
  | taskCompleted summary => [("type", .text "task_completed"), ("summary", .text summary)]

/-! ## Views as JSON -/

def ForkView.toJson (v : ForkView) : Json :=
  .object [("fork_index", .ofOption .nat v.position), ("discarded", .nat v.discarded)]

def ViewportView.toJson (v : ViewportView) : Json :=
  .object [("scroll_offset", .nat v.offset), ("rows", .nat v.rows), ("total", .nat v.total),
    ("auto_follow", .bool v.follow), ("hero_docked", .bool v.heroDocked),
    ("activity_below", .bool v.activityBelow), ("selected", .ofOption .nat v.selected)]

def Connection.toJson : Connection → Json
  | connected => .object [("state", .text "connected")]
  | disconnected reason => .object [("state", .text "disconnected"), ("reason", .text reason)]

def Counters.toJson (c : Counters) : Json :=
  .object [("malformed_events", .nat c.malformed), ("stale_deltas", .nat c.stale),
    ("reconnects", .nat c.reconnects), ("evicted", .nat c.evicted)]

def Request.toJson : Request → Json
  | submitInstruction id text forkAfter =>
    .object [("type", .text "submit_instruction"), ("id", id.toJson), ("text", .text text),
      ("fork_after", .ofOption .nat forkAfter)]
  | stopTool id => .object [("type", .text "stop_tool"), ("id", id.toJson)]

/-! ## The report -/

/-- An entry, with whether it is the hero and how long it has taken. -/
structure EntryReport where
  entry : Entry
  isHero : Bool
  elapsed : Option Duration
deriving DecidableEq, Repr, Inhabited

def EntryReport.toJson (r : EntryReport) : Json :=
  .object ([("id", r.entry.id.toJson), ("sequence", .nat r.entry.sequence)] ++
    r.entry.kind.members ++
    [("status", .text r.entry.status.name), ("discarded", .bool r.entry.discarded),
      ("is_hero", .bool r.isHero),
      ("elapsed_ms", .ofOption (fun d => .nat (Duration.toMillis d)) r.elapsed)])

structure Report where
  entries : List EntryReport
  hero : Option CorrelationId
  fork : ForkView
  viewport : ViewportView
  connection : Connection
  counters : Counters
  outbound : List Request
deriving DecidableEq, Repr, Inhabited

def Report.toJson (r : Report) : Json :=
  .object [("entries", .list (r.entries.map (·.toJson))),
    ("hero", .ofOption CorrelationId.toJson r.hero),
    ("fork", r.fork.toJson), ("viewport", r.viewport.toJson),
    ("connection", r.connection.toJson), ("counters", r.counters.toJson),
    ("outbound", .list (r.outbound.map (·.toJson)))]

namespace Session

def entryReport (s : Session) (now : Instant) (ke : Key × Entry) : EntryReport where
  entry := ke.2
  isHero := s.hero.key? == some ke.1
  elapsed := ke.2.elapsed now

/-- The report of a session at `now`. -/
def report (s : Session) (now : Instant) : Report where
  entries := s.store.entries.map (s.entryReport now)
  hero := (s.hero.key?.bind s.store.get?).map (·.id)
  fork := s.forkView
  viewport := s.viewportView
  connection := s.connection
  counters := s.counters
  outbound := s.outbound

end Session

end Chronicle
