import Chronicle.Message
import Chronicle.Text.Lines
import Chronicle.Text.Similarity

/-!
Correlation: whether a message starts an entry, changes one, or is refused.

A message is handled in one pass over the store.  Nothing is changed before every check of the
message has been made, so a refused message leaves the store and the open thoughts as they were;
the functions below still say what state a refusal leaves, so that this can be stated.
-/

namespace Chronicle

/-- What a message did. -/
inductive Outcome where
  /-- An entry was appended. -/
  | appended (key : Key)
  /-- An entry was changed in place. -/
  | updated (key : Key)
  /-- A running entry has finished. -/
  | finished (key : Key)
  /-- An instruction was confirmed. -/
  | confirmed (key : Key)
  /-- The message does not concern the timeline. -/
  | ignored
deriving DecidableEq, Repr, Inhabited

def Outcome.key? : Outcome → Option Key
  | appended k => some k
  | updated k => some k
  | finished k => some k
  | confirmed k => some k
  | ignored => none

/-- Why a message is refused; `label` names its kind. -/
inductive IngestionError where
  | unknownCorrelation (id : CorrelationId) (label : String)
  | duplicateCorrelation (id : CorrelationId) (label : String)
  | notRunning (id : CorrelationId) (label : String)
  | staleHandle (key : Key)
  | malformed (label reason : String)
deriving DecidableEq, Repr, Inhabited

def IngestionError.message : IngestionError → String
  | unknownCorrelation id label => label ++ " for unknown correlation id " ++ id.display
  | duplicateCorrelation id label => label ++ " reuses correlation id " ++ id.display
  | notRunning id label => label ++ " for entry " ++ id.display ++ " which is no longer running"
  | staleHandle key => "stream delta addressed to a torn-down entry " ++ key.display
  | malformed label reason => "malformed " ++ label ++ ": " ++ reason

/-- How alike an acknowledgement has to be to an instruction, and the thoughts still open. -/
structure Correlator where
  threshold : Binary64
  openThoughts : List Key
deriving DecidableEq, Repr, Inhabited

/-- The result of a message, with the state it leaves. -/
structure Ingested where
  result : Except IngestionError Outcome
  correlator : Correlator
  store : Store

/-- What an entry says instead of a last line when a tool wrote nothing. -/
def ToolUse.closingText (codes : List Int) : String :=
  match codes.find? (· ≠ 0) with
  | some code => "Failed (exit " ++ toString code ++ ")"
  | none => "Completed"

/-- A tool that has written one more piece of output, whose last line is `line`. -/
def ToolUse.record (t : ToolUse) (line : String) (bytes lines : Nat) : ToolUse :=
  let trimmed := Text.trimEnd line
  { t with
    output := ⟨saturatingAdd t.output.bytes bytes, saturatingAdd t.output.lines lines⟩
    lastLine := if trimmed.isEmpty then t.lastLine else some trimmed }

/-- The size of a tool's output once it has ended with `output`; what was streamed counts more. -/
def ToolUse.finalSize (t : ToolUse) (output : String) : OutputSize :=
  if t.output.bytes = 0 ∧ !output.isEmpty then
    ⟨output.utf8ByteSize, (Text.lines output).length⟩
  else t.output

/-- The last line of a tool that has ended: its summary, the last line of its output, the last line
it streamed, or else a word about its exit. -/
def ToolUse.finalLine (t : ToolUse) (codes : List Int) (output : String)
    (summary : Option String) : String :=
  match summary.filter (!Text.allBlank ·) with
  | some s => s
  | none =>
    match Text.lastFullLine? output with
    | some line => Text.trimEnd line
    | none =>
      match t.lastLine with
      | some line => line
      | none => ToolUse.closingText codes

/-- A tool that has ended. -/
def ToolUse.complete (t : ToolUse) (codes : List Int) (output : String) (summary : Option String) :
    ToolUse :=
  { t with
    exitCodes := codes
    output := t.finalSize output
    lastLine := some (t.finalLine codes output summary) }

/-- How a tool has ended. -/
def Status.ofExitCodes (codes : List Int) : Status :=
  if codes.any (· ≠ 0) then .failed else .completed

/-- The words in front of a log message. -/
def LogLevel.lead : LogLevel → String
  | error => "Error: "
  | warn => "Warning: "
  | info => ""
  | debug => "Debug: "
  | trace => "Debug: "

/-- An entry whose tool has written one more piece of output. -/
def Entry.record (e : Entry) (line : String) (bytes lines : Nat) (now : Instant) : Entry :=
  { e with
    kind := match e.kind with
      | .toolUse t => .toolUse (t.record line bytes lines)
      | kind => kind
    updated := some now }

/-- An entry whose tool has ended. -/
def Entry.complete (e : Entry) (codes : List Int) (output : String) (summary : Option String)
    (now : Instant) : Entry :=
  { e with
    kind := match e.kind with
      | .toolUse t => .toolUse (t.complete codes output summary)
      | kind => kind }.finish (.ofExitCodes codes) now

/-- A thought with one more piece of text. -/
def Entry.think (e : Entry) (text : String) (now : Instant) : Entry :=
  { e with
    kind := match e.kind with
      | .thought body => .thought (body ++ text)
      | kind => kind
    updated := some now }

/-- An instruction as it was acknowledged; one that was pending is completed. -/
def Entry.confirm (e : Entry) (author text : String) (now : Instant) : Entry :=
  let e := { e with kind := .instruction author text true }
  if e.status.isFinished then e else e.finish .completed now

/-- A running entry that nothing will end. -/
def Entry.closeBurst (e : Entry) (now : Instant) : Entry :=
  if e.isRunning then e.finish .completed now else e

namespace Correlator

/-- The threshold when none is given. -/
def defaultThreshold : Binary64 := Binary64.ofDecimal false 95 (-2)

def ofThreshold (threshold : Binary64) : Correlator := ⟨threshold.clampUnit, []⟩

/-- The state after a refusal. -/
def refuse (c : Correlator) (s : Store) (e : IngestionError) : Ingested := ⟨.error e, c, s⟩

/-- The open thoughts end when another entry starts. -/
def closeThoughts (c : Correlator) (s : Store) (now : Instant) : Correlator × Store :=
  ({ c with openThoughts := [] },
    c.openThoughts.foldl (fun s k => s.update k (·.closeBurst now)) s)

/-- Appends an entry. -/
def start (c : Correlator) (s : Store) (id : CorrelationId) (kind : Kind) (status : Status)
    (now : Instant) : Key × Correlator × Store :=
  let (c, s) := c.closeThoughts s now
  let (k, s) := s.append id kind status now
  (k, c, s)

/-- Appends an entry under an id that must not have been seen. -/
def startNew (c : Correlator) (s : Store) (label : String) (id : CorrelationId) (kind : Kind)
    (status : Status) (now : Instant) : Ingested :=
  if s.hasSeen id then c.refuse s (.duplicateCorrelation id label)
  else
    let (k, c, s) := c.start s id kind status now
    ⟨.ok (.appended k), c, s⟩

/-- The key of the running tool with an id. -/
def runningTool (s : Store) (id : CorrelationId) (label : String) : Except IngestionError Key :=
  match s.keyOf? id with
  | none => .error (.unknownCorrelation id label)
  | some k =>
    match s.get? k with
    | some e => if e.isRunning && e.kind.isToolUse then .ok k else .error (.notRunning id label)
    | none => .error (.notRunning id label)

/-- Changes the running tool with an id. -/
def updateTool (c : Correlator) (s : Store) (id : CorrelationId) (label : String)
    (f : Entry → Entry) : Ingested :=
  match runningTool s id label with
  | .error e => c.refuse s e
  | .ok k => ⟨.ok (.updated k), c, s.update k f⟩

/-- A piece of a thought: the first one starts the entry. -/
def thoughtDelta (c : Correlator) (s : Store) (label : String) (id : CorrelationId) (text : String)
    (done : Bool) (now : Instant) : Ingested :=
  match s.keyOf? id with
  | none =>
    if s.hasSeen id then c.refuse s (.duplicateCorrelation id label)
    else
      let (k, c, s) := c.start s id (.thought text) (if done then .completed else .running) now
      let c := if done then c else { c with openThoughts := c.openThoughts ++ [k] }
      ⟨.ok (.appended k), c, s⟩
  | some k =>
    match s.get? k with
    | none => c.refuse s (.staleHandle k)
    | some e =>
      if !e.kind.isThought then c.refuse s (.duplicateCorrelation id label)
      else if !e.isRunning then c.refuse s (.notRunning id label)
      else if done then
        ⟨.ok (.finished k), { c with openThoughts := c.openThoughts.filter (· ≠ k) },
          s.update k fun e => (e.think text now).finish .completed now⟩
      else ⟨.ok (.updated k), c, s.update k (·.think text now)⟩

/-- A piece of output for the entry of a key. -/
def streamDelta (c : Correlator) (s : Store) (label : String) (target : Key) (chunk : String)
    (now : Instant) : Ingested :=
  match s.get? target with
  | none => c.refuse s (.staleHandle target)
  | some e =>
    if !e.isRunning then c.refuse s (.notRunning e.id label)
    else if !e.kind.isToolUse then
      c.refuse s (.malformed label ("entry '" ++ e.id.display ++ "' does not take tool output"))
    else
      let line := (Text.lastFullLine? chunk).getD ""
      let lines := max (Text.lines chunk).length 1
      ⟨.ok (.updated target), c, s.update target (·.record line chunk.utf8ByteSize lines now)⟩

/-- The end of a tool. -/
def completeTool (c : Correlator) (s : Store) (label : String) (id : CorrelationId)
    (codes : List Int) (output : String) (summary : Option String) (now : Instant) : Ingested :=
  match runningTool s id label with
  | .error e => c.refuse s e
  | .ok k =>
    ⟨.ok (.finished k), c, (s.update k (·.complete codes output summary now)).releaseLease k⟩

/-- The instruction that was submitted last of those not confirmed. -/
def latestUnconfirmed? (s : Store) : Option (Key × String) :=
  s.entries.reverse.findSome? fun (k, e) =>
    match e.kind with
    | .instruction _ text false => some (k, text)
    | _ => none

/-- The latest unconfirmed instruction, if its text matches. -/
def similarInstruction? (c : Correlator) (s : Store) (text : String) : Option Key :=
  (latestUnconfirmed? s).bind fun (k, existing) =>
    if Text.alike existing text c.threshold then some k else none

/-- The entry that an acknowledgement is about: the one with its id, or else one with its text. -/
def acknowledged? (c : Correlator) (s : Store) (id : Option CorrelationId) (text : String) :
    Option Key :=
  match id.bind s.keyOf? with
  | some k => some k
  | none => c.similarInstruction? s text

/-- The acknowledgement of an instruction; one that was never submitted is appended. -/
def acknowledge (c : Correlator) (s : Store) (label : String) (id : Option CorrelationId)
    (author text : String) (now : Instant) : Ingested :=
  match c.acknowledged? s id text with
  | some k =>
    match s.get? k with
    | none => c.refuse s (.staleHandle k)
    | some e =>
      if !e.kind.isInstruction then c.refuse s (.duplicateCorrelation e.id label)
      else ⟨.ok (.confirmed k), c, s.update k (·.confirm author text now)⟩
  | none =>
    let kind := Kind.instruction author text true
    match id with
    | some id => c.startNew s label id kind .completed now
    | none =>
      let (k, c, s) := c.start s (.mint "input" s.nextSequence) kind .completed now
      ⟨.ok (.appended k), c, s⟩

/-- Handles one message. -/
def apply (c : Correlator) (s : Store) (m : Message) (now : Instant) : Ingested :=
  match m with
  | .thoughtDelta id text done => c.thoughtDelta s m.label id text done now
  | .toolStarted id tool command =>
    c.startNew s m.label id (.toolUse (.start tool command)) .running now
  | .toolProgress id line bytes => c.updateTool s id m.label (·.record line bytes 1 now)
  | .streamDelta target chunk => c.streamDelta s m.label target chunk now
  | .toolCompleted id codes output summary =>
    c.completeTool s m.label id codes output summary now
  | .fileEdit id path added removed =>
    c.startNew s m.label id (.fileEdit path added removed) .completed now
  | .fileRead id path ranges => c.startNew s m.label id (.fileRead path ranges) .completed now
  | .filesDeleted id paths =>
    if paths.isEmpty then c.refuse s (.malformed m.label "no paths")
    else c.startNew s m.label id (.deleted paths) .completed now
  | .log (some id) _ message => c.updateTool s id m.label (·.record message 0 0 now)
  | .log none level message =>
    let (k, c, s) := c.start s (.mint "log" s.nextSequence) (.thought (level.lead ++ message))
      .completed now
    ⟨.ok (.appended k), c, s⟩
  | .inputSubmitted id author text =>
    c.startNew s m.label id (.instruction author text false) .pending now
  | .inputAcknowledged id author text => c.acknowledge s m.label id author text now
  | .taskCompleted id summary => c.startNew s m.label id (.taskCompleted summary) .completed now
  | .connectionError _ => ⟨.ok .ignored, c, s⟩
  | .connectionRestored => ⟨.ok .ignored, c, s⟩
  | .command _ => ⟨.ok .ignored, c, s⟩

end Correlator

end Chronicle
