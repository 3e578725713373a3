import Chronicle.Arguments
import Chronicle.Config.Reader
import Chronicle.Mailbox
import Chronicle.Process
import Chronicle.Replay
import Chronicle.Report
import Chronicle.Session.Handling

/-!
Running a session without a terminal: everything the sources send is handled, and a report is left.
-/

namespace Chronicle

namespace Headless

/-- Messages taken from the mailbox at once. -/
def batchSize : Nat := 256

/-- Handles messages one after the other, and says whether the screen has changed. -/
def handleAll (s : Session) (now : Instant) (ms : List Message) : Bool × Session :=
  ms.foldl (fun (dirty, s) m =>
    let (changed, s) := s.handle m now
    (dirty || changed, s)) (false, s)

/-- Takes messages in batches and handles them until the mailbox is empty. -/
def drainInto (b : Mailbox) (s : Session) (now : Instant) : Bool × Mailbox × Session :=
  if _ : b.queue = [] then (false, b, s)
  else
    let (changed, s) := handleAll s now (b.take batchSize).1
    let (dirty, b', s) := drainInto (b.take batchSize).2 s now
    (changed || dirty, b', s)
termination_by b.queue.length
decreasing_by exact Mailbox.drop_length_lt (by decide) (by assumption)

/-- What the loop works on. -/
structure State where
  mailbox : Mailbox
  ticker : Ticker
  session : Session

/-- One round of the loop: empty the mailbox, then wait.  It says whether the loop goes on. -/
def round (x : State) (now later : Instant) : Bool × State :=
  let (_, mailbox, session) := drainInto x.mailbox x.session now
  match mailbox.wait x.ticker now later with
  | (.message m, mailbox, ticker) => (true, ⟨mailbox, ticker, (session.handle m now).2⟩)
  | (.tick, mailbox, ticker) => (true, ⟨mailbox, ticker, session⟩)
  | (.closed, mailbox, ticker) => (false, ⟨mailbox, ticker, session⟩)

/-- The loop over a mailbox that nobody sends to any more; `fuel` bounds the rounds. -/
def loop (fuel : Nat) (x : State) (now : Instant) : State :=
  match fuel with
  | 0 => x
  | fuel + 1 =>
    match round x now now with
    | (true, x) => loop fuel x now
    | (false, x) => x

/-- The session after everything in a closed mailbox has been handled at `now`. -/
def finish (b : Mailbox) (s : Session) (now : Instant) : Session :=
  (loop 2 ⟨b, Ticker.start Ticker.defaultPeriod now, s⟩ now).session

/-! ## Sources -/

/-- The id of the tool that the command line asks to run. -/
def execId : CorrelationId := .producer "exec"

/-- The tool that runs commands. -/
def execTool : String := "bash"

/-- Starts the entry of a command and a stream into it. -/
def startTool (s : Session) (id : CorrelationId) (command : String) (now : Instant) :
    Option Subscription × Session :=
  (s.handle (.toolStarted id execTool command) now).2.subscribe id

/-- The messages of a command that runs to its end. -/
def execMessages (s : Session) (id : CorrelationId) (u : Subscription) (r : ProcessRun) :
    List Message :=
  r.messages id u (u.isAlive s.store) (s.tokens.isCancelled u.token)

/-- Puts messages into a mailbox. -/
def sendAll (b : Mailbox) (ms : List Message) : Mailbox := ms.foldl (fun b m => (b.send m).2) b

/-- Why a replay cannot begin. -/
def cannotReplay (path : String) (fault : Config.FileFault) : Message :=
  .connectionError ("cannot open replay '" ++ path ++ "': " ++ fault.reason)

/-- Replays a file into a mailbox.  A file that cannot be opened is a connection that is lost; a
directory can be opened and then not read. -/
def replayFile (b : Mailbox) (path : String) :
    Except Config.FileFault (List UInt8) → Mailbox
  | .ok bytes => (replay b bytes).2
  | .error .directory => b
  | .error fault => (b.send (cannotReplay path fault)).2

/-- The files that a run reads. -/
structure Files where
  config : Except Config.FileFault (List UInt8)
  replay : Except Config.FileFault (List UInt8)

/-- Starts the command of the command line, and gives what it sends. -/
def startExec (s : Session) (command : Option String) (exec : String → ProcessRun)
    (now : Instant) : List Message × Session :=
  match command with
  | none => ([], s)
  | some command =>
    match startTool s execId command now with
    | (none, s) => ([], s)
    | (some u, s) => (execMessages s execId u (exec command), s)

/-- A whole run: the configuration, the sources, the loop.  `exec` runs a command; the notifications
of a file are there before the command has ended. -/
def run (a : Arguments) (files : Files) (exec : String → ProcessRun) (now : Instant) : Session :=
  let config := a.override (Config.loadOrStandard files.config)
  let (sent, s) := startExec (.start config) a.exec exec now
  let b := match a.replay with
    | some path => replayFile .empty path files.replay
    | none => .empty
  finish (sendAll b sent).sealOff s now

end Headless

end Chronicle
