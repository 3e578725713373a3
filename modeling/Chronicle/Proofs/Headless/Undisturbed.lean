import Chronicle.Proofs.Headless.Parties

/-!
# A command that nobody disturbs

A run of the command line handles what a command sends after it has ended.  That is one of the schedules: the
pumps go on one after the other, then the thread, and then the loop (`reaches_run`).
-/

namespace Chronicle

namespace Headless

namespace World

/-- A producer has sent these messages. -/
def sendEach (w : World) (p : Nat) (ms : List Message) : World :=
  { w with
    mailbox := { w.mailbox with queue := w.mailbox.queue ++ ms }
    sent := w.sent ++ ms.map (p, ·) }

theorem sendEach_nil (w : World) (p : Nat) : w.sendEach p [] = w := by
  simp [sendEach]

theorem send_eq {w : World} (kept : w.mailbox.isDropped = false) (p : Nat) (m : Message) :
    w.send p m = w.sendEach p [m] := by
  rw [send, Mailbox.send_of_kept kept]
  rfl

theorem sendEach_cons (w : World) (p : Nat) (m : Message) (ms : List Message) :
    (w.sendEach p [m]).sendEach p ms = w.sendEach p (m :: ms) := by
  simp [sendEach]

end World

variable {r : ProcessRun} {u : Subscription} {x : Job}

theorem Job.setPump_setPump (x : Job) (o : Output) (p p' : Pump) :
    (x.setPump o p).setPump o p' = x.setPump o p' := by
  simp only [setPump, Function.update_idem]

theorem Job.within_setPump (x : Job) (o : Output) (p : Pump) (w : World) :
    (x.setPump o p).within w = (x.within w).setPump o p := rfl

/-- A pump that is neither stopped nor loses its stream sends all that it can. -/
theorem pump_alone {o : Output} (lines : List (List UInt8)) : ∀ x : Job, x.pump o = .reading lines →
    x.mailbox.isDropped = false → x.session.tokens.isCancelled u.token = false →
    u.isAlive x.session.store = true →
    OwnSteps r u x ((x.within (x.sendEach (sender o) (u.deltas lines))).setPump o .ending) := by
  induction lines with
  | nil =>
      intro x reading _ _ _
      have none : u.deltas [] = [] := rfl
      rw [none, World.sendEach_nil]
      exact .single (.close reading)
  | cons line lines ih =>
      intro x reading kept goes alive
      cases is : Text.Utf8.decodeString line with
      | none =>
          rw [u.deltas_garbled is, World.sendEach_nil]
          exact .single (.garbled reading is)
      | some text =>
          have read : OwnStep r u x (x.setPump o (.checking text lines)) := .read reading is
          have pass := OwnStep.pass (r := r) (x.pump_setPump_self o (.checking text lines)) goes
          have push := OwnStep.push (r := r) (x.pump_setPump_self o (.pushing text lines)) (if_pos alive)
          have send := OwnStep.send (r := r) (u := u)
            (x.pump_setPump_self o (.sending (.streamDelta u.target text) lines))
          rw [Job.setPump_setPump] at pass push
          rw [Job.toWorld_setPump, Job.within_setPump, Job.setPump_setPump,
            if_pos (by rw [Mailbox.send_of_kept kept]), World.send_eq kept] at send
          have rest := ih ((x.within (x.sendEach (sender o) [.streamDelta u.target text])).setPump o
            (.reading lines)) (Job.pump_setPump_self _ o _) kept goes alive
          rw [Job.toWorld_setPump, Job.within_setPump, Job.setPump_setPump, Job.toWorld_within,
            World.sendEach_cons, ← u.deltas_cons is] at rest
          exact .head read (.head pass (.head push (.head send rest)))

section Alone

variable {s : Session} (t : Ticker) (goes : s.tokens.isCancelled u.token = false)
  (alive : u.isAlive s.store = true) (started : r.ending.hasStarted = true)
include goes alive started

/-- The command's parties can go on to their end while nobody else does anything, and leave what the command is
said to send. -/
theorem reaches_messages : ∃ x, OwnSteps r u (.start s t) x ∧
    x.mailbox = ⟨r.messages execId u true false, 0, false, false⟩ ∧ x.ticker = t ∧ x.session = s ∧
    x.phase = .taking [] := by
  have start : OwnStep r u (.start s t) _ := .start rfl started
  have copy : OwnSteps r u (.start s t) _ := (Relation.ReflTransGen.single start).tail (.copy rfl)
  have give := copy.tail (.give rfl)
  have standard := (give.trans (pump_alone (o := .standard) _ _ rfl rfl goes alive)).tail
    (.finish (o := .standard) rfl)
  have error := (standard.trans (pump_alone (o := .error) _ _ rfl rfl goes alive)).tail
    (.finish (o := .error) rfl)
  have joined := ((error.tail (.exit rfl)).tail (.join rfl rfl)).tail (.join rfl rfl)
  have ended := ((joined.tail (.look rfl)).tail (.report rfl)).tail (.quit rfl)
  refine ⟨_, ended, ?_, rfl, rfl, rfl⟩
  show Mailbox.mk ([] ++ u.deltas (Text.byteLines (r.written .standard)) ++
    u.deltas (Text.byteLines (r.written .error)) ++
      [r.ending.completion execId (s.tokens.isCancelled u.token)]) 0 false false = _
  rw [goes, List.nil_append]
  rfl

end Alone

/-! ## The command line -/

theorem sendAll_eq {b : Mailbox} (kept : b.isDropped = false) (ms : List Message) :
    sendAll b ms = { b with queue := b.queue ++ ms } := by
  induction ms generalizing b with
  | nil =>
      rw [List.append_nil]
      rfl
  | cons m ms ih =>
      have first : sendAll b (m :: ms) = sendAll (b.send m).2 ms := rfl
      have sent : (b.send m).2 = { b with queue := b.queue ++ [m] } := by rw [Mailbox.send_of_kept kept]
      have rest := ih (b := { b with queue := b.queue ++ [m] }) kept
      rw [first, sent, rest, List.append_assoc]
      rfl

theorem LoopSteps.jobSteps {w w' : World} (steps : LoopSteps w w') (x : Job) :
    JobSteps r u (x.within w) (x.within w') :=
  steps.lift x.within fun _ _ step => .around (.loop step)

theorem OwnSteps.jobSteps {y : Job} (steps : OwnSteps r u x y) : JobSteps r u x y :=
  steps.lift id fun _ _ => .own

/-- The stream that the command line's tool is given is not cancelled yet. -/
theorem startTool_goes {c : Config} {command : String} {now : Instant} {s : Session}
    (given : startTool (.start c) execId command now = (some u, s)) :
    s.tokens.isCancelled u.token = false := by
  have session : s = (startTool (.start c) execId command now).2 := by rw [given]
  have none : s.tokens.cancelled = [] := by
    rw [session, startTool, Session.cancelled_subscribe, Session.cancelled_handle _ (by simp)]
    rfl
  rw [Tokens.isCancelled, none]
  rfl

/-- What a run of the command line makes of a command is what one of the schedules makes of it. -/
theorem reaches_run (a : Arguments) (files : Files) (exec : String → ProcessRun) (now : Instant)
    {command : String} (asked : a.exec = some command) (only : a.replay = none)
    (started : (exec command).ending.hasStarted = true) :
    ∃ u s x, startTool (.start (a.override (Config.loadOrStandard files.config))) execId command now =
        (some u, s) ∧
      JobSteps (exec command) u (.start s (Ticker.start Ticker.defaultPeriod now)) x ∧
      x.phase = .left ∧ x.session = run a files exec now := by
  obtain ⟨u, s, given, hosts⟩ :=
    startTool_hosts (a.override (Config.loadOrStandard files.config)) command now
  have goes := startTool_goes given
  obtain ⟨x, steps, mailbox, ticker, session, phase⟩ :=
    reaches_messages (Ticker.start Ticker.defaultPeriod now) goes hosts.isAlive started
  have sealed := steps.jobSteps.tail (.around .sealOff)
  obtain ⟨w, rest, left, -, result⟩ := reaches_finish x.toWorld.sealOff now phase
    (by rw [World.sealOff, mailbox]; rfl) ticker
  refine ⟨u, s, x.within w, given, sealed.trans (rest.jobSteps x), left, ?_⟩
  have sent : startExec (.start (a.override (Config.loadOrStandard files.config))) a.exec exec now =
      ((exec command).messages execId u true false, s) := by
    simp only [startExec, asked, given, execMessages, hosts.isAlive, goes]
  have alone : run a files exec now =
      finish (sendAll .empty ((exec command).messages execId u true false)).sealOff s now := by
    simp only [run, sent, only]
  have closed : (sendAll .empty ((exec command).messages execId u true false)).sealOff =
      x.toWorld.sealOff.mailbox := by
    rw [sendAll_eq rfl, World.sealOff, mailbox]
    rfl
  rw [alone, closed, Job.toWorld_within, result, ← session]
  rfl

end Headless

end Chronicle
