import Chronicle.Proofs.Correlator
import Chronicle.Proofs.Headless.Schedule
import Mathlib.Logic.Function.Basic

/-!
# A command beside the loop, step by step

A command is run by four parties: a thread that starts it, waits for its end and reports that, a pump for
each of its two outputs, and the loop that handles what these send.  `OwnStep` is one step of the thread or of a
pump.  A pump looks at the token, then at the stream, and then sends, and between these looks anyone may go on.
`Around` is one step of anyone else: of the loop, and of producers that never name the command's id.

What the command writes until its outputs are closed, and how it ends, is given (`ProcessRun`); when lines can
be read and when it ends is not, nor whether it ends by itself.
-/

namespace Chronicle

/-- The command has run at all. -/
def ProcessEnd.hasStarted : ProcessEnd → Bool
  | notStarted _ => false
  | _ => true

namespace Headless

/-! ## Who takes part -/

/-- Where the thread stands that runs the command. -/
inductive Runner where
  | starting
  /-- The command runs, and these outputs have no pump yet. -/
  | opening (outputs : List Output)
  /-- The command has ended, and the pumps of these outputs may not have. -/
  | joining (outputs : List Output)
  /-- The pumps have ended.  The token has been looked at. -/
  | reporting (isStopped : Bool)
  /-- The completion has been sent, and these senders are still held. -/
  | leaving (senders : List Nat)
deriving DecidableEq, Repr

/-- Where a pump stands. -/
inductive Pump where
  | absent
  /-- It waits for the next line of these. -/
  | reading (rest : List (List UInt8))
  /-- It has read a line and is to look at the token. -/
  | checking (line : String) (rest : List (List UInt8))
  /-- It has not been stopped and is to look at the stream. -/
  | pushing (line : String) (rest : List (List UInt8))
  /-- The stream is alive, and the message is to be sent. -/
  | sending (m : Message) (rest : List (List UInt8))
  | ending
  | ended
deriving DecidableEq, Repr

/-- The thread sends as producer 0.  It is given a stream that sends as producer 1: the pump of the error
output gets this one, and the other pump a copy. -/
def sender : Output → Nat
  | .error => 1
  | .standard => 2

/-- The loop and its producers, the thread and the pumps. -/
structure Job extends World where
  runner : Runner
  pump : Output → Pump

namespace Job

/-- The thread has just been started, in a session that gave it a stream. -/
def start (s : Session) (t : Ticker) : Job where
  toWorld := ((World.start s t).connect 0).clone 1
  runner := .starting
  pump _ := .absent

def setRunner (x : Job) (runner : Runner) : Job := { x with runner }

def setPump (x : Job) (o : Output) (pump : Pump) : Job := { x with pump := Function.update x.pump o pump }

/-- The same with other things done in the world. -/
def within (x : Job) (w : World) : Job := { x with toWorld := w }

@[simp]
theorem toWorld_setRunner (x : Job) (runner : Runner) : (x.setRunner runner).toWorld = x.toWorld := rfl

@[simp]
theorem runner_setRunner (x : Job) (runner : Runner) : (x.setRunner runner).runner = runner := rfl

@[simp]
theorem pump_setRunner (x : Job) (runner : Runner) : (x.setRunner runner).pump = x.pump := rfl

@[simp]
theorem toWorld_setPump (x : Job) (o : Output) (p : Pump) : (x.setPump o p).toWorld = x.toWorld := rfl

@[simp]
theorem runner_setPump (x : Job) (o : Output) (p : Pump) : (x.setPump o p).runner = x.runner := rfl

theorem pump_setPump (x : Job) (o : Output) (p : Pump) :
    (x.setPump o p).pump = Function.update x.pump o p := rfl

@[simp]
theorem pump_setPump_self (x : Job) (o : Output) (p : Pump) : (x.setPump o p).pump o = p := by
  rw [pump_setPump, Function.update_self]

@[simp]
theorem pump_setPump_of_ne (x : Job) {o o' : Output} (other : o' ≠ o) (p : Pump) :
    (x.setPump o p).pump o' = x.pump o' := by
  rw [pump_setPump, Function.update_of_ne other]

@[simp]
theorem toWorld_within (x : Job) (w : World) : (x.within w).toWorld = w := rfl

@[simp]
theorem runner_within (x : Job) (w : World) : (x.within w).runner = x.runner := rfl

@[simp]
theorem pump_within (x : Job) (w : World) : (x.within w).pump = x.pump := rfl

end Job

/-! ## Steps -/

section Steps

variable (r : ProcessRun) (u : Subscription)

/-- One step of the thread or of a pump. -/
inductive OwnStep (x : Job) : Job → Prop where
  | fail (starting : x.runner = .starting) (fails : r.ending.hasStarted = false) :
      OwnStep x ((x.within (x.send 0 (r.ending.completion execId false))).setRunner (.leaving [0, 1]))
  | start (starting : x.runner = .starting) (starts : r.ending.hasStarted = true) :
      OwnStep x (x.setRunner (.opening [.standard, .error]))
  | copy {outputs : List Output} (opening : x.runner = .opening (.standard :: outputs)) :
      OwnStep x (((x.within (x.clone 2)).setRunner (.opening outputs)).setPump .standard
        (.reading (Text.byteLines (r.written .standard))))
  | give {outputs : List Output} (opening : x.runner = .opening (.error :: outputs)) :
      OwnStep x ((x.setRunner (.opening outputs)).setPump .error
        (.reading (Text.byteLines (r.written .error))))
  /-- The command has ended, or it could not be waited for; if the token is cancelled, it was killed. -/
  | exit (opening : x.runner = .opening []) : OwnStep x (x.setRunner (.joining [.standard, .error]))
  | join {o : Output} {outputs : List Output} (joining : x.runner = .joining (o :: outputs))
      (finished : x.pump o = .ended) : OwnStep x (x.setRunner (.joining outputs))
  | look (joining : x.runner = .joining []) :
      OwnStep x (x.setRunner (.reporting (x.session.tokens.isCancelled u.token)))
  | report {isStopped : Bool} (reporting : x.runner = .reporting isStopped) :
      OwnStep x ((x.within (x.send 0 (r.ending.completion execId isStopped))).setRunner (.leaving [0]))
  | quit {p : Nat} {senders : List Nat} (leaving : x.runner = .leaving (p :: senders)) :
      OwnStep x ((x.within (x.leave p)).setRunner (.leaving senders))
  | read {o : Output} {line : List UInt8} {text : String} {rest : List (List UInt8)}
      (reading : x.pump o = .reading (line :: rest)) (is : Text.Utf8.decodeString line = some text) :
      OwnStep x (x.setPump o (.checking text rest))
  /-- A line that is not text. -/
  | garbled {o : Output} {line : List UInt8} {rest : List (List UInt8)}
      (reading : x.pump o = .reading (line :: rest)) (none : Text.Utf8.decodeString line = none) :
      OwnStep x (x.setPump o .ending)
  | close {o : Output} (reading : x.pump o = .reading []) : OwnStep x (x.setPump o .ending)
  | pass {o : Output} {text : String} {rest : List (List UInt8)}
      (checking : x.pump o = .checking text rest)
      (goes : x.session.tokens.isCancelled u.token = false) : OwnStep x (x.setPump o (.pushing text rest))
  | stop {o : Output} {text : String} {rest : List (List UInt8)}
      (checking : x.pump o = .checking text rest)
      (stopped : x.session.tokens.isCancelled u.token = true) : OwnStep x (x.setPump o .ending)
  | push {o : Output} {text : String} {rest : List (List UInt8)} {m : Message}
      (pushing : x.pump o = .pushing text rest) (alive : u.push x.session.store text = .ok m) :
      OwnStep x (x.setPump o (.sending m rest))
  /-- The entry is gone. -/
  | lose {o : Output} {text : String} {rest : List (List UInt8)}
      (pushing : x.pump o = .pushing text rest) (gone : u.push x.session.store text = .error .closed) :
      OwnStep x (x.setPump o .ending)
  | send {o : Output} {m : Message} {rest : List (List UInt8)} (sending : x.pump o = .sending m rest) :
      OwnStep x ((x.within (x.toWorld.send (sender o) m)).setPump o
        (if (x.mailbox.send m).1 then .reading rest else .ending))
  | finish {o : Output} (ending : x.pump o = .ending) :
      OwnStep x ((x.within (x.leave (sender o))).setPump o .ended)

/-- One step of anyone else.  Other producers have other numbers, and do not name the command's id. -/
inductive Around (w : World) : World → Prop where
  | loop {w' : World} (step : LoopStep w w') : Around w w'
  | connect {p : Nat} (foreign : 3 ≤ p) (new : p ∉ w.producers) (granted : w.mailbox.connect.1 = true) :
      Around w (w.connect p)
  | clone {p q : Nat} (there : p ∈ w.producers) (foreign : 3 ≤ q) (new : q ∉ w.producers) :
      Around w (w.clone q)
  | leave {p : Nat} (there : p ∈ w.producers) (foreign : 3 ≤ p) : Around w (w.leave p)
  | send {p : Nat} (there : p ∈ w.producers) (foreign : 3 ≤ p) {m : Message}
      (silent : m.id? ≠ some execId) : Around w (w.send p m)
  | sealOff : Around w w.sealOff

/-- One step of anyone. -/
inductive JobStep (x : Job) : Job → Prop where
  | own {y : Job} (step : OwnStep r u x y) : JobStep x y
  | around {w : World} (step : Around x.toWorld w) : JobStep x (x.within w)

abbrev OwnSteps : Job → Job → Prop := Relation.ReflTransGen (OwnStep r u)

/-- Any number of steps, of whoever goes on. -/
abbrev JobSteps : Job → Job → Prop := Relation.ReflTransGen (JobStep r u)

end Steps

theorem Around.step {w w' : World} (step : Around w w') : Step w w' := by
  cases step with
  | loop step => exact .loop step
  | connect foreign new granted => exact .connect _ new granted
  | clone there foreign new => exact .clone there _ new
  | leave there foreign => exact .leave there
  | send there foreign silent => exact .send there _
  | sealOff => exact .sealOff

end Headless

end Chronicle
