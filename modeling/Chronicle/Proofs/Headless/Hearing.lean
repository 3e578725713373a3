import Chronicle.Proofs.Headless.Parties
import Chronicle.Proofs.Text.Utf8

/-!
# The session hears all of its command

Whatever the schedule, the thread sends one completion, after all lines of both pumps, and the session takes
the lines and then the completion (`hears`).  A message that the command sends is handled by a session that has
handled only what was sent before it (`Sound.hosted_at`), so none that completes the command: there the
command is still hosted.

The command's parties are never stuck on the way to their end, and each of their steps brings them nearer to it
(`Job.rank`).
-/

namespace Chronicle

namespace Headless

variable {r : ProcessRun} {u : Subscription} {s : Session} {x y : Job}

/-! ## The end is reached -/

/-- The steps that a pump has before it at most. -/
def Pump.rank (bytes : List UInt8) : Pump → Nat
  | absent => 4 * (Text.byteLines bytes).length + 3
  | reading rest => 4 * rest.length + 2
  | checking _ rest => 4 * rest.length + 5
  | pushing _ rest => 4 * rest.length + 4
  | sending _ rest => 4 * rest.length + 3
  | ending => 1
  | ended => 0

def Runner.rank : Runner → Nat
  | starting => 10
  | opening outputs => outputs.length + 6
  | joining outputs => outputs.length + 3
  | reporting _ => 2
  | leaving senders => senders.length

/-- The steps that the command's parties have before them at most. -/
def Job.rank (r : ProcessRun) (x : Job) : Nat :=
  x.runner.rank + (x.pump .standard).rank (r.written .standard) + (x.pump .error).rank (r.written .error)

theorem Job.rank_setPump {o : Output} {p : Pump}
    (less : p.rank (r.written o) < (x.pump o).rank (r.written o)) : (x.setPump o p).rank r < x.rank r := by
  cases o with
  | standard =>
      rw [rank, rank, pump_setPump_self, pump_setPump_of_ne x (by simp), runner_setPump]
      omega
  | error =>
      rw [rank, rank, pump_setPump_self, pump_setPump_of_ne x (by simp), runner_setPump]
      omega

theorem Job.rank_setRunner {runner : Runner} (less : runner.rank < x.runner.rank) :
    (x.setRunner runner).rank r < x.rank r := by
  rw [rank, rank, runner_setRunner, pump_setRunner]
  omega

/-- Each step of the command's own parties brings them nearer to the end. -/
theorem OwnStep.rank_lt (step : OwnStep r u x y) (sound : x.Sound r u s) : y.rank r < x.rank r := by
  have suits := sound.suits
  cases step with
  | fail starting fails =>
      exact Job.rank_setRunner (x := x.within _) (by rw [Job.runner_within, starting]; decide)
  | start starting starts => exact Job.rank_setRunner (by rw [starting]; decide)
  | @copy outputs opening =>
      rw [opening] at suits
      have absent : x.pump .standard = .absent := (suits.2.2 _).mpr List.mem_cons_self
      have runner : ((x.within (x.clone 2)).setRunner (.opening outputs)).rank r < x.rank r :=
        Job.rank_setRunner (x := x.within _) (by rw [Job.runner_within, opening]; simp [Runner.rank])
      refine Nat.lt_trans (Job.rank_setPump ?_) runner
      rw [Job.pump_setRunner, Job.pump_within, absent]
      simp [Pump.rank]
  | @give outputs opening =>
      rw [opening] at suits
      have absent : x.pump .error = .absent := (suits.2.2 _).mpr List.mem_cons_self
      have runner : (x.setRunner (.opening outputs)).rank r < x.rank r :=
        Job.rank_setRunner (by rw [opening]; simp [Runner.rank])
      refine Nat.lt_trans (Job.rank_setPump ?_) runner
      rw [Job.pump_setRunner, absent]
      simp [Pump.rank]
  | exit opening => exact Job.rank_setRunner (by rw [opening]; decide)
  | join joining finished => exact Job.rank_setRunner (by rw [joining]; simp [Runner.rank])
  | look joining => exact Job.rank_setRunner (by rw [joining]; simp [Runner.rank])
  | report reporting =>
      exact Job.rank_setRunner (x := x.within _) (by rw [Job.runner_within, reporting]; simp [Runner.rank])
  | quit leaving =>
      exact Job.rank_setRunner (x := x.within _) (by rw [Job.runner_within, leaving]; simp [Runner.rank])
  | read reading is =>
      refine Job.rank_setPump ?_
      rw [reading, Pump.rank, Pump.rank, List.length_cons]
      omega
  | garbled reading none => exact Job.rank_setPump (by rw [reading]; simp [Pump.rank])
  | close reading => exact Job.rank_setPump (by rw [reading]; simp [Pump.rank])
  | pass checking goes => exact Job.rank_setPump (by rw [checking]; simp [Pump.rank])
  | stop checking stopped => exact Job.rank_setPump (by rw [checking]; simp [Pump.rank])
  | push pushing alive => exact Job.rank_setPump (by rw [pushing]; simp [Pump.rank])
  | lose pushing gone => exact Job.rank_setPump (by rw [pushing]; simp [Pump.rank])
  | send sending =>
      refine Job.rank_setPump (x := x.within _) ?_
      rw [Job.pump_within, sending]
      split <;> simp [Pump.rank]
  | finish ending =>
      exact Job.rank_setPump (x := x.within _) (by rw [Job.pump_within, ending]; simp [Pump.rank])

/-- A pump that goes on is never stuck. -/
theorem Pump.goes {o : Output} (live : (x.pump o).isLive = true) : ∃ y, OwnStep r u x y := by
  cases at_o : x.pump o with
  | absent => simp [at_o, isLive] at live
  | reading rest =>
      cases rest with
      | nil => exact ⟨_, .close at_o⟩
      | cons line rest =>
          cases is : Text.Utf8.decodeString line with
          | none => exact ⟨_, .garbled at_o is⟩
          | some text => exact ⟨_, .read at_o is⟩
  | checking text rest =>
      cases goes : x.session.tokens.isCancelled u.token with
      | false => exact ⟨_, .pass at_o goes⟩
      | true => exact ⟨_, .stop at_o goes⟩
  | pushing text rest =>
      cases answer : u.push x.session.store text with
      | ok m => exact ⟨_, .push at_o answer⟩
      | error e => exact ⟨_, .lose at_o answer⟩
  | sending m rest => exact ⟨_, .send at_o⟩
  | ending => exact ⟨_, .finish at_o⟩
  | ended => simp [at_o, isLive] at live

/-- Until the thread has ended, one of the command's own parties can go on. -/
theorem Job.Sound.goes (sound : x.Sound r u s) (unfinished : x.runner ≠ .leaving []) :
    ∃ y, OwnStep r u x y := by
  have suits := sound.suits
  cases stage : x.runner with
  | starting =>
      cases starts : r.ending.hasStarted with
      | false => exact ⟨_, .fail stage starts⟩
      | true => exact ⟨_, .start stage starts⟩
  | opening outputs =>
      match outputs, stage with
      | [], stage => exact ⟨_, .exit stage⟩
      | .standard :: outputs, stage => exact ⟨_, .copy stage⟩
      | .error :: outputs, stage => exact ⟨_, .give stage⟩
  | joining outputs =>
      cases outputs with
      | nil => exact ⟨_, .look stage⟩
      | cons o outputs =>
          rw [stage] at suits
          cases live : (x.pump o).isLive with
          | true => exact Pump.goes live
          | false =>
              have finished : x.pump o = .ended := by
                cases at_o : x.pump o with
                | absent => exact absurd at_o (suits.2 o).1
                | ended => rfl
                | _ => simp [at_o, Pump.isLive] at live
              exact ⟨_, .join stage finished⟩
  | reporting isStopped => exact ⟨_, .report stage⟩
  | leaving senders =>
      cases senders with
      | nil => exact absurd stage unfinished
      | cons p senders => exact ⟨_, .quit stage⟩

/-- From every moment on, the command's own parties can come to the end. -/
theorem Job.Sound.ends (sound : x.Sound r u s) (hosts : s.Hosts execId u) :
    ∃ y, OwnSteps r u x y ∧ y.runner = .leaving [] := by
  induction rank : x.rank r using Nat.strongRecOn generalizing x with
  | ind n ih =>
      by_cases finished : x.runner = .leaving []
      · exact ⟨x, .refl, finished⟩
      · obtain ⟨y, step⟩ := sound.goes finished
        obtain ⟨z, steps, ended⟩ := ih (y.rank r) (rank ▸ step.rank_lt sound) (step.sound hosts sound) rfl
        exact ⟨z, .head step steps, ended⟩

/-! ## The messages are taken -/

namespace Job

/-- Nothing that the command sends comes after its completion. -/
theorem Reported.early {e : ProcessEnd} {hasReported : Bool} {sent : List (Nat × Message)}
    (reported : Reported e hasReported sent) {i : Nat} {p : Nat} {m : Message}
    (at_i : sent[i]? = some (p, m)) (own : p < 3) : ∀ pm ∈ sent.take i, pm.1 ≠ 0 := by
  intro pm mem
  cases reported with
  | none silent => exact silent pm (List.mem_of_mem_take mem)
  | @one before after isStopped first last =>
      by_cases inside : i ≤ before.length
      · rw [List.take_append_of_le_length inside] at mem
        exact first pm (List.mem_of_mem_take mem)
      · obtain ⟨j, rfl⟩ : ∃ j, i = before.length + (j + 1) := ⟨i - before.length - 1, by omega⟩
        rw [List.getElem?_append_right (Nat.le_add_right _ _), Nat.add_sub_cancel_left,
          List.getElem?_cons_succ] at at_i
        have foreign := last (p, m) (List.mem_of_getElem? at_i)
        exact absurd own (Nat.not_lt.mpr foreign)

/-- The thread sends nothing but the completion. -/
theorem Reported.completion {e : ProcessEnd} {hasReported : Bool} {sent : List (Nat × Message)}
    (reported : Reported e hasReported sent) {m : Message} (mem : (0, m) ∈ sent) :
    ∃ isStopped, m = e.completion execId isStopped := by
  cases reported with
  | none silent => exact absurd rfl (silent (0, m) mem)
  | one isStopped first last =>
      rcases List.mem_append.mp mem with mem | mem
      · exact absurd rfl (first (0, m) mem)
      · rcases List.mem_cons.mp mem with same | mem
        · exact ⟨isStopped, (Prod.mk.inj same).2⟩
        · exact absurd (last (0, m) mem) (by simp)

/-- The session that handles a message of the command hosts the command. -/
theorem Sound.hosted_at (sound : x.Sound r u s) (hosts : s.Hosts execId u) {i p : Nat} {m m' : Message}
    {now : Instant} (sent : x.sent[i]? = some (p, m)) (own : p < 3)
    (handled : x.handled[i]? = some (m', now)) :
    m' = m ∧ (World.fold s (x.handled.take i)).Hosts execId u := by
  obtain ⟨rest, order⟩ := sound.faithful.first
  have inside : i < (x.handled.map (·.1)).length := by
    rw [List.length_map]
    exact (List.getElem?_eq_some_iff.mp handled).1
  have taken : (x.handled.take i).map (·.1) = (x.sent.take i).map (·.2) := by
    rw [List.map_take, List.map_take, ← order, List.take_append_of_le_length (Nat.le_of_lt inside)]
  constructor
  · have same := congrArg (·[i]?) order
    simp only [List.getElem?_append_left inside, List.getElem?_map, handled, sent, Option.map_some] at same
    exact Option.some.inj same
  · refine hosts_fold hosts _ fun mn mem => ?_
    have before : mn.1 ∈ (x.sent.take i).map (·.2) := taken ▸ List.mem_map_of_mem mem
    obtain ⟨pm, before, same⟩ := List.mem_map.mp before
    exact same ▸ sound.not_completion (List.mem_of_mem_take before)
      (sound.reported.early sent own pm before)

/-! ## The account -/

/-- What is promised of a command, `s` being the session that it was started in. -/
structure Hears (r : ProcessRun) (u : Subscription) (s : Session) (x : Job) : Prop where
  /-- The thread sends one message, the completion, and after that no pump sends any. -/
  reported : Reported r.ending x.runner.hasReported x.sent
  /-- Nobody else completes the command. -/
  only : ∀ pm ∈ x.sent, pm.1 ≠ 0 → ∀ codes output summary,
    pm.2 ≠ .toolCompleted execId codes output summary
  /-- The command's own parties are never stuck before that, -/
  ends : ∃ y, OwnSteps r u x y ∧ y.runner = .leaving []
  /-- and each of their steps brings them nearer to it, while others leave them where they are. -/
  nearer : ∀ y, JobStep r u x y →
    y.rank r < x.rank r ∨ y.runner = x.runner ∧ y.pump = x.pump
  /-- The loop does not end earlier, and by then has handled everything. -/
  left : x.phase = .left → x.runner = .leaving [] ∧ x.handled.map (·.1) = x.sent.map (·.2)
  /-- What the pumps send is written into the command's entry. -/
  output : ∀ o i m, x.sent[i]? = some (sender o, m) → ∀ m' now, x.handled[i]? = some (m', now) →
    m' = m ∧ ∃ line, m = .streamDelta u.target line ∧
      (World.fold s (x.handled.take i)).TakesChunk execId u line now
  /-- The completion is taken after that. -/
  completion : ∀ i m, x.sent[i]? = some (0, m) → ∀ m' now, x.handled[i]? = some (m', now) →
    m' = m ∧ ∃ isStopped, m = r.ending.completion execId isStopped ∧
      (World.fold s (x.handled.take i)).TakesCompletion execId u [r.ending.code] ""
        (r.ending.summary isStopped) now
  /-- A pump sends the lines of its output, from the first on. -/
  lines : ∀ o, x.sentBy (sender o) <+: u.deltas (Text.byteLines (r.written o))
  /-- If the command has run and its token has never been cancelled, all lines of an output that is text
  have been sent by the time of the completion, and in the end all of them have been handled. -/
  whole : r.ending.hasStarted = true → x.session.tokens.isCancelled u.token = false →
    ∀ o text, Text.Utf8.decodeString (r.written o) = some text →
      (x.runner.hasReported = true →
        x.sentBy (sender o) = (Text.lines text).map (.streamDelta u.target)) ∧
      (x.phase = .left →
        x.handledFrom (sender o) = (Text.lines text).map (.streamDelta u.target))

/-- When the loop has ended, so has the thread: before that it holds a sender. -/
theorem Sound.runner_of_left (sound : x.Sound r u s) (left : x.phase = .left) : x.runner = .leaving [] := by
  have held := sound.held
  have suits := sound.suits
  rw [(sound.faithful.ended left).2.1] at held
  have none : 0 ∉ x.runner.held := fun mem => absurd (held.runner.mpr mem) List.not_mem_nil
  cases stage : x.runner with
  | leaving senders =>
      rw [stage] at held suits
      cases senders with
      | nil => rfl
      | cons p senders =>
          have own : p ∈ [0, 1] := suits.1.subset List.mem_cons_self
          rcases List.mem_pair.mp own with rfl | rfl
          · exact absurd (held.runner.mpr List.mem_cons_self) List.not_mem_nil
          · exact absurd (held.error.mpr (.inl List.mem_cons_self)) List.not_mem_nil
  | opening outputs =>
      rw [stage, Runner.held] at none
      split at none <;> exact absurd List.mem_cons_self none
  | _ =>
      rw [stage] at none
      exact absurd List.mem_cons_self none

/-- All lines of an output that is text have been sent. -/
theorem Sound.sentBy_eq (sound : x.Sound r u s) (reported : x.runner.hasReported = true)
    (started : r.ending.hasStarted = true) (goes : x.session.tokens.isCancelled u.token = false)
    {o : Output} {text : String} (is : Text.Utf8.decodeString (r.written o) = some text) :
    x.sentBy (sender o) = (Text.lines text).map (.streamDelta u.target) := by
  have suits := sound.suits
  have whole := (sound.pumped o).whole goes
  rw [Subscription.deltas, pumpLines_eq_lines is] at whole
  cases stage : x.runner with
  | leaving senders =>
      rw [stage] at suits
      rw [suits.2 o, started, if_pos rfl, Pump.left, List.append_nil] at whole
      exact whole
  | _ =>
      rw [stage] at reported
      exact absurd reported Bool.false_ne_true

end Job

/-- The command of the command line is always given a stream, and the session hears all of it, whoever goes on
when: whatever the thread, the pumps, the loop and other producers do, if only these never name its id. -/
theorem hears (c : Config) (command : String) (now : Instant) (r : ProcessRun) (t : Ticker) :
    ∃ u s, startTool (.start c) execId command now = (some u, s) ∧
      ∀ x, JobSteps r u (.start s t) x → x.Hears r u s := by
  obtain ⟨u, s, given, hosts⟩ := startTool_hosts c command now
  refine ⟨u, s, given, fun x steps => ?_⟩
  have sound := steps.sound hosts (Job.sound_start r u s t)
  refine {
    reported := sound.reported
    only := fun _ sent other => sound.not_completion sent other
    ends := sound.ends hosts
    nearer := ?nearer
    left := fun left => ⟨sound.runner_of_left left, sound.faithful.all left⟩
    output := ?output
    completion := ?completion
    lines := fun o => (List.prefix_append _ _).trans (sound.pumped o).first
    whole := ?whole }
  case nearer =>
    intro y step
    cases step with
    | own step => exact .inl (step.rank_lt sound)
    | around step => exact .inr ⟨rfl, rfl⟩
  case output =>
    intro o i m sent m' now handled
    obtain ⟨same, hosts'⟩ := sound.hosted_at hosts sent (sender_lt o) handled
    obtain ⟨line, chunk⟩ := sound.chunk_of_sent (List.mem_of_getElem? sent)
    exact ⟨same, line, chunk, hosts'.takesChunk line now⟩
  case completion =>
    intro i m sent m' now handled
    obtain ⟨same, hosts'⟩ := sound.hosted_at hosts sent (by decide) handled
    obtain ⟨isStopped, is⟩ := sound.reported.completion (List.mem_of_getElem? sent)
    exact ⟨same, isStopped, is, hosts'.takesCompletion _ _ _ now⟩
  case whole =>
    intro started goes o text is
    refine ⟨fun reported => sound.sentBy_eq reported started goes is, fun left => ?_⟩
    have ended := sound.runner_of_left left
    rw [sound.faithful.allOf left, sound.sentBy_eq (by rw [ended]; rfl) started goes is]

/-- A command that writes one line.  Another producer sends between the line and the completion, and the loop
goes on meanwhile. -/
theorem hears_line : ∃ u s x, startTool (.start .standard) execId "echo a" 0 = (some u, s) ∧
    JobSteps ⟨[(.standard, [97, 10])], .exited 0⟩ u (.start s ⟨1, 5⟩) x ∧
    x.Hears ⟨[(.standard, [97, 10])], .exited 0⟩ u s ∧ x.phase = .left ∧
    x.handled = [(.streamDelta ⟨0, 0⟩ "a", 1), (.command .submitDraft, 2),
      (.toolCompleted execId [0] "" none, 3)] := by
  obtain ⟨u, s, given, all⟩ := hears .standard "echo a" 0 ⟨[(.standard, [97, 10])], .exited 0⟩ ⟨1, 5⟩
  obtain ⟨is_u, rfl⟩ := Prod.mk.inj given
  obtain rfl : u = ⟨⟨0, 0⟩, ⟨0, 0⟩, 0⟩ :=
    Option.some.inj (is_u.symm.trans (show _ = some _ by decide +kernel))
  have begun : JobSteps ⟨[(.standard, [97, 10])], .exited 0⟩ ⟨⟨0, 0⟩, ⟨0, 0⟩, 0⟩
      (.start (startTool (.start .standard) execId "echo a" 0).2 ⟨1, 5⟩) _ :=
    ((Relation.ReflTransGen.refl.tail (.own (.start rfl rfl))).tail (.own (.copy rfl))).tail
      (.own (.give rfl))
  have checked := ((begun.tail (.own (.read (o := .standard) rfl rfl))).tail
    (.own (.pass (o := .standard) rfl (by decide +kernel)))).tail
    (.own (.push (o := .standard) (m := .streamDelta ⟨0, 0⟩ "a") rfl (if_pos (by decide +kernel))))
  have sent := (((checked.tail (.own (.send (o := .standard) rfl))).tail
    (.around (.connect (p := 3) (by decide) (by decide) rfl))).tail
    (.around (.loop (.take rfl (by decide) rfl)))).tail
    (.around (.send (p := 3) (by decide) (by decide) (m := .command .submitDraft) (by decide)))
  have handled := (((sent.tail (.around (.loop (.take rfl (by decide) rfl)))).tail
    (.around (.loop (.handleBatch rfl (.inr rfl) (List.cons_ne_nil _ _))))).tail
    (.own (.close (o := .error) rfl))).tail (.around (.loop (.handle rfl 1)))
  have finished := ((((handled.tail (.own (.finish (o := .error) rfl))).tail
    (.own (.close (o := .standard) rfl))).tail (.own (.exit rfl))).tail
    (.own (.finish (o := .standard) rfl))).tail (.around (.loop (.handle rfl 2)))
  have reported := ((((finished.tail (.own (.join rfl rfl))).tail (.own (.join rfl rfl))).tail
    (.own (.look rfl))).tail (.around (.loop (.again rfl)))).tail (.own (.report rfl))
  have ended := (((reported.tail (.around .sealOff)).tail (.own (.quit rfl))).tail
    (.around (.leave (p := 3) (by decide) (by decide)))).tail
    (.around (.loop (.take rfl (by decide) rfl)))
  have left := ((((ended.tail (.around (.loop (.handleBatch rfl (.inr rfl) (List.cons_ne_nil _ _))))).tail
    (.around (.loop (.handle rfl 3)))).tail (.around (.loop (.again rfl)))).tail
    (.around (.loop (.drained rfl rfl)))).tail (.around (.loop (.wake rfl 4 4)))
  exact ⟨_, _, _, given, left, all _ left, rfl, by decide +kernel⟩

end Headless

end Chronicle
