import Chronicle.Proofs.Headless.Delivery
import Chronicle.Proofs.Headless.Pumps
import Chronicle.Proofs.Session.Cancelling
import Chronicle.Proofs.Session.Hosting

/-!
# The command's parties together

`Job.Sound` is what holds whoever goes on next: `JobSteps.sound`.  While a pump goes on, the thread waits for
it, so the completion is sent after all that the pumps send (`Reported`).  Until the completion is handled the
session hosts the command, since nobody else completes it (`Sound.hosted`); so no pump ever finds its stream
gone, and only a cancelled token makes it miss a line.
-/

namespace Chronicle

namespace Headless

namespace Job

/-- The thread has sent nothing, or one message, and after that no pump has sent anything. -/
inductive Reported (e : ProcessEnd) : Bool → List (Nat × Message) → Prop where
  | none {sent : List (Nat × Message)} (silent : ∀ pm ∈ sent, pm.1 ≠ 0) : Reported e false sent
  | one {before after : List (Nat × Message)} (isStopped : Bool) (first : ∀ pm ∈ before, pm.1 ≠ 0)
      (last : ∀ pm ∈ after, 3 ≤ pm.1) :
      Reported e true (before ++ (0, e.completion execId isStopped) :: after)

variable (r : ProcessRun) (u : Subscription) (s : Session) (x : Job)

/-- What holds at every moment, `s` being the session in the beginning. -/
structure Sound : Prop where
  faithful : x.toWorld.Faithful s
  held : Held x.producers x.runner.held x.pump
  suits : x.runner.Suits r.ending.hasStarted x.pump
  foreign : ∀ pm ∈ x.sent, 3 ≤ pm.1 → pm.2.id? ≠ some execId
  reported : Reported r.ending x.runner.hasReported x.sent
  pumped : ∀ o, Pumped (x.session.tokens.isCancelled u.token) (u.deltas (Text.byteLines (r.written o)))
    (x.sentBy (sender o)) ((x.pump o).left u (r.written o))

variable {r u s x}

theorem sound_start (r : ProcessRun) (u : Subscription) (s : Session) (t : Ticker) :
    (Job.start s t).Sound r u s where
  faithful := by
    have connected : Step (World.start s t) ((World.start s t).connect 0) :=
      .connect 0 List.not_mem_nil rfl
    have cloned : Step ((World.start s t).connect 0) (Job.start s t).toWorld :=
      .clone (p := 0) List.mem_cons_self 1 (by simp [World.connect, World.start])
    exact cloned.faithful (connected.faithful (World.faithful_start s t))
  held := by
    have producers : (Job.start s t).producers = [1, 0] := rfl
    have runner : (Job.start s t).runner = .starting := rfl
    have pump (o : Output) : (Job.start s t).pump o = .absent := rfl
    constructor <;> simp [producers, runner, pump, Runner.held, Pump.isLive]
  suits _ := rfl
  foreign pm mem := absurd mem List.not_mem_nil
  reported := .none fun pm mem => absurd mem List.not_mem_nil
  pumped o := ⟨List.prefix_rfl, fun _ => rfl⟩

/-! ## Steps of a pump -/

/-- When one pump is at another point, only that one has to be looked at. -/
theorem pumped_setPump {isCancelled : Bool} {w : World} {o : Output} {p : Pump}
    (here : Pumped isCancelled (u.deltas (Text.byteLines (r.written o))) (w.sentBy (sender o))
      (p.left u (r.written o)))
    (others : ∀ o', o' ≠ o → Pumped isCancelled (u.deltas (Text.byteLines (r.written o')))
      (w.sentBy (sender o')) ((x.pump o').left u (r.written o'))) :
    ∀ o', Pumped isCancelled (u.deltas (Text.byteLines (r.written o'))) (w.sentBy (sender o'))
      (((x.setPump o p).pump o').left u (r.written o')) :=
  (Function.forall_update_iff x.pump fun o' p => Pumped isCancelled
    (u.deltas (Text.byteLines (r.written o'))) (w.sentBy (sender o')) (p.left u (r.written o'))).mpr
    ⟨here, others⟩

/-- A pump goes on by itself.  It has as much to send as before, or it has been stopped. -/
theorem Sound.move (sound : x.Sound r u s) {o : Output} (live : (x.pump o).isLive = true) {p : Pump}
    (goes : p.isLive = true)
    (left : p.left u (r.written o) = (x.pump o).left u (r.written o) ∨
      x.session.tokens.isCancelled u.token = true ∧ p.left u (r.written o) = []) :
    (x.setPump o p).Sound r u s where
  faithful := sound.faithful
  held := sound.held.move (goes.trans live.symm)
  suits := by
    refine sound.suits.move live ?_
    rintro rfl
    exact absurd goes (by simp [Pump.isLive])
  foreign := sound.foreign
  reported := sound.reported
  pumped := by
    have pumped := sound.pumped o
    refine pumped_setPump ?_ fun o' _ => sound.pumped o'
    rcases left with same | ⟨cancelled, none⟩
    · rw [same]
      exact pumped
    · rw [toWorld_setPump, none, cancelled]
      rw [cancelled] at pumped
      exact pumped.stop

/-! ## Sending -/

theorem sentBy_of_append {w w' : World} {p : Nat} {m : Message} (sent : w'.sent = w.sent ++ [(p, m)])
    (q : Nat) : w'.sentBy q = if p = q then w.sentBy q ++ [m] else w.sentBy q := by
  rw [World.sentBy, World.sentBy, sent, List.filter_append, List.map_append]
  by_cases here : p = q <;> simp [here]

/-- A message that a pump sends comes before the completion. -/
theorem Reported.snoc {e : ProcessEnd} {hasReported : Bool} {sent : List (Nat × Message)}
    (reported : Reported e hasReported sent) {p : Nat} (m : Message)
    (early : hasReported = false ∧ p ≠ 0 ∨ 3 ≤ p) : Reported e hasReported (sent ++ [(p, m)]) := by
  cases reported with
  | none silent =>
      refine .none (List.forall_mem_append.mpr ⟨silent, List.forall_mem_singleton.mpr ?_⟩)
      show p ≠ 0
      omega
  | @one before after isStopped first last =>
      have foreign : 3 ≤ p := early.resolve_left (by simp)
      rw [List.append_assoc, List.cons_append]
      exact .one isStopped first
        (List.forall_mem_append.mpr ⟨last, List.forall_mem_singleton.mpr foreign⟩)

/-- A pump sends a message. -/
theorem Sound.send (sound : x.Sound r u s) {o : Output} {m : Message} {rest : List (List UInt8)}
    (sending : x.pump o = .sending m rest) :
    ((x.within (x.toWorld.send (sender o) m)).setPump o (.reading rest)).Sound r u s := by
  have live : (x.pump o).isLive = true := by rw [sending]; rfl
  have sent := sound.faithful.sent_send (sender o) m
  refine {
    faithful := (Step.send (sound.held.live live) m).faithful sound.faithful
    held := sound.held.move live.symm
    suits := sound.suits.move live (by simp)
    foreign := ?foreign
    reported := ?reported
    pumped := ?pumped }
  case foreign =>
    simp only [toWorld_setPump, toWorld_within, sent]
    refine List.forall_mem_append.mpr ⟨sound.foreign, List.forall_mem_singleton.mpr fun foreign => ?_⟩
    exact absurd foreign (Nat.not_le.mpr (sender_lt o))
  case reported =>
    simp only [toWorld_setPump, toWorld_within, sent]
    exact sound.reported.snoc m (.inl ⟨sound.suits.unreported live, sender_ne_zero o⟩)
  case pumped =>
    have pumped := sound.pumped o
    refine pumped_setPump ?_ fun o' other => ?_
    · rw [toWorld_setPump, toWorld_within, sentBy_of_append sent, if_pos rfl]
      rw [sending] at pumped
      exact pumped.send
    · rw [toWorld_setPump, toWorld_within, sentBy_of_append sent,
        if_neg fun same => other (sender_injective same).symm]
      exact sound.pumped o'

/-! ## The end of a pump -/

/-- A pump has ended, and gives its sender back. -/
theorem Sound.finish (sound : x.Sound r u s) {o : Output} (ending : x.pump o = .ending) :
    ((x.within (x.leave (sender o))).setPump o .ended).Sound r u s := by
  have live : (x.pump o).isLive = true := by rw [ending]; rfl
  have alone : o = .error → 1 ∉ x.runner.held := by
    rintro rfl
    exact sound.suits.not_mem_held live
  refine {
    faithful := (Step.leave (sound.held.live live)).faithful sound.faithful
    held := sound.held.finish sound.faithful.nodup alone
    suits := sound.suits.move live (by simp)
    foreign := sound.foreign
    reported := sound.reported
    pumped := ?pumped }
  case pumped =>
    have pumped := sound.pumped o
    rw [ending] at pumped
    exact pumped_setPump pumped fun o' _ => sound.pumped o'

/-! ## Steps of the thread -/

/-- The thread goes on by itself. -/
theorem Sound.proceed (sound : x.Sound r u s) {runner : Runner}
    (suits : runner.Suits r.ending.hasStarted x.pump) (held : runner.held = x.runner.held)
    (reported : runner.hasReported = x.runner.hasReported) : (x.setRunner runner).Sound r u s where
  faithful := sound.faithful
  held := by
    rw [runner_setRunner, held]
    exact sound.held
  suits := suits
  foreign := sound.foreign
  reported := by
    rw [runner_setRunner, reported]
    exact sound.reported
  pumped := sound.pumped

/-- The thread sends the completion. -/
theorem Sound.complete (sound : x.Sound r u s) (unreported : x.runner.hasReported = false)
    (own : x.runner.held.Sublist [0, 1]) (mine : 0 ∈ x.runner.held)
    (finished : ∀ o, x.pump o = if r.ending.hasStarted then .ended else .absent) (isStopped : Bool) :
    ((x.within (x.send 0 (r.ending.completion execId isStopped))).setRunner
      (.leaving x.runner.held)).Sound r u s := by
  have sent := sound.faithful.sent_send 0 (r.ending.completion execId isStopped)
  refine {
    faithful := (Step.send (sound.held.runner.mpr mine) _).faithful sound.faithful
    held := sound.held
    suits := ⟨own, finished⟩
    foreign := ?foreign
    reported := ?reported
    pumped := ?pumped }
  case foreign =>
    simp only [toWorld_setRunner, toWorld_within, sent]
    refine List.forall_mem_append.mpr ⟨sound.foreign, List.forall_mem_singleton.mpr fun foreign => ?_⟩
    exact absurd foreign (by simp)
  case reported =>
    have reported := sound.reported
    rw [unreported] at reported
    cases reported with
    | none silent =>
        simp only [toWorld_setRunner, toWorld_within, sent]
        exact .one isStopped silent (by simp)
  case pumped =>
    intro o
    simp only [toWorld_setRunner, toWorld_within, sentBy_of_append sent,
      if_neg (sender_ne_zero o).symm]
    exact sound.pumped o

/-- An output gets its pump. -/
theorem Sound.open (sound : x.Sound r u s) {o : Output} {outputs : List Output}
    (opening : x.runner = .opening (o :: outputs)) {w : World} (faithful : w.Faithful s)
    (sent : w.sent = x.sent) (session : w.session = x.session)
    (held : Held w.producers (Runner.opening outputs).held
      (Function.update x.pump o (.reading (Text.byteLines (r.written o))))) :
    (((x.within w).setRunner (.opening outputs)).setPump o
      (.reading (Text.byteLines (r.written o)))).Sound r u s := by
  have suits := sound.suits
  have reported := sound.reported
  rw [opening] at suits reported
  have absent : x.pump o = .absent := (suits.2.2 o).mpr List.mem_cons_self
  refine {
    faithful := faithful
    held := held
    suits := suits.pumped (by simp)
    foreign := ?foreign
    reported := ?reported
    pumped := ?pumped }
  case foreign =>
    simp only [toWorld_setPump, toWorld_setRunner, toWorld_within, sent]
    exact sound.foreign
  case reported =>
    simp only [toWorld_setPump, toWorld_setRunner, toWorld_within, sent]
    exact reported
  case pumped =>
    have pumped := sound.pumped o
    rw [absent] at pumped
    simp only [toWorld_setPump, toWorld_setRunner, toWorld_within, World.sentBy, sent, session]
    exact pumped_setPump pumped fun o' _ => sound.pumped o'

/-- The thread gives one of its senders back. -/
theorem Sound.quit (sound : x.Sound r u s) {p : Nat} {senders : List Nat}
    (leaving : x.runner = .leaving (p :: senders)) :
    ((x.within (x.leave p)).setRunner (.leaving senders)).Sound r u s := by
  have held := sound.held
  have suits := sound.suits
  have reported := sound.reported
  rw [leaving] at held suits reported
  obtain ⟨own, finished⟩ := suits
  have idle : (x.pump .error).isLive = false := by
    rw [finished]
    cases r.ending.hasStarted <;> rfl
  have there : p ∈ x.producers := by
    have mine : p ∈ [0, 1] := own.subset List.mem_cons_self
    rcases List.mem_pair.mp mine with rfl | rfl
    · exact held.runner.mpr List.mem_cons_self
    · exact held.error.mpr (.inl List.mem_cons_self)
  exact {
    faithful := (Step.leave there).faithful sound.faithful
    held := held.quit sound.faithful.nodup own idle
    suits := ⟨(List.sublist_cons_self p senders).trans own, finished⟩
    foreign := sound.foreign
    reported := reported
    pumped := sound.pumped }

/-! ## The session meanwhile -/

theorem mem_sentBy {w : World} {p : Nat} {m : Message} : m ∈ w.sentBy p ↔ (p, m) ∈ w.sent := by
  simp [World.sentBy]

/-- What a pump has sent are lines of its output. -/
theorem Sound.chunk_of_sent (sound : x.Sound r u s) {o : Output} {m : Message}
    (sent : (sender o, m) ∈ x.sent) : ∃ line, m = .streamDelta u.target line := by
  have mem : m ∈ u.deltas (Text.byteLines (r.written o)) :=
    (sound.pumped o).first.subset (List.mem_append_left _ (mem_sentBy.mpr sent))
  obtain ⟨line, -, rfl⟩ := List.mem_map.mp mem
  exact ⟨line, rfl⟩

/-- Nobody but the thread completes the command. -/
theorem Sound.not_completion (sound : x.Sound r u s) {pm : Nat × Message} (sent : pm ∈ x.sent)
    (other : pm.1 ≠ 0) (codes : List Int) (output : String) (summary : Option String) :
    pm.2 ≠ .toolCompleted execId codes output summary := by
  intro is
  by_cases foreign : 3 ≤ pm.1
  · exact sound.foreign pm sent foreign (by rw [is]; rfl)
  · obtain ⟨o, same⟩ : ∃ o, pm.1 = sender o := by
      have number : pm.1 = 1 ∨ pm.1 = 2 := by omega
      rcases number with one | two
      · exact ⟨.error, one⟩
      · exact ⟨.standard, two⟩
    obtain ⟨line, chunk⟩ := sound.chunk_of_sent (o := o) (m := pm.2) (same ▸ sent)
    exact absurd (is.symm.trans chunk) (by simp)

/-- A session that handles everything but the completion goes on hosting the command. -/
theorem hosts_fold (hosts : s.Hosts execId u) (handled : List (Message × Instant))
    (other : ∀ mn ∈ handled, ∀ codes output summary, mn.1 ≠ .toolCompleted execId codes output summary) :
    (World.fold s handled).Hosts execId u := by
  induction handled generalizing s with
  | nil => exact hosts
  | cons mn handled ih =>
      have first := hosts.handle rfl (other mn List.mem_cons_self) mn.2
      exact ih first fun mn mem => other mn (List.mem_cons_of_mem _ mem)

/-- Until the thread has reported, the command is hosted. -/
theorem Sound.hosted (sound : x.Sound r u s) (hosts : s.Hosts execId u)
    (unreported : x.runner.hasReported = false) : x.session.Hosts execId u := by
  rw [sound.faithful.session]
  refine hosts_fold hosts x.handled fun mn mem => ?_
  have handled : mn.1 ∈ x.sent.map (·.2) :=
    sound.faithful.first.subset (List.mem_map_of_mem mem)
  obtain ⟨pm, sent, same⟩ := List.mem_map.mp handled
  have reported := sound.reported
  rw [unreported] at reported
  cases reported with
  | none silent => exact same ▸ sound.not_completion sent (silent pm sent)

end Job

/-! ## All steps -/

section Steps

open Job

variable {r : ProcessRun} {u : Subscription} {s : Session} {x y : Job}

theorem OwnStep.sound (step : OwnStep r u x y) (hosts : s.Hosts execId u) (sound : x.Sound r u s) :
    y.Sound r u s := by
  have suits := sound.suits
  cases step with
  | fail starting fails =>
      rw [starting] at suits
      have done := sound.complete (by rw [starting]; rfl) (by rw [starting]; exact .refl _)
        (by rw [starting]; exact List.mem_cons_self) (by rw [fails]; exact suits) false
      rw [starting] at done
      exact done
  | start starting starts =>
      rw [starting] at suits
      refine sound.proceed ⟨starts, List.suffix_rfl, fun o => ?_⟩ (by rw [starting]; rfl)
        (by rw [starting]; rfl)
      exact iff_of_true (suits o) (by cases o <;> simp)
  | @copy outputs opening =>
      have held := sound.held
      rw [opening] at suits held
      have absent : x.pump .standard = .absent := (suits.2.2 _).mpr List.mem_cons_self
      have new : 2 ∉ x.producers := by
        rw [held.standard, absent]
        exact Bool.false_ne_true
      have there : 0 ∈ x.producers := by
        rw [held.runner, Runner.held]
        split <;> exact List.mem_cons_self
      have same : (Runner.opening (.standard :: outputs)).held = (Runner.opening outputs).held := by
        simp [Runner.held]
      refine sound.open opening ((Step.clone there 2 new).faithful sound.faithful) rfl rfl ?_
      exact same ▸ held.copy rfl
  | @give outputs opening =>
      have held := sound.held
      rw [opening] at held
      have had : 1 ∈ (Runner.opening (.error :: outputs)).held := by simp [Runner.held]
      have kept : 0 ∈ (Runner.opening outputs).held ↔ 0 ∈ (Runner.opening (.error :: outputs)).held := by
        simp only [Runner.held]
        split <;> simp
      exact sound.open (w := x.toWorld) opening sound.faithful rfl rfl (held.give had kept rfl)
  | exit opening =>
      rw [opening] at suits
      refine sound.proceed ⟨suits.1, fun o => ⟨?_, ?_⟩⟩ (by rw [opening]; rfl) (by rw [opening]; rfl)
      · exact fun absent => absurd ((suits.2.2 o).mp absent) List.not_mem_nil
      · exact fun other => absurd (by cases o <;> simp) other
  | @join o outputs joining finished =>
      rw [joining] at suits
      refine sound.proceed ⟨suits.1, fun o' => ⟨(suits.2 o').1, fun other => ?_⟩⟩ (by rw [joining]; rfl)
        (by rw [joining]; rfl)
      by_cases here : o' = o
      · exact here ▸ finished
      · exact (suits.2 o').2 (by simp [here, other])
  | look joining =>
      rw [joining] at suits
      exact sound.proceed ⟨suits.1, fun o => (suits.2 o).2 List.not_mem_nil⟩ (by rw [joining]; rfl)
        (by rw [joining]; rfl)
  | @report isStopped reporting =>
      rw [reporting] at suits
      have one : [0].Sublist [0, 1] := by decide
      have done := sound.complete (by rw [reporting]; rfl) (by rw [reporting]; exact one)
        (by rw [reporting]; exact List.mem_cons_self) (by rw [suits.1]; exact suits.2) isStopped
      rw [reporting] at done
      exact done
  | quit leaving => exact sound.quit leaving
  | read reading is =>
      refine sound.move (by rw [reading]; rfl) rfl (.inl ?_)
      rw [reading, Pump.left, Pump.left, u.deltas_cons is]
  | garbled reading none =>
      refine sound.move (by rw [reading]; rfl) rfl (.inl ?_)
      rw [reading, Pump.left, Pump.left, u.deltas_garbled none]
  | close reading =>
      refine sound.move (by rw [reading]; rfl) rfl (.inl ?_)
      rw [reading]
      rfl
  | pass checking goes =>
      refine sound.move (by rw [checking]; rfl) rfl (.inl ?_)
      rw [checking]
      rfl
  | stop checking stopped => exact sound.move (by rw [checking]; rfl) rfl (.inr ⟨stopped, rfl⟩)
  | push pushing alive =>
      refine sound.move (by rw [pushing]; rfl) rfl (.inl ?_)
      rw [pushing, Session.eq_of_push alive]
      rfl
  | @lose o text rest pushing gone =>
      have live : (x.pump o).isLive = true := by rw [pushing]; rfl
      have alive := (sound.hosted hosts (suits.unreported live)).isAlive
      rw [Subscription.push, if_pos alive] at gone
      exact absurd gone (by simp)
  | send sending =>
      rw [if_pos (by rw [Mailbox.send_of_kept sound.faithful.kept])]
      exact sound.send sending
  | finish ending => exact sound.finish ending

/-- What others do to the senders of the command, to what has been sent, and to the session. -/
theorem Around.frame {w w' : World} (step : Around w w') (faithful : w.Faithful s) :
    (∀ p < 3, p ∈ w'.producers ↔ p ∈ w.producers) ∧
      (w'.sent = w.sent ∨ ∃ p m, w'.sent = w.sent ++ [(p, m)] ∧ 3 ≤ p ∧ m.id? ≠ some execId) ∧
      (w'.session = w.session ∨ ∃ m now, w'.session = (w.session.handle m now).2) := by
  cases step with
  | loop step =>
      obtain ⟨producers, sent, session⟩ := step.frame
      exact ⟨fun p _ => by rw [producers], .inl sent, session⟩
  | @connect p foreign new granted =>
      refine ⟨fun q own => ?_, .inl rfl, .inl rfl⟩
      have other : q ≠ p := by omega
      simp [World.connect, other]
  | @clone p q there foreign new =>
      refine ⟨fun q' own => ?_, .inl rfl, .inl rfl⟩
      have other : q' ≠ q := by omega
      simp [World.clone, other]
  | @leave p there foreign =>
      refine ⟨fun q own => ?_, .inl rfl, .inl rfl⟩
      have other : q ≠ p := by omega
      exact List.mem_erase_of_ne other
  | @send p there foreign m silent =>
      exact ⟨fun _ _ => Iff.rfl, .inr ⟨p, m, faithful.sent_send p m, foreign, silent⟩, .inl rfl⟩
  | sealOff => exact ⟨fun _ _ => Iff.rfl, .inl rfl, .inl rfl⟩

theorem Around.sound {w : World} (step : Around x.toWorld w) (sound : x.Sound r u s) :
    (x.within w).Sound r u s := by
  obtain ⟨producers, sent, session⟩ := step.frame sound.faithful
  have stays : x.session.tokens.isCancelled u.token = true →
      w.session.tokens.isCancelled u.token = true := by
    intro cancelled
    rcases session with same | ⟨m, now, same⟩
    · rw [same]
      exact cancelled
    · rw [same]
      exact x.session.isCancelled_handle cancelled m now
  have sentBy (o : Output) : w.sentBy (sender o) = x.sentBy (sender o) := by
    rcases sent with same | ⟨p, m, same, foreign, -⟩
    · rw [World.sentBy, same, World.sentBy]
    · rw [sentBy_of_append same, if_neg (by have := sender_lt o; omega)]
  refine {
    faithful := step.step.faithful sound.faithful
    held := ⟨?_, ?_, ?_⟩
    suits := sound.suits
    foreign := ?foreign
    reported := ?reported
    pumped := ?pumped }
  · exact (producers 0 (by decide)).trans sound.held.runner
  · exact (producers 1 (by decide)).trans sound.held.error
  · exact (producers 2 (by decide)).trans sound.held.standard
  case foreign =>
    rw [toWorld_within]
    rcases sent with same | ⟨p, m, same, -, silent⟩
    · rw [same]
      exact sound.foreign
    · rw [same]
      exact List.forall_mem_append.mpr ⟨sound.foreign, List.forall_mem_singleton.mpr fun _ => silent⟩
  case reported =>
    rw [toWorld_within]
    rcases sent with same | ⟨p, m, same, foreign, -⟩
    · rw [same]
      exact sound.reported
    · rw [same]
      exact sound.reported.snoc m (.inr foreign)
  case pumped =>
    intro o
    rw [toWorld_within, sentBy]
    exact (sound.pumped o).later stays

theorem JobSteps.sound (steps : JobSteps r u x y) (hosts : s.Hosts execId u) (sound : x.Sound r u s) :
    y.Sound r u s := by
  induction steps with
  | refl => exact sound
  | tail _ step ih =>
      cases step with
      | own step => exact step.sound hosts ih
      | around step => exact step.sound ih

end Steps

end Headless

end Chronicle
