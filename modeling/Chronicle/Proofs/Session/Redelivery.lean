import Chronicle.Proofs.Session.Acknowledgement
import Chronicle.Proofs.Session.Erasure
import Chronicle.Proofs.Store.Ids

/-!
# Acknowledgements that come twice

An acknowledgement under an id is for the entry of that id.  Once that has been confirmed, another one of
the same text changes nothing that is told of the timeline (`Store.account`).  An instruction that is
appended, since none was found, is appended under the id, and by this it is found the next time.

But an instruction that is found by its text keeps its own id, and the one that it was acknowledged under is
not remembered.  If the acknowledgement comes again it is for another instruction: for the one that waits
then, if the text of that one matches too, and otherwise for one that is appended.  Nothing else makes a
difference between one delivery and two (`settles_iff_run`).
-/

namespace Chronicle

variable {c : Correlator} {s : Store} {l : Log} {k k' : Key} {e e' : Entry} {id : CorrelationId}
  {author text : String} {now again : Instant}

/-! ## What is told -/

/-- What is told of an entry: its id, what it is about, and how far it has come. -/
def Entry.told (e : Entry) : CorrelationId × Kind × Status := (e.id, e.kind, e.status)

/-- It is confirmed already, in the words of the acknowledgement. -/
structure Entry.Confirmed (e : Entry) (author text : String) : Prop where
  kind : e.kind = .instruction author text true
  finished : e.status.isFinished = true

namespace Entry

theorem confirmed_confirm (e : Entry) (author text : String) (now : Instant) :
    (e.confirm author text now).Confirmed author text where
  kind := e.confirm_kind author text now
  finished := by
    rw [confirm_status]
    split
    · assumption
    · rfl

theorem Confirmed.told_confirm (confirmed : e.Confirmed author text) (now : Instant) :
    (e.confirm author text now).told = e.told := by
  have id : (e.confirm author text now).id = e.id :=
    congrArg Prod.fst (e.confirm_frame author text now).1
  rw [told, told, id, confirm_kind, confirm_status, confirmed.kind, if_pos confirmed.finished]

theorem told_confirm_ne (waits : e.kind.IsUnconfirmed) (author text : String) (now : Instant) :
    (e.confirm author text now).told ≠ e.told := by
  intro same
  obtain ⟨author', text', kind⟩ := waits
  have kinds : (e.confirm author text now).kind = e.kind := congrArg (·.2.1) same
  rw [confirm_kind, kind] at kinds
  exact absurd kinds (by simp)

end Entry

namespace Store

/-- What is told of the timeline, entry by entry. -/
def account (s : Store) : List (CorrelationId × Kind × Status) := s.entries.map fun ke => ke.2.told

theorem account_unflagged (s : Store) : s.unflagged.account = s.account := by
  rw [account, entries_unflagged, List.map_map]
  rfl

theorem Sound.account_update_iff (sound : s.Sound) (found : s.get? k = some e) (f : Entry → Entry) :
    (s.update k f).account = s.account ↔ (f e).told = e.told := by
  rw [account, account, entries_update, List.map_map, List.map_inj_left]
  constructor
  · intro same
    have at_k := same (k, e) (sound.mem_entries.mpr found)
    rwa [Function.comp_apply, if_pos rfl] at at_k
  · rintro same ⟨k', e'⟩ mem
    rw [Function.comp_apply]
    split
    · next at_k =>
        obtain rfl : k' = k := at_k
        obtain rfl := Option.some.inj (found.symm.trans (sound.mem_entries.mp mem))
        exact same
    · rfl

theorem Sound.length_account (sound : s.Sound) : s.account.length = s.size := by
  rw [account, List.length_map, sound.length_entries]

/-- Once the latest instruction that waits is confirmed, it is the one before it that waits last. -/
theorem Sound.isLatest_confirm_iff (sound : s.Sound)
    (latest : s.IsLatest (·.kind.IsUnconfirmed) k e) (author text : String) (now : Instant) :
    (s.update k (·.confirm author text now)).IsLatest (·.kind.IsUnconfirmed) k' e' ↔
      s.IsLatest (fun e' => e'.kind.IsUnconfirmed ∧ e'.sequence < e.sequence) k' e' := by
  have found := sound.mem_entries.mp latest.mem
  refine IsLatest.congr fun ke => ?_
  rw [entries_update, List.mem_map]
  constructor
  · rintro ⟨⟨⟨k', e'⟩, mem, rfl⟩, waits⟩
    by_cases same : k' = k
    · rw [if_pos same] at waits
      obtain ⟨author', text', kind⟩ := waits
      exact absurd ((e'.confirm_kind author text now).symm.trans kind) (by simp)
    · rw [if_neg same] at waits ⊢
      refine ⟨mem, waits, Nat.lt_of_le_of_ne (latest.highest _ mem waits) ?_⟩
      intro number
      exact same (sound.key_of_sequence (sound.mem_entries.mp mem) found number)
  · rintro ⟨mem, waits, before⟩
    have other : ke.1 ≠ k := by
      intro same
      have found' := sound.mem_entries.mp mem
      rw [same] at found'
      obtain rfl := Option.some.inj (found.symm.trans found')
      exact Nat.lt_irrefl _ before
    exact ⟨⟨ke, mem, if_neg other⟩, waits⟩

end Store

/-! ## What is found -/

namespace Correlator

theorem acknowledged?_of_known (known : s.keyOf? id = some k) (c : Correlator) (text : String) :
    c.acknowledged? s (some id) text = some k := by
  rw [acknowledged?, Option.bind_some, known]

theorem acknowledged?_of_unknown (unknown : s.keyOf? id = none) (c : Correlator) (text : String) :
    c.acknowledged? s (some id) text = c.similarInstruction? s text := by
  rw [acknowledged?, Option.bind_some, unknown]

/-- An acknowledgement under the id of an entry that is no instruction is refused. -/
theorem acknowledge_of_other (target : c.acknowledged? s (some id) text = some k)
    (found : s.get? k = some e) (other : e.kind.isInstruction = false) (label author : String)
    (now : Instant) :
    c.acknowledge s label (some id) author text now = c.refuse s (.duplicateCorrelation e.id label) := by
  simp only [acknowledge, target, found, other]
  rfl

/-- So is one that is for no entry, under an id that has been seen. -/
theorem acknowledge_of_seen (target : c.acknowledged? s (some id) text = none)
    (seen : s.hasSeen id = true) (label author : String) (now : Instant) :
    c.acknowledge s label (some id) author text now = c.refuse s (.duplicateCorrelation id label) := by
  simp only [acknowledge, target, startNew, seen]
  rfl

/-- One that is for no entry, under an id that has not been seen, is appended. -/
theorem acknowledge_of_unseen (target : c.acknowledged? s (some id) text = none)
    (unseen : s.hasSeen id = false) (label author : String) (now : Instant) :
    ∃ started, started = c.start s id (.instruction author text true) .completed now ∧
      c.acknowledge s label (some id) author text now =
        ⟨.ok (.appended started.1), started.2.1, started.2.2⟩ := by
  refine ⟨_, rfl, ?_⟩
  simp only [acknowledge, target, startNew, unseen]
  rfl

/-- An instruction that is known by the id of the acknowledgement, and confirmed in its words, stays as it
is told. -/
theorem account_acknowledge_of_confirmed (sound : s.Sound) (known : s.keyOf? id = some k)
    (found : s.get? k = some e) (confirmed : e.Confirmed author text) (c : Correlator) (label : String)
    (now : Instant) :
    (c.acknowledge s label (some id) author text now).store.account = s.account := by
  have instruction : e.kind.isInstruction = true := by rw [confirmed.kind]; rfl
  rw [acknowledge_of_found (acknowledged?_of_known known c text) found instruction]
  exact (sound.account_update_iff found _).mpr (confirmed.told_confirm now)

/-- An acknowledgement that is appended is one entry more, and it is known by its id from then on. -/
theorem known_start (sound : s.Sound) (c : Correlator) (id : CorrelationId) (author text : String)
    (now : Instant) {started : Key × Correlator × Store}
    (is : started = c.start s id (.instruction author text true) .completed now) :
    started.2.2.Sound ∧ started.2.2.size = s.size + 1 ∧ started.2.2.keyOf? id = some started.1 ∧
      ∃ e, started.2.2.get? started.1 = some e ∧ e.Confirmed author text := by
  obtain ⟨-, -, order⟩ := closeThoughts_frame c s now
  have closed := c.sound_closeThoughts sound now
  have found := (closed.get?_append id (.instruction author text true) .completed now
    ((c.closeThoughts s now).2.append id (.instruction author text true) .completed now).1).trans
      (if_pos rfl)
  subst is
  refine ⟨closed.append id _ .completed now, ?size, Store.keyOf?_eq_some.mpr ⟨?known, _, found⟩, _, found,
    rfl, rfl⟩
  case size =>
    refine ((c.closeThoughts s now).2.size_append id _ .completed now).trans ?_
    rw [Store.size, order, Store.size]
  case known => exact (Store.lookup_append _ id _ .completed now id).trans (if_pos rfl)

end Correlator

/-! ## One delivery after the other -/

namespace Log

/-- One delivery of an acknowledgement uses it up.  If it is for the latest instruction that waits, found by
its text, then its id can be given to no entry, and the instruction that waits next is none that it matches. -/
def UsesUp (l : Log) (id : CorrelationId) (text : String) : Prop :=
  ∀ k e, l.store.keyOf? id = none → l.store.IsLatest (·.kind.IsUnconfirmed) k e →
    l.correlator.Awaits text e →
      l.store.hasSeen id = true ∧
        ∀ k' e', l.store.IsLatest (fun e' => e'.kind.IsUnconfirmed ∧ e'.sequence < e.sequence) k' e' →
          ¬ l.correlator.Awaits text e'

/-- What the next delivery comes to when the first one has confirmed the latest instruction that waits, found
by its text. -/
theorem Coherent.account_again_of_similar (holds : l.Coherent) (unknown : l.store.keyOf? id = none)
    (latest : l.store.IsLatest (·.kind.IsUnconfirmed) k e) (awaits : l.correlator.Awaits text e)
    (label : String) (now again : Instant) {s : Store}
    (is : s = l.store.update k (·.confirm author text now)) :
    (l.correlator.acknowledge s label (some id) author text again).store.account = s.account ↔
      l.UsesUp id text := by
  have found : l.store.get? k = some e := holds.sound.mem_entries.mp latest.mem
  have sound : s.Sound := is ▸ holds.sound.edit k (Entry.confirmEdit author text now)
  have next {k' : Key} {e' : Entry} : s.IsLatest (·.kind.IsUnconfirmed) k' e' ↔
      l.store.IsLatest (fun e' => e'.kind.IsUnconfirmed ∧ e'.sequence < e.sequence) k' e' := by
    rw [is]
    exact holds.sound.isLatest_confirm_iff latest author text now
  have unknown' : s.keyOf? id = none := by
    rw [is, Store.keyOf?_update]
    exact unknown
  have target := Correlator.acknowledged?_of_unknown unknown' l.correlator text
  cases similar : l.correlator.similarInstruction? s text with
  | some k' =>
      -- another instruction is confirmed
      obtain ⟨e', latest', awaits'⟩ := Correlator.isLatest_of_similarInstruction? sound similar
      have found' := sound.mem_entries.mp latest'.mem
      rw [Correlator.acknowledge_of_found (target.trans similar) found'
        awaits'.isUnconfirmed.isInstruction]
      refine iff_of_false ?_ ?_
      · intro same
        exact Entry.told_confirm_ne awaits'.isUnconfirmed author text again
          ((sound.account_update_iff found' _).mp same)
      · intro usesUp
        exact (usesUp k e unknown latest awaits).2 k' e' (next.mp latest') awaits'
  | none =>
      cases seen : l.store.hasSeen id with
      | true =>
          rw [Correlator.acknowledge_of_seen (target.trans similar) (is ▸ seen)]
          refine iff_of_true rfl ?_
          intro k₁ e₁ _ latest₁ _
          obtain ⟨rfl, rfl⟩ := Prod.mk.inj (latest₁.unique holds.sound latest)
          refine ⟨seen, ?_⟩
          intro k' e' latest' awaits'
          have found' := Correlator.similarInstruction?_of_isLatest sound (next.mpr latest') awaits'
          exact absurd (similar.symm.trans found') (by simp)
      | false =>
          -- an entry is appended
          obtain ⟨started, started_is, same⟩ :=
            Correlator.acknowledge_of_unseen (target.trans similar) (is ▸ seen) label author again
          obtain ⟨sound', size, -⟩ := Correlator.known_start sound _ id author text again started_is
          rw [same]
          refine iff_of_false ?_ ?_
          · intro same
            have lengths := congrArg List.length same
            rw [sound.length_account, sound'.length_account, size] at lengths
            exact absurd lengths (Nat.succ_ne_self _)
          · intro usesUp
            exact absurd (seen.symm.trans (usesUp k e unknown latest awaits).1) Bool.false_ne_true

/-- The same acknowledgement, taken in again, changes nothing that is told exactly if it was used up. -/
theorem Coherent.account_again_iff (holds : l.Coherent) (id : CorrelationId) (author text : String)
    (label : String) (now again : Instant) {r : Ingested}
    (is : r = l.correlator.acknowledge l.store label (some id) author text now) :
    (r.correlator.acknowledge r.store label (some id) author text again).store.account =
        r.store.account ↔ l.UsesUp id text := by
  cases known : l.store.keyOf? id with
  | some k =>
      obtain ⟨-, e, found⟩ := Store.keyOf?_eq_some.mp known
      have target := Correlator.acknowledged?_of_known known l.correlator text
      refine iff_of_true ?_ ?_
      · cases instruction : e.kind.isInstruction with
        | true =>
            rw [is, Correlator.acknowledge_of_found target found instruction]
            refine Correlator.account_acknowledge_of_confirmed
              (holds.sound.edit k (Entry.confirmEdit author text now))
              ((Store.keyOf?_update _ k _ id).trans known) ?_ (e.confirmed_confirm author text now)
              _ label again
            show (l.store.update k (·.confirm author text now)).get? k = _
            rw [Store.get?_update_self, found]
            rfl
        | false =>
            rw [is, Correlator.acknowledge_of_other target found instruction]
            show (l.correlator.acknowledge l.store label (some id) author text again).store.account = _
            rw [Correlator.acknowledge_of_other target found instruction]
      · intro k' e' unknown
        exact absurd (known.symm.trans unknown) (by simp)
  | none =>
      have target := Correlator.acknowledged?_of_unknown known l.correlator text
      cases similar : l.correlator.similarInstruction? l.store text with
      | some k =>
          obtain ⟨e, latest, awaits⟩ := Correlator.isLatest_of_similarInstruction? holds.sound similar
          rw [is, Correlator.acknowledge_of_found (target.trans similar)
            (holds.sound.mem_entries.mp latest.mem) awaits.isUnconfirmed.isInstruction]
          exact holds.account_again_of_similar known latest awaits label now again rfl
      | none =>
          refine iff_of_true ?_ ?_
          · cases seen : l.store.hasSeen id with
            | true =>
                rw [is, Correlator.acknowledge_of_seen (target.trans similar) seen]
                show (l.correlator.acknowledge l.store label (some id) author text again).store.account = _
                rw [Correlator.acknowledge_of_seen (target.trans similar) seen]
            | false =>
                obtain ⟨started, started_is, same⟩ :=
                  Correlator.acknowledge_of_unseen (target.trans similar) seen label author now
                obtain ⟨sound, -, known', e, found, confirmed⟩ :=
                  Correlator.known_start holds.sound _ id author text now started_is
                rw [is, same]
                exact Correlator.account_acknowledge_of_confirmed sound known' found confirmed _ label again
          · intro k e _ latest awaits
            have found := Correlator.similarInstruction?_of_isLatest holds.sound latest awaits
            exact absurd (similar.symm.trans found) (by simp)

end Log

/-! ## In a session -/

namespace Session

/-- Delivered once or delivered again, an acknowledgement leaves the same to be told. -/
def Settles (s : Session) (id : CorrelationId) (author text : String) : Prop :=
  ∀ now again : Instant,
    ((s.handle (.inputAcknowledged (some id) author text) now).2.handle
        (.inputAcknowledged (some id) author text) again).2.store.account =
      (s.handle (.inputAcknowledged (some id) author text) now).2.store.account

/-- Without a cap on the history, what becomes of an acknowledgement in a session is what the correlator makes
of it, but for the flags of a fork. -/
theorem handle_acknowledged {s : Session} (uncapped : s.historyCap = 0) {m : Message}
    (acknowledged : m = .inputAcknowledged (some id) author text) (now : Instant) :
    (s.handle m now).2.correlator = (s.correlator.apply s.store m now).correlator ∧
      (s.handle m now).2.store.unflagged = (s.correlator.apply s.store m now).store.unflagged := by
  have left := unforked_handle (s := s) (m := m) now uncapped (by rw [acknowledged]; rfl)
  have correlator : (s.basis.unforked.hear m now).correlator =
      (s.correlator.apply s.store.unflagged m now).correlator := by
    rw [acknowledged]
    rfl
  have store : (s.basis.unforked.hear m now).store =
      (s.correlator.apply s.store.unflagged m now).store := by
    rw [acknowledged]
    rfl
  rw [← left, Correlator.apply_unflagged] at correlator store
  exact ⟨correlator, store⟩

/-- A message has nothing to do with flags, so the two deliveries are to the correlator what they are to the
session. -/
theorem account_again {s : Session} (uncapped : s.historyCap = 0) {m : Message}
    (acknowledged : m = .inputAcknowledged (some id) author text) (now again : Instant)
    {r : Ingested} (is : r = s.correlator.apply s.store m now) :
    (s.handle m now).2.store.account = r.store.account ∧
      ((s.handle m now).2.handle m again).2.store.account =
        (r.correlator.apply r.store m again).store.account := by
  have uncapped' : (s.handle m now).2.historyCap = 0 :=
    (historyCap_perform s (.handle m now)).trans uncapped
  obtain ⟨correlator, store⟩ := handle_acknowledged uncapped acknowledged now
  obtain ⟨-, store'⟩ := handle_acknowledged uncapped' acknowledged again
  generalize (s.handle m now).2 = s₁ at correlator store store'
  rw [← is] at correlator store
  have alike : (r.correlator.apply s₁.store m again).unflagged =
      (r.correlator.apply r.store m again).unflagged := by
    rw [← Correlator.apply_unflagged, ← Correlator.apply_unflagged, store]
  rw [correlator] at store'
  have twice : (s₁.handle m again).2.store.unflagged =
      (r.correlator.apply r.store m again).store.unflagged :=
    store'.trans (congrArg Ingested.store alike)
  constructor
  · rw [← Store.account_unflagged, store, Store.account_unflagged]
  · rw [← Store.account_unflagged, twice, Store.account_unflagged]

/-- In every state that is reached without a cap on the history, an acknowledgement settles exactly if one
delivery uses it up. -/
theorem settles_iff_run (c : Config) (uncapped : c.historyCap = 0) (actions : List Action)
    (id : CorrelationId) (author text : String) :
    ((start c).run actions).Settles id author text ↔ ((start c).run actions).log.UsesUp id text := by
  have holds := coherent_log_run (coherent_log_start c) actions
  have uncapped' : ((start c).run actions).historyCap = 0 := (run_historyCap _ actions).trans uncapped
  generalize (start c).run actions = s at holds uncapped'
  have accounts (now again : Instant) :
      ((s.handle (.inputAcknowledged (some id) author text) now).2.handle
          (.inputAcknowledged (some id) author text) again).2.store.account =
        (s.handle (.inputAcknowledged (some id) author text) now).2.store.account ↔
      s.log.UsesUp id text := by
    obtain ⟨once, twice⟩ := account_again uncapped' rfl now again rfl
    rw [once, twice]
    exact holds.account_again_iff id author text _ now again rfl
  constructor
  · intro settles
    exact (accounts 0 0).mp (settles 0 0)
  · intro usesUp now again
    exact (accounts now again).mpr usesUp

/-- An instruction waits. -/
def pendingHello : List Action := [.handle (.inputSubmitted (.producer "a") "ada" "hello") 0]

/-- It is acknowledged as often as one likes under its own id. -/
theorem settles_pendingHello :
    ((start { Config.standard with historyCap := 0 }).run pendingHello).Settles (.producer "a") "server"
      "hello" := by
  refine (settles_iff_run _ rfl pendingHello (.producer "a") "server" "hello").mpr ?_
  intro k e unknown
  have known : ((start { Config.standard with historyCap := 0 }).run pendingHello).store.keyOf?
      (.producer "a") = some ⟨0, 0⟩ := by decide +kernel
  exact absurd (known.symm.trans unknown) (by simp)

/-- Under another id it is acknowledged once, and then there are two. -/
theorem not_settles_pendingHello :
    ¬ ((start { Config.standard with historyCap := 0 }).run pendingHello).Settles (.producer "b") "server"
      "hello" := by
  intro settles
  exact absurd (settles 0 0) (by decide +kernel)

end Session

end Chronicle
