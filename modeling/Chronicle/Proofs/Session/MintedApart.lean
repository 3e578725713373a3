import Chronicle.Proofs.Session.Keys
import Chronicle.Proofs.Session.Newcomers
import Chronicle.Proofs.Session.Relabelled

/-!
# Minted ids and the ids of producers

The timeline mints ids for logs and acknowledgements that name none, and producers name what they like, the text
of a minted id too.  The two have nothing to do with each other (`mintsApart_run`): an id is minted once,
nobody has had it before, the entry that has it never changes again but for its flag, and a message is
handled as if that entry were called something else.

An entry with a minted id is finished when it comes in (`settled_run`).  What is finished changes by an
acknowledgement that names it, or not at all, and no producer can name it.
-/

namespace Chronicle

namespace Session

variable {s : Session} {a : Action} {actions : List Action} {k : Key} {e : Entry} {id : CorrelationId}

/-! ## What has been minted -/

/-- The id that an action mints, if it mints one. -/
def mintedBy (s : Session) (a : Action) : Option CorrelationId :=
  (s.intake? a).bind fun (s₁, m, now) => (s₁.correlator.apply s₁.store m now).minted?

/-- The ids that a run mints, in order. -/
def mintedIn (s : Session) : List Action → List CorrelationId
  | [] => []
  | a :: rest => (s.mintedBy a).toList ++ (s.perform a).mintedIn rest

theorem nextSequence_le_perform (holds : s.log.Coherent) (a : Action) :
    s.store.nextSequence ≤ (s.perform a).store.nextSequence :=
  ((perform_changes s a).continues holds).next

/-- An id is minted for a message that names none, with the next number. -/
theorem mintedBy_cases (holds : s.log.Coherent) (ordinary : a.isOrdinary = true)
    (minted : s.mintedBy a = some id) :
    (∃ m now, a = .handle m now ∧ m.id? = none) ∧ (∃ sort, id = .mint sort s.store.nextSequence) ∧
      s.store.nextSequence < (s.perform a).store.nextSequence := by
  obtain ⟨⟨s₁, m, now⟩, taken, minted⟩ := Option.bind_eq_some_iff.mp minted
  obtain ⟨holds₁, next₁, after⟩ := course_of_intake? holds taken
  have brings := s₁.correlator.apply_brings holds₁.sound m now
  obtain ⟨anonymous, ⟨sort, is⟩, next⟩ := brings.of_minted? (isOrdinary_of_intake? ordinary taken) minted
  have last : (s.perform a).store.nextSequence = s₁.store.nextSequence + 1 :=
    (nextSequence_tends after (holds₁.take m now).sound).trans next
  rcases intake?_cases taken with ⟨rfl, -, -⟩ | ⟨draft, text, -, rfl⟩
  · exact ⟨⟨m, now, rfl, anonymous⟩, ⟨sort, next₁ ▸ is⟩, by omega⟩
  · exact absurd anonymous (by simp [submission, Message.id?])

/-- What a run mints carries numbers that had not been given before. -/
theorem mem_mintedIn (holds : s.log.Coherent) (ordinary : ∀ a ∈ actions, a.isOrdinary = true)
    (mem : id ∈ s.mintedIn actions) : ∃ sort n, id = .mint sort n ∧ s.store.nextSequence ≤ n := by
  induction actions generalizing s with
  | nil => exact absurd mem List.not_mem_nil
  | cons a actions ih =>
      obtain ⟨first, rest⟩ := List.forall_mem_cons.mp ordinary
      rcases List.mem_append.mp mem with now | later
      · obtain ⟨-, ⟨sort, is⟩, -⟩ := mintedBy_cases holds first (Option.mem_toList.mp now)
        exact ⟨sort, _, is, Nat.le_refl _⟩
      · obtain ⟨sort, n, is, le⟩ := ih ((perform_changes s a).coherent holds) rest later
        exact ⟨sort, n, is, Nat.le_trans (nextSequence_le_perform holds a) le⟩

/-- No id is minted twice. -/
theorem nodup_mintedIn (holds : s.log.Coherent) (ordinary : ∀ a ∈ actions, a.isOrdinary = true) :
    (s.mintedIn actions).Nodup := by
  induction actions generalizing s with
  | nil => exact .nil
  | cons a actions ih =>
      obtain ⟨first, rest⟩ := List.forall_mem_cons.mp ordinary
      have holds' := (perform_changes s a).coherent holds
      rw [mintedIn, List.nodup_append]
      refine ⟨by cases s.mintedBy a <;> simp, ih holds' rest, fun id now id' later => ?_⟩
      obtain ⟨-, ⟨sort, is⟩, lt⟩ := mintedBy_cases holds first (Option.mem_toList.mp now)
      obtain ⟨sort', n, is', le⟩ := mem_mintedIn holds' rest later
      rintro rfl
      have := CorrelationId.number_eq_of_mint_eq (is.symm.trans is')
      omega

/-- An entry with a minted id that a run brings is one of those for which it has minted an id. -/
theorem mem_mintedIn_of_newcomer (holds : s.log.Coherent)
    (found : (s.run actions).store.get? k = some e) (minted : e.id.isMinted = true)
    (new : s.store.nextSequence ≤ e.sequence) : e.id ∈ s.mintedIn actions := by
  induction actions generalizing s with
  | nil => exact absurd new (Nat.not_le_of_lt (holds.sound.sequence_lt_next found))
  | cons a actions ih =>
      have holds' := (perform_changes s a).coherent holds
      rw [mintedIn, List.mem_append]
      rcases Nat.lt_or_ge e.sequence (s.perform a).store.nextSequence with old | newer
      · obtain ⟨e', found', follows⟩ := (continues_run holds' actions).entries k e found old
        obtain ⟨same, number⟩ := Prod.mk.inj follows.name
        obtain ⟨-, s₁, m, now, e₁, taken, -, result, found₁, -, follows₁⟩ :=
          perform_newcomer holds found' (number ▸ new)
        have same₁ : e'.id = e₁.id := congrArg Prod.fst follows₁.name
        have is : e.id = e₁.id := same.trans same₁
        refine .inl (Option.mem_toList.mpr ?_)
        rw [mintedBy, taken]
        show (s₁.correlator.apply s₁.store m now).minted? = some e.id
        rw [Ingested.minted?_eq result found₁, ← is, if_pos minted]
      · exact .inr (ih holds' found newer)

/-! ## Entries with minted ids -/

/-- Entries with minted ids are finished, and their ids carry their numbers. -/
def Settled (s : Session) : Prop :=
  ∀ k e, s.store.get? k = some e → e.id.isMinted = true →
    e.status.isFinished = true ∧ ∃ sort, e.id = .mint sort e.sequence

theorem Settled.perform (settled : s.Settled) (holds : s.log.Coherent)
    (ordinary : a.isOrdinary = true) : (s.perform a).Settled := by
  intro k e found minted
  rcases Nat.lt_or_ge e.sequence s.store.nextSequence with old | new
  · obtain ⟨e₀, found₀, follows⟩ := ((perform_changes s a).continues holds).entries k e found old
    obtain ⟨same, number⟩ := Prod.mk.inj follows.name
    obtain ⟨finished, sort, is⟩ := settled k e₀ found₀ (same ▸ minted)
    rw [(follows.frozen finished).1]
    exact ⟨finished, sort, by rw [same, is, number]⟩
  · obtain ⟨number, s₁, m, now, e₁, taken, next, -, -, names, follows⟩ :=
      perform_newcomer holds found new
    have same : e.id = e₁.id := congrArg Prod.fst follows.name
    obtain ⟨-, ⟨sort, is⟩, completed⟩ :=
      names.of_isMinted (isOrdinary_of_intake? ordinary taken) (same ▸ minted)
    have finished : e₁.status.isFinished = true := by rw [completed]; rfl
    rw [(follows.frozen finished).1]
    exact ⟨finished, sort, by rw [same, is, number, next]⟩

theorem settled_run (c : Config) (ordinary : ∀ a ∈ actions, a.isOrdinary = true) :
    ((start c).run actions).Settled := by
  have both : ((start c).run actions).log.Coherent ∧ ((start c).run actions).Settled := by
    refine run_induct (motive := fun s => s.log.Coherent ∧ s.Settled) ⟨coherent_log_start c, ?_⟩
      actions ?_
    · intro k e found
      exact absurd found (by simp [start, Store.empty, Store.get?, Store.slot?])
    · rintro s a mem ⟨holds, settled⟩
      exact ⟨(perform_changes s a).coherent holds, settled.perform holds (ordinary a mem)⟩
  exact both.2

/-! ## Where ids lead -/

/-- In every state of the run fewer ids of evicted entries are remembered than a slot has generations: so
many are not kept, or so many entries have not been evicted.  A configuration that remembers fewer than
2^32 ids has it in all its runs. -/
def RemembersFew (c : Config) (actions : List Action) : Prop :=
  c.retiredIds < generationLimit ∨ ((start c).run actions).counters.evicted < generationLimit

section Ordinary

variable {c : Config} {before later : List Action}
  (ordinary : ∀ a ∈ before ++ later, a.isOrdinary = true)
include ordinary

theorem advances_before : Store.Advances (start c).store ((start c).run before).store :=
  advances_run (remembers_start c)
    (unforged_of_ordinary _ fun a mem => ordinary a (List.mem_append_left _ mem))

theorem remembers_run : ((start c).run before).store.Remembers :=
  (advances_before ordinary).remembers (remembers_start c)

/-- An id leads to no entry but the one that has it. -/
theorem id_eq_of_few (few : RemembersFew c (before ++ later))
    (known : ((start c).run before).store.keyOf? id = some k)
    (found : ((start c).run before).store.get? k = some e) : e.id = id := by
  have holds := remembers_run (c := c) ordinary
  have few' : ((start c).run before).store.retired.length < generationLimit := by
    rcases few with kept | evicted
    · have cap : ((start c).run before).store.retiredCap = c.retiredIds :=
        (advances_before ordinary).retiredCap_eq
      have := holds.length_le_cap
      omega
    · have gone := gone_le_run (keyed_run (keyed_start c) before) later
      have counted := gone_run c (before ++ later)
      rw [← run_append] at gone
      have := holds.length_le_gone
      omega
  exact (holds.recalls few').id_eq few' (Store.keyOf?_eq_some.mp known).1 found

/-- An entry with a minted id changes its flag, and nothing else. -/
theorem eq_of_minted {k' : Key} {e' : Entry} (few : RemembersFew c (before ++ later))
    (found : ((start c).run before).store.get? k = some e)
    (found' : ((start c).run (before ++ later)).store.get? k' = some e')
    (minted : e.id.isMinted = true) (same : e'.id = e.id) :
    k' = k ∧ e' = { e with discarded := e'.discarded } := by
  have settled := settled_run c fun a mem => ordinary a (List.mem_append_left later mem)
  have settled' := settled_run c ordinary
  obtain ⟨finished, sort, is⟩ := settled k e found minted
  obtain ⟨-, sort', is'⟩ := settled' k' e' found' (same ▸ minted)
  have number : e'.sequence = e.sequence :=
    CorrelationId.number_eq_of_mint_eq (is'.symm.trans (same.trans is))
  have holds := coherent_log_run (coherent_log_start c) before
  rw [run_append] at found'
  obtain ⟨rfl, follows⟩ := follows_run holds later found found' number
  have kind : e'.kind = e.kind := by
    refine (follows.kind finished).resolve_right ?_
    -- an acknowledgement that put other words into it would have named it by its id
    rintro ⟨-, -, between, a, after, rfl, id, author, text, now, rfl, known, -⟩
    have mid := coherent_log_run holds between
    have old : e'.sequence < (((start c).run before).run between).store.nextSequence := by
      rw [number]
      exact Nat.lt_of_lt_of_le (holds.sound.sequence_lt_next found) (continues_run holds between).next
    rw [run_append] at found'
    obtain ⟨e₀, found₀, follows₀⟩ := (continues_run mid _).entries k' e' found' old
    rw [← run_append] at known found₀
    rw [← List.append_assoc] at ordinary few
    have named : e₀.id = id := id_eq_of_few ordinary few known found₀
    have producer : id.isMinted = false := by
      have first := ordinary _ (List.mem_append_right _ List.mem_cons_self)
      exact Message.isMinted_of_isOrdinary first rfl
    have is : e'.id = e₀.id := congrArg Prod.fst follows₀.name
    rw [← named, ← is, same, minted] at producer
    exact absurd producer (by simp)
  obtain ⟨status, ended, updated⟩ := follows.frozen finished
  refine ⟨rfl, ?_⟩
  rw [← same, ← number, ← kind, ← status, ← follows.started, ← ended, ← updated]

end Ordinary

/-! ## Every run -/

/-- A message that names an id is about that id, whatever other ids there are. -/
structure IsAbout (s : Session) (m : Message) (now : Instant) (id : CorrelationId) : Prop where
  /-- It is handled as if entries had other ids, as long as none of these becomes the one that is named, and
  what had that one still has it: with the same answer, and what it leaves is what it leaves otherwise, under
  the other ids. -/
  others : ∀ r : Relabel, (∀ b, r.flag b = b) → r.id id = id →
    (s.relabel r).handle m now = ((s.handle m now).1, (s.handle m now).2.relabel r)
  /-- If an id is refused because it has been used before, this very id has been. -/
  duplicate : ∀ id' label, (s.correlator.apply s.store m now).result =
    .error (.duplicateCorrelation id' label) → s.store.hasSeen id = true

theorem isAbout (s : Session) {m : Message} (named : m.id? = some id) (now : Instant) :
    s.IsAbout m now id where
  others r keeps fixed := by
    refine handle_relabel r keeps s (fun c is => ?_) (fun id' named' => ?_) fun anonymous => ?_
    · rw [is] at named
      exact absurd named (by simp [Message.id?])
    · obtain rfl := Option.some.inj (named.symm.trans named')
      exact fixed
    · exact absurd (named.symm.trans anonymous) (by simp)
  duplicate id' label refused := by
    have deed := s.correlator.apply_deed s.store m now
    generalize s.correlator.apply s.store m now = r at deed refused
    cases deed with
    | refused e stale duplicate =>
        obtain ⟨id'', named'', seen⟩ := duplicate id' label (Except.error.inj refused)
        obtain rfl := Option.some.inj (named.symm.trans named'')
        exact seen
    | _ => exact absurd refused (by simp)

/-- What the ids minted in a run have to do with those that producers name: nothing. -/
structure MintsApart (c : Config) (actions : List Action) : Prop where
  nodup : ((start c).mintedIn actions).Nodup
  /-- When an id is minted nobody has had it, and the message for which it is minted names none. -/
  unseen : ∀ before a later, actions = before ++ a :: later →
    ∀ id, ((start c).run before).mintedBy a = some id →
      ((start c).run before).store.hasSeen id = false ∧
        ∃ m now, a = .handle m now ∧ m.id? = none
  /-- These are all the ids of that sort that there are. -/
  listed : ∀ k e, ((start c).run actions).store.get? k = some e → e.id.isMinted = true →
    e.id ∈ (start c).mintedIn actions
  /-- An entry with a minted id that is there before some actions, and there after them, is where it was and
  as it was, but for its flag.  Without the condition a slot could come round to the generation
  of a key that is still remembered for a producer's id, evicted as many evictions ago. -/
  frozen : RemembersFew c actions → ∀ before later, actions = before ++ later →
    ∀ k e k' e', ((start c).run before).store.get? k = some e → e.id.isMinted = true →
      ((start c).run actions).store.get? k' = some e' → e'.id = e.id →
        k' = k ∧ e' = { e with discarded := e'.discarded }
  /-- A message is about the id that it names, and that leads to no entry with another one. -/
  about : ∀ before m now later, actions = before ++ .handle m now :: later →
    ∀ id, m.id? = some id → ((start c).run before).IsAbout m now id ∧
      (RemembersFew c actions → ∀ k e, ((start c).run before).store.keyOf? id = some k →
        ((start c).run before).store.get? k = some e → e.id = id ∧ e.id.isMinted = false)

/-- As long as producers name no minted ids, and what a producer writes names none
(`Notification.isOrdinary_toMessage`), minted ids and those of producers have nothing to do with each
other.

Only where an entry is found again and where an id leads ask for `RemembersFew`, which is automatic as
long as fewer than 2^32 ids are remembered.  In a run that remembers more, and has evicted as many
entries, a slot may have come round to the generation of a remembered key; the id of that key then leads
to an entry with another one, and nothing is said about these two. -/
theorem mintsApart_run (c : Config) (actions : List Action)
    (ordinary : ∀ a ∈ actions, a.isOrdinary = true) : MintsApart c actions where
  nodup := nodup_mintedIn (coherent_log_start c) ordinary
  unseen := by
    rintro before a later rfl id minted
    have holds := coherent_log_run (coherent_log_start c) before
    have first := ordinary a (List.mem_append_right _ List.mem_cons_self)
    obtain ⟨handled, ⟨sort, rfl⟩, -⟩ := mintedBy_cases holds first minted
    exact ⟨(remembers_run ordinary).reserves.unseen sort, handled⟩
  listed k e found minted :=
    mem_mintedIn_of_newcomer (coherent_log_start c) found minted (Nat.zero_le _)
  frozen := by
    rintro few before later rfl k e k' e' found minted found' same
    exact eq_of_minted ordinary few found found' minted same
  about := by
    rintro before m now later rfl id named
    refine ⟨isAbout _ named now, fun few k e known found => ?_⟩
    have is : e.id = id := id_eq_of_few ordinary few known found
    have first := ordinary _ (List.mem_append_right _ List.mem_cons_self)
    exact ⟨is, is ▸ Message.isMinted_of_isOrdinary first named⟩

/-- Producers use the texts of minted ids, before these are minted and after. -/
def namesakes : List Action :=
  [.handle (.taskCompleted (.producer "input#3") "done") 0, .handle (.log none .info "up") 1,
    .handle (.toolStarted (.producer "log#1") "sh" "make") 2,
    .handle (.inputAcknowledged none "You" "go") 3,
    .handle (.inputAcknowledged (some (.producer "input#3")) "You" "go on") 4,
    .handle (.toolCompleted (.producer "log#1") [0] "" none) 5, .moveForkUp]

/-- Two ids are minted, of which producers name both. -/
theorem mintsApart_namesakes :
    (∀ a ∈ namesakes, a.isOrdinary = true) ∧
      (start .standard).mintedIn namesakes = [.minted "log#1", .minted "input#3"] ∧
      MintsApart .standard namesakes := by
  have ordinary : ∀ a ∈ namesakes, a.isOrdinary = true := by decide
  exact ⟨ordinary, by decide +kernel, mintsApart_run .standard namesakes ordinary⟩

end Session

end Chronicle
