import Chronicle.Proofs.Text.Lines
import Chronicle.Replay
import Mathlib.Data.List.ReduceOption

/-!
# What a replay delivers

A replay goes through the lines of a file and has three reasons to stop: the file ends, a line is not text,
nobody is there to receive a message.  What it delivers up to there is a matter of the lines alone.
`Replay.texts` are the lines that it can read, and each of them by itself is blank, skipped
(`Replay.isSkipped`) or a message (`Replay.message?`).

`replay_delivers` says what becomes of every file, in a mailbox that is open and in one that nobody owns
any more.
-/

namespace Chronicle

namespace Replay

variable {b : Mailbox} {text : String} {line : List UInt8} {lines : List (List UInt8)}

/-- The texts of the lines before the first one that is not text. -/
def texts (lines : List (List UInt8)) : List String :=
  ((lines.map Text.Utf8.decodeString).takeWhile (·.isSome)).reduceOption

/-- The message of a line that holds a notification. -/
def message? (text : String) : Option Message :=
  if Text.allBlank text then none
  else (Notification.decode text).toOption.map Notification.toMessage

/-- The line is not blank, and holds no notification. -/
def isSkipped (text : String) : Bool :=
  !Text.allBlank text && !(Notification.decode text).isOk

/-! ## One line -/

theorem texts_cons_of_none (garbled : Text.Utf8.decodeString line = none) : texts (line :: lines) = [] := by
  rw [texts, List.map_cons, garbled]
  rfl

theorem texts_cons_of_some (read : Text.Utf8.decodeString line = some text) :
    texts (line :: lines) = text :: texts lines := by
  rw [texts, List.map_cons, read, List.takeWhile_cons_of_pos rfl, List.reduceOption_cons_of_some]
  rfl

/-- What becomes of a line, whatever its number. -/
theorem readLine_cases (number : Nat) (text : String) :
    (readLine number text = .blank ∧ Text.allBlank text = true ∧ message? text = none ∧
      isSkipped text = false) ∨
    (readLine number text = .skipped ∧ Text.allBlank text = false ∧ message? text = none ∧
      isSkipped text = true) ∨
    ∃ m, readLine number text = .message m ∧ Text.allBlank text = false ∧ message? text = some m ∧
      isSkipped text = false := by
  cases blank : Text.allBlank text with
  | true => exact .inl ⟨by simp [readLine, blank], rfl, by simp [message?, blank], by simp [isSkipped, blank]⟩
  | false =>
      refine .inr ?_
      cases decoded : Notification.decode text with
      | error fault =>
          refine .inl ⟨?_, rfl, ?_, ?_⟩
          · simp [readLine, blank, Notification.decodeLine, decoded, Except.mapError]
          · simp [message?, blank, decoded, Except.toOption]
          · simp [isSkipped, blank, decoded, Except.isOk, Except.toBool]
      | ok n =>
          refine .inr ⟨n.toMessage, ?_, rfl, ?_, ?_⟩
          · simp [readLine, blank, Notification.decodeLine, decoded, Except.mapError]
          · simp [message?, blank, decoded, Except.toOption]
          · simp [isSkipped, blank, decoded, Except.isOk, Except.toBool]

/-- Every line that is not blank is a message or skipped. -/
theorem length_messages_add_countP (texts : List String) :
    (texts.filterMap message?).length + texts.countP isSkipped =
      texts.countP fun text => !Text.allBlank text := by
  induction texts with
  | nil => rfl
  | cons text texts ih =>
      rcases readLine_cases 0 text with ⟨-, blank, none, not⟩ | ⟨-, full, none, skipped⟩ |
        ⟨m, -, full, some, not⟩
      · simp [none, not, blank, ih]
      · simp [none, skipped, full, ← ih]
        omega
      · simp [some, not, full, ← ih]
        omega

/-! ## All lines -/

/-- While somebody is there, every message is delivered. -/
theorem run_of_open (lines : List (List UInt8)) : ∀ {b : Mailbox} (number : Nat) (summary : ReplaySummary),
    b.isDropped = false → run number b summary lines =
      (if ∀ line ∈ lines, (Text.Utf8.decodeString line).isSome then
          .ok ⟨summary.delivered + ((texts lines).filterMap message?).length,
            summary.skipped + (texts lines).countP isSkipped⟩
        else .error .notText,
        { b with queue := b.queue ++ (texts lines).filterMap message? }) := by
  induction lines with
  | nil =>
      intro b number summary there
      simp [run, texts]
  | cons line lines ih =>
      intro b number summary there
      rw [run]
      cases read : Text.Utf8.decodeString line with
      | none => simp [texts_cons_of_none read, read]
      | some text =>
          rw [texts_cons_of_some read]
          rcases readLine_cases number text with ⟨is, -, none, not⟩ | ⟨is, -, none, skipped⟩ |
            ⟨m, is, -, some, not⟩
          · simp [is, ih _ _ there, read, none, not]
          · simp [is, ih _ _ there, read, none, skipped, Nat.add_assoc, Nat.add_comm 1]
          · have sent : b.send m = (true, { b with queue := b.queue ++ [m] }) := by
              rw [Mailbox.send, there]
              rfl
            have more := ih (b := { b with queue := b.queue ++ [m] }) (number + 1)
              ⟨summary.delivered + 1, summary.skipped⟩ there
            simp [is, sent, more, read, some, not, Nat.add_assoc, Nat.add_comm 1]

/-- While nobody is there, the first message ends the replay. -/
theorem run_of_dropped (gone : b.isDropped = true) (lines : List (List UInt8)) :
    ∀ (number : Nat) (summary : ReplaySummary), run number b summary lines =
      (if (∃ text ∈ texts lines, (message? text).isSome) ∨
          ∀ line ∈ lines, (Text.Utf8.decodeString line).isSome then
          .ok ⟨summary.delivered, summary.skipped +
            ((texts lines).takeWhile fun text => (message? text).isNone).countP isSkipped⟩
        else .error .notText, b) := by
  induction lines with
  | nil =>
      intro number summary
      simp [run, texts]
  | cons line lines ih =>
      intro number summary
      rw [run]
      cases read : Text.Utf8.decodeString line with
      | none => simp [texts_cons_of_none read, read]
      | some text =>
          rw [texts_cons_of_some read]
          rcases readLine_cases number text with ⟨is, -, none, not⟩ | ⟨is, -, none, skipped⟩ |
            ⟨m, is, -, some, not⟩
          · simp [is, ih, read, none, not]
          · simp [is, ih, read, none, skipped, Nat.add_assoc, Nat.add_comm 1]
          · have refused : b.send m = (false, b) := by
              rw [Mailbox.send, gone]
              rfl
            simp [is, refused, some]

/-! ## Files -/

/-- What becomes of a file that is replayed into a mailbox. -/
structure Delivers (b : Mailbox) (bytes : List UInt8) : Prop where
  /-- The lines end at a line feed, or at a carriage return and a line feed. -/
  lines : ∀ lines, Text.LinesOf 10 13 bytes lines ↔ lines = Text.byteLines bytes
  /-- An open mailbox receives the messages in their order. -/
  received : b.isDropped = false → (replay b bytes).2 =
    { b with queue := b.queue ++ (texts (Text.byteLines bytes)).filterMap message? }
  /-- The lines of a file that is text are counted. -/
  counted : b.isDropped = false →
    (∀ line ∈ Text.byteLines bytes, (Text.Utf8.decodeString line).isSome) →
    (replay b bytes).1 = .ok ⟨((texts (Text.byteLines bytes)).filterMap message?).length,
      (texts (Text.byteLines bytes)).countP isSkipped⟩
  /-- Those that are not blank are delivered or skipped. -/
  total : ((texts (Text.byteLines bytes)).filterMap message?).length +
      (texts (Text.byteLines bytes)).countP isSkipped =
    (texts (Text.byteLines bytes)).countP fun text => !Text.allBlank text
  /-- A line that is not text is an error. -/
  garbled : b.isDropped = false →
    (∃ line ∈ Text.byteLines bytes, Text.Utf8.decodeString line = none) →
    (replay b bytes).1 = .error .notText
  /-- Where nobody receives them, nothing is delivered, and what is skipped comes before the first
  message. -/
  unheard : b.isDropped = true → (replay b bytes).2 = b ∧
    ∀ summary, (replay b bytes).1 = .ok summary → summary = ⟨0,
      ((texts (Text.byteLines bytes)).takeWhile fun text => (message? text).isNone).countP isSkipped⟩
  /-- A line that is not text is an error then too, unless a message comes before it. -/
  unheard_garbled : b.isDropped = true → ((replay b bytes).1 = .error .notText ↔
    (∃ line ∈ Text.byteLines bytes, Text.Utf8.decodeString line = none) ∧
      ∀ text ∈ texts (Text.byteLines bytes), message? text = none)

/-- Every file is replayed so, into every mailbox. -/
theorem replay_delivers (b : Mailbox) (bytes : List UInt8) : Delivers b bytes where
  lines lines := Text.linesOf_iff (by decide)
  received there := by
    rw [replay, run_of_open _ 1 ⟨0, 0⟩ there]
  counted there read := by
    rw [replay, run_of_open _ 1 ⟨0, 0⟩ there, if_pos read, Nat.zero_add, Nat.zero_add]
  total := length_messages_add_countP _
  garbled there := by
    rintro ⟨line, mem, none⟩
    rw [replay, run_of_open _ 1 ⟨0, 0⟩ there, if_neg]
    intro read
    exact absurd (read line mem) (by simp [none])
  unheard gone := by
    rw [replay, run_of_dropped gone]
    refine ⟨rfl, fun summary returned => ?_⟩
    split at returned
    · rw [Nat.zero_add] at returned
      exact (Except.ok.inj returned).symm
    · exact absurd returned (by simp)
  unheard_garbled gone := by
    rw [replay, run_of_dropped gone]
    split
    · next heard =>
        refine iff_of_false (by simp) ?_
        rintro ⟨⟨line, mem, none⟩, silent⟩
        rcases heard with ⟨text, at_text, some⟩ | read
        · simp [silent text at_text] at some
        · exact absurd (read line mem) (by simp [none])
    · next unheard =>
        obtain ⟨silent, garbled⟩ := not_or.mp unheard
        exact iff_of_true rfl ⟨by simpa using garbled, by simpa using silent⟩

/-- A blank line, a line that holds nothing, and one that ends in a carriage return and a line feed. -/
example : replay .empty (Text.Utf8.encode " \nbad\n[\"connection_restored\"]\r\n") =
    (.ok ⟨1, 1⟩, { Mailbox.empty with queue := [.connectionRestored] }) := by decide +kernel

end Replay

end Chronicle
