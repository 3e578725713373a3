import Chronicle.Mailbox
import Chronicle.Proofs.Text.Utf8
import Mathlib.Data.List.Infix

/-!
# What a pump forwards

A pump reads bytes line by line and pushes each line into the entry that its subscription names.  It looks
at the token, at the stream and at the mailbox before each line goes out, and what it finds there may have
changed in the meantime (`Surroundings`, `Subscription.lets`).

Whatever it finds, what it has pushed is a first part of the lines that are text
(`pumpLines_isPrefix`).  But it does not skip a line that is not text, it stops there: with nothing to stop it
otherwise it pushes the lines before the first of these (`pumpLines_eq_takeWhile`).  So it forwards every
line that is text exactly if none comes after one that is not (`Subscription.forwards_iff`).
-/

namespace Chronicle

/-- The bytes are text. -/
def Text.Utf8.isText (bytes : List UInt8) : Bool := (decodeString bytes).isSome

open Text.Utf8

/-! ## Lines -/

/-- The induction is on the lines, and at each of them the pump goes on or has pushed all it will. -/
theorem pumpLines_isPrefix (mayPush : Nat → Bool) (lines : List (List UInt8)) :
    ∀ n, pumpLines mayPush n lines <+: lines.filterMap decodeString := by
  induction lines with
  | nil =>
      intro n
      exact List.prefix_rfl
  | cons line lines ih =>
      intro n
      rw [pumpLines]
      cases read : decodeString line with
      | none => exact List.nil_prefix
      | some text =>
          rw [List.filterMap_cons_some read]
          cases goes : mayPush n with
          | true => exact List.cons_prefix_cons.mpr ⟨rfl, ih (n + 1)⟩
          | false => exact List.nil_prefix

theorem pumpLines_eq_takeWhile {mayPush : Nat → Bool} (always : ∀ n, mayPush n = true)
    (lines : List (List UInt8)) :
    ∀ n, pumpLines mayPush n lines = (lines.takeWhile isText).filterMap decodeString := by
  induction lines with
  | nil =>
      intro n
      rfl
  | cons line lines ih =>
      intro n
      rw [pumpLines, List.takeWhile_cons]
      cases read : decodeString line with
      | none => simp [isText, read]
      | some text => simp [isText, read, always, ih]

/-- Nothing is missed if what comes after the first line that is not text is not text either. -/
theorem filterMap_takeWhile_isText (lines : List (List UInt8)) :
    (lines.takeWhile isText).filterMap decodeString = lines.filterMap decodeString ↔
      ∀ line ∈ lines.dropWhile isText, isText line = false := by
  conv_lhs => rhs; rw [← List.takeWhile_append_dropWhile (p := isText) (l := lines), List.filterMap_append]
  rw [List.self_eq_append_right, List.filterMap_eq_nil_iff]
  simp only [isText, Option.isSome_eq_false_iff, Option.isNone_iff_eq_none]

/-! ## Messages -/

/-- What a pump finds at one line: the tokens, then the store, then the mailbox. -/
structure Surroundings where
  tokens : Tokens
  store : Store
  mailbox : Mailbox

namespace Subscription

variable {u : Subscription} {w : Surroundings}

/-- Nothing keeps the pump from forwarding a line: the token is not cancelled, the target is alive, and the
mailbox has an owner. -/
def lets (u : Subscription) (w : Surroundings) : Bool :=
  !w.tokens.isCancelled u.token && u.isAlive w.store && !w.mailbox.isDropped

/-- A line then becomes a message, and the mailbox takes it. -/
theorem lets_iff (chunk : String) :
    u.lets w = true ↔
      w.tokens.isCancelled u.token = false ∧
      u.push w.store chunk = .ok (.streamDelta u.target chunk) ∧
      (w.mailbox.send (.streamDelta u.target chunk)).1 = true := by
  rw [lets, push, Mailbox.send, Bool.and_eq_true, Bool.and_eq_true, and_assoc]
  refine and_congr (by simp) (and_congr ?_ ?_)
  · cases u.isAlive w.store <;> simp
  · cases w.mailbox.isDropped <;> simp

/-- Such surroundings there are for every subscription. -/
theorem exists_lets (u : Subscription) : ∃ w, u.lets w = true := by
  refine ⟨⟨.empty, { Store.empty 0 with
    slots := Array.replicate (u.lease.index + 1) ⟨0, none, some u.lease.serial⟩ }, .empty⟩, ?_⟩
  simp [lets, Tokens.isCancelled, Tokens.empty, isAlive, Store.isGranted, Mailbox.empty]

/-- What there is to push: a message for each line that is text, in order. -/
def due (u : Subscription) (bytes : List UInt8) : List Message :=
  ((Text.byteLines bytes).filterMap decodeString).map (.streamDelta u.target)

/-- The pump forwards every line that is text. -/
structure Forwards (u : Subscription) (bytes : List UInt8) : Prop where
  /-- If nothing keeps it from that at any line, it has pushed all there is to push. -/
  whole : ∀ w : Nat → Surroundings, (∀ n, u.lets (w n) = true) →
    u.pump (fun n => u.lets (w n)) bytes = u.due bytes
  /-- Whatever stops it, and at whichever line, it has pushed a first part of that. -/
  first : ∀ w : Nat → Surroundings, u.pump (fun n => u.lets (w n)) bytes <+: u.due bytes

theorem pump_isPrefix (u : Subscription) (mayPush : Nat → Bool) (bytes : List UInt8) :
    u.pump mayPush bytes <+: u.due bytes :=
  (pumpLines_isPrefix mayPush (Text.byteLines bytes) 0).map _

theorem pump_eq_due_iff {mayPush : Nat → Bool} (always : ∀ n, mayPush n = true) (bytes : List UInt8) :
    u.pump mayPush bytes = u.due bytes ↔
      ∀ line ∈ (Text.byteLines bytes).dropWhile isText, isText line = false := by
  have injective : Function.Injective (Message.streamDelta u.target) := fun _ _ same =>
    (Message.streamDelta.inj same).2
  rw [pump, due, List.map_inj_right injective, pumpLines_eq_takeWhile always, filterMap_takeWhile_isText]

/-- A pump forwards every line that is text exactly if no such line comes after one that is not. -/
theorem forwards_iff (u : Subscription) (bytes : List UInt8) :
    u.Forwards bytes ↔
      ∀ line ∈ (Text.byteLines bytes).dropWhile isText, isText line = false := by
  constructor
  · intro forwards
    obtain ⟨w, lets⟩ := u.exists_lets
    exact (pump_eq_due_iff (fun _ => lets) bytes).mp (forwards.whole (fun _ => w) fun _ => lets)
  · intro ordered
    exact ⟨fun w lets => (pump_eq_due_iff lets bytes).mpr ordered, fun w => u.pump_isPrefix _ bytes⟩

/-- A line, a byte that no text has in it, and another line. -/
def garbled : List UInt8 := [0x61, 10, 0xFF, 10, 0x62, 10]

theorem not_forwards_garbled : ¬ (⟨⟨0, 0⟩, ⟨0, 0⟩, 0⟩ : Subscription).Forwards garbled := by
  intro forwards
  have whole := forwards.whole
    (fun _ => ⟨.empty, ((Store.empty 0).append (.producer "a") (.thought "") .running 0).2, .empty⟩)
    fun _ => by decide
  exact absurd whole (by decide +kernel)

end Subscription

end Chronicle
