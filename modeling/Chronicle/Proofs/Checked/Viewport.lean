import Chronicle.Limits
import Chronicle.Proofs.Viewport

/-!
# The window in machine words

The operations on a window once more, in 64-bit numbers.  A sum or a difference that is none ends an
operation with an `Overflow`, except where the operation asks for a sum that stays at the largest number,
or for a difference that stays at zero.

`inWords_run` says that no run of operations ends so, and that it leaves what the run in natural numbers
leaves, whatever lengths the operations are told.  What carries it is that the row below the window has a
number (`InRange.below_le`): the window only goes down to rows that end within a length, or to an entry
that it shows in its last row.
-/

namespace Chronicle

/-- A sum or a difference that is no 64-bit number. -/
inductive Overflow where
  | sum (a b : Nat)
  | difference (a b : Nat)
deriving DecidableEq, Repr

def addInWords (a b : Nat) : Except Overflow Nat :=
  if a + b ≤ maxWord then .ok (a + b) else .error (.sum a b)

def subInWords (a b : Nat) : Except Overflow Nat :=
  if b ≤ a then .ok (a - b) else .error (.difference a b)

/-- Every number is one of 64 bits. -/
abbrev AreWords (numbers : List Nat) : Prop := ∀ n ∈ numbers, n ≤ maxWord

/-! ## The operations -/

def Span.stepInWords (s : Span) (d : Direction) (current last : Nat) : Except Overflow Nat :=
  if s.isEmpty then .ok (min current last)
  else if current < s.start then .ok (min s.start last)
  else if s.stop ≤ current then do return min (← subInWords s.stop 1) last
  else match d with
    | .up => .ok (current - 1)
    | .down => .ok (min (saturatingAdd current 1) last)

namespace Viewport

def visibleInWords (v : Viewport) (len : Nat) : Span :=
  ⟨min v.offset len, min (saturatingAdd v.offset v.rows) len⟩

def countBeforeInWords (positions : List Nat) (position : Nat) : Except Overflow Nat :=
  positions.foldlM (fun n p => if p < position then addInWords n 1 else .ok n) 0

def selectedAfterInWords (selected : Option Nat) (removed : List Nat) (len : Nat) :
    Except Overflow (Option Nat) :=
  match selected with
  | none => .ok none
  | some position => do
    let shift ← countBeforeInWords removed position
    if removed.contains position || len == 0 then return none else return some (position - shift)

def onEvictedInWords (v : Viewport) (removed : List Nat) (len : Nat) : Except Overflow Viewport := do
  let above ← countBeforeInWords removed v.offset
  let selected ← selectedAfterInWords v.selected removed len
  return settle { v with offset := v.offset - above, selected } len

def scrollDownInWords (v : Viewport) (n len : Nat) : Viewport :=
  let offset := min (saturatingAdd v.offset n) (v.maxOffset len)
  { v with offset, follow := v.follow || offset == v.maxOffset len }

def revealInWords (v : Viewport) (position len : Nat) : Except Overflow Viewport :=
  if len ≤ position then .ok v
  else if position < v.offset then .ok { v with offset := position }
  else do
    if (← addInWords v.offset v.rows) ≤ position then
      return { v with offset := ← subInWords (← addInWords position 1) v.rows }
    else return v

def selectInWords (v : Viewport) (position : Option Nat) (len : Nat) : Except Overflow Viewport :=
  match position with
  | some p =>
    if len = 0 then .ok { v with selected := none }
    else do
      let p := min p (← subInWords len 1)
      { v with selected := some p }.revealInWords p len
  | none => .ok { v with selected := none }

def navigateUpInWords (v : Viewport) (len : Nat) : Except Overflow Viewport :=
  if len = 0 then .ok v
  else do
    let window := v.visibleInWords len
    let next ← match v.selected with
      | some current => do window.stepInWords .up current (← subInWords len 1)
      | none => .ok (window.stop - 1)
    return (← { v with selected := some next }.revealInWords next len).detach

def navigateDownInWords (v : Viewport) (len : Nat) : Except Overflow Viewport :=
  if len = 0 then .ok v
  else do
    let window := v.visibleInWords len
    let next ← match v.selected with
      | some current => do window.stepInWords .down current (← subInWords len 1)
      | none => .ok window.start
    let v ← { v with selected := some next }.revealInWords next len
    if next = (← subInWords len 1) then return v.scrollToEnd len else return v

/-- An operation with the numbers that it is told. -/
inductive Operation where
  | onAppend (len : Nat)
  | onEvicted (removed : List Nat) (len : Nat)
  | scrollUp (n : Nat)
  | scrollDown (n len : Nat)
  | pageUp
  | pageDown (len : Nat)
  | scrollToTop
  | scrollToEnd (len : Nat)
  | resize (rows len : Nat)
  | detach
  | reveal (position len : Nat)
  | centerOn (position len : Nat)
  | select (position : Option Nat) (len : Nat)
  | navigateUp (len : Nat)
  | navigateDown (len : Nat)
deriving DecidableEq, Repr

/-- The numbers that an operation is told, the length of the timeline first; the length of a list is one of
them. -/
def Operation.numbers : Operation → List Nat
  | onAppend len => [len]
  | onEvicted removed len => len :: removed.length :: removed
  | scrollUp n => [n]
  | scrollDown n len => [len, n]
  | pageUp => []
  | pageDown len => [len]
  | scrollToTop => []
  | scrollToEnd len => [len]
  | resize rows len => [len, rows]
  | detach => []
  | reveal position len => [len, position]
  | centerOn position len => [len, position]
  | select position len => len :: position.toList
  | navigateUp len => [len]
  | navigateDown len => [len]

def perform (v : Viewport) : Operation → Viewport
  | .onAppend len => v.onAppend len
  | .onEvicted removed len => v.onEvicted removed len
  | .scrollUp n => v.scrollUp n
  | .scrollDown n len => v.scrollDown n len
  | .pageUp => v.pageUp
  | .pageDown len => v.pageDown len
  | .scrollToTop => v.scrollToTop
  | .scrollToEnd len => v.scrollToEnd len
  | .resize rows len => v.resize rows len
  | .detach => v.detach
  | .reveal position len => v.reveal position len
  | .centerOn position len => v.centerOn position len
  | .select position len => v.select position len
  | .navigateUp len => v.navigateUp len
  | .navigateDown len => v.navigateDown len

def run (v : Viewport) (operations : List Operation) : Viewport := operations.foldl perform v

def performInWords (v : Viewport) : Operation → Except Overflow Viewport
  | .onEvicted removed len => v.onEvictedInWords removed len
  | .scrollDown n len => .ok (v.scrollDownInWords n len)
  | .pageDown len => .ok (v.scrollDownInWords v.rows len)
  | .reveal position len => v.revealInWords position len
  | .select position len => v.selectInWords position len
  | .navigateUp len => v.navigateUpInWords len
  | .navigateDown len => v.navigateDownInWords len
  | operation => .ok (v.perform operation)

def runInWords (v : Viewport) (operations : List Operation) : Except Overflow Viewport :=
  operations.foldlM performInWords v

/-! ## Sums and differences -/

variable {v : Viewport} {len : Nat}

theorem addInWords_eq {a b : Nat} (le : a + b ≤ maxWord) : addInWords a b = .ok (a + b) := if_pos le

theorem subInWords_eq {a b : Nat} (le : b ≤ a) : subInWords a b = .ok (a - b) := if_pos le

/-- A step takes one from the end of a span only where there is something before it. -/
theorem stepInWords_eq {last : Nat} (last_le : last ≤ maxWord) (s : Span) (d : Direction)
    (current : Nat) : s.stepInWords d current last = .ok (s.step d current last) := by
  unfold Span.stepInWords Span.step
  split
  · rfl
  · next some =>
      split
      · rfl
      · split
        · have pos : 1 ≤ s.stop := by
            simp only [Span.isEmpty, decide_eq_true_eq] at some
            omega
          rw [subInWords_eq pos]
          rfl
        · cases d with
          | up => rfl
          | down =>
              refine congrArg Except.ok ?_
              simp only [saturatingAdd]
              omega

/-- The end of the window is cut at the length, so it does not matter where its sum stays. -/
theorem visibleInWords_eq (v : Viewport) (len_le : len ≤ maxWord) :
    v.visibleInWords len = v.visible len := by
  have cut : min (saturatingAdd v.offset v.rows) len = min (v.offset + v.rows) len := by
    rw [saturatingAdd]
    omega
  rw [visibleInWords, cut, visible]

theorem countBeforeInWords_eq {positions : List Nat} (few : positions.length ≤ maxWord)
    (position : Nat) :
    countBeforeInWords positions position = .ok (countBefore positions position) := by
  have counted : ∀ n, n + positions.length ≤ maxWord →
      positions.foldlM (fun n p => if p < position then addInWords n 1 else .ok n) n =
        .ok (n + countBefore positions position) := by
    induction positions with
    | nil =>
        intro n _
        rfl
    | cons p positions ih =>
        intro n le
        rw [List.length_cons] at le few
        rw [List.foldlM_cons, countBefore, List.countP_cons]
        split
        · next before =>
            rw [addInWords_eq (show n + 1 ≤ maxWord by omega)]
            refine (ih (by omega) (n + 1) (by omega)).trans ?_
            simp [countBefore, before, Nat.add_assoc, Nat.add_comm]
        · next behind =>
            refine (ih (by omega) n (by omega)).trans ?_
            simp [countBefore, behind]
  exact (counted 0 (by omega)).trans (by rw [Nat.zero_add])

theorem selectedAfterInWords_eq {removed : List Nat} (few : removed.length ≤ maxWord)
    (selected : Option Nat) (len : Nat) :
    selectedAfterInWords selected removed len = .ok (selectedAfter selected removed len) := by
  cases selected with
  | none => rfl
  | some position =>
      rw [selectedAfterInWords, countBeforeInWords_eq few]
      simp only [bind, Except.bind, selectedAfter, Option.bind_some]
      split <;> rfl

theorem scrollDownInWords_eq (v : Viewport) (n : Nat) (len_le : len ≤ maxWord) :
    v.scrollDownInWords n len = v.scrollDown n len := by
  have cut : min (saturatingAdd v.offset n) (v.maxOffset len) = min (v.offset + n) (v.maxOffset len) := by
    simp only [saturatingAdd, maxOffset]
    omega
  rw [scrollDownInWords, cut, Viewport.scrollDown]

theorem onEvictedInWords_eq (v : Viewport) {removed : List Nat} (few : removed.length ≤ maxWord)
    (len : Nat) : v.onEvictedInWords removed len = .ok (v.onEvicted removed len) := by
  rw [onEvictedInWords, countBeforeInWords_eq few, selectedAfterInWords_eq few]
  rfl

/-! ## What the numbers of a window are -/

/-- The row below the window has a number, and so has the selection. -/
structure InRange (v : Viewport) : Prop where
  below_le : v.offset + v.rows ≤ maxWord
  selected_le : ∀ p, v.selected = some p → p ≤ maxWord

theorem inRange_ofRows {rows : Nat} (rows_le : rows ≤ maxWord) : (ofRows rows).InRange where
  below_le := by
    have positive : 1 ≤ maxWord := by decide
    simp only [ofRows]
    omega
  selected_le p selected := by simp [ofRows] at selected

namespace InRange

theorem mk_offset (range : v.InRange) {offset : Nat} (le : offset + v.rows ≤ maxWord)
    (follow : Bool) : InRange { v with offset, follow } :=
  ⟨le, range.selected_le⟩

theorem mk_selected (range : v.InRange) {p : Nat} (le : p ≤ maxWord) :
    InRange { v with selected := some p } :=
  ⟨range.below_le, fun _ selected => Option.some.inj selected ▸ le⟩

variable (range : v.InRange) (len_le : len ≤ maxWord)
include range

/-- A window that stands no lower than before. -/
theorem raise {offset : Nat} (le : offset ≤ v.offset) (follow : Bool) :
    InRange { v with offset, follow } :=
  range.mk_offset (Nat.le_trans (Nat.add_le_add_right le _) range.below_le) follow

include len_le

/-- A window that stands no lower than it must to show the last entry of some length. -/
theorem within {offset : Nat} (le : offset ≤ v.maxOffset len) (follow : Bool) :
    InRange { v with offset, follow } := by
  have below := range.below_le
  unfold maxOffset at le
  exact range.mk_offset (by omega) follow

theorem settle : (v.settle len).InRange := by
  rw [Viewport.settle]
  split
  · exact range.within len_le (Nat.le_refl _) _
  · exact range.within len_le (Nat.min_le_right _ _) _

theorem onAppend : (v.onAppend len).InRange := by
  rw [Viewport.onAppend]
  split
  · exact range.within len_le (Nat.le_refl _) _
  · exact range

theorem resize {rows : Nat} (rows_le : rows ≤ maxWord) : (v.resize rows len).InRange := by
  have positive : 1 ≤ maxWord := by decide
  have tall : InRange { v with rows := max rows 1, offset := 0 } :=
    ⟨by simp only; omega, range.selected_le⟩
  rw [Viewport.resize, Viewport.settle]
  split
  · exact tall.within len_le (Nat.le_refl _) _
  · exact tall.within len_le (Nat.min_le_right _ _) _

theorem onEvicted (removed : List Nat) : (v.onEvicted removed len).InRange := by
  have raised := range.raise (Nat.sub_le v.offset (countBefore removed v.offset)) v.follow
  refine settle ⟨raised.below_le, fun p selected => ?_⟩ len_le
  obtain ⟨q, was, now⟩ := Option.bind_eq_some_iff.mp selected
  split at now
  · exact absurd now (by simp)
  · obtain rfl := Option.some.inj now
    exact Nat.le_trans (Nat.sub_le _ _) (range.selected_le q was)

theorem scrollDown (n : Nat) : (v.scrollDown n len).InRange :=
  range.within len_le (Nat.min_le_right _ _) _

/-- An entry that is brought into the last row is one of the length, so the row below it has a number. -/
theorem reveal (p : Nat) : (v.reveal p len).InRange := by
  rw [Viewport.reveal]
  split
  · exact range
  · split
    · next above => exact range.raise (Nat.le_of_lt above) _
    · split
      · refine range.mk_offset ?_ _
        omega
      · exact range

theorem revealInWords_eq (p : Nat) : v.revealInWords p len = .ok (v.reveal p len) := by
  have below_le := range.below_le
  rw [revealInWords, Viewport.reveal]
  split
  · rfl
  · split
    · rfl
    · rw [addInWords_eq below_le]
      simp only [bind, Except.bind]
      split
      · next below =>
          have sum := addInWords_eq (show p + 1 ≤ maxWord by omega)
          have difference := subInWords_eq (show v.rows ≤ p + 1 by omega)
          simp only [sum, difference]
          rfl
      · rfl

/-- An entry is selected and brought into the window. -/
theorem choose {p : Nat} (le : p ≤ maxWord) :
    revealInWords { v with selected := some p } p len =
        .ok (Viewport.reveal { v with selected := some p } p len) ∧
      (Viewport.reveal { v with selected := some p } p len).InRange :=
  ⟨(range.mk_selected le).revealInWords_eq len_le p, (range.mk_selected le).reveal len_le p⟩

theorem select (position : Option Nat) :
    v.selectInWords position len = .ok (v.select position len) ∧ (v.select position len).InRange := by
  have cleared : InRange { v with selected := none } := ⟨range.below_le, by simp⟩
  cases position with
  | none => exact ⟨rfl, cleared⟩
  | some p =>
      rw [selectInWords, Viewport.select]
      split
      · exact ⟨rfl, cleared⟩
      · next nonempty =>
          rw [subInWords_eq (Nat.pos_of_ne_zero nonempty)]
          exact range.choose len_le (by omega)

theorem navigateUp :
    v.navigateUpInWords len = .ok (v.navigateUp len) ∧ (v.navigateUp len).InRange := by
  rw [navigateUpInWords, Viewport.navigateUp]
  split
  · exact ⟨rfl, range⟩
  · next nonempty =>
      have last := subInWords_eq (Nat.pos_of_ne_zero nonempty)
      have last_le : len - 1 ≤ maxWord := Nat.le_trans (Nat.sub_le _ _) len_le
      rw [visibleInWords_eq v len_le]
      cases v.selected with
      | none =>
          have stop_le : (v.visible len).stop ≤ len := Nat.min_le_right _ _
          obtain ⟨same, chosen⟩ :=
            range.choose len_le (show (v.visible len).stop - 1 ≤ maxWord by omega)
          simp only [bind, Except.bind, same]
          exact ⟨rfl, chosen.below_le, chosen.selected_le⟩
      | some current =>
          have next_le := Nat.le_trans (Nat.le_of_lt (v.step_visible_lt nonempty .up current)) len_le
          obtain ⟨same, chosen⟩ := range.choose len_le next_le
          simp only [last, bind, Except.bind, stepInWords_eq last_le, same]
          exact ⟨rfl, chosen.below_le, chosen.selected_le⟩

theorem navigateDown :
    v.navigateDownInWords len = .ok (v.navigateDown len) ∧ (v.navigateDown len).InRange := by
  rw [navigateDownInWords, Viewport.navigateDown]
  split
  · exact ⟨rfl, range⟩
  · next nonempty =>
      have last := subInWords_eq (Nat.pos_of_ne_zero nonempty)
      have last_le : len - 1 ≤ maxWord := Nat.le_trans (Nat.sub_le _ _) len_le
      rw [visibleInWords_eq v len_le]
      cases v.selected with
      | none =>
          have start_le : (v.visible len).start ≤ len := Nat.min_le_right _ _
          obtain ⟨same, chosen⟩ := range.choose len_le (show (v.visible len).start ≤ maxWord by omega)
          simp only [last, bind, Except.bind, same]
          split
          · exact ⟨rfl, chosen.within len_le (Nat.le_refl _) _⟩
          · exact ⟨rfl, chosen⟩
      | some current =>
          have next_le := Nat.le_trans (Nat.le_of_lt (v.step_visible_lt nonempty .down current)) len_le
          obtain ⟨same, chosen⟩ := range.choose len_le next_le
          simp only [last, bind, Except.bind, stepInWords_eq last_le, same]
          split
          · exact ⟨rfl, chosen.within len_le (Nat.le_refl _) _⟩
          · exact ⟨rfl, chosen⟩

end InRange

/-! ## Every operation -/

/-- An operation that is told words stays in words. -/
theorem InRange.perform (range : v.InRange) {operation : Operation}
    (words : AreWords operation.numbers) :
    v.performInWords operation = .ok (v.perform operation) ∧ (v.perform operation).InRange := by
  cases operation with
  | onAppend len => exact ⟨rfl, range.onAppend (words len List.mem_cons_self)⟩
  | onEvicted removed len =>
      have len_le := words len List.mem_cons_self
      have few := words removed.length (List.mem_cons_of_mem _ List.mem_cons_self)
      exact ⟨onEvictedInWords_eq v few len, range.onEvicted len_le removed⟩
  | scrollUp n => exact ⟨rfl, range.raise (Nat.sub_le _ _) _⟩
  | scrollDown n len =>
      have len_le := words len List.mem_cons_self
      exact ⟨congrArg _ (v.scrollDownInWords_eq n len_le), range.scrollDown len_le n⟩
  | pageUp => exact ⟨rfl, range.raise (Nat.sub_le _ _) _⟩
  | pageDown len =>
      have len_le := words len List.mem_cons_self
      exact ⟨congrArg _ (v.scrollDownInWords_eq v.rows len_le), range.scrollDown len_le v.rows⟩
  | scrollToTop => exact ⟨rfl, range.raise (Nat.zero_le _) _⟩
  | scrollToEnd len =>
      exact ⟨rfl, range.within (words len List.mem_cons_self) (Nat.le_refl _) _⟩
  | resize rows len =>
      have len_le := words len List.mem_cons_self
      have rows_le := words rows (List.mem_cons_of_mem _ List.mem_cons_self)
      exact ⟨rfl, range.resize len_le rows_le⟩
  | detach => exact ⟨rfl, range.raise (Nat.le_refl _) _⟩
  | reveal position len =>
      have len_le := words len List.mem_cons_self
      exact ⟨range.revealInWords_eq len_le position, range.reveal len_le position⟩
  | centerOn position len =>
      exact ⟨rfl, range.within (words len List.mem_cons_self) (Nat.min_le_right _ _) _⟩
  | select position len => exact range.select (words len List.mem_cons_self) position
  | navigateUp len => exact range.navigateUp (words len List.mem_cons_self)
  | navigateDown len => exact range.navigateDown (words len List.mem_cons_self)

theorem InRange.run (range : v.InRange) {operations : List Operation}
    (words : ∀ operation ∈ operations, AreWords operation.numbers) :
    v.runInWords operations = .ok (v.run operations) ∧ (v.run operations).InRange := by
  induction operations generalizing v with
  | nil => exact ⟨rfl, range⟩
  | cons operation operations ih =>
      obtain ⟨first, range'⟩ := range.perform (words operation List.mem_cons_self)
      obtain ⟨rest, range''⟩ := ih range' fun op mem => words op (List.mem_cons_of_mem operation mem)
      refine ⟨?_, range''⟩
      rw [runInWords, List.foldlM_cons, first]
      exact rest

/-- How a window of `rows` rows fares in machine words. -/
structure StaysInWords (rows : Nat) (operations : List Operation) : Prop where
  /-- No sum is too great and no difference is below zero, and what is left is right. -/
  run_eq : (ofRows rows).runInWords operations = .ok ((ofRows rows).run operations)
  below_le : ((ofRows rows).run operations).offset + ((ofRows rows).run operations).rows ≤ maxWord
  selected_le : ∀ p, ((ofRows rows).run operations).selected = some p → p ≤ maxWord
  /-- What is read of the window is right, too. -/
  visible_eq : ∀ len ≤ maxWord, ((ofRows rows).run operations).visibleInWords len =
    ((ofRows rows).run operations).visible len

/-- A window stays in words as long as what it is told is in words.  The lengths need not agree with each
other, nor the positions with the lengths. -/
theorem inWords_run {rows : Nat} (rows_le : rows ≤ maxWord) {operations : List Operation}
    (words : ∀ operation ∈ operations, AreWords operation.numbers) :
    StaysInWords rows operations where
  run_eq := ((inRange_ofRows rows_le).run words).1
  below_le := ((inRange_ofRows rows_le).run words).2.below_le
  selected_le := ((inRange_ofRows rows_le).run words).2.selected_le
  visible_eq _ len_le := visibleInWords_eq _ len_le

/-- The last of as many entries as there can be is revealed, then there are three, then there are as many
again. -/
def toLastWord : List Operation :=
  [.detach, .reveal (maxWord - 1) maxWord, .scrollDown maxWord maxWord, .navigateDown 3,
    .select (some maxWord) maxWord]

/-- No smaller bound would do for the row below the window. -/
theorem inWords_run_toLastWord :
    (∀ operation ∈ toLastWord, AreWords operation.numbers) ∧ StaysInWords 20 toLastWord ∧
      (ofRows 20).run toLastWord = ⟨maxWord - 20, 20, true, some (maxWord - 1)⟩ := by
  have words : ∀ operation ∈ toLastWord, AreWords operation.numbers := by decide
  exact ⟨words, inWords_run (by decide) words, by decide +kernel⟩

end Viewport

end Chronicle
