import Chronicle.Ticker
import Mathlib.Data.List.Induction

/-!
# A ticker keeps time

A ticker is asked again and again whether its deadline has come, at times that never go back.  What it
answers is read off its deadline, and the deadline is held between two bounds (`Paced`): it is ahead of
the last call by a period at most, and after `k` fires it is at least `k + 1` periods after the start.
The first bound says that no call finds two deadlines due, the second that a ticker does not fire more
often than once a period, whichever calls came late (`keepsTime_start`).

The second bound is an equation as long as no call comes so late that a deadline is skipped
(`IsPunctual`), so a ticker does not drift.
-/

namespace Chronicle

namespace Ticker

variable {t : Ticker} {period : Duration} {begin now later : Instant} {times : List Instant} {k : Nat}

/-! ## Series of calls -/

/-- The ticker after calls at some times. -/
def after (t : Ticker) (times : List Instant) : Ticker := times.foldl (fun t now => (t.fire now).2) t

/-- How many of the calls fire. -/
def fires (t : Ticker) : List Instant → Nat
  | [] => 0
  | now :: times => (if (t.fire now).1 then 1 else 0) + (t.fire now).2.fires times

/-- No call comes a period or more after the deadline that it finds. -/
def IsPunctual (t : Ticker) : List Instant → Prop
  | [] => True
  | now :: times => now < t.next + t.period ∧ (t.fire now).2.IsPunctual times

theorem after_concat (t : Ticker) (times : List Instant) (now : Instant) :
    t.after (times ++ [now]) = ((t.after times).fire now).2 := by
  rw [after, List.foldl_append]
  rfl

theorem fires_concat (t : Ticker) (times : List Instant) (now : Instant) :
    t.fires (times ++ [now]) = t.fires times + if ((t.after times).fire now).1 then 1 else 0 := by
  induction times generalizing t with
  | nil => rw [List.nil_append, fires, fires, fires, Nat.zero_add, Nat.add_zero]; rfl
  | cons first times ih => rw [List.cons_append, fires, fires, ih, Nat.add_assoc]; rfl

theorem isPunctual_concat (t : Ticker) (times : List Instant) (now : Instant) :
    t.IsPunctual (times ++ [now]) ↔
      t.IsPunctual times ∧ now < (t.after times).next + (t.after times).period := by
  induction times generalizing t with
  | nil => simp [IsPunctual, after]
  | cons first times ih =>
      rw [List.cons_append, IsPunctual, IsPunctual, ih, and_assoc]
      rfl

/-! ## One call -/

/-- What a call can do: nothing, fire and go on to the next deadline, or fire and start afresh. -/
theorem fire_cases (t : Ticker) (now : Instant) :
    (now < t.next ∧ t.fire now = (false, t)) ∨
    (t.next ≤ now ∧ now < t.next + t.period ∧ t.fire now = (true, ⟨t.period, t.next + t.period⟩)) ∨
    (t.next + t.period ≤ now ∧ t.fire now = (true, ⟨t.period, now + t.period⟩)) := by
  rw [fire]
  split
  · next early => exact .inl ⟨early, rfl⟩
  · next due =>
      split
      · next late => exact .inr (.inr ⟨late, rfl⟩)
      · next prompt => exact .inr (.inl ⟨Nat.not_lt.mp due, Nat.not_le.mp prompt, rfl⟩)

theorem fire_eq_true_iff (t : Ticker) (now : Instant) : (t.fire now).1 = true ↔ t.next ≤ now := by
  rcases t.fire_cases now with ⟨early, same⟩ | ⟨due, -, same⟩ | ⟨late, same⟩
  · simp [same, Nat.not_le.mpr early]
  · simp [same, due]
  · simp [same, Nat.le_of_add_right_le late]

/-- Where the deadline of a ticker stands that was started at `begin` and has fired `k` times, when it was
last called at `now`. -/
structure Paced (period : Duration) (begin : Instant) (k : Nat) (now : Instant) (t : Ticker) :
    Prop where
  period_eq : t.period = period
  ahead : now < t.next
  near : t.next ≤ now + period
  /-- The fires so far took a period each. -/
  past : begin + k * period ≤ now
  /-- So does the next one. -/
  rate : begin + (k + 1) * period ≤ t.next

theorem paced_start (period : Duration) (begin : Instant) :
    Paced (max period shortestPeriod) begin 0 begin (start period begin) where
  period_eq := rfl
  ahead := Nat.lt_add_of_pos_right (Nat.lt_of_lt_of_le (by decide) (Nat.le_max_right _ _))
  near := Nat.le_refl _
  past := by rw [Nat.zero_mul]; exact Nat.le_refl _
  rate := by rw [Nat.zero_add, Nat.one_mul]; exact Nat.le_refl _

theorem Paced.period_pos (paced : Paced period begin k now t) : 0 < period :=
  Nat.pos_of_lt_add_right (Nat.lt_of_lt_of_le paced.ahead paced.near)

theorem Paced.fire (paced : Paced period begin k now t) (le : now ≤ later) :
    Paced period begin (k + if (t.fire later).1 then 1 else 0) later (t.fire later).2 := by
  have positive := paced.period_pos
  obtain ⟨rfl, ahead, near, past, rate⟩ := paced
  have next : begin + (k + 1 + 1) * t.period = begin + (k + 1) * t.period + t.period := by
    rw [Nat.succ_mul, Nat.add_assoc]
  rcases t.fire_cases later with ⟨early, same⟩ | ⟨due, prompt, same⟩ | ⟨late, same⟩
  · rw [same]
    exact ⟨rfl, early, Nat.le_trans near (Nat.add_le_add_right le _), Nat.le_trans past le, rate⟩
  · rw [same]
    refine ⟨rfl, prompt, Nat.add_le_add_right due _, Nat.le_trans rate due, ?_⟩
    exact Nat.le_trans (Nat.le_of_eq next) (Nat.add_le_add_right rate _)
  · rw [same]
    have due : t.next ≤ later := Nat.le_of_add_right_le late
    refine ⟨rfl, Nat.lt_add_of_pos_right positive, Nat.le_refl _, Nat.le_trans rate due, ?_⟩
    exact Nat.le_trans (Nat.le_of_eq next) (Nat.add_le_add_right (Nat.le_trans rate due) _)

theorem Paced.le_div (paced : Paced period begin k now t) (le : now ≤ later) :
    k ≤ (later - begin) / period :=
  (Nat.le_div_iff_mul_le paced.period_pos).mpr
    (Nat.le_sub_of_add_le' (Nat.le_trans paced.past le))

/-- A call that skips no deadline leaves the next one on the grid. -/
theorem Paced.next_fire (paced : Paced period begin k now t)
    (on_grid : t.next = begin + (k + 1) * period) (prompt : later < t.next + period) :
    (t.fire later).2.next = begin + ((k + if (t.fire later).1 then 1 else 0) + 1) * period := by
  rcases t.fire_cases later with ⟨early, same⟩ | ⟨due, -, same⟩ | ⟨late, same⟩
  · rw [same]
    exact on_grid
  · rw [same]
    show t.next + t.period = _
    have step : (k + 1 + 1) * period = (k + 1) * period + period := Nat.succ_mul _ _
    rw [on_grid, paced.period_eq, if_pos rfl, step, Nat.add_assoc]
  · rw [paced.period_eq] at late
    exact absurd prompt (Nat.not_lt.mpr late)

/-! ## All calls -/

/-- The calls that were made, with the last one. -/
theorem paced_after (period : Duration) {begin now : Instant} {times : List Instant}
    (ordered : (begin :: (times ++ [now])).Pairwise (· ≤ ·)) :
    Paced (max period shortestPeriod) begin ((start period begin).fires (times ++ [now])) now
      ((start period begin).after (times ++ [now])) := by
  induction times using List.reverseRecOn generalizing now with
  | nil =>
      have le : begin ≤ now := List.rel_of_pairwise_cons ordered (List.mem_singleton_self now)
      have first := (paced_start period begin).fire le
      rwa [Nat.zero_add] at first
  | append_singleton times last ih =>
      rw [← List.cons_append, List.pairwise_append] at ordered
      obtain ⟨before, -, le⟩ := ordered
      have more := (ih before).fire (le last (by simp) now (List.mem_singleton_self now))
      rwa [fires_concat _ _ now, after_concat _ _ now]

/-- Without a late call every deadline is a whole number of periods after the start. -/
theorem next_after (period : Duration) {begin now : Instant} {times : List Instant}
    (ordered : (begin :: (times ++ [now])).Pairwise (· ≤ ·))
    (punctual : (start period begin).IsPunctual (times ++ [now])) :
    ((start period begin).after (times ++ [now])).next =
      begin + ((start period begin).fires (times ++ [now]) + 1) * max period shortestPeriod := by
  induction times using List.reverseRecOn generalizing now with
  | nil =>
      have prompt := ((isPunctual_concat _ [] now).mp punctual).2
      have first := (paced_start period begin).next_fire (by simp [start]) prompt
      rwa [Nat.zero_add] at first
  | append_singleton times last ih =>
      rw [← List.cons_append, List.pairwise_append] at ordered
      obtain ⟨prompt, last_prompt⟩ := (isPunctual_concat _ _ now).mp punctual
      have paced := paced_after period ordered.1
      rw [paced.period_eq] at last_prompt
      rw [fires_concat _ _ now, after_concat _ _ now]
      exact paced.next_fire (ih ordered.1 prompt) last_prompt

/-- How the ticker `t`, which was started at `begin` and called at `times`, answers a call at `now`. -/
structure KeepsTime (t : Ticker) (begin : Instant) (times : List Instant) (now : Instant) : Prop where
  /-- It fires when the deadline has come. -/
  fires_iff : ((t.after times).fire now).1 = true ↔ (t.after times).next ≤ now
  remaining_pos : 0 < (t.after (times ++ [now])).remaining now
  remaining_le : (t.after (times ++ [now])).remaining now ≤ t.period
  /-- It does not fire twice at one time. -/
  once : ((t.after (times ++ [now])).fire now).1 = false
  /-- It does not fire more than once a period. -/
  rate : ∀ later, now ≤ later → t.fires (times ++ [now]) ≤ (later - begin) / t.period
  /-- It does not drift as long as no deadline is skipped. -/
  on_grid : t.IsPunctual (times ++ [now]) →
    (t.after (times ++ [now])).next = begin + (t.fires (times ++ [now]) + 1) * t.period
  /-- Deadlines that were skipped are made up for by one fire. -/
  rebased : (t.after times).next + t.period ≤ now →
    (t.after times).fire now = (true, ⟨t.period, now + t.period⟩)

theorem period_after (t : Ticker) (times : List Instant) : (t.after times).period = t.period := by
  induction times using List.reverseRecOn with
  | nil => rfl
  | append_singleton times now ih =>
      rw [after_concat, ← ih]
      rcases (t.after times).fire_cases now with ⟨-, same⟩ | ⟨-, -, same⟩ | ⟨-, same⟩ <;> rw [same]

/-- A ticker keeps time whatever its period, as long as the clock does not go back. -/
theorem keepsTime_start (period : Duration) {begin now : Instant} {times : List Instant}
    (ordered : (begin :: (times ++ [now])).Pairwise (· ≤ ·)) :
    start period begin = ⟨max period shortestPeriod, begin + max period shortestPeriod⟩ ∧
      (start period begin).KeepsTime begin times now := by
  have paced := paced_after period ordered
  refine ⟨rfl, fire_eq_true_iff _ now, ?_, ?_, ?_, fun _ => paced.le_div, next_after period ordered, ?_⟩
  · exact Nat.sub_pos_of_lt paced.ahead
  · exact Nat.sub_le_of_le_add (Nat.le_trans paced.near (Nat.le_of_eq (Nat.add_comm _ _)))
  · rw [Bool.eq_false_iff, Ne, fire_eq_true_iff, Nat.not_le]
    exact paced.ahead
  · intro late
    have period_eq := period_after (start period begin) times
    rw [← period_eq] at late ⊢
    rcases ((start period begin).after times).fire_cases now with
      ⟨early, -⟩ | ⟨-, prompt, -⟩ | ⟨-, same⟩
    · exact absurd early (Nat.not_lt.mpr (Nat.le_of_add_right_le late))
    · exact absurd prompt (Nat.not_lt.mpr late)
    · exact same

/-- A ticker of sixteen milliseconds that is called at ten, sixteen and forty, and then only at a hundred:
it fires twice on the grid, and once for the deadlines that were skipped. -/
theorem keepsTime_start_missedTicks :
    ([0, 10000000, 16000000, 40000000, 100000000] : List Instant).Pairwise (· ≤ ·) ∧
      (start defaultPeriod 0).KeepsTime 0 [10000000, 16000000, 40000000] 100000000 ∧
      (start defaultPeriod 0).fires [10000000, 16000000, 40000000] = 2 ∧
      ((start defaultPeriod 0).after [10000000, 16000000, 40000000]).next = 48000000 ∧
      (start defaultPeriod 0).fires [10000000, 16000000, 40000000, 100000000] = 3 ∧
      ((start defaultPeriod 0).after [10000000, 16000000, 40000000, 100000000]).next = 116000000 := by
  have ordered : ([0, 10000000, 16000000, 40000000, 100000000] : List Instant).Pairwise (· ≤ ·) := by
    decide
  exact ⟨ordered, (keepsTime_start defaultPeriod ordered).2, by decide, by decide, by decide, by decide⟩

end Ticker

end Chronicle
