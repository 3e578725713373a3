import Mathlib.Data.List.DropRight
import Chronicle.Json.Reader

/-!
# What a reader reads

The reader of JSON takes a value apart piece by piece, and each piece has one unit less of fuel than the
one that it is part of.  The fuel matters for where a reader gives up and for nothing else: with more of it
the same is read (`elements_mono`, `members_mono`).  So how a container was read can be said of its first piece and of the
rest (`elements_eq_ok`, `members_eq_ok`), and a value that is no container by its text alone
(`value_scalar`).
-/

namespace Chronicle.Json

/-- An array or an object. -/
def isContainer : Json → Bool
  | .list _ => true
  | .object _ => true
  | _ => false

namespace Reader

variable {fuel fuel' depth : Nat} {isFirst negative : Bool} {k : Kept} {cs rest : List Char} {v : Json}
  {vs : List Json} {ms : List (String × Json)}

theorem map_eq_ok {ε α β : Type} {f : α → β} {read : Except ε α} {b : β} :
    read.map f = .ok b ↔ ∃ a, read = .ok a ∧ f a = b := by
  cases read <;> simp [Except.map]

/-! ## White space -/

@[simp] theorem skipSpace_skipSpace (cs : List Char) : skipSpace (skipSpace cs) = skipSpace cs :=
  List.dropWhile_idempotent isSpace cs

@[simp] theorem value_skipSpace : value fuel depth (skipSpace cs) = value fuel depth cs := by
  cases fuel <;> simp only [value, skipSpace_skipSpace]

/-! ## Numbers -/

theorem finishReal_isContainer (read : finishReal negative k cs = .ok (v, rest)) :
    v.isContainer = false := by
  rw [finishReal] at read
  split at read <;> cases read
  rfl

theorem exponentPart_isContainer (read : exponentPart negative k cs = .ok (v, rest)) :
    v.isContainer = false := by
  rw [exponentPart] at read
  cases digits : digits1 (exponentSign cs).2 with
  | error e => simp [digits, Except.bind] at read
  | ok ds => exact finishReal_isContainer (by simpa [digits, Except.bind] using read)

theorem fractionPart_isContainer (read : fractionPart negative k cs = .ok (v, rest)) :
    v.isContainer = false := by
  rw [fractionPart] at read
  cases digits : digits1 cs with
  | error e => simp [digits, Except.bind] at read
  | ok ds =>
    simp only [digits, Except.bind] at read
    split at read
    · exact exponentPart_isContainer read
    · exact exponentPart_isContainer read
    · exact finishReal_isContainer read

theorem finishWhole_isContainer (read : finishWhole negative k cs = .ok (v, rest)) :
    v.isContainer = false := by
  rw [finishWhole] at read
  split at read
  · exact finishReal_isContainer read
  · split at read
    · cases read
      rfl
    · split at read
      · exact finishReal_isContainer read
      · cases read
        rfl

theorem afterWhole_isContainer (read : afterWhole negative k cs = .ok (v, rest)) :
    v.isContainer = false := by
  rw [afterWhole.eq_def] at read
  split at read
  · exact fractionPart_isContainer read
  · exact exponentPart_isContainer read
  · exact exponentPart_isContainer read
  · exact finishWhole_isContainer read

theorem unsignedNumber_isContainer (read : unsignedNumber negative cs = .ok (v, rest)) :
    v.isContainer = false := by
  rw [unsignedNumber.eq_def] at read
  split at read
  · cases read
  · split at read
    · split at read
      · cases read
      · exact afterWhole_isContainer read
    · exact afterWhole_isContainer read
  · split at read
    · exact afterWhole_isContainer read
    · cases read

/-! ## Values -/

/-- A bracket opens an array. -/
theorem value_list (opens : skipSpace cs = '[' :: rest) {after : List Char} :
    value fuel depth cs = .ok (v, after) ↔ ∃ fuel' depth' vs, fuel = fuel' + 1 ∧ depth = depth' + 1 ∧
      elements fuel' depth' true rest = .ok (vs, after) ∧ v = .list vs := by
  cases fuel with
  | zero => simp [value]
  | succ fuel =>
    cases depth with
    | zero => simp [value, opens]
    | succ depth => simp [value, opens, map_eq_ok, @eq_comm _ v]

/-- A brace opens an object. -/
theorem value_object (opens : skipSpace cs = '\x7b' :: rest) {after : List Char} :
    value fuel depth cs = .ok (v, after) ↔ ∃ fuel' depth' ms, fuel = fuel' + 1 ∧ depth = depth' + 1 ∧
      members fuel' depth' true rest = .ok (ms, after) ∧ v = .object ms := by
  cases fuel with
  | zero => simp [value]
  | succ fuel =>
    cases depth with
    | zero => simp [value, opens]
    | succ depth => simp [value, opens, map_eq_ok, @eq_comm _ v]

/-- A value that is no container needs no more fuel than one, and no depth. -/
theorem value_scalar (no_list : ∀ rest, skipSpace cs ≠ '[' :: rest)
    (no_object : ∀ rest, skipSpace cs ≠ '\x7b' :: rest) :
    value (fuel + 1) depth cs = value 1 0 cs := by
  simp only [value]
  split <;> simp_all

/-- Only a bracket or a brace opens a container. -/
theorem value_isContainer (no_list : ∀ rest, skipSpace cs ≠ '[' :: rest)
    (no_object : ∀ rest, skipSpace cs ≠ '\x7b' :: rest)
    (read : value fuel depth cs = .ok (v, rest)) : v.isContainer = false := by
  cases fuel with
  | zero => simp [value] at read
  | succ fuel =>
    rw [value] at read
    split at read
    · cases read
    iterate 3
      obtain ⟨_, -, made⟩ := map_eq_ok.1 read
      cases made
      rfl
    · exact unsignedNumber_isContainer read
    · obtain ⟨_, -, made⟩ := map_eq_ok.1 read
      cases made
      rfl
    · exact absurd ‹_› (no_list _)
    · exact absurd ‹_› (no_object _)
    · split at read
      · exact unsignedNumber_isContainer read
      · cases read

/-! ## Pieces of containers -/

/-- Either the array ends, or its first element is read and then the others. -/
theorem elements_eq_ok : elements (fuel + 1) depth isFirst cs = .ok (vs, rest) ↔
    element isFirst cs = .ok (.done rest) ∧ vs = [] ∨
      ∃ start v after vs', element isFirst cs = .ok (.item () start) ∧
        value fuel depth start = .ok (v, after) ∧
        elements fuel depth false after = .ok (vs', rest) ∧ vs = v :: vs' := by
  constructor
  · intro read
    rw [elements] at read
    split at read
    · cases read
    · cases read
      exact .inl ⟨‹_›, rfl⟩
    · split at read
      · cases read
      · obtain ⟨⟨vs', after⟩, others, made⟩ := map_eq_ok.1 read
        cases made
        exact .inr ⟨_, _, _, _, ‹_›, ‹_›, others, rfl⟩
  · rintro (⟨ends, rfl⟩ | ⟨start, v, after, vs', next, first, others, rfl⟩)
    · rw [elements, ends]
    · rw [elements, next]
      simp only [first, others, Except.map]

/-- Either the object ends, or its first member is read and then the others. -/
theorem members_eq_ok : members (fuel + 1) depth isFirst cs = .ok (ms, rest) ↔
    memberKey isFirst cs = .ok (.done rest) ∧ ms = [] ∨
      ∃ key end' start v after ms', memberKey isFirst cs = .ok (.item key end') ∧
        colon end' = .ok start ∧ value fuel depth start = .ok (v, after) ∧
        members fuel depth false after = .ok (ms', rest) ∧ ms = (key, v) :: ms' := by
  constructor
  · intro read
    rw [members] at read
    split at read
    · cases read
    · cases read
      exact .inl ⟨‹_›, rfl⟩
    · split at read
      · cases read
      · split at read
        · cases read
        · obtain ⟨⟨ms', after⟩, others, made⟩ := map_eq_ok.1 read
          cases made
          exact .inr ⟨_, _, _, _, _, _, ‹_›, ‹_›, ‹_›, others, rfl⟩
  · rintro (⟨ends, rfl⟩ | ⟨key, end', start, v, after, ms', next, separated, first, others, rfl⟩)
    · rw [members, ends]
    · rw [members, next]
      simp only [separated, first, others, Except.map]

/-! ## Fuel -/

/-- One more unit of fuel changes nothing that has been read.  The three readers call each other with one
unit less, so the induction is on the fuel of all three. -/
theorem succ_mono (fuel : Nat) :
    (∀ depth cs r, value fuel depth cs = .ok r → value (fuel + 1) depth cs = .ok r) ∧
    (∀ depth isFirst cs r, elements fuel depth isFirst cs = .ok r →
      elements (fuel + 1) depth isFirst cs = .ok r) ∧
    (∀ depth isFirst cs r, members fuel depth isFirst cs = .ok r →
      members (fuel + 1) depth isFirst cs = .ok r) := by
  induction fuel with
  | zero => simp [value, elements, members]
  | succ fuel ih =>
    obtain ⟨value_ih, elements_ih, members_ih⟩ := ih
    refine ⟨fun depth cs r read => ?_, fun depth isFirst cs r read => ?_,
      fun depth isFirst cs r read => ?_⟩
    · obtain ⟨v, after⟩ := r
      by_cases list : ∃ rest, skipSpace cs = '[' :: rest
      · obtain ⟨rest, opens⟩ := list
        obtain ⟨_, depth, vs, ⟨⟩, rfl, items, made⟩ := (value_list opens).1 read
        exact (value_list opens).2 ⟨_, depth, vs, rfl, rfl, elements_ih _ _ _ _ items, made⟩
      · by_cases object : ∃ rest, skipSpace cs = '\x7b' :: rest
        · obtain ⟨rest, opens⟩ := object
          obtain ⟨_, depth, ms, ⟨⟩, rfl, items, made⟩ := (value_object opens).1 read
          exact (value_object opens).2 ⟨_, depth, ms, rfl, rfl, members_ih _ _ _ _ items, made⟩
        · have scalar {fuel : Nat} : value (fuel + 1) depth cs = value 1 0 cs :=
            value_scalar (fun rest opens => list ⟨rest, opens⟩) fun rest opens => object ⟨rest, opens⟩
          rw [scalar] at read ⊢
          exact read
    · refine elements_eq_ok.2 ((elements_eq_ok.1 read).imp_right ?_)
      rintro ⟨start, v, after, vs, next, first, others, made⟩
      exact ⟨start, v, after, vs, next, value_ih _ _ _ first, elements_ih _ _ _ _ others, made⟩
    · refine members_eq_ok.2 ((members_eq_ok.1 read).imp_right ?_)
      rintro ⟨key, end', start, v, after, ms, next, separated, first, others, made⟩
      exact ⟨key, end', start, v, after, ms, next, separated, value_ih _ _ _ first,
        members_ih _ _ _ _ others, made⟩

/-- With more fuel the same elements are read. -/
theorem elements_mono (more : fuel ≤ fuel') {r : List Json × List Char}
    (read : elements fuel depth isFirst cs = .ok r) : elements fuel' depth isFirst cs = .ok r := by
  induction fuel', more using Nat.le_induction with
  | base => exact read
  | succ fuel' _ ih => exact (succ_mono fuel').2.1 _ _ _ _ ih

/-- With more fuel the same members are read. -/
theorem members_mono (more : fuel ≤ fuel') {r : List (String × Json) × List Char}
    (read : members fuel depth isFirst cs = .ok r) : members fuel' depth isFirst cs = .ok r := by
  induction fuel', more using Nat.le_induction with
  | base => exact read
  | succ fuel' _ ih => exact (succ_mono fuel').2.2 _ _ _ _ ih

end Reader

end Chronicle.Json
