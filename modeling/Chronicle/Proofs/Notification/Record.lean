import Chronicle.Notification.Decode
import Chronicle.Proofs.Json.Reader

/-!
# The record in a text

The decoder of notifications takes the tag of a record out while it reads: it judges the tag as soon as it
is reached, before it knows whether the rest of the text is JSON at all.  For a text that does hold a JSON
value that makes no difference (`decode_of_read`): what is decoded depends on the value and on nothing else
of the text, and the only fault left is that the value is no notification.
-/

namespace Chronicle.Notification

open Json (Fault)
open Json.Reader

variable {fuel fuel' depth : Nat} {isFirst : Bool} {cs rest : List Char} {v : Json} {tag : Tag}
  {ms : List (String × Json)}

/-- The kind that the value of a tag names. -/
def tagValue? (v : Json) : Option Tag := (text? v).bind Tag.ofName?

/-- The kind that the one tag among the members names. -/
def tagOf? (ms : List (String × Json)) : Option Tag :=
  if ms.countP (·.1 = tagName) ≤ 1 then (ms.lookup tagName).bind tagValue? else none

/-- The members besides the tag. -/
def fieldsOf (ms : List (String × Json)) : List (String × Json) := ms.filter (·.1 ≠ tagName)

/-- The kind and the fields of a JSON value. -/
def recordOf? : Json → Option (Tag × Fields)
  | .object ms => (tagOf? ms).map (·, .named (fieldsOf ms))
  | .list (v :: items) => (tagValue? v).map (·, .placed items)
  | _ => none

/-- The notification that a JSON value is. -/
def ofJson? (v : Json) : Option Notification := (recordOf? v).bind fun (tag, fs) => ofFields? tag fs

/-- What there is, or the fault that a value of another kind is. -/
def orMismatched {α : Type} (a : Option α) : Except DecodeFault α := a.elim (.error .mismatched) .ok

/-- The kind of a record of which a reader has met the tag `known`, if any, and the members `ms` follow. -/
def tagAmong? (known : Option Tag) (ms : List (String × Json)) : Option Tag :=
  known.elim (tagOf? ms) fun tag => if ms.any (·.1 = tagName) then none else some tag

theorem tagAmong?_nil (known : Option Tag) : tagAmong? known [] = known := by
  cases known <;> rfl

theorem tagAmong?_cons_tag :
    tagAmong? none ((tagName, v) :: ms) = (tagValue? v).bind fun tag => tagAmong? (some tag) ms := by
  cases again : ms.any (·.1 = tagName) with
  | true =>
    have repeated : 0 < ms.countP (·.1 = tagName) := List.countP_pos_iff.2 (List.any_eq_true.1 again)
    simp [tagAmong?, tagOf?, repeated.ne', again]
  | false =>
    have none_left : ms.countP (·.1 = tagName) = 0 := by simpa [List.countP_eq_zero] using again
    simp [tagAmong?, tagOf?, none_left, again]

theorem tagAmong?_cons_field {name : String} (field : name ≠ tagName) (known : Option Tag) :
    tagAmong? known ((name, v) :: ms) = tagAmong? known ms := by
  have other : (tagName == name) = false := by simpa using field.symm
  cases known with
  | none => simp [tagAmong?, tagOf?, field, List.lookup_cons, other]
  | some tag => simp only [tagAmong?, Option.elim_some, List.any_cons, decide_eq_false field, Bool.false_or]

/-! ## Reading -/

@[simp] theorem lift_ok {α : Type} (a : α) : lift (.ok a) = .ok a := rfl

/-- A container is not looked into for a tag, and would not name one. -/
theorem readTag_of_value (read : value fuel depth cs = .ok (v, rest)) :
    readTag cs = (orMismatched (tagValue? v)).map (·, rest) := by
  rw [readTag.eq_def]
  split
  · obtain ⟨_, _, _, -, -, -, rfl⟩ := (value_list ‹_›).1 read
    rfl
  · obtain ⟨_, _, _, -, -, -, rfl⟩ := (value_object ‹_›).1 read
    rfl
  · cases fuel with
    | zero => simp [value] at read
    | succ fuel =>
      rw [value_scalar ‹_› ‹_›] at read
      rw [value_skipSpace, read, lift_ok]
      cases v with
      | text s =>
        rw [show tagValue? (.text s) = Tag.ofName? s from rfl]
        cases named : Tag.ofName? s <;> simp [named, orMismatched, Except.map]
      | _ => rfl

theorem readMembers_done (ends : memberKey isFirst cs = .ok (.done rest)) (tag : Option Tag) :
    readMembers (fuel + 1) tag isFirst cs = (orMismatched tag).map fun tag => ((tag, []), rest) := by
  rw [readMembers, ends]
  cases tag <;> rfl

theorem readMembers_tag {end' start after : List Char}
    (next : memberKey isFirst cs = .ok (.item tagName end')) (separated : colon end' = .ok start)
    (read : value fuel depth start = .ok (v, after)) :
    readMembers (fuel' + 1) none isFirst cs =
      (orMismatched (tagValue? v)).bind fun tag => readMembers fuel' (some tag) false after := by
  rw [readMembers, next]
  simp only [lift_ok, ↓reduceIte, Option.isSome_none, Bool.false_eq_true, separated,
    readTag_of_value read]
  cases tagValue? v <;> rfl

theorem readMembers_field {name : String} {end' start after : List Char} {known : Option Tag}
    (field : name ≠ tagName)
    (next : memberKey isFirst cs = .ok (.item name end')) (separated : colon end' = .ok start)
    (read : value fuel (maxDepth - 1) start = .ok (v, after)) :
    readMembers (fuel + 1) known isFirst cs = (readMembers fuel known false after).map
      fun r => ((r.1.1, (name, v) :: r.1.2), r.2) := by
  rw [readMembers, next]
  simp only [lift_ok, field, ↓reduceIte, separated, read]

/-- The reader takes the tag out of the members, whether it has met one before them or not. -/
theorem readMembers_of_members (read : members fuel (maxDepth - 1) isFirst cs = .ok (ms, rest))
    (known : Option Tag) : readMembers fuel known isFirst cs =
      (orMismatched (tagAmong? known ms)).map fun tag => ((tag, fieldsOf ms), rest) := by
  induction fuel generalizing known isFirst cs ms with
  | zero => simp [members] at read
  | succ fuel ih =>
    obtain ⟨ends, rfl⟩ | ⟨name, end', start, v, after, ms, next, separated, first, others, rfl⟩ :=
      members_eq_ok.1 read
    · rw [readMembers_done ends, tagAmong?_nil]
      rfl
    · by_cases found : name = tagName
      · subst found
        cases known with
        | some tag =>
          rw [readMembers, next]
          rfl
        | none =>
          rw [readMembers_tag next separated first, tagAmong?_cons_tag]
          cases tagValue? v with
          | none => rfl
          | some tag => exact ih others (some tag)
      · rw [readMembers_field found next separated first, ih others, tagAmong?_cons_field found]
        cases tagAmong? known ms with
        | none => rfl
        | some tag => simp [orMismatched, Except.map, fieldsOf, found]

/-- The record at the front of the text is the one of the value there. -/
theorem readRecord_of_value (read : value (fuelFor cs) maxDepth cs = .ok (v, rest)) :
    readRecord cs = (orMismatched (recordOf? v)).map (·, rest) := by
  rw [readRecord.eq_def]
  dsimp only
  split
  · obtain ⟨fuel, _, ms, enough, ⟨⟩, body, rfl⟩ := (value_object ‹_›).1 read
    rw [readMembers_of_members (members_mono (by omega) body) none]
    rw [show tagAmong? none ms = tagOf? ms from rfl]
    cases known : tagOf? ms <;> simp [recordOf?, known, orMismatched, Except.map]
  · obtain ⟨fuel, _, items, enough, ⟨⟩, body, rfl⟩ := (value_list ‹_›).1 read
    cases fuel with
    | zero => simp [elements] at body
    | succ fuel =>
      obtain ⟨ends, rfl⟩ | ⟨start, v, after, items', next, first, others, rfl⟩ := elements_eq_ok.1 body
      · rw [ends]
        rfl
      · rw [next]
        simp only [lift_ok, readTag_of_value first]
        have more : elements (fuelFor cs) (maxDepth - 1) false after = .ok (items', rest) :=
          elements_mono (by omega) others
        cases known : tagValue? v <;> simp [recordOf?, known, orMismatched, Except.map, more]
  · have scalar := value_isContainer ‹_› ‹_› read
    rw [value_skipSpace, read]
    cases v with
    | list _ => cases scalar
    | object _ => cases scalar
    | _ => rfl

/-- **What is decoded depends on the value that a text holds alone.** -/
theorem decode_of_read {s : String} (read : Json.read s = .ok v) :
    decode s = orMismatched (ofJson? v) := by
  simp only [Json.read] at read
  split at read
  · cases read
  · split at read
    · cases read
      rw [decode, readRecord_of_value ‹_›, ofJson?]
      cases recordOf? v with
      | none => rfl
      | some r =>
        cases made : ofFields? r.1 r.2 <;> simp [orMismatched, Except.map, *]
    · cases read

/-- A line is decoded as its text is, and a fault is given the line's number. -/
theorem decodeLine_of_read {s : String} (line : Nat) (read : Json.read s = .ok v) :
    decodeLine line s = (ofJson? v).elim (.error ⟨line, .mismatched⟩) .ok := by
  rw [decodeLine, decode_of_read read]
  cases ofJson? v <;> rfl

end Chronicle.Notification
