import Chronicle.Stream

/-!
# The lines of a text and of its bytes

A text may be cut into lines before or after its bytes are read (`map_decode_byteLines`): the two bytes that
matter for lines are characters of their own, and no other character has them (`Spells.low`).  So a pump, which
cuts first, pushes all lines of what it reads, if that is text as a whole (`pumpLines_eq_lines`).
-/

namespace Chronicle

namespace Text.Utf8

/-! ## One character -/

theorem tail?_eq_some {b : UInt8} {n : Nat} (cont : tail? b = some n) : 128 ≤ b.toNat := by
  rw [tail?] at cont
  split at cont
  · next range => exact range.1
  · exact absurd cont (by simp)

theorem char?_eq_some {least n : Nat} {c : Char} (char : char? least n = some c) :
    c.toNat = n ∧ least ≤ n := by
  by_cases valid : n.isValidChar
  · by_cases enough : least ≤ n
    · rw [char?, dif_pos valid, if_pos enough] at char
      obtain rfl := Option.some.inj char
      exact ⟨rfl, enough⟩
    · rw [char?, dif_pos valid, if_neg enough] at char
      exact absurd char (by simp)
  · rw [char?, dif_neg valid] at char
    exact absurd char (by simp)

/-- The bytes are those of the character. -/
structure Spells (bytes : List UInt8) (c : Char) : Prop where
  decode_append : ∀ rest, decode (bytes ++ rest) = (decode rest).map (c :: ·)
  /-- A byte of the lower half is a character of its own. -/
  low : ∀ b ∈ bytes, b.toNat < 128 → bytes = [b] ∧ c.toNat = b.toNat
  high : c.toNat < 128 → ∃ b, bytes = [b] ∧ b.toNat = c.toNat

/-- A character of more than one byte. -/
theorem Spells.long {bytes : List UInt8} {c : Char}
    (decode_append : ∀ rest, decode (bytes ++ rest) = (decode rest).map (c :: ·))
    (upper : ∀ b ∈ bytes, 128 ≤ b.toNat) (above : 128 ≤ c.toNat) : Spells bytes c where
  decode_append := decode_append
  low b mem low := absurd low (Nat.not_lt.mpr (upper b mem))
  high low := absurd low (Nat.not_lt.mpr above)

section Lengths

variable {a : UInt8}

theorem decode_one (one : a.toNat < 0x80) (rest : List UInt8) :
    decode (a :: rest) = (char? 0 a.toNat).bind fun c => (decode rest).map (c :: ·) := by
  rw [decode.eq_def]
  simp only [one, if_true]
  cases char? 0 a.toNat <;> cases decode rest <;> rfl

theorem decode_two (lead : ¬ a.toNat < 0xC0) (two : a.toNat < 0xE0) (b : UInt8) (rest : List UInt8) :
    decode (a :: b :: rest) =
      ((tail? b).bind fun y => char? 0x80 ((a.toNat - 0xC0) * 64 + y)).bind fun c =>
        (decode rest).map (c :: ·) := by
  have one : ¬ a.toNat < 0x80 := by omega
  rw [decode.eq_def]
  simp only [one, lead, two, if_true, if_false, Option.bind_assoc, Option.map_eq_bind]
  rfl

theorem decode_three (lead : ¬ a.toNat < 0xE0) (three : a.toNat < 0xF0) (b b' : UInt8)
    (rest : List UInt8) :
    decode (a :: b :: b' :: rest) =
      ((tail? b).bind fun y => (tail? b').bind fun z =>
        char? 0x800 (((a.toNat - 0xE0) * 64 + y) * 64 + z)).bind fun c =>
          (decode rest).map (c :: ·) := by
  have one : ¬ a.toNat < 0x80 := by omega
  have none : ¬ a.toNat < 0xC0 := by omega
  rw [decode.eq_def]
  simp only [one, none, lead, three, if_true, if_false, Option.bind_assoc, Option.map_eq_bind]
  rfl

theorem decode_four (lead : ¬ a.toNat < 0xF0) (four : a.toNat < 0xF8) (b b' b'' : UInt8)
    (rest : List UInt8) :
    decode (a :: b :: b' :: b'' :: rest) =
      ((tail? b).bind fun y => (tail? b').bind fun z => (tail? b'').bind fun w =>
        char? 0x10000 ((((a.toNat - 0xF0) * 64 + y) * 64 + z) * 64 + w)).bind fun c =>
          (decode rest).map (c :: ·) := by
  have one : ¬ a.toNat < 0x80 := by omega
  have none : ¬ a.toNat < 0xC0 := by omega
  have two : ¬ a.toNat < 0xE0 := by omega
  rw [decode.eq_def]
  simp only [one, none, two, lead, four, if_true, if_false, Option.bind_assoc, Option.map_eq_bind]
  rfl

end Lengths

/-- Text that begins with the bytes of what may be a character does begin with that character. -/
theorem first_of_decode (bytes : List UInt8) {rest : List UInt8} {text : List Char} {first : Option Char}
    (read : ∀ rest, decode (bytes ++ rest) = first.bind fun c => (decode rest).map (c :: ·))
    (decoded : decode (bytes ++ rest) = some text) :
    ∃ c text', first = some c ∧ text = c :: text' ∧
      (∀ rest, decode (bytes ++ rest) = (decode rest).map (c :: ·)) ∧ decode rest = some text' := by
  rw [read] at decoded
  obtain ⟨c, char, mapped⟩ := Option.bind_eq_some_iff.mp decoded
  obtain ⟨text', after, rfl⟩ := Option.map_eq_some_iff.mp mapped
  exact ⟨c, text', char, rfl, fun rest => by rw [read, char, Option.bind_some], after⟩

theorem decode_cons {a : UInt8} {rest : List UInt8} {text : List Char}
    (decoded : decode (a :: rest) = some text) :
    ∃ bytes c rest' text', a :: rest = bytes ++ rest' ∧ text = c :: text' ∧ Spells bytes c ∧
      decode rest' = some text' := by
  by_cases one : a.toNat < 0x80
  · obtain ⟨c, text', char, rfl, spells, read⟩ :=
      first_of_decode [a] (decode_one one) decoded
    have value := (char?_eq_some char).1
    refine ⟨[a], c, rest, text', rfl, rfl, ⟨spells, fun b mem _ => ?_, fun _ => ?_⟩, read⟩
    · obtain rfl := List.mem_singleton.mp mem
      exact ⟨rfl, value⟩
    · exact ⟨a, rfl, value.symm⟩
  have upper : 128 ≤ a.toNat := Nat.not_lt.mp one
  by_cases none : a.toNat < 0xC0
  · rw [decode.eq_def] at decoded
    simp [one, none] at decoded
  by_cases two : a.toNat < 0xE0
  · obtain _ | ⟨b, rest⟩ := rest
    · rw [decode.eq_def] at decoded
      simp [one, none, two] at decoded
    · obtain ⟨c, text', first, rfl, spells, read⟩ :=
        first_of_decode [a, b] (decode_two none two b) decoded
      obtain ⟨y, second, char⟩ := Option.bind_eq_some_iff.mp first
      have above := (char?_eq_some char).1 ▸ (char?_eq_some char).2
      refine ⟨[a, b], c, rest, text', rfl, rfl, .long spells ?_ (by omega), read⟩
      simp [upper, tail?_eq_some second]
  by_cases three : a.toNat < 0xF0
  · obtain _ | ⟨b, _ | ⟨b', rest⟩⟩ := rest
    iterate 2
      rw [decode.eq_def] at decoded
      simp [one, none, two, three] at decoded
    · obtain ⟨c, text', first, rfl, spells, read⟩ :=
        first_of_decode [a, b, b'] (decode_three two three b b') decoded
      obtain ⟨y, second, z, third, char⟩ := by simpa only [Option.bind_eq_some_iff] using first
      have above := (char?_eq_some char).1 ▸ (char?_eq_some char).2
      refine ⟨[a, b, b'], c, rest, text', rfl, rfl, .long spells ?_ (by omega), read⟩
      simp [upper, tail?_eq_some second, tail?_eq_some third]
  by_cases four : a.toNat < 0xF8
  · obtain _ | ⟨b, _ | ⟨b', _ | ⟨b'', rest⟩⟩⟩ := rest
    iterate 3
      rw [decode.eq_def] at decoded
      simp [one, none, two, three, four] at decoded
    · obtain ⟨c, text', first, rfl, spells, read⟩ :=
        first_of_decode [a, b, b', b''] (decode_four three four b b' b'') decoded
      obtain ⟨y, second, z, third, w, fourth, char⟩ := by
        simpa only [Option.bind_eq_some_iff] using first
      have above := (char?_eq_some char).1 ▸ (char?_eq_some char).2
      refine ⟨[a, b, b', b''], c, rest, text', rfl, rfl, .long spells ?_ (by omega), read⟩
      simp [upper, tail?_eq_some second, tail?_eq_some third, tail?_eq_some fourth]
  · rw [decode.eq_def] at decoded
    simp [one, none, two, three, four] at decoded

/-! ## Several characters -/

theorem Spells.ne_nil {bytes : List UInt8} {c : Char} (spells : Spells bytes c) : bytes ≠ [] := by
  rintro rfl
  exact absurd (spells.decode_append []) (by simp [decode])

/-- The bytes are those of the characters, one after the other. -/
inductive Spelled : List UInt8 → List Char → Prop where
  | nil : Spelled [] []
  | cons {bytes rest : List UInt8} {c : Char} {text : List Char} (spells : Spells bytes c)
      (spelled : Spelled rest text) : Spelled (bytes ++ rest) (c :: text)

theorem Spelled.append {bytes bytes' : List UInt8} {text text' : List Char}
    (spelled : Spelled bytes text) (spelled' : Spelled bytes' text') :
    Spelled (bytes ++ bytes') (text ++ text') := by
  induction spelled with
  | nil => exact spelled'
  | cons spells _ ih =>
      rw [List.append_assoc]
      exact .cons spells ih

theorem Spelled.decode {bytes : List UInt8} {text : List Char} (spelled : Spelled bytes text) :
    decode bytes = some text := by
  induction spelled with
  | nil => rfl
  | cons spells _ ih =>
      rw [spells.decode_append, ih]
      rfl

theorem spelled_of_decode (n : Nat) : ∀ {bytes : List UInt8} {text : List Char}, bytes.length ≤ n →
    decode bytes = some text → Spelled bytes text := by
  induction n with
  | zero =>
      intro bytes text short decoded
      obtain rfl := List.eq_nil_of_length_eq_zero (Nat.le_zero.mp short)
      obtain rfl := Option.some.inj decoded
      exact .nil
  | succ n ih =>
      intro bytes text short decoded
      cases bytes with
      | nil =>
          obtain rfl := Option.some.inj decoded
          exact .nil
      | cons a rest =>
          obtain ⟨first, c, rest', text', split, rfl, spells, read⟩ := decode_cons decoded
          have some_first := List.length_pos_iff.mpr spells.ne_nil
          have length := congrArg List.length split
          rw [List.length_append] at length
          rw [split]
          exact .cons spells (ih (by omega) read)

end Text.Utf8

namespace Text

open Utf8

/-! ## Lines -/

theorem splitLinesFrom_append {α : Type} [DecidableEq α] {feed : α} (ret : α) {items : List α}
    (whole : feed ∉ items) : ∀ current rest : List α,
      splitLinesFrom feed ret current (items ++ rest) =
        splitLinesFrom feed ret (items.reverse ++ current) rest := by
  induction items with
  | nil =>
      intro current rest
      rfl
  | cons a items ih =>
      intro current rest
      have other : a ≠ feed := fun same => whole (same ▸ List.mem_cons_self)
      rw [List.cons_append, splitLinesFrom, if_neg other,
        ih fun mem => whole (List.mem_cons_of_mem a mem), List.reverse_cons, List.append_assoc]
      rfl

theorem splitLinesFrom_nil {α : Type} [DecidableEq α] (feed ret : α) {current : List α}
    (some : current ≠ []) : splitLinesFrom feed ret current [] = [current.reverse] := by
  cases current with
  | nil => exact absurd rfl some
  | cons a current => rfl

/-- A line that does not end in a carriage return. -/
theorem closeLine_append {α : Type} [DecidableEq α] {ret : α} {items : List α} (some : items ≠ [])
    (plain : ret ∉ items) (rest : List α) :
    closeLine ret (items ++ rest) = (items ++ rest).reverse := by
  cases items with
  | nil => exact absurd rfl some
  | cons a items =>
      have other : a ≠ ret := fun same => plain (same ▸ List.mem_cons_self)
      exact if_neg other

/-- The line so far, in bytes and in characters, the last first. -/
inductive Aligned : List UInt8 → List Char → Prop where
  | nil : Aligned [] []
  | cons {bytes before : List UInt8} {c : Char} {text : List Char} (spells : Spells bytes c)
      (aligned : Aligned before text) : Aligned (bytes.reverse ++ before) (c :: text)

theorem Aligned.spelled {before : List UInt8} {text : List Char} (aligned : Aligned before text) :
    Spelled before.reverse text.reverse := by
  induction aligned with
  | nil => exact .nil
  | @cons bytes before c text spells _ ih =>
      have last : Spelled bytes [c] := by simpa using Spelled.cons spells .nil
      rw [List.reverse_append, List.reverse_reverse, List.reverse_cons]
      exact ih.append last

/-- Both end in a carriage return, or neither does. -/
theorem Aligned.decode_closeLine {before : List UInt8} {text : List Char}
    (aligned : Aligned before text) : decode (closeLine 13 before) = some (closeLine '\r' text) := by
  have spelled := aligned.spelled
  cases aligned with
  | nil => rfl
  | @cons bytes before c text spells aligned =>
      by_cases ret : c = '\r'
      · subst ret
        obtain ⟨b, rfl, value⟩ := spells.high (by decide)
        obtain rfl : b = 13 := UInt8.toNat_inj.mp value
        exact aligned.spelled.decode
      · have plain : (13 : UInt8) ∉ bytes := by
          intro mem
          exact ret (Char.toNat_inj.mp (spells.low 13 mem (by decide)).2)
        have closed : closeLine '\r' (c :: text) = (c :: text).reverse := if_neg ret
        rw [closed, closeLine_append (List.reverse_ne_nil_iff.mpr spells.ne_nil)
          (by rwa [List.mem_reverse]), spelled.decode]

theorem splitLinesFrom_spelled {bytes : List UInt8} {text : List Char} (spelled : Spelled bytes text) :
    ∀ {before : List UInt8} {done : List Char}, Aligned before done →
      (splitLinesFrom 10 13 before bytes).map decode =
        (splitLinesFrom '\n' '\r' done text).map some := by
  induction spelled with
  | nil =>
      intro before done aligned
      have spelled := aligned.spelled
      cases aligned with
      | nil => rfl
      | cons spells aligned =>
          have some_before := List.append_ne_nil_of_left_ne_nil (List.reverse_ne_nil_iff.mpr spells.ne_nil)
          rw [splitLinesFrom_nil 10 13 (some_before _), splitLinesFrom_nil '\n' '\r' (by simp)]
          simp only [List.map_cons, List.map_nil, spelled.decode]
  | @cons first rest c text spells _ ih =>
      intro before done aligned
      by_cases feed : c = '\n'
      · subst feed
        obtain ⟨b, rfl, value⟩ := spells.high (by decide)
        obtain rfl : b = 10 := UInt8.toNat_inj.mp value
        rw [List.singleton_append, splitLinesFrom, splitLinesFrom, if_pos rfl, if_pos rfl, List.map_cons,
          List.map_cons, aligned.decode_closeLine, ih .nil]
      · have whole : (10 : UInt8) ∉ first := by
          intro mem
          exact feed (Char.toNat_inj.mp (spells.low 10 mem (by decide)).2)
        rw [splitLinesFrom_append 13 whole, splitLinesFrom, if_neg feed, ih (.cons spells aligned)]

/-- The lines of a text are the texts of its lines. -/
theorem map_decode_byteLines {bytes : List UInt8} {text : List Char} (decoded : decode bytes = some text) :
    (byteLines bytes).map decode = (splitLines '\n' '\r' text).map some :=
  splitLinesFrom_spelled (spelled_of_decode _ (Nat.le_refl _) decoded) .nil

end Text

/-! ## Pumps -/

theorem pumpLines_eq {lines : List (List UInt8)} {texts : List String}
    (read : lines.map Text.Utf8.decodeString = texts.map some) :
    ∀ n, pumpLines (fun _ => true) n lines = texts := by
  induction lines generalizing texts with
  | nil =>
      intro n
      cases texts with
      | nil => rfl
      | cons text texts => exact absurd read (by simp)
  | cons line lines ih =>
      intro n
      cases texts with
      | nil => exact absurd read (by simp)
      | cons text texts =>
          obtain ⟨first, rest⟩ := List.cons.inj read
          rw [pumpLines, first]
          exact congrArg (text :: ·) (ih rest (n + 1))

/-- A pump that is never stopped pushes all lines of a text. -/
theorem pumpLines_eq_lines {bytes : List UInt8} {text : String}
    (decoded : Text.Utf8.decodeString bytes = some text) :
    pumpLines (fun _ => true) 0 (Text.byteLines bytes) = Text.lines text := by
  obtain ⟨cs, read, rfl⟩ := Option.map_eq_some_iff.mp decoded
  have all := congrArg (List.map (Option.map String.ofList)) (Text.map_decode_byteLines read)
  refine pumpLines_eq ?_ 0
  rw [Text.lines, String.toList_ofList, List.map_map]
  rw [List.map_map, List.map_map] at all
  exact all

end Chronicle
