import Chronicle.Json.Printer
import Chronicle.Proofs.Json.Reader

/-!
# What is printed is read back

A value that is printed on one line is read as itself (`read_render`), unless one of its numbers is written
with an exponent or is too long for a word, or more containers are inside each other than a reader follows
(`IsWritable`).  A text says where each of its values ends, a number excepted, which goes on for as long as
there are digits: so a number is read in front of a text that does not go on with it (`Stops`).
-/

namespace Chronicle.Json

open Reader

variable {depth n : Nat} {cs rest : List Char}

/-- The value is one that a text keeps, with at most `depth` containers inside each other. -/
inductive IsWritable : Nat → Json → Prop where
  | null {depth : Nat} : IsWritable depth .null
  | bool {depth : Nat} (b : Bool) : IsWritable depth (.bool b)
  | whole {depth : Nat} (n : Int) (low : -(signedLimit : Int) ≤ n) (high : n ≤ (maxWord : Int)) :
      IsWritable depth (.whole n)
  | text {depth : Nat} (s : String) : IsWritable depth (.text s)
  | list {depth : Nat} (items : List Json) (each : ∀ v ∈ items, IsWritable depth v) :
      IsWritable (depth + 1) (.list items)
  | object {depth : Nat} (ms : List (String × Json)) (each : ∀ m ∈ ms, IsWritable depth m.2) :
      IsWritable (depth + 1) (.object ms)

/-! ## Strings -/

theorem hexValue?_hexDigit (small : n < 16) : hexValue? (hexDigit n) = some n := by
  have all : ∀ n < 16, hexValue? (hexDigit n) = some n := by decide
  exact all n small

theorem stringBody_escapeChar (done : List Char) (c : Char) (rest : List Char) :
    stringBody done (escapeChar c ++ rest) = stringBody (c :: done) rest := by
  rw [escapeChar]
  split_ifs with quotation backslash newline return' tab backspace formFeed control
  · subst quotation; rfl
  · subst backslash; rfl
  · subst newline; rfl
  · subst return'; rfl
  · subst tab; rfl
  · subst backspace; rfl
  · subst formFeed; rfl
  · have high : hexValue? (hexDigit (c.toNat / 16)) = some (c.toNat / 16) :=
      hexValue?_hexDigit (by omega)
    have low : hexValue? (hexDigit (c.toNat % 16)) = some (c.toNat % 16) :=
      hexValue?_hexDigit (by omega)
    have four : hex4? '0' '0' (hexDigit (c.toNat / 16)) (hexDigit (c.toNat % 16)) = some c.toNat := by
      have zero : hexValue? '0' = some 0 := rfl
      simp [hex4?, zero, high, low]
      omega
    have not_low : isLowSurrogate c.toNat = false := by simp [isLowSurrogate]; omega
    have not_high : isHighSurrogate c.toNat = false := by simp [isHighSurrogate]; omega
    simp [stringBody, four, not_low, not_high]
  · simp [stringBody, backslash, control]

theorem stringBody_escaped (done cs rest : List Char) :
    stringBody done (cs.flatMap escapeChar ++ '"' :: rest) =
      .ok (String.ofList (done.reverse ++ cs), rest) := by
  induction cs generalizing done with
  | nil => simp [stringBody]
  | cons c cs ih => simp [stringBody_escapeChar, ih]

/-! ## Numbers -/

/-- The text does not go on with a number that stands before it. -/
def Stops (rest : List Char) : Prop :=
  ∀ c ∈ rest.head?, isDigit c = false ∧ c ≠ '.' ∧ c ≠ 'e' ∧ c ≠ 'E'

theorem Stops.takeWhile_eq (stops : Stops rest) : rest.takeWhile isDigit = [] := by
  cases rest with
  | nil => rfl
  | cons c rest => simp [(stops c rfl).1]

theorem Stops.dropWhile_eq (stops : Stops rest) : rest.dropWhile isDigit = rest := by
  cases rest with
  | nil => rfl
  | cons c rest => simp [(stops c rfl).1]

theorem le_ofDigitChars (ds : List Char) (n : Nat) : n ≤ Nat.ofDigitChars 10 ds n := by
  induction ds generalizing n with
  | nil => simp
  | cons d ds ih =>
    rw [Nat.ofDigitChars_cons]
    exact Nat.le_trans (by omega) (ih _)

/-- Digits of a number that fits a word are all kept. -/
theorem foldl_pushWhole (ds : List Char) (n : Nat) (fits : Nat.ofDigitChars 10 ds n ≤ maxWord) :
    ds.foldl Kept.pushWhole ⟨n, 0, false⟩ = ⟨Nat.ofDigitChars 10 ds n, 0, false⟩ := by
  induction ds generalizing n with
  | nil => simp
  | cons d ds ih =>
    rw [Nat.ofDigitChars_cons] at fits ⊢
    have next : n * 10 + digitValue d = 10 * n + (d.toNat - '0'.toNat) := by
      rw [digitValue, Nat.mul_comm]
    have kept : Kept.pushWhole ⟨n, 0, false⟩ d = ⟨10 * n + (d.toNat - '0'.toNat), 0, false⟩ := by
      have small : 10 * n + (d.toNat - '0'.toNat) ≤ maxWord := Nat.le_trans (le_ofDigitChars ds _) fits
      simp only [Kept.pushWhole, next, Bool.false_or, decide_eq_true_eq, if_neg (Nat.not_lt.2 small)]
    rw [List.foldl_cons, kept, ih _ fits]

theorem afterWhole_of_stops (stops : Stops rest) (negative : Bool) (k : Kept) :
    afterWhole negative k rest = finishWhole negative k rest := by
  cases rest with
  | nil => rfl
  | cons c rest =>
    obtain ⟨-, point, lower, upper⟩ := stops c rfl
    simp [afterWhole, point, lower, upper]

/-- Only zero begins with a zero. -/
theorem head_toDigits (positive : 0 < n) : ∃ c cs, Nat.toDigits 10 n = c :: cs ∧ c ≠ '0' := by
  induction n using Nat.strongRecOn with
  | ind n ih =>
    by_cases small : n < 10
    · refine ⟨n.digitChar, [], Nat.toDigits_of_lt_base small, ?_⟩
      simpa using positive.ne'
    · obtain ⟨c, cs, digits, nonzero⟩ := ih (n / 10) (by omega) (by omega)
      refine ⟨c, cs ++ [(n % 10).digitChar], ?_, nonzero⟩
      rw [Nat.toDigits_of_base_le (by decide) (by omega), digits]
      rfl

theorem isDigit_toDigits (n : Nat) : ∀ c ∈ Nat.toDigits 10 n, isDigit c = true := fun _ mem =>
  Nat.isDigit_of_mem_toDigits (by decide) (by decide) mem

theorem unsignedNumber_toDigits (fits : n ≤ maxWord) (stops : Stops rest) (negative : Bool) :
    unsignedNumber negative (Nat.toDigits 10 n ++ rest) = finishWhole negative ⟨n, 0, false⟩ rest := by
  obtain rfl | positive := Nat.eq_zero_or_pos n
  · rw [Nat.toDigits_zero]
    cases rest with
    | nil => exact afterWhole_of_stops stops negative _
    | cons c rest =>
      simp [unsignedNumber, (stops c rfl).1, afterWhole_of_stops stops]
  · obtain ⟨c, cs, digits, nonzero⟩ := head_toDigits positive
    have all : ∀ d ∈ Nat.toDigits 10 n, isDigit d = true := isDigit_toDigits n
    have taken : (Nat.toDigits 10 n ++ rest).takeWhile isDigit = Nat.toDigits 10 n := by
      rw [List.takeWhile_append_of_pos all, stops.takeWhile_eq, List.append_nil]
    have dropped : (Nat.toDigits 10 n ++ rest).dropWhile isDigit = rest := by
      rw [List.dropWhile_append_of_pos all, stops.dropWhile_eq]
    have kept : (Nat.toDigits 10 n).foldl Kept.pushWhole ⟨0, 0, false⟩ = ⟨n, 0, false⟩ := by
      rw [foldl_pushWhole _ 0 (by simpa using fits), Nat.ofDigitChars_ten_toDigits]
    rw [digits] at all taken dropped kept ⊢
    rw [unsignedNumber.eq_def]
    simp only [List.cons_append] at taken dropped ⊢
    simp [all c, taken, dropped, kept, afterWhole_of_stops stops]

theorem skipSpace_cons {c : Char} (solid : isSpace c = false) : skipSpace (c :: cs) = c :: cs := by
  simp [skipSpace, solid]

theorem isSpace_of_isDigit {c : Char} (digit : isDigit c = true) : isSpace c = false := by
  rw [Bool.eq_false_iff]
  intro space
  simp only [isSpace, Bool.or_eq_true, beq_iff_eq] at space
  obtain ((rfl | rfl) | rfl) | rfl := space <;> exact absurd digit (by decide)

theorem value_digit {c : Char} (digit : isDigit c = true) (fuel depth : Nat) :
    value (fuel + 1) depth (c :: cs) = unsignedNumber false (c :: cs) := by
  rw [value, skipSpace_cons (isSpace_of_isDigit digit)]
  split <;> simp_all +decide

theorem toList_ofNat (n : Nat) : ∃ c cs, (toString (Int.ofNat n)).toList = c :: cs ∧
    Nat.toDigits 10 n = c :: cs ∧ isDigit c = true := by
  obtain ⟨c, cs, digits⟩ := List.exists_cons_of_ne_nil (Nat.toDigits_ne_nil (n := n) (b := 10))
  have text : (toString (Int.ofNat n)).toList = Nat.toDigits 10 n := Nat.toList_repr
  exact ⟨c, cs, text.trans digits, digits, isDigit_toDigits n c (digits ▸ List.mem_cons_self)⟩

theorem toList_negSucc (n : Nat) :
    (toString (Int.negSucc n)).toList = '-' :: Nat.toDigits 10 (n + 1) := by
  rw [← Nat.toList_repr]
  exact String.toList_append

/-- A number is read as it is written. -/
theorem value_whole {n : Int} (low : -(signedLimit : Int) ≤ n) (high : n ≤ (maxWord : Int))
    (stops : Stops rest) (fuel depth : Nat) :
    value (fuel + 1) depth ((toString n).toList ++ rest) = .ok (.whole n, rest) := by
  cases n with
  | ofNat n =>
    have fits : n ≤ maxWord := Int.ofNat_le.1 high
    obtain ⟨c, cs, text, digits, digit⟩ := toList_ofNat n
    rw [text, List.cons_append, value_digit digit, ← List.cons_append, ← digits,
      unsignedNumber_toDigits fits stops]
    rfl
  | negSucc n =>
    have fits : n + 1 ≤ signedLimit := by omega
    have narrow : n + 1 ≤ maxWord := Nat.le_trans fits (by decide)
    have in_range : (decide (n + 1 = 0) || decide (signedLimit < n + 1)) = false := by
      simpa using fits
    rw [toList_negSucc, List.cons_append, value, skipSpace_cons rfl]
    simp only [unsignedNumber_toDigits narrow stops, finishWhole, Bool.false_eq_true, ↓reduceIte,
      Bool.not_true, in_range]
    rfl

/-! ## Containers -/

theorem renderItems_eq (items : List Json) : renderItems items = items.map render := by
  induction items with
  | nil => rfl
  | cons v items ih => rw [renderItems, ih, List.map_cons]

/-- A member on one line. -/
def renderMember (m : String × Json) : String := quote m.1 ++ ":" ++ render m.2

theorem renderMembers_eq (ms : List (String × Json)) : renderMembers ms = ms.map renderMember := by
  induction ms with
  | nil => rfl
  | cons m ms ih => rw [renderMembers, ih, List.map_cons, renderMember]

/-- The pieces of a container, each after a comma but for the first one of all. -/
def pieces : Bool → List String → List Char
  | _, [] => []
  | isFirst, piece :: others => (if isFirst then [] else [',']) ++ (piece.toList ++ pieces false others)

theorem toList_intercalate (all : List String) : (",".intercalate all).toList = pieces true all := by
  cases all with
  | nil => simp [pieces]
  | cons piece others =>
    induction others generalizing piece with
    | nil => simp [pieces]
    | cons next others ih =>
      rw [String.intercalate_cons_cons, String.toList_append, String.toList_append, ih next]
      simp [pieces]

theorem stops_pieces (all : List String) {close : Char} (closes : close = ']' ∨ close = '\x7d')
    (rest : List Char) : Stops (pieces false all ++ close :: rest) := by
  cases all with
  | nil => obtain rfl | rfl := closes <;> simp [pieces, Stops] <;> decide
  | cons piece others => simp [pieces, Stops]; decide

/-- Whoever has enough fuel reads the value, in front of any text that does not go on with it. -/
def IsReadBack (depth : Nat) (v : Json) : Prop :=
  ∀ fuel rest, (render v).toList.length ≤ fuel → Stops rest →
    value fuel depth ((render v).toList ++ rest) = .ok (v, rest)

/-! ### Arrays -/

/-- The text begins as an element of an array does. -/
def Begins (cs : List Char) : Prop := ∃ c cs', cs = c :: cs' ∧ isSpace c = false ∧ c ≠ ']'

theorem Begins.length_pos (begins : Begins cs) : 0 < cs.length := by
  obtain ⟨c, cs, rfl, -⟩ := begins
  exact Nat.succ_pos _

variable {isFirst : Bool} {items : List Json} {ms : List (String × Json)} {v : Json}

theorem element_close (rest : List Char) : element isFirst (']' :: rest) = .ok (.done rest) := by
  simp only [element, skipSpace_cons (show isSpace ']' = false from rfl)]

theorem element_piece (begins : Begins cs) :
    element isFirst ((if isFirst then [] else [',']) ++ (cs ++ rest)) = .ok (.item () (cs ++ rest)) := by
  obtain ⟨c, cs, rfl, solid, goes_on⟩ := begins
  cases isFirst with
  | true => simp [element, skipSpace_cons solid]
  | false => simp [element, skipSpace_cons (show isSpace ',' = false from rfl), skipSpace_cons solid, goes_on]

theorem elements_pieces (each : ∀ v ∈ items, IsReadBack depth v ∧ Begins (render v).toList) {fuel : Nat}
    (enough : (pieces isFirst (items.map render)).length < fuel) (rest : List Char) :
    elements fuel depth isFirst (pieces isFirst (items.map render) ++ ']' :: rest) = .ok (items, rest) := by
  obtain ⟨fuel, rfl⟩ := Nat.exists_eq_succ_of_ne_zero (Nat.ne_of_gt (Nat.zero_lt_of_lt enough))
  induction items generalizing fuel isFirst with
  | nil => exact elements_eq_ok.2 (.inl ⟨element_close rest, rfl⟩)
  | cons v items ih =>
    obtain ⟨⟨reads, begins⟩, others⟩ := List.forall_mem_cons.1 each
    have nonempty := begins.length_pos
    simp only [List.map_cons, pieces, List.length_append] at enough ⊢
    obtain ⟨fuel, rfl⟩ := Nat.exists_eq_succ_of_ne_zero (show fuel ≠ 0 by omega)
    rw [List.append_assoc, List.append_assoc]
    exact elements_eq_ok.2 (.inr ⟨_, v, _, items, element_piece begins,
      reads _ _ (by omega) (stops_pieces _ (.inl rfl) rest), ih others fuel (by omega), rfl⟩)

theorem isReadBack_list (each : ∀ v ∈ items, IsReadBack depth v ∧ Begins (render v).toList) :
    IsReadBack (depth + 1) (.list items) := by
  intro fuel rest enough stops
  have text : (render (.list items)).toList = '[' :: (pieces true (items.map render) ++ [']']) := by
    rw [render, renderItems_eq, String.toList_append, String.toList_append, toList_intercalate]
    rfl
  rw [text] at enough ⊢
  simp only [List.length_cons, List.length_append, List.length_nil] at enough
  obtain ⟨fuel, rfl⟩ := Nat.exists_eq_succ_of_ne_zero (show fuel ≠ 0 by omega)
  refine (value_list (skipSpace_cons rfl)).2 ⟨fuel, depth, items, rfl, rfl, ?_, rfl⟩
  simpa using elements_pieces each (by omega) rest

/-! ### Objects -/

theorem toList_quote (s : String) : (quote s).toList = '"' :: (s.toList.flatMap escapeChar ++ ['"']) := by
  simp [quote]

theorem memberKey_close (rest : List Char) : memberKey isFirst ('\x7d' :: rest) = .ok (.done rest) := by
  simp only [memberKey, skipSpace_cons (show isSpace '\x7d' = false from rfl)]

theorem memberKey_piece (key : String) (rest : List Char) :
    memberKey isFirst ((if isFirst then [] else [',']) ++ ((quote key).toList ++ rest)) =
      .ok (.item key rest) := by
  have read : stringBody [] (key.toList.flatMap escapeChar ++ '"' :: rest) = .ok (key, rest) := by
    rw [stringBody_escaped]
    simp
  cases isFirst <;> simp [toList_quote, memberKey, skipSpace_cons (show isSpace ',' = false from rfl),
    skipSpace_cons (show isSpace '"' = false from rfl), keyAt, read, Except.map]

theorem colon_cons (rest : List Char) : colon (':' :: rest) = .ok rest := by
  simp only [colon, skipSpace_cons (show isSpace ':' = false from rfl)]

theorem toList_renderMember (m : String × Json) :
    (renderMember m).toList = (quote m.1).toList ++ ':' :: (render m.2).toList := by
  simp [renderMember]

theorem members_pieces (each : ∀ m ∈ ms, IsReadBack depth m.2) {fuel : Nat}
    (enough : (pieces isFirst (ms.map renderMember)).length < fuel) (rest : List Char) :
    members fuel depth isFirst (pieces isFirst (ms.map renderMember) ++ '\x7d' :: rest) = .ok (ms, rest) := by
  obtain ⟨fuel, rfl⟩ := Nat.exists_eq_succ_of_ne_zero (Nat.ne_of_gt (Nat.zero_lt_of_lt enough))
  induction ms generalizing fuel isFirst with
  | nil => exact members_eq_ok.2 (.inl ⟨memberKey_close rest, rfl⟩)
  | cons m ms ih =>
    obtain ⟨reads, others⟩ := List.forall_mem_cons.1 each
    simp only [List.map_cons, pieces, toList_renderMember, List.length_append, List.length_cons] at enough ⊢
    obtain ⟨fuel, rfl⟩ := Nat.exists_eq_succ_of_ne_zero (show fuel ≠ 0 by omega)
    rw [List.append_assoc, List.append_assoc, List.append_assoc, List.cons_append]
    exact members_eq_ok.2 (.inr ⟨m.1, _, _, m.2, _, ms, memberKey_piece m.1 _, colon_cons _,
      reads _ _ (by omega) (stops_pieces _ (.inr rfl) rest), ih others fuel (by omega), rfl⟩)

theorem isReadBack_object (each : ∀ m ∈ ms, IsReadBack depth m.2) :
    IsReadBack (depth + 1) (.object ms) := by
  intro fuel rest enough stops
  have text : (render (.object ms)).toList = '\x7b' :: (pieces true (ms.map renderMember) ++ ['\x7d']) := by
    rw [render, renderMembers_eq, String.toList_append, String.toList_append, toList_intercalate]
    rfl
  rw [text] at enough ⊢
  simp only [List.length_cons, List.length_append, List.length_nil] at enough
  obtain ⟨fuel, rfl⟩ := Nat.exists_eq_succ_of_ne_zero (show fuel ≠ 0 by omega)
  refine (value_object (skipSpace_cons rfl)).2 ⟨fuel, depth, ms, rfl, rfl, ?_, rfl⟩
  simpa using members_pieces each (by omega) rest

/-! ## Values -/

theorem begins_render (writable : IsWritable depth v) : Begins (render v).toList := by
  cases writable with
  | null => exact ⟨_, _, rfl, rfl, by decide⟩
  | bool b => cases b <;> exact ⟨_, _, rfl, rfl, by decide⟩
  | whole n low high =>
    rw [render]
    cases n with
    | ofNat n =>
      obtain ⟨c, cs, text, -, digit⟩ := toList_ofNat n
      refine ⟨c, cs, text, isSpace_of_isDigit digit, ?_⟩
      rintro rfl
      cases digit
    | negSucc n => exact ⟨_, _, toList_negSucc n, rfl, by decide⟩
  | text s => exact ⟨_, _, toList_quote s, rfl, by decide⟩
  | list items each => exact ⟨'[', _, by simp [render]; rfl, rfl, by decide⟩
  | object ms each => exact ⟨'\x7b', _, by simp [render]; rfl, rfl, by decide⟩

/-- A value that is no container is read with one unit of fuel. -/
theorem isReadBack_scalar (writable : IsWritable depth v)
    (read : ∀ fuel rest, Stops rest → value (fuel + 1) depth ((render v).toList ++ rest) = .ok (v, rest)) :
    IsReadBack depth v := by
  intro fuel rest enough stops
  have positive : 0 < fuel := Nat.lt_of_lt_of_le (begins_render writable).length_pos enough
  obtain ⟨fuel, rfl⟩ := Nat.exists_eq_succ_of_ne_zero positive.ne'
  exact read fuel rest stops

theorem isReadBack_of_isWritable (writable : IsWritable depth v) : IsReadBack depth v := by
  induction writable with
  | null => exact isReadBack_scalar .null fun _ _ _ => rfl
  | bool b => cases b <;> exact isReadBack_scalar (.bool _) fun _ _ _ => rfl
  | whole n low high =>
    refine isReadBack_scalar (.whole n low high) fun fuel rest stops => ?_
    rw [render]
    exact value_whole low high stops fuel _
  | text s =>
    refine isReadBack_scalar (.text s) fun fuel rest _ => ?_
    rw [render, toList_quote, List.cons_append, List.append_assoc, value, skipSpace_cons rfl]
    simp [stringBody_escaped, Except.map]
  | list items each ih => exact isReadBack_list fun v mem => ⟨ih v mem, begins_render (each v mem)⟩
  | object ms each ih => exact isReadBack_object ih

/-- **A value that is printed is read back.** -/
theorem read_render (writable : IsWritable maxDepth v) : Json.read (render v) = .ok v := by
  have read := isReadBack_of_isWritable writable (fuelFor (render v).toList) [] (by simp [fuelFor]; omega)
    (by simp [Stops])
  rw [List.append_nil] at read
  simp [Json.read, read, atEnd, skipSpace]

end Chronicle.Json
