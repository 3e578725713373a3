import Mathlib.Data.List.Nodup
import Chronicle.Proofs.Json.Printer
import Chronicle.Proofs.Notification.Fields
import Chronicle.Proofs.Notification.Record

/-!
# The spellings of a notification

A notification has many spellings as a JSON value (`SpelledBy`): an object that holds its tag and its fields
in any order, with or without those that are as they would be by default, and with any other members; or an
array of the tag and the values of its fields in their places, cut off where only such fields follow.  All of
them are decoded to the one notification, and an object that lacks a field or holds one twice (`Faulty`) is
decoded to none (`decodesLine_of_read`).  Every notification has such a line
(`decodeLine_render_record`).
-/

namespace Chronicle.Notification

variable {n : Notification} {tag : Tag} {name : String} {v : Json} {ms kept extras rest : List (String × Json)}

/-! ## Members by name -/

theorem lookup_eq_some_iff_mem (once : ms.countP (·.1 = name) ≤ 1) :
    ms.lookup name = some v ↔ (name, v) ∈ ms := by
  induction ms with
  | nil => simp
  | cons m ms ih =>
    obtain ⟨key, w⟩ := m
    by_cases found : key = name
    · have none_left : ∀ m ∈ ms, m.1 ≠ name := by
        simpa [List.countP_cons, found, List.countP_eq_zero] using once
      have not_mem : (name, v) ∉ ms := fun mem => none_left _ mem rfl
      subst found
      simp [not_mem, eq_comm]
    · have other : (name == key) = false := by simpa using Ne.symm found
      have once' : ms.countP (·.1 = name) ≤ 1 := by simpa [List.countP_cons, found] using once
      simp [List.lookup_cons, other, ih once', Ne.symm found]

theorem countP_of_nodup (distinct : (ms.map Prod.fst).Nodup) (name : String) :
    ms.countP (·.1 = name) ≤ 1 := by
  have counted := List.nodup_iff_count_le_one.1 distinct name
  rw [List.count, List.countP_map] at counted
  refine Nat.le_trans (Nat.le_of_eq (List.countP_congr fun m _ => ?_)) counted
  simp

theorem countP_record (n : Notification) (name : String) : n.record.countP (·.1 = name) ≤ 1 :=
  countP_of_nodup (n.map_fst_record ▸ nodup_fields n.tag) name

theorem lookup_defaults {tag : Tag} : tag.defaults.lookup name = some v ↔ (name, v) ∈ tag.defaults :=
  lookup_eq_some_iff_mem (countP_of_nodup (by cases tag <;> decide) name)

/-! ## The tag -/

@[simp] theorem Tag.ofName?_name (tag : Tag) : Tag.ofName? tag.name = some tag := by
  cases tag <;> decide

theorem tagName_not_mem_fields (tag : Tag) : tagName ∉ tag.fields := by
  cases tag <;> decide

theorem tagOf?_of_mem (once : ms.countP (·.1 = tagName) ≤ 1) (mem : (tagName, .text tag.name) ∈ ms) :
    tagOf? ms = some tag := by
  rw [tagOf?, if_pos once, (lookup_eq_some_iff_mem once).2 mem]
  exact tag.ofName?_name

theorem countP_fieldsOf (field : name ≠ tagName) :
    (fieldsOf ms).countP (·.1 = name) = ms.countP (·.1 = name) := by
  rw [fieldsOf, List.countP_filter]
  refine List.countP_congr fun m _ => ?_
  simpa using fun (same : m.1 = name) => same ▸ field

/-! ## Spellings -/

/-- A JSON value that spells a notification. -/
inductive SpelledBy (n : Notification) : Json → Prop where
  /-- The tag, the fields that are kept and any other members, in any order. -/
  | named (kept extras ms : List (String × Json)) (sublist : kept.Sublist n.record)
      (left_out : ∀ m ∈ n.record, m ∉ kept → m ∈ n.tag.defaults)
      (other : ∀ m ∈ extras, m.1 ≠ tagName ∧ m.1 ∉ n.tag.fields)
      (order : ms.Perm ((tagName, .text n.tag.name) :: (kept ++ extras))) : SpelledBy n (.object ms)
  /-- The tag and the values of the first fields. -/
  | placed (kept rest : List (String × Json)) (split : n.record = kept ++ rest)
      (left_out : ∀ m ∈ rest, m ∈ n.tag.defaults) :
      SpelledBy n (.list (.text n.tag.name :: kept.map Prod.snd))

/-- An object that spells nothing. -/
inductive Faulty (ms : List (String × Json)) : Prop where
  | untagged (no_tag : ∀ m ∈ ms, m.1 ≠ tagName)
  | retagged (tags : 1 < ms.countP (·.1 = tagName))
  | lacking (tag : Tag) (name : String) (tagged : (tagName, .text tag.name) ∈ ms) (field : name ∈ tag.fields)
      (needed : ∀ m ∈ tag.defaults, m.1 ≠ name) (absent : ∀ m ∈ ms, m.1 ≠ name)
  | repeated (tag : Tag) (name : String) (tagged : (tagName, .text tag.name) ∈ ms) (field : name ∈ tag.fields)
      (again : 1 < ms.countP (·.1 = name))

/-! ## Decoding a spelling -/

theorem name_of_mem_record {m : String × Json} (mem : m ∈ n.record) : m.1 ∈ n.tag.fields :=
  n.map_fst_record ▸ List.mem_map_of_mem mem

theorem exists_member (field : name ∈ n.tag.fields) : ∃ v, (name, v) ∈ n.record := by
  rw [← n.map_fst_record] at field
  obtain ⟨m, mem, rfl⟩ := List.mem_map.1 field
  exact ⟨m.2, mem⟩

theorem member_unique {w : Json} (mem : (name, v) ∈ n.record) (mem' : (name, w) ∈ n.record) : v = w := by
  have once := n.countP_record name
  have held := (lookup_eq_some_iff_mem once).2 mem
  rw [(lookup_eq_some_iff_mem once).2 mem'] at held
  exact (Option.some.inj held).symm

/-- The fields that are kept, with others, stand for the notification. -/
theorem stand_named {fs : List (String × Json)} (order : fs.Perm (kept ++ extras))
    (sublist : kept.Sublist n.record) (left_out : ∀ m ∈ n.record, m ∉ kept → m ∈ n.tag.defaults)
    (other : ∀ m ∈ extras, m.1 ∉ n.tag.fields) : (Fields.named fs).Stand n.tag n.record := by
  have once : ∀ name ∈ n.tag.fields, fs.countP (·.1 = name) ≤ 1 := by
    intro name field
    have no_extra : extras.countP (·.1 = name) = 0 :=
      List.countP_eq_zero.2 fun m mem => by
        simpa using fun (same : m.1 = name) => other m mem (same ▸ field)
    rw [order.countP_eq, List.countP_append, no_extra]
    exact Nat.le_trans sublist.countP_le (n.countP_record name)
  refine ⟨by simpa [Fields.fit] using once, fun name field => ?_⟩
  obtain ⟨v, mem⟩ := exists_member field
  refine ⟨v, (lookup_eq_some_iff_mem (n.countP_record name)).2 mem, ?_⟩
  by_cases is_kept : (name, v) ∈ kept
  · left
    exact (lookup_eq_some_iff_mem (once name field)).2 (order.mem_iff.2 (List.mem_append_left _ is_kept))
  · right
    refine ⟨List.lookup_eq_none_iff.2 fun m mem' => ?_, lookup_defaults.2 (left_out _ mem is_kept)⟩
    obtain in_kept | in_extras := List.mem_append.1 (order.mem_iff.1 mem')
    · have differs : name ≠ m.1 := by
        rintro rfl
        exact is_kept (member_unique mem (sublist.subset in_kept) ▸ in_kept)
      simpa using differs
    · have differs : name ≠ m.1 := fun same => other m in_extras (same ▸ field)
      simpa using differs

/-- A value in the place of a name is the value with that name. -/
theorem getElem?_idxOf (kept : List (String × Json)) (others : List String) (name : String) :
    (kept.map Prod.snd)[(kept.map Prod.fst ++ others).idxOf name]? = kept.lookup name := by
  induction kept with
  | nil => rfl
  | cons m kept ih =>
    obtain ⟨key, v⟩ := m
    by_cases found : key = name
    · simp [found]
    · have other : (name == key) = false := by simpa using Ne.symm found
      simpa [List.idxOf_cons, List.lookup_cons, found, other] using ih

/-- The values of the first fields stand for the notification. -/
theorem stand_placed (split : n.record = kept ++ rest) (left_out : ∀ m ∈ rest, m ∈ n.tag.defaults) :
    (Fields.placed (kept.map Prod.snd)).Stand n.tag n.record := by
  have names : n.tag.fields = kept.map Prod.fst ++ rest.map Prod.fst := by
    rw [← n.map_fst_record, split, List.map_append]
  refine ⟨by simp [Fields.fit, names], fun name field => ?_⟩
  obtain ⟨v, mem⟩ := exists_member field
  have held := (lookup_eq_some_iff_mem (n.countP_record name)).2 mem
  refine ⟨v, held, ?_⟩
  rw [Fields.get?, names, getElem?_idxOf]
  rw [split, List.lookup_append] at held
  cases is_kept : kept.lookup name with
  | some w =>
    rw [is_kept] at held
    exact .inl held
  | none =>
    rw [is_kept] at held
    obtain ⟨before, after, at_rest, -⟩ := List.lookup_eq_some_iff.1 held
    exact .inr ⟨rfl, lookup_defaults.2 (left_out _ (by simp [at_rest]))⟩

theorem recordOf?_of_spelled (spelled : n.SpelledBy v) :
    ∃ fs, recordOf? v = some (n.tag, fs) ∧ fs.Stand n.tag n.record := by
  cases spelled with
  | named kept extras ms sublist left_out other order =>
    have no_tag : ∀ m ∈ kept ++ extras, m.1 ≠ tagName := by
      intro m mem
      obtain mem | mem := List.mem_append.1 mem
      · exact fun same => tagName_not_mem_fields n.tag (same ▸ name_of_mem_record (sublist.subset mem))
      · exact (other m mem).1
    have once : ms.countP (·.1 = tagName) ≤ 1 := by
      have none_left : (kept ++ extras).countP (·.1 = tagName) = 0 :=
        List.countP_eq_zero.2 fun m mem => by simpa using no_tag m mem
      rw [order.countP_eq, List.countP_cons, none_left]
      simp
    have tagged : (tagName, .text n.tag.name) ∈ ms := order.mem_iff.2 List.mem_cons_self
    have fields : (fieldsOf ms).Perm (kept ++ extras) := by
      refine (order.filter _).trans (List.Perm.of_eq ?_)
      rw [List.filter_cons_of_neg (by simp)]
      exact List.filter_eq_self.2 fun m mem => by simpa using no_tag m mem
    exact ⟨_, by rw [recordOf?, tagOf?_of_mem once tagged]; rfl,
      stand_named fields sublist left_out fun m mem => (other m mem).2⟩
  | placed kept rest split left_out =>
    exact ⟨_, by simp [recordOf?, tagValue?, text?], stand_placed split left_out⟩

/-- **Every spelling of a notification is that notification.** -/
theorem ofJson?_of_spelled (admitted : n.IsAdmitted) (spelled : n.SpelledBy v) : ofJson? v = some n := by
  obtain ⟨fs, record, stand⟩ := recordOf?_of_spelled spelled
  simp [ofJson?, record, ofFields?_of_stand admitted stand]

/-- Members that are tagged once are the record of a kind. -/
theorem ofJson?_of_tagged (once : ms.countP (·.1 = tagName) ≤ 1)
    (tagged : (tagName, .text tag.name) ∈ ms) :
    ofJson? (.object ms) = ofFields? tag (.named (fieldsOf ms)) := by
  rw [ofJson?, recordOf?, tagOf?_of_mem once tagged]
  rfl

theorem ofJson?_of_retagged (tags : 1 < ms.countP (·.1 = tagName)) : ofJson? (.object ms) = none := by
  rw [ofJson?, recordOf?, tagOf?, if_neg (Nat.not_le_of_lt tags)]
  rfl

/-- **A faulty object is no notification.** -/
theorem ofJson?_of_faulty (faulty : Faulty ms) : ofJson? (.object ms) = none := by
  obtain tags | once := Nat.lt_or_ge 1 (ms.countP (·.1 = tagName))
  · exact ofJson?_of_retagged tags
  cases faulty with
  | untagged no_tag =>
    have absent : ms.lookup tagName = none :=
      List.lookup_eq_none_iff.2 fun m mem => by simpa using Ne.symm (no_tag m mem)
    simp [ofJson?, recordOf?, tagOf?, absent]
  | retagged tags => exact absurd once (Nat.not_le_of_lt tags)
  | lacking tag name tagged field needed absent =>
    rw [ofJson?_of_tagged once tagged]
    refine ofFields?_of_lacking name field ?_ ?_
    · exact List.lookup_eq_none_iff.2 fun m mem => by simpa using Ne.symm (needed m mem)
    · exact List.lookup_eq_none_iff.2 fun m mem => by
        simpa using Ne.symm (absent m (List.mem_of_mem_filter mem))
  | repeated tag name tagged field again =>
    have not_tag : name ≠ tagName := fun same => tagName_not_mem_fields tag (same ▸ field)
    rw [ofJson?_of_tagged once tagged]
    refine ofFields?_of_misfit ?_
    have twice : 1 < (fieldsOf ms).countP (·.1 = name) := by
      rw [countP_fieldsOf not_tag]
      exact again
    simp only [Fields.fit, List.all_eq_false]
    exact ⟨name, field, by simpa using twice⟩

/-- What a line that holds a JSON value is decoded to. -/
structure DecodesLine (line : Nat) (s : String) (v : Json) : Prop where
  /-- Every spelling of a notification gives that notification's message. -/
  spelled : ∀ n : Notification, n.IsAdmitted → n.SpelledBy v →
    (decodeLine line s).map toMessage = .ok n.toMessage
  /-- A faulty object gives an error with the number of the line. -/
  faulty : ∀ ms, v = .object ms → Faulty ms → ∃ fault, decodeLine line s = .error ⟨line, fault⟩

/-- **The spelling of a notification does not matter.** -/
theorem decodesLine_of_read (line : Nat) {s : String} (read : Json.read s = .ok v) :
    DecodesLine line s v where
  spelled n admitted spelled := by
    rw [decodeLine_of_read line read, ofJson?_of_spelled admitted spelled]
    rfl
  faulty ms object faulty := by
    rw [decodeLine_of_read line read, object, ofJson?_of_faulty faulty]
    exact ⟨_, rfl⟩

/-- A thought with its tag last, a member it does not know first, and without a flag that is not set. -/
theorem decodesLine_of_read_backwards :
    (decodeLine 3 "\x7b\"seen\":[1],\"text\":\"hi\",\"id\":\"t\",\"type\":\"thought\"\x7d").map toMessage =
      .ok (.thoughtDelta (.producer "t") "hi" false) := by
  have spelled : (thought "t" "hi" false).SpelledBy (.object
      [("seen", .list [.whole 1]), ("text", .text "hi"), ("id", .text "t"), ("type", .text "thought")]) := by
    refine .named [("id", .text "t"), ("text", .text "hi")] [("seen", .list [.whole 1])] _ ?_ ?_ ?_ ?_
    · exact List.sublist_append_left _ [("done", Json.bool false)]
    · simp [record, Notification.tag, values, Tag.fields, Tag.defaults]
    · simp [Notification.tag, tagName, Tag.fields]
    · exact List.reverse_perm [("type", _), ("id", _), ("text", _), ("seen", _)]
  exact (decodesLine_of_read 3 (by cbv)).spelled (thought "t" "hi" false) trivial spelled

/-! ## Printing -/

theorem isWritable_nat {depth k : Nat} (word : IsWord k) : Json.IsWritable depth (.nat k) :=
  .whole _ (by omega) (Int.ofNat_le.2 word)

theorem isWritable_ofRange {depth : Nat} {range : Nat × Nat} (first : IsWord range.1) (last : IsWord range.2) :
    Json.IsWritable (depth + 1) (ofRange range) :=
  .list _ (by simp [isWritable_nat first, isWritable_nat last])

theorem isWritable_exitCode {depth : Nat} {k : Int} (code : IsExitCode k) :
    Json.IsWritable depth (.whole k) := by
  obtain ⟨low, high⟩ := code
  exact .whole _ (by simp only [signedLimit]; omega) (by simp only [maxWord]; omega)

theorem isWritable_ofOption {α : Type} {toJson : α → Json} {depth : Nat} {a : Option α}
    (each : ∀ b ∈ a, Json.IsWritable depth (toJson b)) : Json.IsWritable depth (.ofOption toJson a) := by
  cases a with
  | none => exact .null
  | some b => exact each b rfl

/-- A text keeps the values of a notification. -/
theorem isWritable_values (admitted : n.IsAdmitted) (depth : Nat) :
    ∀ v ∈ n.values, Json.IsWritable (depth + 2) v := by
  cases n <;> simp [values, Json.IsWritable.text, Json.IsWritable.bool]
  case toolProgress id line bytes => exact isWritable_ofOption fun k given => isWritable_nat (admitted k given)
  case toolCompleted id codes code output summary =>
    refine ⟨.list _ ?_, isWritable_ofOption fun k given => isWritable_exitCode (admitted.2 k given),
      isWritable_ofOption fun s _ => .text s⟩
    rintro v mem
    obtain ⟨k, given, rfl⟩ := List.mem_map.1 mem
    exact isWritable_exitCode (admitted.1 k given)
  case fileEdit id path added removed => exact ⟨isWritable_nat admitted.1, isWritable_nat admitted.2⟩
  case fileRead id path ranges =>
    refine .list _ fun v mem => ?_
    obtain ⟨range, given, rfl⟩ := List.mem_map.1 mem
    exact isWritable_ofRange (admitted range given).1 (admitted range given).2
  case filesDeleted id paths =>
    refine .list _ fun v mem => ?_
    obtain ⟨s, -, rfl⟩ := List.mem_map.1 mem
    exact .text s
  case log id level message => exact isWritable_ofOption fun s _ => .text s
  case userInputAck id author text => exact isWritable_ofOption fun s _ => .text s

/-- A spelling that is printed is decoded. -/
theorem decodeLine_render (line : Nat) (admitted : n.IsAdmitted) (spelled : n.SpelledBy v)
    (writable : Json.IsWritable Json.Reader.maxDepth v) : decodeLine line (Json.render v) = .ok n := by
  rw [decodeLine_of_read line (Json.read_render writable), ofJson?_of_spelled admitted spelled]
  rfl

/-- **Every notification can be written**, with all of its fields in their order. -/
theorem decodeLine_render_record (line : Nat) (admitted : n.IsAdmitted) :
    decodeLine line (Json.render (.object ((tagName, .text n.tag.name) :: n.record))) = .ok n := by
  refine decodeLine_render line admitted ?_ (.object _ fun m mem => ?_)
  · refine .named n.record [] _ (List.Sublist.refl _) (fun m mem absent => absurd mem absent) nofun ?_
    rw [List.append_nil]
  · obtain rfl | mem := List.mem_cons.1 mem
    · exact .text _
    · exact isWritable_values admitted _ _ (List.of_mem_zip mem).2

end Chronicle.Notification
