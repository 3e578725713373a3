import Chronicle.Notification.Fields

/-!
# The fields of a notification

Every notification has its record: its kind, and a value for each field of that kind (`record`).  Fields
stand for a notification (`Fields.Stand`) when each of them has that value, or is left out and that value is
the one it then has.  Whatever their layout, fields that stand for a notification make it
(`ofFields?_of_stand`), and fields that lack one that is needed or hold one twice make nothing
(`ofFields?_of_lacking`, `ofFields?_of_misfit`).
-/

namespace Chronicle.Notification

/-- The kind of a notification. -/
def tag : Notification → Tag
  | thought .. => .thought
  | toolStarted .. => .toolStarted
  | toolProgress .. => .toolProgress
  | toolCompleted .. => .toolCompleted
  | fileEdit .. => .fileEdit
  | fileRead .. => .fileRead
  | filesDeleted .. => .filesDeleted
  | log .. => .log
  | userInput .. => .userInput
  | userInputAck .. => .userInputAck
  | taskCompleted .. => .taskCompleted
  | connectionError .. => .connectionError
  | connectionRestored => .connectionRestored

/-- A range as a value. -/
def ofRange (range : Nat × Nat) : Json := .list [.nat range.1, .nat range.2]

/-- The values of the fields, in their places. -/
def values : Notification → List Json
  | thought id text done => [.text id, .text text, .bool done]
  | toolStarted id tool command => [.text id, .text tool, .text command]
  | toolProgress id line bytes => [.text id, .text line, .ofOption .nat bytes]
  | toolCompleted id codes code output summary =>
    [.text id, .list (codes.map .whole), .ofOption .whole code, .text output, .ofOption .text summary]
  | fileEdit id path added removed => [.text id, .text path, .nat added, .nat removed]
  | fileRead id path ranges => [.text id, .text path, .list (ranges.map ofRange)]
  | filesDeleted id paths => [.text id, .list (paths.map .text)]
  | log id level message => [.ofOption .text id, .text level.name, .text message]
  | userInput id author text => [.text id, .text author, .text text]
  | userInputAck id author text => [.ofOption .text id, .text author, .text text]
  | taskCompleted id summary => [.text id, .text summary]
  | connectionError reason => [.text reason]
  | connectionRestored => []

/-- The fields, with their names. -/
def record (n : Notification) : List (String × Json) := n.tag.fields.zip n.values

/-- The fields of a kind that may be left out, and what they are then. -/
def Tag.defaults : Tag → List (String × Json)
  | thought => [("done", .bool false)]
  | toolStarted => [("tool_name", .text defaultTool)]
  | toolProgress => [("bytes", .null)]
  | toolCompleted =>
    [("exit_codes", .list []), ("exit_code", .null), ("output", .text ""), ("summary", .null)]
  | fileEdit => [("lines_added", .nat 0), ("lines_removed", .nat 0)]
  | fileRead => [("ranges", .list [])]
  | log => [("id", .null), ("level", .text LogLevel.info.name)]
  | userInput => [("author", .text defaultAuthor)]
  | userInputAck => [("id", .null), ("author", .text defaultAuthor)]
  | filesDeleted | taskCompleted | connectionError | connectionRestored => []

/-- The number is one of 64 bits. -/
def IsWord (n : Nat) : Prop := n ≤ maxWord

/-- The number is one of 32 bits with a sign. -/
def IsExitCode (n : Int) : Prop := -0x80000000 ≤ n ∧ n < 0x80000000

/-- The numbers of a notification are as wide as its fields. -/
def IsAdmitted : Notification → Prop
  | toolProgress _ _ bytes => ∀ n ∈ bytes, IsWord n
  | toolCompleted _ codes code _ _ => (∀ n ∈ codes, IsExitCode n) ∧ ∀ n ∈ code, IsExitCode n
  | fileEdit _ _ added removed => IsWord added ∧ IsWord removed
  | fileRead _ _ ranges => ∀ range ∈ ranges, IsWord range.1 ∧ IsWord range.2
  | _ => True

/-! ## Values of fields -/

variable {α : Type} {value? : Json → Option α} {toJson : α → Json} {n : Nat} {name : String} {v : Json}
  {tag : Tag} {fs : Fields}

theorem word?_nat (word : IsWord n) : word? (.nat n) = some n := by
  have small : (n : Int) ≤ (maxWord : Int) := Int.ofNat_le.2 word
  simp [word?, Json.nat, small]

theorem exitCode?_whole {n : Int} (code : IsExitCode n) : exitCode? (.whole n) = some n := by
  simp [exitCode?, code.1, code.2]

theorem range?_ofRange {range : Nat × Nat} (first : IsWord range.1) (last : IsWord range.2) :
    range? (ofRange range) = some range := by
  simp [range?, ofRange, word?_nat first, word?_nat last]

theorem listOf?_map {items : List α} (reads : ∀ a ∈ items, value? (toJson a) = some a) :
    listOf? value? (.list (items.map toJson)) = some items := by
  rw [listOf?]
  induction items with
  | nil => rfl
  | cons a items ih =>
    obtain ⟨first, others⟩ := List.forall_mem_cons.1 reads
    simp [first, ih others]

theorem orNull?_ofOption {a : Option α} (value_some : ∀ a, toJson a ≠ .null)
    (reads : ∀ b ∈ a, value? (toJson b) = some b) :
    orNull? value? (.ofOption toJson a) = some a := by
  cases a with
  | none => rfl
  | some a =>
    rw [Json.ofOption, orNull?.eq_def]
    split
    · exact absurd ‹_› (value_some a)
    · rw [reads a rfl]
      rfl

theorem orNull?_text (s : Option String) : orNull? text? (.ofOption .text s) = some s :=
  orNull?_ofOption (by simp) fun _ _ => rfl

theorem level?_name (level : LogLevel) : level? (.text level.name) = some level := by
  cases level <;> rfl

/-! ## Fields that stand for a notification -/

namespace Fields

/-- Every field of the kind has the value it has in `ms`, or is left out where that is the same. -/
structure Stand (fs : Fields) (tag : Tag) (ms : List (String × Json)) : Prop where
  fit : fs.fit tag.fields = true
  stand : ∀ name ∈ tag.fields, ∃ v, ms.lookup name = some v ∧
    (fs.get? tag.fields name = some v ∨
      fs.get? tag.fields name = none ∧ tag.defaults.lookup name = some v)

variable {fs fs' : Fields} {ms : List (String × Json)}

theorem Stand.required_eq (stand : fs.Stand tag ms) (field : name ∈ tag.fields)
    (needed : tag.defaults.lookup name = none) (value? : Json → Option α) :
    fs.required tag.fields name value? = (ms.lookup name).bind value? := by
  obtain ⟨v, held, present | ⟨-, left_out⟩⟩ := stand.stand name field
  · rw [required, present, held]
  · rw [needed] at left_out
    cases left_out

theorem Stand.withDefault_eq (stand : fs.Stand tag ms) (field : name ∈ tag.fields) {default : α}
    (reads : (tag.defaults.lookup name).bind value? = some default) :
    fs.withDefault tag.fields name value? default = (ms.lookup name).bind value? := by
  obtain ⟨v, held, present | ⟨absent, left_out⟩⟩ := stand.stand name field
  · rw [withDefault, present, held]
    rfl
  · rw [withDefault, absent, held, ← reads, left_out]

/-- Fields that stand for the same make the same. -/
theorem Stand.ofFields?_eq (stand : fs.Stand tag ms) (stand' : fs'.Stand tag ms) :
    ofFields? tag fs = ofFields? tag fs' := by
  -- which fields a kind has, and how its defaults are read, is evaluated for each kind
  cases tag <;> simp (disch := first | decide | rfl) only [ofFields?, stand.fit, stand'.fit,
    Stand.required_eq stand, Stand.required_eq stand', Stand.withDefault_eq stand,
    Stand.withDefault_eq stand']

end Fields

/-! ## The record of a notification -/

@[simp] theorem length_values (n : Notification) : n.values.length = n.tag.fields.length := by
  cases n <;> rfl

theorem map_fst_record (n : Notification) : n.record.map Prod.fst = n.tag.fields :=
  List.map_fst_zip (Nat.le_of_eq n.length_values.symm)

theorem nodup_fields (tag : Tag) : tag.fields.Nodup := by cases tag <;> decide

/-- The record of a notification stands for it. -/
theorem stand_record (n : Notification) : (Fields.named n.record).Stand n.tag n.record where
  fit := by cases n <;> rfl
  stand name field := by
    rw [← n.map_fst_record] at field
    obtain ⟨m, mem, rfl⟩ := List.mem_map.1 field
    cases held : n.record.lookup m.1 with
    | none => simpa using List.lookup_eq_none_iff.1 held m mem
    | some v => exact ⟨v, rfl, .inl held⟩

/-- The record of a notification makes it. -/
theorem ofFields?_record {n : Notification} (admitted : n.IsAdmitted) :
    ofFields? n.tag (.named n.record) = some n := by
  cases n <;> simp [ofFields?, Notification.tag, record, values, Tag.fields, Fields.fit, Fields.required,
    Fields.withDefault, Fields.get?, List.lookup_cons, text?, flag?]
  case toolProgress id line bytes =>
    have bytes_read : orNull? word? (.ofOption .nat bytes) = some bytes :=
      orNull?_ofOption (by simp [Json.nat]) fun n given => word?_nat (admitted n given)
    rw [bytes_read]
    rfl
  case toolCompleted id codes code output summary =>
    have codes_read : listOf? exitCode? (.list (codes.map .whole)) = some codes :=
      listOf?_map fun n given => exitCode?_whole (admitted.1 n given)
    have code_read : orNull? exitCode? (.ofOption .whole code) = some code :=
      orNull?_ofOption (by simp) fun n given => exitCode?_whole (admitted.2 n given)
    rw [codes_read, code_read, orNull?_text]
    rfl
  case fileEdit id path added removed =>
    rw [word?_nat admitted.1, word?_nat admitted.2]
    rfl
  case fileRead id path ranges =>
    have ranges_read : listOf? range? (.list (ranges.map ofRange)) = some ranges :=
      listOf?_map fun range given => range?_ofRange (admitted range given).1 (admitted range given).2
    rw [ranges_read]
    rfl
  case filesDeleted id paths =>
    have paths_read : listOf? text? (.list (paths.map .text)) = some paths := listOf?_map fun _ _ => rfl
    rw [paths_read]
    rfl
  case log id level message =>
    rw [orNull?_text, level?_name]
    rfl
  case userInputAck id author text =>
    rw [orNull?_text]
    rfl

/-- **Fields that stand for a notification make it.** -/
theorem ofFields?_of_stand {n : Notification} (admitted : n.IsAdmitted) (stand : fs.Stand n.tag n.record) :
    ofFields? n.tag fs = some n :=
  (stand.ofFields?_eq n.stand_record).trans (ofFields?_record admitted)

/-- A field without a default has to be there. -/
theorem ofFields?_of_lacking : ∀ name ∈ tag.fields, tag.defaults.lookup name = none →
    fs.get? tag.fields name = none → ofFields? tag fs = none := by
  cases tag <;> simp +contextual [ofFields?, Tag.fields, Tag.defaults, Fields.required]

/-- Fields that do not fit the kind make nothing. -/
theorem ofFields?_of_misfit (misfit : fs.fit tag.fields = false) : ofFields? tag fs = none := by
  rw [ofFields?.eq_def, misfit]
  rfl

end Chronicle.Notification
