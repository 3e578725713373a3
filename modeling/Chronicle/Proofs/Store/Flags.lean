import Chronicle.Proofs.Store.Eviction

/-!
# Names and flags along the order

What the entries are called and which of them are discarded, as lists along the order:
`Store.names` and `Store.flags`.  A change in place keeps the names, and all but `discardWhere` keep
the flags; `Sound.flags_discardWhere` says that this sets each flag by its position.
-/

namespace Chronicle

/-- What an entry is called: its id and its number. -/
def Entry.name (e : Entry) : CorrelationId × Nat := (e.id, e.sequence)

/-- A change of an entry that leaves its name alone. -/
structure Edit where
  run : Entry → Entry
  name_run : ∀ e, (run e).name = e.name

namespace Edit

theorem sequence_run (f : Edit) (e : Entry) : (f.run e).sequence = e.sequence :=
  congrArg Prod.snd (f.name_run e)

/-- Sets the flag of an entry. -/
def setDiscarded (b : Bool) : Edit := ⟨fun e => { e with discarded := b }, fun _ => rfl⟩

/-- The flag of an entry stays. -/
def KeepsFlag (f : Edit) : Prop := ∀ e, (f.run e).discarded = e.discarded

end Edit

namespace Store

variable {s : Store} {k k' : Key} {e : Entry} {p : Nat}

/-- The live keys with what their entries are called. -/
def names (s : Store) : List (Key × CorrelationId × Nat) := s.entries.map fun ke => (ke.1, ke.2.name)

/-- Which entries are discarded, by position. -/
def flags (s : Store) : List Bool := s.entries.map (·.2.discarded)

theorem Sound.edit (sound : s.Sound) (k : Key) (f : Edit) : (s.update k f.run).Sound :=
  sound.update k f.sequence_run

@[simp]
theorem names_update (s : Store) (k : Key) (f : Edit) : (s.update k f.run).names = s.names :=
  map_entries_update s k f.run Entry.name f.name_run

/-- A key names an entry of the same name as before. -/
theorem named_update (s : Store) (k k' : Key) (f : Edit) (name : CorrelationId × Nat) :
    (∃ e, (s.update k f.run).get? k' = some e ∧ e.name = name) ↔
      ∃ e, s.get? k' = some e ∧ e.name = name := by
  rw [get?_update]
  split
  · next same => simp [same, f.name_run]
  · exact Iff.rfl

theorem flags_update (s : Store) (k : Key) {f : Edit} (keep : f.KeepsFlag) :
    (s.update k f.run).flags = s.flags := by
  have := congrArg (List.map Prod.snd) (map_entries_update s k f.run Entry.discarded keep)
  simpa [flags, Function.comp_def] using this

@[simp]
theorem names_releaseLease (s : Store) (k : Key) : (s.releaseLease k).names = s.names := by
  rw [names, entries_releaseLease, names]

@[simp]
theorem flags_releaseLease (s : Store) (k : Key) : (s.releaseLease k).flags = s.flags := by
  rw [flags, entries_releaseLease, flags]

theorem Sound.getElem?_flags (sound : s.Sound) (p : Nat) :
    s.flags[p]? = (s.entryAt? p).map (·.discarded) := by
  rw [flags, List.getElem?_map, sound.entryAt?_eq, Option.map_map]
  rfl

theorem Sound.getElem?_names (sound : s.Sound) {name : CorrelationId × Nat} :
    s.names[p]? = some (k, name) ↔ s.keyAt? p = some k ∧ ∃ e, s.get? k = some e ∧ e.name = name := by
  rw [names, List.getElem?_map, Option.map_eq_some_iff]
  constructor
  · rintro ⟨⟨k', e⟩, at_p, same⟩
    obtain ⟨rfl, rfl⟩ := Prod.mk.inj same
    obtain ⟨at_p, found⟩ := sound.getElem?_entries.mp at_p
    exact ⟨at_p, e, found, rfl⟩
  · rintro ⟨at_p, e, found, rfl⟩
    exact ⟨(k, e), sound.getElem?_entries.mpr ⟨at_p, found⟩, rfl⟩

/-! ## Appending and evicting -/

theorem Sound.flags_append (sound : s.Sound) (id : CorrelationId) (kind : Kind) (status : Status)
    (now : Instant) : (s.append id kind status now).2.flags = s.flags ++ [false] := by
  rw [flags, sound.entries_append, List.map_append]
  rfl

theorem Sound.names_append (sound : s.Sound) (id : CorrelationId) (kind : Kind) (status : Status)
    (now : Instant) :
    (s.append id kind status now).2.names =
      s.names ++ [((s.append id kind status now).1, id, s.nextSequence)] := by
  rw [names, sound.entries_append, List.map_append]
  rfl

/-- Flagging the new entry leaves the others as they are. -/
theorem Sound.flags_append_update (sound : s.Sound) (id : CorrelationId) (kind : Kind)
    (status : Status) (now : Instant) (b : Bool) :
    ((s.append id kind status now).2.update (s.append id kind status now).1
      (Edit.setDiscarded b).run).flags = s.flags ++ [b] := by
  rw [flags, entries_update, sound.entries_append, List.map_append, List.map_append, List.map_map,
    flags]
  congr 1
  · refine List.map_congr_left fun ke mem => ?_
    have other : ke.1 ≠ (s.append id kind status now).1 := by
      intro same
      refine sound.append_not_mem id kind status now (same ▸ ?_)
      exact (Store.mem_entries.mp mem).1
    simp only [Function.comp_apply, if_neg other]
  · simp [Edit.setDiscarded]

theorem Sound.flags_without (sound : s.Sound) (at_p : s.keyAt? p = some k) (id : CorrelationId) :
    (s.without k p id).flags = s.flags.eraseIdx p := by
  rw [flags, sound.entries_without at_p, flags, List.eraseIdx_map]

/-! ## Flagging by position -/

/-- Sets the flags of a list of keys, each by the number beside it. -/
def flagEach (p : Nat → Bool) (l : List (Key × Nat)) (s : Store) : Store :=
  l.foldl (fun s ki => s.update ki.1 (Edit.setDiscarded (p ki.2)).run) s

theorem discardWhere_eq (s : Store) (p : Nat → Bool) :
    s.discardWhere p = flagEach p s.order.zipIdx s := rfl

variable (p : Nat → Bool) (l : List (Key × Nat))

theorem Sound.flagEach (sound : s.Sound) : (flagEach p l s).Sound := by
  induction l generalizing s with
  | nil => exact sound
  | cons ki l ih => exact ih (sound.edit ki.1 _)

theorem names_flagEach (s : Store) : (flagEach p l s).names = s.names := by
  induction l generalizing s with
  | nil => rfl
  | cons ki l ih => exact (ih _).trans (names_update s ki.1 _)

/-- Flags are in the slots, and nothing else of a store changes with them. -/
theorem flagEach_frame (s : Store) : ∃ slots, flagEach p l s = { s with slots } := by
  induction l generalizing s with
  | nil => exact ⟨s.slots, rfl⟩
  | cons ki l ih =>
      obtain ⟨slots, rest⟩ := ih (s.update ki.1 (Edit.setDiscarded (p ki.2)).run)
      exact ⟨slots, rest⟩

theorem order_flagEach (s : Store) : (flagEach p l s).order = s.order := by
  obtain ⟨slots, same⟩ := flagEach_frame p l s
  rw [same]

theorem get?_flagEach_of_not_mem (s : Store) (absent : k ∉ l.map (·.1)) :
    (flagEach p l s).get? k = s.get? k := by
  induction l generalizing s with
  | nil => rfl
  | cons ki l ih =>
      obtain ⟨other, absent⟩ := not_or.mp (fun h => absent (List.mem_cons.mpr h))
      exact (ih _ absent).trans (get?_update_of_ne s _ other)

/-- Each key of the list gets the flag of the number beside it, if no key is there twice. -/
theorem get?_flagEach_of_mem (s : Store) (nodup : (l.map (·.1)).Nodup) {i : Nat}
    (mem : (k, i) ∈ l) :
    (flagEach p l s).get? k = (s.get? k).map (Edit.setDiscarded (p i)).run := by
  induction l generalizing s with
  | nil => exact absurd mem List.not_mem_nil
  | cons ki l ih =>
      obtain ⟨absent, nodup⟩ := List.nodup_cons.mp nodup
      rcases List.mem_cons.mp mem with rfl | mem
      · exact (get?_flagEach_of_not_mem p l _ absent).trans (get?_update_self s k _)
      · have other : k ≠ ki.1 := fun same =>
          absent (List.mem_map.mpr ⟨(k, i), mem, same⟩)
        exact (ih _ nodup mem).trans (by rw [get?_update_of_ne s _ other])

theorem Sound.discardWhere (sound : s.Sound) : (s.discardWhere p).Sound :=
  sound.flagEach p _

@[simp]
theorem names_discardWhere (s : Store) : (s.discardWhere p).names = s.names :=
  names_flagEach p _ s

@[simp]
theorem order_discardWhere (s : Store) : (s.discardWhere p).order = s.order :=
  order_flagEach p _ s

@[simp]
theorem size_discardWhere (s : Store) : (s.discardWhere p).size = s.size := by
  rw [size, order_discardWhere, size]

/-- The entry at each position is flagged by that position. -/
theorem Sound.flags_discardWhere (sound : s.Sound) :
    (s.discardWhere p).flags = (List.range s.size).map p := by
  refine List.ext_getElem? fun i => ?_
  rw [(sound.discardWhere p).getElem?_flags, entryAt?, keyAt?, order_discardWhere,
    List.getElem?_map]
  cases at_i : s.order[i]? with
  | none =>
      have out : s.size ≤ i := List.getElem?_eq_none_iff.mp at_i
      simp [out]
  | some k =>
      have inside : i < s.size := (List.getElem?_eq_some_iff.mp at_i).1
      obtain ⟨e, found⟩ := (sound.live k).mpr (List.mem_of_getElem? at_i)
      have nodup : (s.order.zipIdx.map (·.1)).Nodup := by simpa using sound.order_nodup
      have flagged := get?_flagEach_of_mem p s.order.zipIdx s nodup
        (List.mk_mem_zipIdx_iff_getElem?.mpr at_i)
      rw [← discardWhere_eq, found] at flagged
      simp [inside, flagged, Edit.setDiscarded]

end Store

end Chronicle
