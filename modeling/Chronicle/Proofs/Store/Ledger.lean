import Chronicle.Proofs.Store.Ids
import Mathlib.Logic.Relation

/-!
# The plain history

A `Ledger` is what a store stands for: the live entries in the order in which they were appended, and
beside them the evicted ones.  It has no slots, no keys and no index; an entry is named by its
sequence number, and the numbers are given out one after the other.

A store and a ledger run in tandem (`Tandem.Step`): each operation is done to both, and the keys that
appending returns are noted, so that the `n`-th of them is the key of number `n`.  As long as fewer
entries have been evicted than a slot has generations, the two agree on every look-up and on the
outcome of every eviction (`Tandem.Agrees`).
-/

namespace Chronicle

/-- The live entries in the order appended, and the evicted ones in the order evicted. -/
structure Ledger where
  live : List Entry
  gone : List Entry
deriving DecidableEq, Repr, Inhabited

namespace Ledger

def empty : Ledger := ⟨[], []⟩

/-- The next sequence number: as many entries have been appended. -/
def next (h : Ledger) : Nat := h.live.length + h.gone.length

/-- The live entry with a number. -/
def find? (h : Ledger) (n : Nat) : Option Entry := h.live.find? (·.sequence = n)

def position? (h : Ledger) (n : Nat) : Option Nat := h.live.findIdx? (·.sequence = n)

/-- The ids of the last `cap` evicted entries. -/
def remembered (h : Ledger) (cap : Nat) : List CorrelationId := (h.gone.map (·.id)).rtake cap

def append (h : Ledger) (id : CorrelationId) (kind : Kind) (status : Status) (now : Instant) :
    Ledger :=
  { h with
    live := h.live ++ [
      { id, kind, status
        sequence := h.next
        started := some now
        ended := if status.isFinished then some now else none
        updated := some now
        discarded := false }] }

theorem next_append (h : Ledger) (id : CorrelationId) (kind : Kind) (status : Status)
    (now : Instant) : (h.append id kind status now).next = h.next + 1 := by
  simp only [append, next, List.length_append, List.length_singleton]
  omega

def edit (h : Ledger) (n : Nat) (f : Edit) : Ledger :=
  { h with live := h.live.map fun e => if e.sequence = n then f.run e else e }

/-- Deletes the entry with a number, if it is finished and not discarded; a refusal names `k`. -/
def evict (h : Ledger) (k : Key) (n : Nat) : Except EvictionViolation Entry × Ledger :=
  match h.find? n with
  | none => (.error (.missing k), h)
  | some e =>
    if !e.status.isFinished then (.error (.active k), h)
    else if e.discarded then (.error (.discarded k), h)
    else (.ok e, { live := h.live.eraseP (·.sequence = n), gone := h.gone ++ [e] })

end Ledger

/-- A store beside the ledger that it stands for; `issued` holds the keys that appending has
returned, in order. -/
structure Tandem where
  store : Store
  issued : List Key
  ledger : Ledger

namespace Tandem

def start (retiredCap : Nat) : Tandem := ⟨.empty retiredCap, [], .empty⟩

/-- The number whose entry was appended under a key; for a key that was never returned, a number
that no entry has. -/
def number (t : Tandem) (k : Key) : Nat := t.issued.idxOf k

def append (t : Tandem) (id : CorrelationId) (kind : Kind) (status : Status) (now : Instant) :
    Tandem :=
  ⟨(t.store.append id kind status now).2, t.issued ++ [(t.store.append id kind status now).1],
    t.ledger.append id kind status now⟩

def evict (t : Tandem) (k : Key) : Tandem :=
  ⟨(t.store.evict k).2, t.issued, (t.ledger.evict k (t.number k)).2⟩

/-- The entry of a key is changed through a reference: its status, its kind, its times, its flag. -/
def edit (t : Tandem) (k : Key) (f : Edit) : Tandem :=
  ⟨t.store.update k f.run, t.issued, t.ledger.edit (t.number k) f⟩

def releaseLease (t : Tandem) (k : Key) : Tandem := ⟨t.store.releaseLease k, t.issued, t.ledger⟩

/-- One operation on both.  An entry is appended under an id that has not been seen. -/
inductive Step (t : Tandem) : Tandem → Prop where
  | append (id : CorrelationId) (kind : Kind) (status : Status) (now : Instant)
      (unseen : t.store.hasSeen id = false) : Step t (t.append id kind status now)
  | evict (k : Key) : Step t (t.evict k)
  | edit (k : Key) (f : Edit) : Step t (t.edit k f)
  | releaseLease (k : Key) : Step t (t.releaseLease k)

/-- Any number of operations. -/
abbrev Run : Tandem → Tandem → Prop := Relation.ReflTransGen Step

/-- Store and ledger give the same answers.  A key is named by its number: the `n`-th key handed out
belongs to the entry of number `n`, whatever slot it names. -/
structure Agrees (cap : Nat) (t : Tandem) : Prop where
  /-- The store lists the ledger's entries in order, under the keys handed out for them. -/
  entries : t.store.entries.map (·.2) = t.ledger.live
  keys : t.store.entries.map (·.1) = t.store.order
  issued : t.store.order.map some = t.ledger.live.map fun e => t.issued[e.sequence]?
  size : t.store.size = t.ledger.live.length
  entryAt : ∀ p, t.store.entryAt? p = t.ledger.live[p]?
  increasing : t.ledger.live.Pairwise fun e e' => e.sequence < e'.sequence
  next : t.store.nextSequence = t.ledger.next ∧ t.issued.length = t.ledger.next
  /-- A key handed out finds the entry that was appended with it, or nothing once that is gone. -/
  get : ∀ n k, t.issued[n]? = some k → t.store.get? k = t.ledger.find? n
  contains : ∀ n k, t.issued[n]? = some k → t.store.contains k = (t.ledger.find? n).isSome
  get_other : ∀ k ∉ t.issued, t.store.get? k = none
  position : ∀ n k, t.issued[n]? = some k → t.store.positionOf? k = t.ledger.position? n
  position_iff : ∀ k p, t.store.positionOf? k = some p ↔ t.store.keyAt? p = some k
  /-- An id finds the key of the one live entry with that id. -/
  ids : (t.ledger.live.map (·.id)).Nodup
  keyOf : ∀ id k, t.store.keyOf? id = some k ↔
    ∃ e ∈ t.ledger.live, e.id = id ∧ t.issued[e.sequence]? = some k
  seen : ∀ id, t.store.hasSeen id = true ↔
    (∃ e ∈ t.ledger.live, e.id = id) ∨ id ∈ t.ledger.remembered cap
  /-- An eviction ends as the ledger says, and one that is refused changes nothing. -/
  evict : ∀ n k, t.issued[n]? = some k → (t.store.evict k).1 = (t.ledger.evict k n).1
  evict_other : ∀ k ∉ t.issued, (t.store.evict k).1 = .error (.missing k)
  refused : ∀ k v, (t.store.evict k).1 = .error v → (t.store.evict k).2 = t.store

/-! ## The invariant -/

/-- The keys handed out are told apart by their generations. -/
structure KeysHold (t : Tandem) : Prop where
  nodup : t.issued.Nodup
  /-- A live entry stands under the key that its number was given. -/
  live : ∀ k e, t.store.get? k = some e → t.issued[e.sequence]? = some k
  /-- A key whose entry is gone is of an earlier generation than its slot. -/
  passed : ∀ k ∈ t.issued, ∃ g, t.store.generation? k.index = some g ∧
    (k ∈ t.store.order ∨ k.generation < g)
  bounded : ∀ i g, t.store.generation? i = some g → g ≤ t.ledger.gone.length

/-- The index knows the ids of the live entries and of those remembered, and no others. -/
structure IdsHold (cap : Nat) (t : Tandem) : Prop where
  retiredCap : t.store.retiredCap = cap
  retired : t.store.retired = t.ledger.remembered cap
  nodup : t.store.retired.Nodup
  /-- The index gives a live id its key. -/
  live : ∀ k e, t.store.get? k = some e → t.store.ids.lookup e.id = some k
  /-- The index still gives a remembered id a key, one that finds nothing. -/
  remembered : ∀ id ∈ t.store.retired, ∃ k ∈ t.issued,
    t.store.ids.lookup id = some k ∧ t.store.get? k = none
  known : ∀ id k, t.store.ids.lookup id = some k →
    (∃ e, t.store.get? k = some e ∧ e.id = id) ∨ id ∈ t.store.retired

/-- What holds of a tandem at every step. -/
structure Inv (cap : Nat) (t : Tandem) : Prop where
  sound : t.store.Sound
  live : t.store.entries.map (·.2) = t.ledger.live
  next : t.store.nextSequence = t.ledger.next
  count : t.issued.length = t.ledger.next
  keys : t.KeysHold
  ids : t.IdsHold cap

theorem get?_start (cap : Nat) (k : Key) : (start cap).store.get? k = none := by
  simp [start, Store.empty, Store.get?, Store.slot?]

theorem inv_start (cap : Nat) : (start cap).Inv cap where
  sound := .empty cap
  live := rfl
  next := rfl
  count := rfl
  keys :=
    { nodup := .nil
      live := fun k e found => absurd found (by simp [get?_start])
      passed := fun k mem => absurd mem List.not_mem_nil
      bounded := fun i g of_slot => by simp [start, Store.empty, Store.generation?] at of_slot }
  ids :=
    { retiredCap := rfl
      retired := by simp [start, Store.empty, Ledger.remembered, Ledger.empty]
      nodup := .nil
      live := fun k e found => absurd found (by simp [get?_start])
      remembered := fun id mem => absurd mem List.not_mem_nil
      known := fun id k looked => by simp [start, Store.empty] at looked }

end Tandem

end Chronicle
