import Chronicle.Limits
import Chronicle.Timeline.Entry

/-!
The timeline's store: the entries in the order in which they were appended, each under a key that
stays good until the entry is evicted and is never good again.

Entries live in slots, and a slot is used again once its entry is gone; its generation then
grows by one, so a key that names an earlier generation finds nothing.  Beside the slots the store
keeps the order of the live keys, the key last given to each id, and the ids of the entries evicted
last, which count as seen until they are forgotten.
-/

namespace Chronicle

/-- Names an entry: a slot, and the generation in which the entry lives there.  Generations come round
again (`nextGeneration`), indices do not: every slot has its own. -/
structure Key where
  index : Nat
  generation : Nat
deriving DecidableEq, Repr, Inhabited

/-- The key as error messages show it. -/
def Key.display (k : Key) : String :=
  "EntryKey \x7b index: " ++ toString k.index ++ ", generation: " ++ toString k.generation ++ " \x7d"

/-- The right to stream into an entry: granted when the entry is appended, gone when the entry is
finished or evicted.  `serial` is the entry's sequence number, so no two entries grant the same. -/
structure Lease where
  index : Nat
  serial : Nat
deriving DecidableEq, Repr, Inhabited

structure Slot where
  generation : Nat
  entry : Option Entry
  lease : Option Nat
deriving DecidableEq, Repr, Inhabited

/-- Why an entry cannot be evicted. -/
inductive EvictionViolation where
  | missing (key : Key)
  | active (key : Key)
  | discarded (key : Key)
  | forkPinned
deriving DecidableEq, Repr, Inhabited

def EvictionViolation.message : EvictionViolation → String
  | missing key => "entry " ++ key.display ++ " does not exist"
  | active key => "entry " ++ key.display ++ " is still active"
  | discarded key => "entry " ++ key.display ++ " is discarded by the current fork"
  | forkPinned => "history is pinned while a fork is in progress"

/-- `free` holds the empty slots, the one emptied last in front; `retired` the evicted ids that are
remembered, the oldest in front. -/
structure Store where
  slots : Array Slot
  free : List Nat
  order : List Key
  ids : List (CorrelationId × Key)
  retired : List CorrelationId
  retiredCap : Nat
  nextSequence : Nat
deriving Repr, Inhabited

/-- Looks among `size` positions from `base` on for the last one that does not lie past what is looked
for, by halving them. -/
def bisect (probe : Nat → Ordering) (base size : Nat) : Nat :=
  if size ≤ 1 then base
  else
    let mid := base + size / 2
    if probe mid = .gt then bisect probe base (size - size / 2)
    else bisect probe mid (size - size / 2)
termination_by size

namespace Store

/-- A store that remembers the ids of the last `retiredCap` evicted entries. -/
def empty (retiredCap : Nat) : Store := ⟨#[], [], [], [], [], retiredCap, 0⟩

/-- Evicted ids remembered when nothing else is said. -/
def defaultRetiredCap : Nat := 2000

def size (s : Store) : Nat := s.order.length

/-! ## Looking up -/

/-- The slot of a key, while it is in the key's generation. -/
def slot? (s : Store) (k : Key) : Option Slot :=
  s.slots[k.index]?.filter (·.generation = k.generation)

def get? (s : Store) (k : Key) : Option Entry := (s.slot? k).bind (·.entry)

/-- The key still names an entry. -/
def contains (s : Store) (k : Key) : Bool := (s.get? k).isSome

/-- The key of the live entry with an id. -/
def keyOf? (s : Store) (id : CorrelationId) : Option Key :=
  (s.ids.lookup id).filter s.contains

/-- The id was given to an entry that is live or still remembered. -/
def hasSeen (s : Store) (id : CorrelationId) : Bool := (s.ids.lookup id).isSome

/-- The sequence number under a key; a key that names no entry comes after all of them. -/
def sequenceOf (s : Store) (k : Key) : Nat :=
  match s.get? k with
  | some e => e.sequence
  | none => maxWord

/-- How the entry at a position stands to a sequence number. -/
def compareAt (s : Store) (sequence position : Nat) : Ordering :=
  match s.order[position]? with
  | some k => compare (s.sequenceOf k) sequence
  | none => .gt

/-- The position of a live entry, which is looked for by its sequence number. -/
def positionOf? (s : Store) (k : Key) : Option Nat :=
  match s.get? k with
  | none => none
  | some e =>
    let position := bisect (s.compareAt e.sequence) 0 s.size
    if s.compareAt e.sequence position = .eq then some position else none

def keyAt? (s : Store) (position : Nat) : Option Key := s.order[position]?

def entryAt? (s : Store) (position : Nat) : Option Entry := (s.keyAt? position).bind s.get?

/-- The live entries under their keys, in order. -/
def entries (s : Store) : List (Key × Entry) :=
  s.order.filterMap fun k => (s.get? k).map (k, ·)

/-- The right to stream into the entry of a key, while it is granted. -/
def lease? (s : Store) (k : Key) : Option Lease :=
  (s.slot? k).bind fun slot => slot.lease.map (⟨k.index, ·⟩)

def isGranted (s : Store) (l : Lease) : Bool :=
  match s.slots[l.index]? with
  | some slot => slot.lease == some l.serial
  | none => false

/-! ## Changing -/

/-- Changes the slot of a key, while it is in the key's generation. -/
def modifySlot (s : Store) (k : Key) (f : Slot → Slot) : Store :=
  { s with
    slots := s.slots.modify k.index fun slot =>
      if slot.generation = k.generation then f slot else slot }

/-- Changes the entry of a key in place. -/
def update (s : Store) (k : Key) (f : Entry → Entry) : Store :=
  s.modifySlot k fun slot => { slot with entry := slot.entry.map f }

/-- Takes back the right to stream into the entry of a key. -/
def releaseLease (s : Store) (k : Key) : Store :=
  s.modifySlot k fun slot => { slot with lease := none }

/-- Flags every live entry by its position. -/
def discardWhere (s : Store) (p : Nat → Bool) : Store :=
  s.order.zipIdx.foldl (fun s ki => s.update ki.1 fun e => { e with discarded := p ki.2 }) s

/-- The entry that `append` stores. -/
def fresh (s : Store) (id : CorrelationId) (kind : Kind) (status : Status) (now : Instant) : Entry :=
  { id, kind, status
    sequence := s.nextSequence
    started := some now
    ended := if status.isFinished then some now else none
    updated := some now
    discarded := false }

/-- Puts an entry into the slot emptied last, or into a new one. -/
def place (s : Store) (e : Entry) : Key × Store :=
  match s.free with
  | index :: free =>
    let generation := match s.slots[index]? with
      | some slot => slot.generation
      | none => 0
    (⟨index, generation⟩,
      { s with
        free
        slots := s.slots.modify index fun slot =>
          { slot with entry := some e, lease := some e.sequence } })
  | [] => (⟨s.slots.size, 0⟩, { s with slots := s.slots.push ⟨0, some e, some e.sequence⟩ })

/-- Adds an entry at the end, under an id that has not been seen. -/
def append (s : Store) (id : CorrelationId) (kind : Kind) (status : Status) (now : Instant) :
    Key × Store :=
  let (k, s) := s.place (s.fresh id kind status now)
  (k, { s with
    order := s.order ++ [k]
    ids := (id, k) :: s.ids.filter (·.1 ≠ id)
    nextSequence := s.nextSequence + 1 })

/-- Forgets an evicted id, unless it names a live entry again. -/
def forget (s : Store) (id : CorrelationId) : Store :=
  if (s.keyOf? id).isNone then { s with ids := s.ids.filter (·.1 ≠ id) } else s

/-- Remembers an evicted id, and forgets the oldest ones beyond the cap. -/
def retire (s : Store) (id : CorrelationId) : Store :=
  let queue := s.retired ++ [id]
  let excess := queue.length - s.retiredCap
  (queue.take excess).foldl forget { s with retired := queue.drop excess }

/-- Empties the slot of a key. -/
def vacate (s : Store) (k : Key) : Store :=
  { s with
    free := k.index :: s.free
    slots := s.slots.modify k.index fun slot =>
      { generation := nextGeneration slot.generation, entry := none, lease := none } }

/-- Removes a finished entry.  Active and discarded entries stay. -/
def evict (s : Store) (k : Key) : Except EvictionViolation Entry × Store :=
  match s.get? k with
  | none => (.error (.missing k), s)
  | some e =>
    if !e.status.isFinished then (.error (.active k), s)
    else if e.discarded then (.error (.discarded k), s)
    else match s.positionOf? k with
      | none => (.error (.missing k), s)
      | some position =>
        (.ok e, (({ s with order := s.order.eraseIdx position }.vacate k).retire e.id))

end Store

end Chronicle
