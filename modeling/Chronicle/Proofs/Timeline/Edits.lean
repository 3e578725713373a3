import Chronicle.Correlator
import Chronicle.Proofs.Store.Flags

/-!
# Changes of an entry in place

What messages do to an entry where it stands: output, the end of a tool, more of a thought, a
confirmation.  None of it touches the name of the entry, or its flag.
-/

namespace Chronicle

namespace Entry

def recordEdit (line : String) (bytes lines : Nat) (now : Instant) : Edit :=
  ⟨(·.record line bytes lines now), fun _ => rfl⟩

def completeEdit (codes : List Int) (output : String) (summary : Option String) (now : Instant) :
    Edit :=
  ⟨(·.complete codes output summary now), fun _ => rfl⟩

def thinkEdit (text : String) (now : Instant) : Edit := ⟨(·.think text now), fun _ => rfl⟩

def thinkLastEdit (text : String) (now : Instant) : Edit :=
  ⟨fun e => (e.think text now).finish .completed now, fun _ => rfl⟩

theorem confirm_frame (e : Entry) (author text : String) (now : Instant) :
    (e.confirm author text now).name = e.name ∧
      (e.confirm author text now).discarded = e.discarded := by
  rw [confirm]
  simp only
  split <;> exact ⟨rfl, rfl⟩

def confirmEdit (author text : String) (now : Instant) : Edit :=
  ⟨(·.confirm author text now), fun e => (e.confirm_frame author text now).1⟩

theorem closeBurst_frame (e : Entry) (now : Instant) :
    (e.closeBurst now).name = e.name ∧ (e.closeBurst now).discarded = e.discarded := by
  rw [closeBurst]
  split <;> exact ⟨rfl, rfl⟩

def closeEdit (now : Instant) : Edit := ⟨(·.closeBurst now), fun e => (e.closeBurst_frame now).1⟩

end Entry

end Chronicle
