import Chronicle.Text.Blank
import Chronicle.Text.Case
import Mathlib.Data.List.DropRight
import Mathlib.Data.List.Infix
import Mathlib.Data.List.TakeWhile
import Mathlib.Logic.Function.Basic

/-!
# Texts

What the rest needs to know of texts: which are trimmed to nothing, what trimming leaves, which contain which,
and that no two numbers are written alike.
-/

namespace Chronicle

namespace Text

/-! ## Blanks -/

theorem dropBlankEnd_eq_nil_iff {cs : List Char} :
    dropBlankEnd cs = [] ↔ cs.all isBlank = true := by
  rw [dropBlankEnd, List.reverse_eq_nil_iff, List.dropWhile_eq_nil_iff, List.all_eq_true]
  simp only [List.mem_reverse]

theorem all_dropBlank (cs : List Char) : (dropBlank cs).all isBlank = cs.all isBlank := by
  have split : cs.takeWhile isBlank ++ dropBlank cs = cs := List.takeWhile_append_dropWhile
  have lead : (cs.takeWhile isBlank).all isBlank = true := List.all_takeWhile
  have joined : cs.all isBlank = (cs.takeWhile isBlank ++ dropBlank cs).all isBlank := by rw [split]
  rw [joined, List.all_append, lead, Bool.true_and]

/-- A text is trimmed to nothing exactly if it is blank. -/
theorem isEmpty_trim (s : String) : (trim s).isEmpty = allBlank s := by
  rw [Bool.eq_iff_iff, String.isEmpty_iff, trim, String.ofList_eq_empty_iff, strip,
    dropBlankEnd_eq_nil_iff, all_dropBlank, allBlank]

theorem isEmpty_trimEnd (s : String) : (trimEnd s).isEmpty = allBlank s := by
  rw [Bool.eq_iff_iff, String.isEmpty_iff, trimEnd, String.ofList_eq_empty_iff,
    dropBlankEnd_eq_nil_iff, allBlank]

/-! ## Trimming -/

/-- Neither at the beginning nor at the end is there a blank. -/
structure IsTrimmed (cs : List Char) : Prop where
  first : ∀ c, cs.head? = some c → isBlank c = false
  last : ∀ c, cs.getLast? = some c → isBlank c = false

theorem strip_eq_nil_iff {cs : List Char} : strip cs = [] ↔ cs.all isBlank = true := by
  rw [strip, dropBlankEnd_eq_nil_iff, all_dropBlank]

theorem strip_isPrefix (cs : List Char) : strip cs <+: dropBlank cs :=
  List.rdropWhile_prefix isBlank (dropBlank cs)

theorem strip_sublist (cs : List Char) : (strip cs).Sublist cs :=
  (strip_isPrefix cs).sublist.trans (List.dropWhile_suffix isBlank).sublist

theorem isTrimmed_strip (cs : List Char) : IsTrimmed (strip cs) where
  first c first := by
    obtain ⟨rest, whole⟩ := strip_isPrefix cs
    have begins : (cs.dropWhile isBlank).head? = some c := by
      show (dropBlank cs).head? = some c
      rw [← whole, List.head?_append, first, Option.some_or]
    have full := List.head?_dropWhile_not isBlank cs
    rwa [begins] at full
  last c last := by
    have nonempty : strip cs ≠ [] := by
      rintro none
      simp [none] at last
    rw [List.getLast?_eq_some_getLast nonempty] at last
    obtain rfl := Option.some.inj last
    exact Bool.eq_false_iff.mpr (List.rdropWhile_last_not isBlank (dropBlank cs) nonempty)

theorem strip_cons_blank {c : Char} (blank : isBlank c = true) (cs : List Char) :
    strip (c :: cs) = strip cs := by
  rw [strip, dropBlank, List.dropWhile_cons_of_pos blank]
  rfl

namespace IsTrimmed

variable {cs : List Char} (trimmed : IsTrimmed cs)
include trimmed

theorem dropBlank_append (nonempty : cs ≠ []) (rest : List Char) :
    dropBlank (cs ++ rest) = cs ++ rest := by
  cases cs with
  | nil => exact absurd rfl nonempty
  | cons c cs =>
      have full : ¬ isBlank c = true := Bool.eq_false_iff.mp (trimmed.first c rfl)
      rw [List.cons_append, dropBlank, List.dropWhile_cons_of_neg full]

theorem dropBlankEnd_eq : dropBlankEnd cs = cs := by
  refine List.rdropWhile_eq_self_iff.mpr fun nonempty => ?_
  exact Bool.eq_false_iff.mp (trimmed.last _ (List.getLast?_eq_some_getLast nonempty))

theorem strip_eq (nonempty : cs ≠ []) : strip cs = cs := by
  have begins := trimmed.dropBlank_append nonempty []
  rw [List.append_nil] at begins
  rw [strip, begins, trimmed.dropBlankEnd_eq]

theorem strip_concat (nonempty : cs ≠ []) {c : Char} (blank : isBlank c = true) :
    strip (cs ++ [c]) = cs := by
  rw [strip, trimmed.dropBlank_append nonempty]
  exact (List.rdropWhile_concat_pos isBlank cs c blank).trans trimmed.dropBlankEnd_eq

end IsTrimmed

/-! ## Containing -/

theorem hasInfix_iff {α : Type} [DecidableEq α] {part l : List α} :
    hasInfix part l = true ↔ part <:+: l := by
  induction l with
  | nil => rw [hasInfix, List.isEmpty_iff, List.infix_nil]
  | cons c cs ih =>
      rw [hasInfix, Bool.or_eq_true, ih, List.isPrefixOf_iff_prefix, List.infix_cons_iff]

theorem occursIn_iff {part s : String} : occursIn part s = true ↔ part.toList <:+: s.toList :=
  hasInfix_iff

/-! ## Numbers -/

/-- A number is read back from its digits. -/
theorem toString_injective : Function.Injective (toString : Nat → String) := by
  intro m n same
  have digits : Nat.toDigits 10 m = Nat.toDigits 10 n := by
    rw [← Nat.toList_repr, ← Nat.toList_repr]
    exact congrArg String.toList same
  rw [← Nat.ofDigitChars_ten_toDigits (n := m), digits, Nat.ofDigitChars_ten_toDigits]

end Text

end Chronicle
