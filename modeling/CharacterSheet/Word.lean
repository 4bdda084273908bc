/-!
# Whole numbers of 32 bits

The numbers on the sheet have 32 bits with a sign. They are kept as integers, and a sum or product
that leaves the range is brought back into it by `word`: it wraps around, so that one above the
largest number comes the smallest. A sum of several numbers is wrapped once, since wrapping its
parts as well comes to the same.
-/

namespace CharacterSheet

/-- Whether an integer fits 32 bits with a sign. -/
def IsWord (n : Int) : Prop := -2147483648 ≤ n ∧ n ≤ 2147483647

instance (n : Int) : Decidable (IsWord n) := inferInstanceAs (Decidable (_ ∧ _))

/-- The number of 32 bits that an integer wraps around to. -/
def word (n : Int) : Int := Int.bmod n 0x100000000

/-- A form of wrapping around that linear arithmetic can open. -/
theorem word_eq (n : Int) : word n = (n + 2147483648) % 4294967296 - 2147483648 := by
  have h := Int.bmod_def n 0x100000000
  rw [word]
  split at h <;> omega

/-- Whatever wraps around fits. -/
theorem isWord_word (n : Int) : IsWord (word n) := by
  rw [word_eq]
  constructor <;> omega

/-- What fits does not wrap around. -/
theorem IsWord.word_eq {n : Int} (h : IsWord n) : word n = n := by
  obtain ⟨hlow, hhigh⟩ := h
  rw [CharacterSheet.word_eq]
  omega

/-- The first part of a sum need not be wrapped on its own. -/
@[simp] theorem word_word_add (m n : Int) : word (word m + n) = word (m + n) :=
  Int.bmod_add_bmod ..

/-- The second part of a sum need not be wrapped on its own. -/
@[simp] theorem word_add_word (m n : Int) : word (m + word n) = word (m + n) :=
  Int.add_bmod_bmod ..

/-- The same summand can be taken off two numbers that wrap around alike. -/
theorem word_add_right_cancel {m n k : Int} (h : word (m + k) = word (n + k)) :
    word m = word n := by
  have hsum := congrArg (fun x => word (x + -k)) h
  simpa only [word_word_add, Int.add_neg_cancel_right] using hsum

/-! ## Bounding -/

/-- A number brought into a range. An empty range has no number. -/
def clamp? (low high n : Int) : Option Int :=
  if low ≤ high then some (max low (min high n)) else none

/-- A whole number brought into the range from zero to `high`. -/
def clampBelow (high n : Int) : Int := max 0 (min high n)

end CharacterSheet
