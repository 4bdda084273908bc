import CharacterSheet.Proofs.Text.Lowering
import CharacterSheet.Text.Number

/-!
# Digits of any script

Each script has decimal digits of its own, of which only the Latin ones are read as a number. No
decimal digit is a blank.
-/

namespace CharacterSheet.Text

/-- The general category `Nd`. -/
def decimalDigits : Ranges :=
  [(0x30, 0x39), (0x660, 0x669), (0x6F0, 0x6F9), (0x7C0, 0x7C9), (0x966, 0x96F), (0x9E6, 0x9EF),
   (0xA66, 0xA6F), (0xAE6, 0xAEF), (0xB66, 0xB6F), (0xBE6, 0xBEF), (0xC66, 0xC6F), (0xCE6, 0xCEF),
   (0xD66, 0xD6F), (0xDE6, 0xDEF), (0xE50, 0xE59), (0xED0, 0xED9), (0xF20, 0xF29), (0x1040, 0x1049),
   (0x1090, 0x1099), (0x17E0, 0x17E9), (0x1810, 0x1819), (0x1946, 0x194F), (0x19D0, 0x19D9),
   (0x1A80, 0x1A89), (0x1A90, 0x1A99), (0x1B50, 0x1B59), (0x1BB0, 0x1BB9), (0x1C40, 0x1C49),
   (0x1C50, 0x1C59), (0xA620, 0xA629), (0xA8D0, 0xA8D9), (0xA900, 0xA909), (0xA9D0, 0xA9D9),
   (0xA9F0, 0xA9F9), (0xAA50, 0xAA59), (0xABF0, 0xABF9), (0xFF10, 0xFF19), (0x104A0, 0x104A9),
   (0x10D30, 0x10D39), (0x10D40, 0x10D49), (0x11066, 0x1106F), (0x110F0, 0x110F9),
   (0x11136, 0x1113F), (0x111D0, 0x111D9), (0x112F0, 0x112F9), (0x11450, 0x11459),
   (0x114D0, 0x114D9), (0x11650, 0x11659), (0x116C0, 0x116C9), (0x116D0, 0x116E3),
   (0x11730, 0x11739), (0x118E0, 0x118E9), (0x11950, 0x11959), (0x11BF0, 0x11BF9),
   (0x11C50, 0x11C59), (0x11D50, 0x11D59), (0x11DA0, 0x11DA9), (0x11DE0, 0x11DE9),
   (0x11F50, 0x11F59), (0x16130, 0x16139), (0x16A60, 0x16A69), (0x16AC0, 0x16AC9),
   (0x16B50, 0x16B59), (0x16D70, 0x16D79), (0x1CCF0, 0x1CCF9), (0x1D7CE, 0x1D7FF),
   (0x1E140, 0x1E149), (0x1E2F0, 0x1E2F9), (0x1E4F0, 0x1E4F9), (0x1E5F1, 0x1E5FA),
   (0x1E950, 0x1E959), (0x1FBF0, 0x1FBF9)]

/-- A decimal digit of any script. -/
def isDecimalDigit (c : Char) : Bool := decimalDigits.has c

/-- The common digits are decimal digits. -/
theorem isDecimalDigit_of_isDigit {c : Char} (h : Decimal.isDigit c = true) :
    isDecimalDigit c = true := by
  simp only [Decimal.isDigit, Bool.and_eq_true, decide_eq_true_eq, Char.le_def,
    UInt32.le_iff_toNat_le] at h
  have hrange : 0x30 ≤ c.toNat ∧ c.toNat ≤ 0x39 := h
  simp [isDecimalDigit, Ranges.has, decimalDigits, hrange.1, hrange.2]

/-- No decimal digit is a blank. -/
theorem isBlank_of_isDecimalDigit {c : Char} (h : isDecimalDigit c = true) :
    isBlank c = false := by
  have hapart : ∀ r ∈ decimalDigits, ∀ b ∈ blanks, r.2 < b.1 ∨ b.2 < r.1 := by decide
  rw [← Bool.not_eq_true]
  intro hblank
  obtain ⟨r, hr, hfirst, hlast⟩ := Ranges.exists_of_has h
  obtain ⟨b, hb, hfirst', hlast'⟩ := Ranges.exists_of_has hblank
  rcases hapart r hr b hb with h | h <;> omega

theorem isDecimalDigit_of_isBlank {c : Char} (h : isBlank c = true) :
    isDecimalDigit c = false := by
  rw [← Bool.not_eq_true]
  intro hdigit
  rw [isBlank_of_isDecimalDigit hdigit] at h
  cases h

theorem filter_isDecimalDigit_eq_nil {s : List Char} (h : ∀ c ∈ s, isDecimalDigit c = false) :
    s.filter isDecimalDigit = [] := by
  rw [List.filter_eq_nil_iff]
  intro c hc
  rw [h c hc]
  exact Bool.false_ne_true

/-- Digits are read exactly if they are Latin and write a number up to the bound. -/
theorem natUpTo?_eq_some_iff {high n : Nat} {digits : List Char} :
    natUpTo? high digits = some n ↔
      digits ≠ [] ∧ (∀ c ∈ digits, Decimal.isDigit c = true) ∧
        Decimal.ofDigits digits ≤ high ∧ Decimal.ofDigits digits = n := by
  rw [natUpTo?]
  split
  · next h =>
    simp only [Bool.or_eq_true, Bool.not_eq_true', List.isEmpty_iff] at h
    refine ⟨nofun, ?_⟩
    rintro ⟨hne, hdigits, -⟩
    rcases h with h | h
    · exact absurd h hne
    · rw [List.all_eq_true.mpr hdigits] at h
      cases h
  next h =>
  simp only [Bool.or_eq_true, Bool.not_eq_true', List.isEmpty_iff, not_or, Bool.not_eq_false,
    List.all_eq_true] at h
  split
  · next hhigh =>
    rw [Option.some.injEq]
    exact ⟨fun heq => ⟨h.1, h.2, hhigh, heq⟩, fun hread => hread.2.2.2⟩
  · next hhigh =>
    refine ⟨nofun, ?_⟩
    rintro ⟨-, -, hle, -⟩
    exact absurd hle hhigh

end CharacterSheet.Text
